import Mathlib.Algebra.BigOperators.Fin
import Telep.Server.Proofs.Server

/-!
# Every datagram is counted once

`STATUS` publishes four counters that partition the datagrams processed: the unique and the
duplicate ones of all nodes, those of unknown sessions and the invalid ones. One datagram bumps
exactly one of them (`countedOnce_datagram`), a command none, so their sum is the number of
datagrams (`datagrams_conserved`).
-/

namespace Telep

/-- The classes of datagrams that the server counts. -/
inductive DatagramClass where
  | unique
  | duplicate
  | unknown
  | invalid
  deriving DecidableEq

/-- The counters of the classes, as `STATUS` publishes them. -/
def Registry.classes (r : Registry) : DatagramClass → Nat
  | .unique => sumNodes r.toRegistrySnapshot TelemetryNode.datagramsReceived
  | .duplicate => sumNodes r.toRegistrySnapshot TelemetryNode.duplicates
  | .unknown => r.datagramsUnknownNode
  | .invalid => r.datagramsInvalid

/-- The sum of the four counters. -/
def Registry.processed (r : Registry) : Nat :=
  r.classes .unique + r.classes .duplicate + r.classes .unknown + r.classes .invalid

/-- The counter of one class is one higher, the others are as they were. -/
def CountedOnce (r r' : Registry) : Prop :=
  ∃ k, r'.classes = Function.update r.classes k (r.classes k + 1)

theorem CountedOnce.processed {r r' : Registry} (h : CountedOnce r r') :
    r'.processed = r.processed + 1 := by
  obtain ⟨k, hk⟩ := h
  unfold Registry.processed
  rw [hk]
  cases k <;> simp <;> omega

/-! ## Sums over the slots in use -/

theorem sum_map_filter {α : Type} (p : α → Bool) (f : α → Nat) (xs : List α) :
    ((xs.filter p).map f).sum = (xs.map fun x => if p x then f x else 0).sum := by
  induction xs with
  | nil => rfl
  | cons x xs ih =>
    cases h : p x <;> simp [h, ih]

/-- The sum of the slots as a sum over all of them. -/
theorem sumNodes_eq (r : RegistrySnapshot) (counter : TelemetryNode → Nat) :
    sumNodes r counter =
      ∑ i, if (r.nodes i).inUse then counter (r.nodes i) else 0 := by
  rw [sumNodes, registeredNodes, sum_map_filter, List.map_map, Fin.sum_univ_def]
  rfl

/-- Overwriting a slot replaces its share of the sum. -/
theorem sumNodes_put (r : Registry) (i : Fin maxNodes) (x : Record)
    (counter : TelemetryNode → Nat) :
    sumNodes (r.put i x).toRegistrySnapshot counter +
        (if (r.nodes i).inUse then counter (r.nodes i) else 0) =
      sumNodes r.toRegistrySnapshot counter +
        if x.node.inUse then counter x.node else 0 := by
  rw [sumNodes_eq, sumNodes_eq, ← Finset.add_sum_erase _ _ (Finset.mem_univ i),
    ← Finset.add_sum_erase Finset.univ (fun i => if (r.nodes i).inUse then counter (r.nodes i)
      else 0) (Finset.mem_univ i)]
  have others : ∑ j ∈ Finset.univ.erase i,
      (if ((r.put i x).nodes j).inUse then counter ((r.put i x).nodes j) else 0) =
      ∑ j ∈ Finset.univ.erase i, if (r.nodes j).inUse then counter (r.nodes j) else 0 := by
    refine Finset.sum_congr rfl fun j hj => ?_
    have : (r.put i x).nodes j = r.nodes j :=
      Function.update_of_ne (Finset.ne_of_mem_erase hj) _ _
    rw [this]
  rw [others, put_nodes_self]
  omega

/-- The slot of a registered node gets a record that counts `d` more. -/
theorem sumNodes_put_found {r : Registry} {id : Bytes} {i : Fin maxNodes}
    (found : findNode r.toRegistrySnapshot id = some i) {x : Record} (used : x.node.inUse = true)
    {counter : TelemetryNode → Nat} {d : Nat} (more : counter x.node = counter (r.nodes i) + d) :
    sumNodes (r.put i x).toRegistrySnapshot counter =
      sumNodes r.toRegistrySnapshot counter + d := by
  have put := sumNodes_put r i x counter
  rw [if_pos (findNode_spec found).1, if_pos used] at put
  omega

theorem sumNodes_of_nodes {r r' : RegistrySnapshot} (same : r'.nodes = r.nodes)
    (counter : TelemetryNode → Nat) : sumNodes r' counter = sumNodes r counter := by
  rw [sumNodes, sumNodes, registeredNodes, registeredNodes, same]

/-! ## One input -/

theorem RegisterEffect.classes {r r' : Registry} {id session : Bytes} {code : Option ErrorCode}
    (effect : RegisterEffect r id session code r') : r'.classes = r.classes := by
  cases effect with
  | created i fresh free =>
    have unused := nodeKey_eq_none.mp (SlotTable.firstFree_spec free)
    have same (counter : TelemetryNode → Nat)
        (zero : counter (Record.created id session).node = 0) :
        sumNodes (r.put i (.created id session)).toRegistrySnapshot counter =
          sumNodes r.toRegistrySnapshot counter := by
      have put := sumNodes_put r i (.created id session) counter
      simpa [unused, zero] using put
    funext k
    cases k with
    | unique => exact same _ rfl
    | duplicate => exact same _ rfl
    | unknown => rfl
    | invalid => rfl
  | _ => rfl

theorem ReportEffect.classes {r r' : Registry} {id session : Bytes}
    {attempts sent omitted errors : Nat} {final : Bool} {code : Option ErrorCode}
    (effect : ReportEffect r id session attempts sent omitted errors final code r') :
    r'.classes = r.classes := by
  cases effect with
  | accepted i found same accepts =>
    have used := (findNode_spec found).1
    funext k
    cases k with
    | unique => exact sumNodes_put_found (d := 0) found used rfl
    | duplicate => exact sumNodes_put_found (d := 0) found used rfl
    | unknown => rfl
    | invalid => rfl
  | _ => rfl

theorem TelemetryEffect.countedOnce {r r' : Registry} {clock : Clock} {id session : Bytes}
    {sequence : Nat} {values : List Measurement} {newAlerts : Option (List Alert)}
    (effect : TelemetryEffect r clock id session sequence values newAlerts r') :
    CountedOnce r r' := by
  cases effect with
  | unknown other =>
    refine ⟨.unknown, funext fun k => ?_⟩
    cases k <;> rfl
  | late i found same late =>
    refine ⟨.invalid, funext fun k => ?_⟩
    cases k <;> rfl
  | duplicate i found same onTime seen =>
    have used := (findNode_spec found).1
    refine ⟨.duplicate, funext fun k => ?_⟩
    cases k with
    | unique => exact sumNodes_put_found (d := 0) (found_countTotal found) used rfl
    | duplicate => exact sumNodes_put_found (d := 1) (found_countTotal found) used rfl
    | unknown => rfl
    | invalid => rfl
  | overtaken i found same onTime new below =>
    have used := (findNode_spec found).1
    refine ⟨.unique, funext fun k => ?_⟩
    cases k with
    | unique => exact sumNodes_put_found (d := 1) (found_countTotal found) used rfl
    | duplicate => exact sumNodes_put_found (d := 0) (found_countTotal found) used rfl
    | unknown => rfl
    | invalid => rfl
  | advanced i found same onTime new above =>
    have used := (findNode_spec found).1
    have counts := counts_logged r.countTotal
      (raisedAlerts (r.record i).node.measurements id clock 1 values)
    refine ⟨.unique, funext fun k => ?_⟩
    cases k with
    | unique =>
      refine (sumNodes_put_found (d := 1) (found_logged found _) used ?_).trans
        (congrArg (· + 1) (sumNodes_of_nodes (logged_nodes _ _) _))
      rw [logged_nodes]
      rfl
    | duplicate =>
      refine (sumNodes_put_found (d := 0) (found_logged found _) used ?_).trans
        (sumNodes_of_nodes (logged_nodes _ _) _)
      rw [logged_nodes]
      rfl
    | unknown => exact congrArg Counts.unknown counts
    | invalid => exact congrArg Counts.invalid counts

/-- A datagram that reaches the registry is counted as received. -/
theorem TelemetryEffect.total {r r' : Registry} {clock : Clock} {id session : Bytes}
    {sequence : Nat} {values : List Measurement} {newAlerts : Option (List Alert)}
    (effect : TelemetryEffect r clock id session sequence values newAlerts r') :
    r'.datagramsTotal = r.datagramsTotal + 1 := by
  cases effect with
  | advanced i found same onTime new above => exact congrArg Counts.total (counts_logged _ _)
  | _ => rfl

/-! ## Runs -/

/-- Whether an input is a datagram. -/
def ServerInput.isDatagram : ServerInput → Bool
  | .datagram _ _ => true
  | .command _ _ _ => false

/-- Whether an input is a syntactically well-formed datagram. -/
def ServerInput.isWellFormed (strtod : Bytes → StrtodResult) : ServerInput → Bool
  | .datagram _ bytes => (wellFormedDatagram strtod bytes).isSome
  | .command _ _ _ => false

/-- A datagram of any content is counted in one class, and as received when it is well formed. -/
theorem countedOnce_datagram (strtod : Bytes → StrtodResult) (s : ServerState) (clock : Clock)
    (bytes : Bytes) :
    CountedOnce s.registry (serverStep strtod s (.datagram clock bytes)).2.registry ∧
      (serverStep strtod s (.datagram clock bytes)).2.registry.datagramsTotal =
        s.registry.datagramsTotal + (wellFormedDatagram strtod bytes).isSome.toNat := by
  have effect := datagram_effect strtod s.registry clock bytes
  change CountedOnce s.registry (udpTelemetryServer strtod s.registry clock bytes).2 ∧
    (udpTelemetryServer strtod s.registry clock bytes).2.datagramsTotal = _
  revert effect
  generalize (udpTelemetryServer strtod s.registry clock bytes).1 = alerts
  generalize (udpTelemetryServer strtod s.registry clock bytes).2 = r'
  intro effect
  cases effect with
  | malformed none =>
    rw [none]
    refine ⟨⟨.invalid, funext fun k => ?_⟩, rfl⟩
    cases k <;> rfl
  | telemetry m some id session sequence values same =>
    rw [some]
    have effect := telemetry_effect s.registry clock id.val session.val sequence.val values.val
    exact ⟨effect.countedOnce, effect.total⟩

/-- A command is not counted. -/
theorem uncounted_command (strtod : Bytes → StrtodResult) {s : ServerState}
    (wf : s.registry.WellFormed) (fd : ClientFd) (readings : Readings) (line : Bytes) :
    (serverStep strtod s (.command fd readings line)).2.registry.classes = s.registry.classes ∧
      (serverStep strtod s (.command fd readings line)).2.registry.datagramsTotal =
        s.registry.datagramsTotal := by
  rcases (command_effect s fd readings line).registry with same | ⟨id, session, call⟩ |
    ⟨id, session, c, final, call⟩
  · exact ⟨congrArg Registry.classes same, congrArg (·.datagramsTotal) same⟩
  · have effect := register_effect wf id.val session.val
    exact ⟨(congrArg Registry.classes call).trans effect.classes,
      (congrArg (·.datagramsTotal) call).trans (congrArg Counts.total effect.counts)⟩
  · have effect := report_effect s.registry id.val session.val c.attempts c.sent c.omitted c.errors
      final
    exact ⟨(congrArg Registry.classes call).trans effect.classes,
      (congrArg (·.datagramsTotal) call).trans (congrArg Counts.total effect.counts)⟩

/-- The counters after a run in which the server received the inputs. -/
structure Conserved (strtod : Bytes → StrtodResult) (inputs : List ServerInput)
    (r : Registry) : Prop where
  processed : r.processed = inputs.countP ServerInput.isDatagram
  total : r.datagramsTotal = inputs.countP (ServerInput.isWellFormed strtod)

theorem conserved_init (strtod : Bytes → StrtodResult) (startedAt bootId : Int) :
    Conserved strtod [] (registryInit startedAt bootId) := by
  have empty (counter : TelemetryNode → Nat) :
      sumNodes (registryInit startedAt bootId).toRegistrySnapshot counter = 0 := by
    rw [sumNodes_eq]
    exact Finset.sum_eq_zero fun i _ => rfl
  refine ⟨?_, rfl⟩
  simp only [Registry.processed, Registry.classes, empty]
  rfl

theorem conserved_step {strtod : Bytes → StrtodResult} {inputs : List ServerInput}
    {s : ServerState} (wf : s.registry.WellFormed) (h : Conserved strtod inputs s.registry)
    (input : ServerInput) :
    Conserved strtod (inputs ++ [input]) (serverStep strtod s input).2.registry := by
  cases input with
  | datagram clock bytes =>
    obtain ⟨once, total⟩ := countedOnce_datagram strtod s clock bytes
    refine ⟨once.processed.trans ?_, total.trans ?_⟩
    · rw [h.processed, List.countP_append]
      rfl
    · rw [h.total, List.countP_append]
      cases hw : wellFormedDatagram strtod bytes <;> simp [ServerInput.isWellFormed, hw]
  | command fd readings line =>
    obtain ⟨classes, total⟩ := uncounted_command strtod wf fd readings line
    refine ⟨?_, total.trans ?_⟩
    · rw [Registry.processed, classes, List.countP_append]
      exact h.processed
    · rw [h.total, List.countP_append]
      rfl

theorem conserved_run (strtod : Bytes → StrtodResult) (startedAt bootId : Int)
    (inputs : List ServerInput) :
    Conserved strtod inputs ((serverMachine strtod startedAt bootId).exec
      (serverInit startedAt bootId) inputs).registry :=
  Machine.exec_history (M := serverMachine strtod startedAt bootId)
    (P := fun inputs s => Conserved strtod inputs s.registry)
    (conserved_init strtod startedAt bootId)
    (fun inputs input h => conserved_step (wellFormed_reachable (registry_reachable
      ((Machine.Reachable.init (serverMachine strtod startedAt bootId)).exec inputs))) h input)
    inputs

/-- In every run of the server, whatever the datagrams contain and however they interleave with
commands, the published counters of the four classes add up to the number of datagrams
processed, `udp_rx` is the number of well-formed ones, and each further datagram is counted in
exactly one class. -/
theorem datagrams_conserved (strtod : Bytes → StrtodResult) (startedAt bootId : Int)
    (inputs : List ServerInput) :
    Conserved strtod inputs ((serverMachine strtod startedAt bootId).exec
        (serverInit startedAt bootId) inputs).registry ∧
      ∀ clock bytes, CountedOnce
        ((serverMachine strtod startedAt bootId).exec
          (serverInit startedAt bootId) inputs).registry
        ((serverMachine strtod startedAt bootId).exec (serverInit startedAt bootId)
          (inputs ++ [.datagram clock bytes])).registry := by
  refine ⟨conserved_run strtod startedAt bootId inputs, fun clock bytes => ?_⟩
  rw [Machine.exec_concat]
  exact (countedOnce_datagram strtod _ clock bytes).1

end Telep
