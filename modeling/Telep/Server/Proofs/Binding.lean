import Telep.Server.Proofs.Messages
import Telep.Server.Proofs.Server

/-!
# Identifiers stay bound to their session

The first `HELLO` of an identifier binds it to a session in one slot, and no input of the server
ever changes the identifier or the session of a slot in use (`boundAt_step`). What later
`HELLO`s are answered follows from the slots.
-/

namespace Telep

open SlotTable

/-- Slot `i` binds the identifier to the session. -/
structure BoundAt (r : Registry) (i : Fin maxNodes) (id session : Bytes) : Prop where
  used : (r.nodes i).inUse = true
  nodeId : (r.nodes i).nodeId = id
  session : (r.nodes i).session = session

theorem BoundAt.found {r : Registry} (wf : r.WellFormed) {i : Fin maxNodes} {id session : Bytes}
    (h : BoundAt r i id session) : findNode r.toRegistrySnapshot id = some i := by
  rw [findNode_eq]
  exact wf.distinct.find_eq (nodeKey_eq_some.mpr ⟨h.used, h.nodeId⟩)

theorem boundAt_of_record {r : Registry} {id : Bytes} {i : Fin maxNodes}
    (found : findNode r.toRegistrySnapshot id = some i) {session : Bytes}
    (same : (r.record i).node.session = session) : BoundAt r i id session :=
  ⟨(findNode_spec found).1, (findNode_spec found).2, same⟩

/-! ## The calls keep the bindings -/

section Put

variable {r r' : Registry} {i j : Fin maxNodes} {id session id' session' : Bytes} {x : Record}

/-- Overwriting a slot keeps a binding unless it is in that slot and not in the new record. -/
theorem BoundAt.put (h : BoundAt r i id session)
    (kept : i = j → x.node.inUse = true ∧ x.node.nodeId = id ∧ x.node.session = session) :
    BoundAt (r.put j x) i id session := by
  by_cases same : i = j
  · obtain ⟨used, nodeId, session⟩ := kept same
    subst same
    exact ⟨by rw [put_nodes_self, used], by rw [put_nodes_self, nodeId],
      by rw [put_nodes_self, session]⟩
  · have slot : (r.put j x).nodes i = r.nodes i := Function.update_of_ne same _ _
    exact ⟨by rw [slot, h.used], by rw [slot, h.nodeId], by rw [slot, h.session]⟩

theorem RegisterEffect.boundAt {code : Option ErrorCode}
    (effect : RegisterEffect r id' session' code r') (h : BoundAt r i id session) :
    BoundAt r' i id session := by
  cases effect with
  | created j fresh free =>
    refine h.put fun same => ?_
    have unused := nodeKey_eq_none.mp (firstFree_spec free)
    rw [← same, h.used] at unused
    cases unused
  | _ => exact h

theorem ReportEffect.boundAt {attempts sent omitted errors : Nat} {final : Bool}
    {code : Option ErrorCode}
    (effect : ReportEffect r id' session' attempts sent omitted errors final code r')
    (h : BoundAt r i id session) : BoundAt r' i id session := by
  cases effect with
  | accepted j found same accepts =>
    exact h.put fun here => here ▸ ⟨h.used, h.nodeId, h.session⟩
  | _ => exact h

theorem TelemetryEffect.boundAt {clock : Clock} {sequence : Nat} {values : List Measurement}
    {newAlerts : Option (List Alert)}
    (effect : TelemetryEffect r clock id' session' sequence values newAlerts r')
    (h : BoundAt r i id session) : BoundAt r' i id session := by
  cases effect with
  | unknown other => exact ⟨h.used, h.nodeId, h.session⟩
  | late j found same late => exact ⟨h.used, h.nodeId, h.session⟩
  | duplicate j found same onTime seen =>
    refine BoundAt.put (r := r.countTotal) ⟨h.used, h.nodeId, h.session⟩ fun here => ?_
    exact here ▸ ⟨h.used, h.nodeId, h.session⟩
  | overtaken j found same onTime new below =>
    refine BoundAt.put (r := r.countTotal) ⟨h.used, h.nodeId, h.session⟩ fun here => ?_
    exact here ▸ ⟨h.used, h.nodeId, h.session⟩
  | advanced j found same onTime new above =>
    refine BoundAt.put ?_ fun here => here ▸ ⟨h.used, h.nodeId, h.session⟩
    exact ⟨by rw [logged_nodes]; exact h.used, by rw [logged_nodes]; exact h.nodeId,
      by rw [logged_nodes]; exact h.session⟩

end Put

/-- No call changes the binding of a slot. -/
theorem boundAt_step {r : Registry} (wf : r.WellFormed) (op : RegistryOp) {i : Fin maxNodes}
    {id session : Bytes} (h : BoundAt r i id session) :
    BoundAt (registryStep r op).2 i id session := by
  cases op with
  | hello id' session' => exact (register_effect wf _ _).boundAt h
  | report id' session' c final => exact (report_effect r _ _ _ _ _ _ _).boundAt h
  | telemetry id' session' sequence values clock =>
    exact (telemetry_effect r _ _ _ _ _).boundAt h
  | invalidDatagram => exact ⟨h.used, h.nodeId, h.session⟩

/-- An accepted `HELLO` leaves its session bound. -/
theorem RegisterEffect.boundAt_of_ok {r r' : Registry} {id session : Bytes}
    (effect : RegisterEffect r id session none r') : ∃ i, BoundAt r' i id session := by
  cases effect with
  | bound i found same => exact ⟨i, boundAt_of_record found same⟩
  | created i fresh free =>
    refine ⟨i, ?_, ?_, ?_⟩ <;> rw [put_nodes_self] <;> rfl

/-- An accepted report is of the bound session. -/
theorem ReportEffect.boundAt_of_ok {r r' : Registry} {id session : Bytes}
    {attempts sent omitted errors : Nat} {final : Bool}
    (effect : ReportEffect r id session attempts sent omitted errors final none r') :
    ∃ i, BoundAt r i id session := by
  cases effect with
  | accepted i found same accepts => exact ⟨i, boundAt_of_record found same⟩

/-- An accepted datagram is of the bound session. -/
theorem TelemetryEffect.boundAt_of_ok {r r' : Registry} {clock : Clock} {id session : Bytes}
    {sequence : Nat} {values : List Measurement} {newAlerts : List Alert}
    (effect : TelemetryEffect r clock id session sequence values (some newAlerts) r') :
    ∃ i, BoundAt r i id session := by
  cases effect with
  | duplicate i found same _ _ => exact ⟨i, boundAt_of_record found same⟩
  | overtaken i found same _ _ _ => exact ⟨i, boundAt_of_record found same⟩
  | advanced i found same _ _ _ => exact ⟨i, boundAt_of_record found same⟩

/-! ## The commands of a client -/

/-- `HELLO|<id>|<session>` -/
def helloLine (id : NodeId) (session : Session) : Bytes :=
  joinFields [ascii "HELLO", id.val, session.val]

theorem parseMessage_hello (id : NodeId) (session : Session) :
    parseMessage (helloLine id session) = some ⟨ascii "HELLO", [id.val, session.val]⟩ := by
  have hello : IsField (ascii "HELLO") ∧ Printable (ascii "HELLO") := by decide
  have fields : ∀ f ∈ [ascii "HELLO", id.val, session.val], IsField f ∧ Printable f := by
    intro f hf
    simp only [List.mem_cons, List.not_mem_nil, or_false] at hf
    rcases hf with rfl | rfl | rfl
    · exact hello
    · exact nodeId_isField id
    · exact session_isField session
  have short : (joinFields [ascii "HELLO", id.val, session.val]).length < maxLine := by
    have validId := id.property
    have validSession := session.property
    simp only [isValidNodeId, isValidSession, decide_eq_true_eq] at validId validSession
    have size : (ascii "HELLO").length = 5 := by decide
    have maxId : maxNodeId = 16 := rfl
    have frame : maxLine = 1024 := rfl
    simp only [joinFields_cons_cons, joinFields_singleton, List.length_append, List.length_cons]
    omega
  rw [helloLine, parseMessage_join fun f hf => (fields f hf).1,
    if_pos ⟨printable_joinFields fun f hf => (fields f hf).2, short, Nat.le_of_ble_eq_true rfl⟩]

/-- A `HELLO` is one call to the registry. -/
theorem handleCommand_hello (s : ServerState) (fd : ClientFd) (readings : Readings)
    (id : NodeId) (session : Session) :
    handleCommand s fd readings (helloLine id session) =
      s.calls (registryRegisterNode s.registry id.val session.val) (ascii "OK|REGISTERED") := by
  have args : expectedArgs (ascii "HELLO") 2 = some 2 := by decide
  rw [handleCommand, parseMessage_hello]
  simp only [List.length_cons, List.length_nil, Nat.zero_add, Nat.reduceAdd, args]
  rw [if_neg (by decide), if_neg (by decide), if_neg (by decide), if_neg (by decide),
    if_neg (by decide), if_neg (by decide), if_neg (by decide), if_neg (by decide),
    handleNodeCommand, if_neg (not_not.mpr id.property), if_pos rfl]
  exact if_neg (not_not.mpr session.property)

/-- The reply to a `HELLO` tells the results of the call apart. -/
theorem hello_reply (s : ServerState) (call : Option ErrorCode × Registry) :
    ((s.calls call (ascii "OK|REGISTERED")).reply = [ascii "OK|REGISTERED"] ↔
        call.1 = none) ∧
      ((s.calls call (ascii "OK|REGISTERED")).reply = [ascii "ERR|105|ID_IN_USE"] ↔
        call.1 = some .idInUse) ∧
      ((s.calls call (ascii "OK|REGISTERED")).reply = [ascii "ERR|104|SERVER_FULL"] ↔
        call.1 = some .serverFull) := by
  obtain ⟨code, r⟩ := call
  unfold ServerState.calls
  dsimp only
  rcases code with _ | code
  · decide
  · cases code <;> decide

/-- A reply `OK|REPORTED` is the result 0 of the call. -/
theorem report_reply (s : ServerState) (call : Option ErrorCode × Registry) :
    (s.calls call (ascii "OK|REPORTED")).reply = [ascii "OK|REPORTED"] ↔ call.1 = none := by
  obtain ⟨code, r⟩ := call
  unfold ServerState.calls
  dsimp only
  rcases code with _ | code
  · decide
  · cases code <;> decide

theorem wellFormed_serverStep (strtod : Bytes → StrtodResult) {s : ServerState}
    (wf : s.registry.WellFormed) (input : ServerInput) :
    (serverStep strtod s input).2.registry.WellFormed := by
  rcases registry_step strtod s input with same | ⟨op, call⟩
  · rwa [same]
  · rw [call]
    exact wellFormed_step wf op

/-- No input of the server changes the binding of a slot. -/
theorem boundAt_serverStep (strtod : Bytes → StrtodResult) {s : ServerState}
    (wf : s.registry.WellFormed) (input : ServerInput) {i : Fin maxNodes} {id session : Bytes}
    (h : BoundAt s.registry i id session) :
    BoundAt (serverStep strtod s input).2.registry i id session := by
  rcases registry_step strtod s input with same | ⟨op, call⟩
  · rwa [same]
  · rw [call]
    exact boundAt_step wf op h

/-- A binding lasts, induction on the run. -/
theorem boundAt_run (strtod : Bytes → StrtodResult) (startedAt bootId : Int)
    (inputs : List ServerInput) {s : ServerState} (wf : s.registry.WellFormed) {i : Fin maxNodes}
    {id session : Bytes} (h : BoundAt s.registry i id session) :
    ((serverMachine strtod startedAt bootId).exec s inputs).registry.WellFormed ∧
      BoundAt ((serverMachine strtod startedAt bootId).exec s inputs).registry i id session :=
  Machine.exec_preserves (M := serverMachine strtod startedAt bootId)
    (P := fun s => s.registry.WellFormed ∧ BoundAt s.registry i id session)
    (fun _ input inv => ⟨wellFormed_serverStep strtod inv.1 input,
      boundAt_serverStep strtod inv.1 input inv.2⟩) ⟨wf, h⟩ inputs

/-- The identifiers the registry knows. -/
def registeredIds (r : RegistrySnapshot) : Finset Bytes := keys nodeKey r.nodes

/-- A new identifier is refused exactly when no slot is free. -/
theorem RegisterEffect.full_iff {r r' : Registry} {id session : Bytes} {code : Option ErrorCode}
    (effect : RegisterEffect r id session code r') (wf : r.WellFormed)
    (new : findNode r.toRegistrySnapshot id = none) :
    code = some .serverFull ↔ (registeredIds r.toRegistrySnapshot).card = 64 := by
  have full := wf.distinct.full_iff
  change _ ↔ (keys nodeKey r.nodes).card = maxNodes
  rw [← full]
  cases effect with
  | bound i found _ => simp [found] at new
  | inUse i found _ => simp [found] at new
  | full _ none => simp [none]
  | created i _ free => simp [free]

/-- What a bound identifier is answered: its own session `OK|REGISTERED`, with nothing changed,
and any other session `ID_IN_USE`. -/
structure AnswersBound (s : ServerState) (id : NodeId) (session : Session) : Prop where
  again : ∀ fd readings,
    (handleCommand s fd readings (helloLine id session)).reply = [ascii "OK|REGISTERED"] ∧
      (handleCommand s fd readings (helloLine id session)).state = s
  inUse : ∀ fd readings (session' : Session),
    (handleCommand s fd readings (helloLine id session')).reply = [ascii "ERR|105|ID_IN_USE"] ↔
      session' ≠ session

theorem answersBound {s : ServerState} (wf : s.registry.WellFormed) {i : Fin maxNodes}
    {id : NodeId} {session : Session} (h : BoundAt s.registry i id.val session.val) :
    AnswersBound s id session where
  again fd readings := by
    have call : registryRegisterNode s.registry id.val session.val = (none, s.registry) := by
      rw [registryRegisterNode, h.found wf]
      simp [h.session]
    rw [handleCommand_hello, call]
    exact ⟨(hello_reply s (none, s.registry)).1.mpr rfl, rfl⟩
  inUse fd readings session' := by
    have call : registryRegisterNode s.registry id.val session'.val =
        (if session.val ≠ session'.val then some .idInUse else none, s.registry) := by
      rw [registryRegisterNode, h.found wf]
      simp only [h.session]
      split <;> rfl
    rw [handleCommand_hello, call, (hello_reply s _).2.1]
    by_cases same : session = session'
    · simp [same]
    · have : session.val ≠ session'.val := fun h => same (Subtype.ext h)
      simp [this, Ne.symm same]

theorem replyError_ne_reported (code : ErrorCode) : replyError code ≠ [ascii "OK|REPORTED"] := by
  cases code <;> decide

/-- The `REPORT` branch rejects its arguments or calls the registry with its session. -/
theorem handleReport_cases (s : ServerState) (id session : Bytes) (values : List Bytes) :
    handleReport s id session values = s.answers (replyError .badFormat) ∨
      ∃ attempts sent omitted errors final, handleReport s id session values =
        s.calls (registryReport s.registry id session attempts sent omitted errors final)
          (ascii "OK|REPORTED") := by
  unfold handleReport
  split
  · split
    · split
      · exact .inr ⟨_, _, _, _, _, rfl⟩
      · exact .inl rfl
    · exact .inl rfl
  · exact .inl rfl

/-- A `REPORT` branch that answers `OK|REPORTED` leaves its session bound. -/
theorem boundAt_of_reported {s : ServerState} {id session : Bytes} {values : List Bytes}
    (ok : (handleReport s id session values).reply = [ascii "OK|REPORTED"]) :
    ∃ i, BoundAt (handleReport s id session values).state.registry i id session := by
  rcases handleReport_cases s id session values with rejected |
    ⟨attempts, sent, omitted, errors, final, call⟩
  · rw [rejected] at ok
    exact (replyError_ne_reported .badFormat ok).elim
  · rw [call] at ok ⊢
    have effect := report_effect s.registry id session attempts sent omitted errors final
    rw [(report_reply s _).mp ok] at effect
    obtain ⟨i, bound⟩ := effect.boundAt_of_ok
    exact ⟨i, effect.boundAt bound⟩

theorem handleCommand_report {s : ServerState} {fd : ClientFd} {readings : Readings}
    {line id session : Bytes} {values : List Bytes}
    (parsed : parseMessage line = some ⟨ascii "REPORT", id :: session :: values⟩)
    (ok : (handleCommand s fd readings line).reply = [ascii "OK|REPORTED"]) :
    handleCommand s fd readings line = handleReport s id session values := by
  have shape : handleCommand s fd readings line =
      if (id :: session :: values).length ≠ 7 then s.answers (replyError .badFormat)
      else handleReport s id session values := by
    rw [handleCommand, parsed]
    have other : ascii "REPORT" ≠ ascii "STATS" := by decide
    refine ite_congr rfl (fun _ => rfl) fun _ => ?_
    exact (if_neg other).trans (if_pos rfl)
  rw [shape] at ok ⊢
  split at ok
  · exact (replyError_ne_reported .badFormat ok).elim
  · next count => exact if_neg count

/-- What the registry of a server guarantees about identifiers. -/
structure BindsIds (strtod : Bytes → StrtodResult) (startedAt bootId : Int) (s : ServerState) :
    Prop where
  /-- An identifier is in one slot at most. -/
  unique : ∀ i j, (s.registry.nodes i).inUse = true → (s.registry.nodes j).inUse = true →
    (s.registry.nodes i).nodeId = (s.registry.nodes j).nodeId → i = j
  /-- A new identifier is refused exactly when 64 are registered. -/
  full : ∀ fd readings (id : NodeId) session, id.val ∉ registeredIds s.registry.toRegistrySnapshot →
    ((handleCommand s fd readings (helloLine id session)).reply = [ascii "ERR|104|SERVER_FULL"] ↔
      (registeredIds s.registry.toRegistrySnapshot).card = 64)
  /-- After `OK|REGISTERED`, the identifier is bound to the session in one slot in every later
  state, and every later `HELLO` is answered accordingly. -/
  stays : ∀ fd readings id session,
    (handleCommand s fd readings (helloLine id session)).reply = [ascii "OK|REGISTERED"] →
      ∃ i, ∀ later s', (serverMachine strtod startedAt bootId).exec
          (handleCommand s fd readings (helloLine id session)).state later = s' →
        BoundAt s'.registry i id.val session.val ∧ AnswersBound s' id session
  /-- After `OK|REPORTED`, the session of the report is the bound one. -/
  reported : ∀ fd readings line id session values,
    parseMessage line = some ⟨ascii "REPORT", id :: session :: values⟩ →
    (handleCommand s fd readings line).reply = [ascii "OK|REPORTED"] →
      ∃ i, BoundAt (handleCommand s fd readings line).state.registry i id session
  /-- After an accepted datagram, its session is the bound one. -/
  recorded : ∀ clock bytes m, wellFormedDatagram strtod bytes = some m →
    (registryRecordTelemetry s.registry clock m.nodeId m.session m.sequence m.values).1 ≠ none →
      ∃ i, BoundAt (serverStep strtod s (.datagram clock bytes)).2.registry i m.nodeId m.session

/-- In every run of the server, with datagrams and commands of any clients in any order,
identifiers are bound to sessions as `HELLO` was answered. -/
theorem ids_bound (strtod : Bytes → StrtodResult) (startedAt bootId : Int)
    (inputs : List ServerInput) :
    BindsIds strtod startedAt bootId ((serverMachine strtod startedAt bootId).exec
      (serverInit startedAt bootId) inputs) := by
  have reachable := (Machine.Reachable.init (serverMachine strtod startedAt bootId)).exec inputs
  change (serverMachine strtod startedAt bootId).Reachable ((serverMachine strtod startedAt
    bootId).exec (serverInit startedAt bootId) inputs) at reachable
  generalize (serverMachine strtod startedAt bootId).exec (serverInit startedAt bootId) inputs = s
    at reachable ⊢
  have wf : s.registry.WellFormed := wellFormed_reachable (registry_reachable reachable)
  exact {
    unique := fun i j hi hj same => wf.distinct i j _ (nodeKey_eq_some.mpr ⟨hi, same⟩)
      (nodeKey_eq_some.mpr ⟨hj, rfl⟩)
    full := by
      intro fd readings id session new
      have fresh : findNode s.registry.toRegistrySnapshot id.val = none := by
        rw [findNode_eq, find_eq_none]
        exact fun i hi => new (mem_keys.mpr ⟨i, hi⟩)
      rw [handleCommand_hello, (hello_reply s _).2.2]
      exact (register_effect wf id.val session.val).full_iff wf fresh
    stays := by
      intro fd readings id session ok
      rw [handleCommand_hello] at ok ⊢
      have effect := register_effect wf id.val session.val
      rw [(hello_reply s _).1.mp ok] at effect
      obtain ⟨i, bound⟩ := effect.boundAt_of_ok
      have start : (s.calls (registryRegisterNode s.registry id.val session.val)
          (ascii "OK|REGISTERED")).state.registry.WellFormed :=
        effect.wellFormed wf id.property session.property
      refine ⟨i, fun later s' run => ?_⟩
      obtain ⟨wf', bound'⟩ := boundAt_run strtod startedAt bootId later start bound
      rw [run] at wf' bound'
      exact ⟨bound', answersBound wf' bound'⟩
    reported := by
      intro fd readings line id session values parsed ok
      have report := handleCommand_report parsed ok
      rw [report] at ok ⊢
      exact boundAt_of_reported ok
    recorded := by
      intro clock bytes m parsed accepted
      obtain ⟨newAlerts, call⟩ := Option.ne_none_iff_exists'.mp accepted
      have effect := telemetry_effect s.registry clock m.nodeId m.session m.sequence m.values
      rw [call] at effect
      obtain ⟨i, bound⟩ := effect.boundAt_of_ok
      exact ⟨i, boundAt_serverStep strtod wf _ bound⟩ }

end Telep
