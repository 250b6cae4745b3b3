import Telep.Misc.Recency
import Telep.Server.Proofs.AlertGap
import Telep.Server.Proofs.ReplyText

/-!
# Which nodes are active

`last_seen` is the time of the last datagram that was counted as unique, whatever its order, and no
other call changes it. So as long as the clock does not go back, a node is active exactly when such
a datagram arrived within the last `ACTIVE_TIMEOUT` seconds (`active_iff_heard`).
-/

namespace Telep

/-- The number of unique datagrams that a record counts, and the time of the last one. -/
def heardBy : Option Record → Nat × Int
  | none => (0, 0)
  | some x => (x.node.datagramsReceived, x.node.lastSeen)

def heardOf (r : Registry) (id : Bytes) : Nat × Int := heardBy (recordOf r id)

/-! ## The calls -/

/-- A datagram of the session is counted with its time, or leaves both alone. -/
theorem Record.telemetry_heard (x : Record) (now : Int) (sequence : Nat)
    (values : List Measurement) :
    let n := (x.telemetry now sequence values).node
    (n.datagramsReceived = x.node.datagramsReceived ∧ n.lastSeen = x.node.lastSeen) ∨
      (n.datagramsReceived = x.node.datagramsReceived + 1 ∧ n.lastSeen = now) := by
  unfold Record.telemetry
  split_ifs
  · exact .inl ⟨rfl, rfl⟩
  · exact .inl ⟨rfl, rfl⟩
  · exact .inr ⟨rfl, rfl⟩
  · exact .inr ⟨rfl, rfl⟩

/-- Only a datagram changes what was heard of a node. -/
theorem heard_step {r : Registry} (wf : r.WellFormed) (op : RegistryOp) (id : Bytes) :
    heardOf (registryStep r op).2 id = heardOf r id ∨
      ∃ id' session sequence values clock, op = .telemetry id' session sequence values clock ∧
        heardOf (registryStep r op).2 id = ((heardOf r id).1 + 1, clock 0) := by
  by_cases named : op.nodeId = some id
  · rw [heardOf, heardOf, recordOf_step_named wf named]
    cases op with
    | hello id' session =>
      left
      cases recordOf r id with
      | some x => rfl
      | none =>
        rw [stepRecord]
        split <;> rfl
    | report id' session c final =>
      left
      cases recordOf r id with
      | none => rfl
      | some x =>
        rw [stepRecord]
        split <;> rfl
    | telemetry id' session sequence values clock =>
      cases recordOf r id with
      | none => exact .inl rfl
      | some x =>
        rw [stepRecord]
        split
        · rcases x.telemetry_heard (clock 0) sequence values with ⟨count, time⟩ | ⟨count, time⟩
          · exact .inl (Prod.ext count time)
          · exact .inr ⟨id', session, sequence, values, clock, rfl, Prod.ext count time⟩
        · exact .inl rfl
    | invalidDatagram => cases named
  · left
    rw [heardOf, heardOf, recordOf_step_other wf named]

namespace ServerThreads

variable {strtod : Bytes → StrtodResult} {startedAt bootId : Long} {s s' : ServerThreads}
  {event : ThreadEvent} {id : Bytes}

/-! ## The threads -/

/-- What the thread of a connection does. -/
theorem OwnerEffect.heard {c : Nat} {t : ClientThread} {owner : OwnerEvent}
    (effect : OwnerEffect s c t owner s') (wf : s.registry.WellFormed) :
    heardOf s'.registry id = heardOf s.registry id := by
  cases effect with
  | received readings d line rest waits descriptor reads result serves =>
    subst serves
    rcases serveLine_registry s.toServerState t.fd readings line with same | ⟨id', session, call⟩ |
      ⟨id', session, c', final, call⟩
    · exact congrArg (fun r => heardOf r id) same
    · refine (congrArg (fun r => heardOf r id) call).trans ?_
      rcases heard_step wf (.hello id' session) id with same | ⟨_, _, _, _, _, other, _⟩
      · exact same
      · cases other
    · refine (congrArg (fun r => heardOf r id) call).trans ?_
      rcases heard_step wf (.report id' session c' final) id with same | ⟨_, _, _, _, _, other, _⟩
      · exact same
      · cases other
  | failed buffer after sending =>
    simp only [moveTo, setThread, shutdown]
    split <;> rfl
  | _ => rfl

theorem heard_threads (wf : s.registry.WellFormed) (step : s.step strtod event = some s')
    (id : Bytes) :
    heardOf s'.registry id = heardOf s.registry id ∨
      ∃ clock bytes, event = .datagram clock bytes ∧
        heardOf s'.registry id = ((heardOf s.registry id).1 + 1, clock.val 0) := by
  cases event with
  | accept fd =>
    simp only [ServerThreads.step, accept, Option.ite_none_right_eq_some, Option.some.injEq] at step
    obtain ⟨-, rfl⟩ := step
    exact .inl rfl
  | arrive d bytes =>
    simp only [ServerThreads.step, Option.ite_none_right_eq_some, Option.some.injEq] at step
    obtain ⟨-, rfl⟩ := step
    exact .inl rfl
  | owner d event =>
    obtain ⟨u, -, step⟩ := Option.bind_eq_some_iff.mp step
    exact .inl ((ownerStep_effect step).heard wf)
  | datagram clock bytes =>
    simp only [ServerThreads.step, Option.ite_none_right_eq_some, Option.some.injEq] at step
    obtain ⟨-, rfl⟩ := step
    have effect := datagram_effect strtod s.registry clock.val bytes
    revert effect
    generalize udpTelemetryServer strtod s.registry clock.val bytes = result
    intro effect
    obtain ⟨newAlerts, registry⟩ := result
    cases effect with
    | malformed none => exact .inl rfl
    | telemetry m some id' session sequence values same =>
      rcases heard_step wf (.telemetry id' session sequence values clock.val) id with
        same | ⟨_, _, _, _, _, call, counted⟩
      · exact .inl same
      · cases call
        exact .inr ⟨clock, bytes, rfl, counted⟩
  | broadcast =>
    obtain ⟨alert, newAlerts, next, rfl⟩ := broadcast_eq_some step
    exact .inl rfl

/-! ## Runs -/

/-- The times that the datagrams of a run read first. -/
def datagramTimes : ThreadEvent → List Int
  | .datagram clock _ => [clock.val 0]
  | _ => []

/-- The time of a step that counts a datagram of the node. -/
def heardAt (strtod : Bytes → StrtodResult) (id : Bytes) (s : ServerThreads)
    (event : ThreadEvent) : List Int :=
  if (heardOf s.registry id).1 < (heardOf (s.next strtod event).registry id).1 then
    datagramTimes event
  else []

/-- The times at which a datagram of the node was counted, in order. -/
def heardTimes (strtod : Bytes → StrtodResult) (startedAt bootId : Long) (id : Bytes)
    (events : List ThreadEvent) : List Int :=
  (threadsMachine strtod startedAt bootId).collect (heardAt strtod id)
    (threadsInit startedAt bootId) events

theorem wellFormed_registry (h : (threadsMachine strtod startedAt bootId).Reachable s) :
    s.registry.WellFormed := by
  obtain ⟨events, rfl⟩ := h
  obtain ⟨ops, run⟩ := registry_run strtod startedAt bootId events
  exact wellFormed_reachable ⟨ops, run.registry⟩

/-- The registry holds the number of these times and the last one. -/
theorem heardOf_run (strtod : Bytes → StrtodResult) (startedAt bootId : Long) (id : Bytes)
    (events : List ThreadEvent) :
    let times := heardTimes strtod startedAt bootId id events
    heardOf ((threadsMachine strtod startedAt bootId).exec (threadsInit startedAt bootId)
      events).registry id = (times.length, lastStamp times) := by
  refine Machine.exec_history
    (P := fun events (s : ServerThreads) => heardOf s.registry id =
      ((heardTimes strtod startedAt bootId id events).length,
        lastStamp (heardTimes strtod startedAt bootId id events))) ?_ ?_ events
  · rw [heardOf, show recordOf (threadsInit startedAt bootId).registry id = none from
      recordOf_init startedAt bootId id]
    rfl
  · intro events event h
    have wf : ((threadsMachine strtod startedAt bootId).exec (threadsInit startedAt bootId)
        events).registry.WellFormed :=
      wellFormed_registry ((Machine.Reachable.init (threadsMachine strtod startedAt bootId)).exec
        events)
    rw [heardTimes, Machine.collect_concat, ← heardTimes]
    generalize (threadsMachine strtod startedAt bootId).exec (threadsInit startedAt bootId) events
      = s at h wf ⊢
    show heardOf (s.next strtod event).registry id = _
    have moved : heardOf (s.next strtod event).registry id = heardOf s.registry id ∨
        ∃ clock bytes, event = .datagram clock bytes ∧
          heardOf (s.next strtod event).registry id =
            ((heardOf s.registry id).1 + 1, clock.val 0) :=
      preserves_next (P := fun s' => heardOf s'.registry id = heardOf s.registry id ∨
        ∃ clock bytes, event = .datagram clock bytes ∧
          heardOf s'.registry id = ((heardOf s.registry id).1 + 1, clock.val 0)) (.inl rfl)
        fun s' step => heard_threads wf step id
    rw [heardAt]
    rcases moved with same | ⟨clock, bytes, rfl, counted⟩
    · rw [same, if_neg (lt_irrefl _), List.append_nil, h]
    · rw [counted, if_pos (Nat.lt_succ_self _), h, datagramTimes, lastStamp_concat,
        List.length_append]
      rfl

/-- A datagram that was counted for the node arrived at the time. -/
def HeardIn (strtod : Bytes → StrtodResult) (startedAt bootId : Long) (id : Bytes)
    (events : List ThreadEvent) (time : Int) : Prop :=
  let M := threadsMachine strtod startedAt bootId
  ∃ before clock bytes after, events = before ++ .datagram clock bytes :: after ∧
    clock.val 0 = time ∧ (heardOf (M.exec M.init before).registry id).1 <
      (heardOf (M.exec M.init (before ++ [.datagram clock bytes])).registry id).1

theorem mem_heardTimes {events : List ThreadEvent} {time : Int} :
    time ∈ heardTimes strtod startedAt bootId id events ↔
      HeardIn strtod startedAt bootId id events time := by
  rw [heardTimes, Machine.mem_collect]
  constructor
  · rintro ⟨before, event, after, split, member⟩
    unfold heardAt at member
    split at member
    · next counted =>
      cases event with
      | datagram clock bytes =>
        refine ⟨before, clock, bytes, after, split, (List.mem_singleton.mp member).symm, ?_⟩
        rw [Machine.exec_concat]
        exact counted
      | _ => cases member
    · cases member
  · rintro ⟨before, clock, bytes, after, split, rfl, counted⟩
    refine ⟨before, _, after, split, ?_⟩
    rw [Machine.exec_concat] at counted
    rw [heardAt]
    exact (if_pos counted).symm ▸ List.mem_singleton_self (clock.val 0)

/-- The times are among those of the datagrams. -/
theorem heardTimes_sublist (events : List ThreadEvent) :
    List.Sublist (heardTimes strtod startedAt bootId id events)
      (events.flatMap datagramTimes) := by
  refine Machine.collect_sublist _ fun s event => ?_
  unfold heardAt
  split
  · exact List.Sublist.refl _
  · exact List.nil_sublist _

/-- What `GET_LAST` and `GET_NODES` find of a node. -/
theorem heardOf_of_find {r : Registry} {node : TelemetryNode}
    (found : snapshotFindNode r.toRegistrySnapshot id = some node) :
    heardOf r id = (node.datagramsReceived, node.lastSeen) ∧ node.inUse = true := by
  obtain ⟨i, search, used, -, rfl⟩ := snapshotFindNode_eq_some found
  rw [heardOf, recordOf_of_find search]
  exact ⟨rfl, used⟩

theorem heardOf_of_none {r : Registry} (none : snapshotFindNode r.toRegistrySnapshot id = none) :
    heardOf r id = (0, 0) := by
  rw [heardOf, recordOf_eq_none.mpr (Option.map_eq_none_iff.mp none), heardBy]

/-- A node with a last time has sent a datagram. -/
theorem received_of_seen (h : (threadsMachine strtod startedAt bootId).Reachable s)
    {node : TelemetryNode} (found : snapshotFindNode s.registry.toRegistrySnapshot id = some node)
    (seen : node.lastSeen ≠ 0) : 0 < node.datagramsReceived := by
  obtain ⟨events, rfl⟩ := h
  have run := heardOf_run strtod startedAt bootId id events
  obtain ⟨count, time⟩ := Prod.mk.inj ((heardOf_of_find found).1.symm.trans run)
  rw [count]
  rw [time] at seen
  refine List.length_pos_of_ne_nil fun none => seen ?_
  rw [none, lastStamp_nil]

/-- In every run whose clock does not go back and is past 1970, a node is shown as active at a time
exactly when a datagram that was counted for it, in order or not, arrived less than 15 seconds
before; and what is shown as its last time is the greatest of the times of these datagrams, or 0
if there was none. -/
theorem active_iff_heard (strtod : Bytes → StrtodResult) (startedAt bootId : Long)
    {events : List ThreadEvent} (sorted : (events.flatMap datagramTimes).Pairwise (· ≤ ·))
    (positive : ∀ t ∈ events.flatMap datagramTimes, 0 < t) (id : Bytes) (now : Int) :
    let M := threadsMachine strtod startedAt bootId
    let find := snapshotFindNode (M.exec M.init events).registry.toRegistrySnapshot id
    let heard := {t | HeardIn strtod startedAt bootId id events t}
    ((∃ node, find = some node ∧ nodeIsActive node now = true) ↔ ∃ t ∈ heard, now - t < 15) ∧
      ∀ node, find = some node →
        if node.lastSeen = 0 then heard = ∅ else IsGreatest heard node.lastSeen := by
  intro M find heard
  have run := heardOf_run strtod startedAt bootId id events
  have heard_eq : ∀ t, t ∈ heard ↔ t ∈ heardTimes strtod startedAt bootId id events :=
    fun t => mem_heardTimes.symm
  have sublist := @heardTimes_sublist strtod startedAt bootId id events
  generalize heardTimes strtod startedAt bootId id events = times at run heard_eq sublist
  have sorted' := sorted.sublist sublist
  have positive' : ∀ t ∈ times, 0 < t := fun t member => positive t (sublist.subset member)
  have seen {node : TelemetryNode} (found : find = some node) :
      node.lastSeen = lastStamp times ∧ node.inUse = true := by
    obtain ⟨known, used⟩ := heardOf_of_find found
    exact ⟨(Prod.mk.inj (known.symm.trans run)).2, used⟩
  constructor
  · simp only [heard_eq]
    rw [← recent_iff sorted' positive']
    constructor
    · rintro ⟨node, found, active⟩
      obtain ⟨time, -⟩ := seen found
      rw [nodeIsActive, decide_eq_true_eq, time] at active
      exact active.2
    · intro recent
      cases found : find with
      | none =>
        have nothing := (Prod.mk.inj ((heardOf_of_none found).symm.trans run)).2
        exact absurd nothing.symm recent.1
      | some node =>
        obtain ⟨time, used⟩ := seen found
        refine ⟨node, rfl, ?_⟩
        rw [nodeIsActive, decide_eq_true_eq, time]
        exact ⟨used, recent⟩
  · intro node found
    obtain ⟨time, -⟩ := seen found
    rw [time]
    split
    · next zero =>
      ext t
      rw [heard_eq, (lastStamp_eq_zero positive').mp zero]
      simp
    · next later =>
      have some : times ≠ [] := fun none => later ((lastStamp_eq_zero positive').mpr none)
      exact ⟨(heard_eq _).mpr (lastStamp_mem some),
        fun t member => le_lastStamp sorted' ((heard_eq t).mp member)⟩

/-- A node whose only datagram arrived 14 seconds ago. -/
theorem active_iff_heard_sample :
    ∃ t, HeardIn strtodDigits ⟨7, by decide⟩ ⟨1, by decide⟩ (ascii "N") beforeSubscribe t ∧
      23 - t < 15 := by
  have times : beforeSubscribe.flatMap datagramTimes = [9] := by decide
  have sorted : (beforeSubscribe.flatMap datagramTimes).Pairwise (· ≤ ·) := by
    rw [times]
    exact List.pairwise_singleton _ _
  have positive : ∀ t ∈ beforeSubscribe.flatMap datagramTimes, 0 < t := by
    rw [times]
    decide
  have heard := (active_iff_heard strtodDigits ⟨7, by decide⟩ ⟨1, by decide⟩ sorted positive
    (ascii "N") 23).1
  refine heard.mp (Option.map_eq_some_iff.mp ?_)
  decide +kernel

end ServerThreads

end Telep
