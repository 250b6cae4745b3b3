import Mathlib.Data.Finset.Max
import Telep.Misc.ArrivalLog
import Telep.Server.Proofs.Records

/-!
# The statistics of a session

What `STATS` publishes about a node is a function of the datagrams accepted for its session
and of its last report. `Record.Tracks` says so of a record and the log of accepted datagrams;
one lemma for each operation carries it over a step, and `tracks_run` over a run.
-/

namespace Telep

open ArrivalLog

/-- The new datagrams of a session: sequence and measurements, in the order of acceptance. -/
abbrev SessionLog := List (Nat × List Measurement)

/-- The record `x` publishes the statistics of the log. -/
structure Record.Tracks (x : Record) (log : SessionLog) : Prop where
  seen : ∀ q, x.row.test q = true ↔ q ∈ log.map Prod.fst
  distinct : (log.map Prod.fst).Nodup
  bounded : ∀ e ∈ log, e.1 < sessionLimit
  received : x.node.datagramsReceived = log.length
  last : x.node.lastSequence = (newest log).elim (-1) fun e => (e.1 : Int)
  measurements : x.node.measurements = (newest log).elim [] Prod.snd
  reordered : x.node.reordered = ArrivalLog.overtaken log
  balanced : x.node.attempts = x.node.sent + x.node.omitted + x.node.sendErrors
  attempts_le : x.node.attempts ≤ sessionLimit
  lost : x.node.datagramsLost = x.node.sent - x.row.count x.node.attempts
  final : x.node.finalReport = true → ∀ e ∈ log, e.1 < x.node.attempts

theorem updateLoss_lost (row : BitRow) (node : TelemetryNode) :
    (updateLoss row node).datagramsLost = node.sent - row.count node.attempts := by
  simp only [updateLoss]
  split <;> omega

namespace Record.Tracks

variable {x : Record} {log : SessionLog}

/-- No accepted sequence is above the last one. -/
theorem le_last (h : x.Tracks log) : ∀ e ∈ log, (e.1 : Int) ≤ x.node.lastSequence := by
  intro e he
  rw [h.last]
  cases hn : newest log with
  | none => simp [newest_eq_none.mp hn] at he
  | some m => simpa using (newest_spec hn).2 e he

theorem created (id session : Bytes) : (Record.created id session).Tracks [] where
  seen q := by simp [Record.created]
  distinct := List.nodup_nil
  bounded := by simp
  received := rfl
  last := rfl
  measurements := rfl
  reordered := rfl
  balanced := rfl
  attempts_le := Nat.zero_le _
  lost := by simp [Record.created, TelemetryNode.zero]
  final := by simp

/-- An accepted report replaces the sender's counters. -/
theorem reported (h : x.Tracks log) {attempts sent omitted errors : Nat} {final : Bool}
    (accepts : ¬ x.Refuses attempts sent omitted errors final)
    (attempts_le : attempts ≤ sessionLimit) :
    (x.reported attempts sent omitted errors final).Tracks log where
  seen := h.seen
  distinct := h.distinct
  bounded := h.bounded
  received := h.received
  last := h.last
  measurements := h.measurements
  reordered := h.reordered
  balanced := by
    simp only [Record.Refuses, not_or, not_not] at accepts
    exact accepts.1.1
  attempts_le := attempts_le
  lost := updateLoss_lost _ _
  final := by
    intro (isFinal : final = true) e he
    simp only [Record.Refuses, not_or, not_and, not_le] at accepts
    have above := accepts.1.2.2.2.2.2.1 isFinal
    have := h.le_last e he
    have goal : e.1 < attempts := by omega
    exact goal

theorem duplicated (h : x.Tracks log) : x.duplicated.Tracks log :=
  ⟨h.seen, h.distinct, h.bounded, h.received, h.last, h.measurements, h.reordered, h.balanced,
    h.attempts_le, h.lost, h.final⟩

section New

variable {q : Nat} {values : List Measurement}

theorem seen_concat (h : x.Tracks log) (p : Nat) :
    (x.row.set q).test p = true ↔ p ∈ (log ++ [(q, values)]).map Prod.fst := by
  rw [BitRow.test_set, Bool.or_eq_true, decide_eq_true_iff, h.seen, List.map_append,
    List.mem_append, or_comm]
  exact Iff.rfl.or (by simp)

theorem distinct_concat (h : x.Tracks log) (new : x.row.test q = false) :
    ((log ++ [(q, values)]).map Prod.fst).Nodup := by
  have absent : q ∉ log.map Prod.fst := fun hq => by simp [(h.seen q).mpr hq] at new
  rw [List.map_append, List.map_singleton]
  exact List.nodup_append.mpr ⟨h.distinct, by simp, by
    rintro a ha b hb rfl
    rw [List.mem_singleton.mp hb] at ha
    exact absent ha⟩

theorem final_concat (h : x.Tracks log) (onTime : ¬ x.Late q)
    (final : x.node.finalReport = true) :
    ∀ e ∈ log ++ [(q, values)], e.1 < x.node.attempts := by
  intro e he
  rcases List.mem_append.mp he with he | he
  · exact h.final final e he
  · rw [List.mem_singleton.mp he]
    exact not_le.mp fun le => onTime ⟨final, le⟩

theorem bounded_concat (h : x.Tracks log) (bound : q < sessionLimit) :
    ∀ e ∈ log ++ [(q, values)], e.1 < sessionLimit := by
  intro e he
  rcases List.mem_append.mp he with he | he
  · exact h.bounded e he
  · rw [List.mem_singleton.mp he]
    exact bound

/-- A new sequence below the last one. -/
theorem overtaken (h : x.Tracks log) (onTime : ¬ x.Late q) (new : x.row.test q = false)
    (bound : q < sessionLimit) (now : Int) (below : (q : Int) < x.node.lastSequence) :
    (x.overtaken now q).Tracks (log ++ [(q, values)]) := by
  obtain ⟨m, hm, above⟩ : ∃ m, newest log = some m ∧ q < m.1 := by
    rw [h.last] at below
    cases hn : newest log with
    | none =>
      simp only [hn, Option.elim] at below
      omega
    | some m => exact ⟨m, rfl, by simpa [hn] using below⟩
  have newest' : newest (log ++ [(q, values)]) = some m := by
    simp [newest_concat, hm, newer, above]
  exact {
    seen := h.seen_concat
    distinct := h.distinct_concat new
    bounded := h.bounded_concat bound
    received := by simp [Record.overtaken, Record.counted, updateLoss, h.received]
    last := by
      rw [newest', Record.overtaken, Record.counted]
      exact h.last.trans (by rw [hm])
    measurements := by
      rw [newest', ← hm]
      exact h.measurements
    reordered := by
      rw [ArrivalLog.overtaken_concat, hm]
      simp [Record.overtaken, h.reordered, above]
    balanced := h.balanced
    attempts_le := h.attempts_le
    lost := updateLoss_lost _ _
    final := h.final_concat onTime }

/-- A new highest sequence. -/
theorem advanced (h : x.Tracks log) (onTime : ¬ x.Late q) (new : x.row.test q = false)
    (bound : q < sessionLimit) (now : Int) (above : ¬ (q : Int) < x.node.lastSequence) :
    (x.advanced now q values).Tracks (log ++ [(q, values)]) := by
  have newest' : newest (log ++ [(q, values)]) = some (q, values) := by
    rw [newest_concat]
    cases hn : newest log with
    | none => rfl
    | some m =>
      have : ¬ q < m.1 := by
        rw [h.last, hn] at above
        simpa using above
      simp [newer, this]
  exact {
    seen := h.seen_concat
    distinct := h.distinct_concat new
    bounded := h.bounded_concat bound
    received := by simp [Record.advanced, Record.counted, updateLoss, h.received]
    last := by rw [newest']; rfl
    measurements := by
      rw [newest']
      rfl
    reordered := by
      rw [ArrivalLog.overtaken_concat]
      have still : ((newest log).elim 0 fun m => if q < m.1 then 1 else 0) = 0 := by
        cases hn : newest log with
        | none => rfl
        | some m =>
          rw [h.last, hn] at above
          simpa using above
      simp only [still, Nat.add_zero]
      exact h.reordered
    balanced := h.balanced
    attempts_le := h.attempts_le
    lost := updateLoss_lost _ _
    final := h.final_concat onTime }

/-- A datagram of the session adds its sequence when it is in time and new. -/
theorem telemetry (h : x.Tracks log) (values : List Measurement) (bound : q < sessionLimit)
    (now : Int) :
    (x.telemetry now q values).Tracks
      (if x.Late q ∨ x.row.test q = true then log else log ++ [(q, values)]) := by
  by_cases late : x.Late q
  · rw [telemetry_late now values late, if_pos (.inl late)]
    exact h
  · cases seen : x.row.test q with
    | true =>
      rw [telemetry_duplicate now values late seen, if_pos (.inr rfl)]
      exact h.duplicated
    | false =>
      rw [if_neg (by simp [late])]
      by_cases below : (q : Int) < x.node.lastSequence
      · rw [telemetry_overtaken now values late seen below]
        exact h.overtaken late seen bound now below
      · rw [telemetry_advanced now values late seen below]
        exact h.advanced late seen bound now below

end New

end Record.Tracks

/-! ## Runs -/

/-- Whether a call is answered with success. -/
def RegistryAnswer.accepts : RegistryAnswer → Bool
  | .result code => code.isNone
  | .recorded newAlerts => newAlerts.isSome
  | .counted => false

/-- The datagram of the session `session` of `id` that a call brings, when it is accepted. -/
def acceptedBy (id session : Bytes) (r : Registry) (op : RegistryOp) : SessionLog :=
  match op with
  | .telemetry id' session' sequence values _ =>
      if id'.val = id ∧ session'.val = session ∧ (registryStep r op).1.accepts then
        [(sequence.val, values.val)]
      else []
  | _ => []

/-- The datagrams of the session `session` of `id` accepted in a run, in order. -/
def acceptedLog (startedAt bootId : Int) (ops : List RegistryOp) (id session : Bytes) :
    SessionLog :=
  (registryMachine startedAt bootId).collect (acceptedBy id session)
    (registryInit startedAt bootId) ops

/-- A datagram is accepted in the session bound to its identifier only, and only in time. -/
theorem accepts_telemetry {r : Registry} (wf : r.WellFormed) (id : NodeId) (session : Session)
    (sequence : Fin sessionLimit) (values : MeasurementSet) (clock : Clock) :
    (registryStep r (.telemetry id session sequence values clock)).1.accepts = true ↔
      ∃ x, recordOf r id.val = some x ∧ x.node.session = session.val ∧ ¬ x.Late sequence.val := by
  rw [answer_step wf _ rfl]
  cases recordOf r id.val with
  | none => simp [answerRecord, RegistryAnswer.accepts]
  | some x =>
    simp only [answerRecord, RegistryAnswer.accepts, Option.some.injEq, exists_eq_left']
    by_cases bound : x.node.session = session.val
    · simp only [bound, if_true, Record.recorded, true_and]
      split
      · simp [*]
      · split <;> simp [*]
    · simp [bound]

theorem acceptedBy_other {r : Registry} {op : RegistryOp} {id : Bytes}
    (other : op.nodeId ≠ some id) (session : Bytes) : acceptedBy id session r op = [] := by
  cases op with
  | telemetry id' session' sequence values clock =>
    exact if_neg fun h => other (congrArg some h.1)
  | _ => rfl

theorem acceptedBy_unbound {r : Registry} (wf : r.WellFormed) {id : Bytes}
    (unbound : recordOf r id = none) (session : Bytes) (op : RegistryOp) :
    acceptedBy id session r op = [] := by
  cases op with
  | telemetry id' session' sequence values clock =>
    refine if_neg ?_
    rintro ⟨rfl, -, accepts⟩
    obtain ⟨x, hx, -⟩ := (accepts_telemetry wf _ _ _ _ _).mp accepts
    rw [unbound] at hx
    cases hx
  | _ => rfl

/-- The registry publishes the statistics of the datagrams accepted so far. -/
structure Registry.Publishes (r : Registry) (log : Bytes → Bytes → SessionLog) : Prop where
  unbound : ∀ id, recordOf r id = none → ∀ session, log id session = []
  bound : ∀ id x, recordOf r id = some x → x.Tracks (firsts (log id x.node.session))

/-- What a call does to the record it names, and the datagram it accepts. -/
theorem tracks_stepRecord {r : Registry} (wf : r.WellFormed) (op : RegistryOp) {id : Bytes}
    {x : Record} {log : SessionLog} (named : op.nodeId = some id) (hx : recordOf r id = some x)
    (h : x.Tracks (firsts log)) :
    ∃ x', stepRecord r.hasRoom op (some x) = some x' ∧ x'.node.session = x.node.session ∧
      x'.Tracks (firsts (log ++ acceptedBy id x.node.session r op)) := by
  cases op with
  | hello id' session => exact ⟨x, rfl, rfl, by simpa [acceptedBy] using h⟩
  | report id' session c final =>
    simp only [stepRecord, acceptedBy, List.append_nil]
    split
    · next accepts => exact ⟨_, rfl, rfl, h.reported accepts.2 c.attempts_le⟩
    · exact ⟨x, rfl, rfl, h⟩
  | telemetry id' session sequence values clock =>
    obtain rfl : id'.val = id := Option.some.inj named
    have accepts := accepts_telemetry wf id' session sequence values clock
    simp only [hx, Option.some.injEq, exists_eq_left'] at accepts
    simp only [stepRecord, acceptedBy, accepts, true_and]
    by_cases bound : x.node.session = session.val
    · refine ⟨_, if_pos bound, telemetry_session _ _ _ _, ?_⟩
      have tracks := h.telemetry values.val sequence.isLt (clock 0)
      by_cases late : x.Late sequence.val
      · simpa [late] using tracks
      · have known : x.row.test sequence.val = true ↔ sequence.val ∈ log.map Prod.fst :=
          (h.seen _).trans mem_firsts
        simpa only [bound, late, not_false_eq_true, and_self, if_true, firsts_concat, known,
          false_or] using tracks
    · have other : ¬ (session.val = x.node.session ∧ x.node.session = session.val ∧
          ¬ x.Late sequence.val) := fun h => bound h.2.1
      rw [if_neg other, if_neg bound]
      exact ⟨x, rfl, rfl, by simpa using h⟩
  | invalidDatagram => cases named

/-- Only a `HELLO` creates a record. -/
theorem stepRecord_created {room : Bool} {op : RegistryOp} {id : Bytes} {x : Record}
    (named : op.nodeId = some id) (h : stepRecord room op none = some x) :
    ∃ session, Record.created id session = x := by
  cases op with
  | hello id' session =>
    obtain rfl : id'.val = id := Option.some.inj named
    simp only [stepRecord] at h
    split at h
    · exact ⟨session.val, Option.some.inj h⟩
    · cases h
  | _ => cases h

/-- Every call carries the statistics along. -/
theorem publishes_step {r : Registry} (wf : r.WellFormed) {log : Bytes → Bytes → SessionLog}
    (h : r.Publishes log) (op : RegistryOp) :
    (registryStep r op).2.Publishes fun id session =>
      log id session ++ acceptedBy id session r op where
  unbound id after session := by
    rw [recordOf_step wf] at after
    by_cases named : op.nodeId = some id
    · rw [if_pos named] at after
      cases hx : recordOf r id with
      | none => simp [h.unbound id hx, acceptedBy_unbound wf hx]
      | some x =>
        obtain ⟨x', step, -⟩ := tracks_stepRecord wf op named hx (h.bound id x hx)
        rw [hx, step] at after
        cases after
    · rw [if_neg named] at after
      simp [h.unbound id after, acceptedBy_unbound wf after]
  bound id x' after := by
    rw [recordOf_step wf] at after
    by_cases named : op.nodeId = some id
    · rw [if_pos named] at after
      cases hx : recordOf r id with
      | none =>
        obtain ⟨session, rfl⟩ := stepRecord_created named (hx ▸ after)
        simpa [h.unbound id hx, acceptedBy_unbound wf hx] using
          Record.Tracks.created id session
      | some x =>
        obtain ⟨x'', step, session, tracks⟩ :=
          tracks_stepRecord wf op named hx (h.bound id x hx)
        rw [hx, step] at after
        cases after
        rwa [session]
    · rw [if_neg named] at after
      simpa [acceptedBy_other named] using h.bound id x' after

/-- In every run, the records publish the statistics of the accepted datagrams. -/
theorem publishes_run (startedAt bootId : Int) (ops : List RegistryOp) :
    ((registryMachine startedAt bootId).exec (registryInit startedAt bootId) ops).Publishes
      (acceptedLog startedAt bootId ops) := by
  refine Machine.exec_history
    (P := fun ops r => Registry.Publishes r (acceptedLog startedAt bootId ops)) ?_ ?_ ops
  · exact ⟨fun _ _ _ => rfl, fun id x h => by simp [recordOf_init] at h⟩
  · intro ops op h
    have wf : Registry.WellFormed _ := wellFormed_reachable
      (Machine.Reachable.init (registryMachine startedAt bootId) |>.exec ops)
    have log : acceptedLog startedAt bootId (ops ++ [op]) = fun id session =>
        acceptedLog startedAt bootId ops id session ++ acceptedBy id session
          ((registryMachine startedAt bootId).exec (registryInit startedAt bootId) ops) op := by
      funext id session
      exact Machine.collect_concat _ _ _ _ _
    rw [log]
    exact publishes_step wf h op

/-- In every reachable state, a record publishes the statistics of some log. -/
theorem tracks_reachable {startedAt bootId : Int} {r : Registry}
    (h : (registryMachine startedAt bootId).Reachable r) {id : Bytes} {x : Record}
    (hx : recordOf r id = some x) : ∃ log, x.Tracks log := by
  obtain ⟨ops, rfl⟩ := h
  exact ⟨_, (publishes_run startedAt bootId ops).bound id x hx⟩

/-! ## What a slot publishes -/

/-- The highest of a set of sequences, -1 when there is none. -/
def highest (s : Finset Nat) : Int := if h : s.Nonempty then (s.max' h : Int) else -1

/-- The node in slot `i` publishes the statistics of the new datagrams `log`; `received` is the
set of sequences in its row of the bitmap. -/
structure StatisticsExact (r : Registry) (i : Fin maxNodes) (log : SessionLog)
    (received : Finset Nat) : Prop where
  received_eq : received = (log.map Prod.fst).toFinset
  distinct : (log.map Prod.fst).Nodup
  datagramsReceived : (r.nodes i).datagramsReceived = received.card
  lastSequence : (r.nodes i).lastSequence = highest received
  balanced : (r.nodes i).attempts = (r.nodes i).sent + (r.nodes i).omitted + (r.nodes i).sendErrors
  attempts_le : (r.nodes i).attempts ≤ sessionLimit
  datagramsLost : ((r.nodes i).datagramsLost : Int) =
    max 0 (((r.nodes i).sent : Int) - (received.filter (· < (r.nodes i).attempts)).card)
  reordered : (r.nodes i).reordered = ArrivalLog.overtaken log
  measurements : ∀ h : received.Nonempty, (received.max' h, (r.nodes i).measurements) ∈ log

/-- The newest arrival carries the highest sequence. -/
theorem newest_max {log : SessionLog} {m : Nat × List Measurement} (hm : newest log = some m)
    (h : (log.map Prod.fst).toFinset.Nonempty) : (log.map Prod.fst).toFinset.max' h = m.1 := by
  obtain ⟨member, above⟩ := newest_spec hm
  refine (Finset.max'_eq_iff _ h _).mpr ⟨?_, ?_⟩
  · exact List.mem_toFinset.mpr (List.mem_map_of_mem member)
  · intro q hq
    obtain ⟨e, he, rfl⟩ := List.mem_map.mp (List.mem_toFinset.mp hq)
    exact above e he

namespace Record.Tracks

variable {x : Record} {log : SessionLog}

theorem members_eq (h : x.Tracks log) :
    x.row.members sessionLimit = (log.map Prod.fst).toFinset := by
  ext q
  rw [BitRow.mem_members, List.mem_toFinset, h.seen]
  refine and_iff_right_of_imp fun hq => ?_
  obtain ⟨e, he, rfl⟩ := List.mem_map.mp hq
  exact h.bounded e he

theorem lastSequence_eq (h : x.Tracks log) :
    x.node.lastSequence = highest (log.map Prod.fst).toFinset := by
  rw [h.last, highest]
  cases hm : newest log with
  | none => simp [newest_eq_none.mp hm]
  | some m =>
    have nonempty : (log.map Prod.fst).toFinset.Nonempty :=
      ⟨m.1, List.mem_toFinset.mpr (List.mem_map_of_mem (newest_spec hm).1)⟩
    rw [dif_pos nonempty, newest_max hm]
    rfl

theorem lost_eq (h : x.Tracks log) :
    (x.node.datagramsLost : Int) = max 0 ((x.node.sent : Int) -
      ((log.map Prod.fst).toFinset.filter (· < x.node.attempts)).card) := by
  have below : (log.map Prod.fst).toFinset.filter (· < x.node.attempts) =
      x.row.members x.node.attempts := by
    rw [← h.members_eq]
    ext q
    rw [Finset.mem_filter, BitRow.mem_members, BitRow.mem_members]
    have := h.attempts_le
    exact ⟨fun ⟨⟨_, set⟩, lt⟩ => ⟨lt, set⟩, fun ⟨lt, set⟩ => ⟨⟨by omega, set⟩, lt⟩⟩
  rw [below, ← BitRow.count_eq_card, h.lost]
  omega

theorem measurements_mem (h : x.Tracks log) (nonempty : (log.map Prod.fst).toFinset.Nonempty) :
    ((log.map Prod.fst).toFinset.max' nonempty, x.node.measurements) ∈ log := by
  cases hm : newest log with
  | none =>
    rw [newest_eq_none.mp hm] at nonempty
    simp at nonempty
  | some m =>
    rw [newest_max hm, h.measurements, hm]
    exact (newest_spec hm).1

end Record.Tracks

/-- In every run of the registry, every node in use publishes the statistics of the datagrams
accepted in its session. -/
theorem statistics_exact (startedAt bootId : Int) (ops : List RegistryOp) (r : Registry)
    (run : (registryMachine startedAt bootId).exec (registryInit startedAt bootId) ops = r)
    (i : Fin maxNodes) (used : (r.nodes i).inUse = true) :
    StatisticsExact r i
      (firsts (acceptedLog startedAt bootId ops (r.nodes i).nodeId (r.nodes i).session))
      ((r.seen i).members sessionLimit) := by
  have wf : r.WellFormed := wellFormed_reachable ⟨ops, run⟩
  have publishes : r.Publishes (acceptedLog startedAt bootId ops) :=
    run ▸ publishes_run startedAt bootId ops
  have h := publishes.bound _ _ (wf.recordOf_slot used)
  have members : (r.seen i).members sessionLimit = _ := h.members_eq
  exact {
    received_eq := members
    distinct := h.distinct
    datagramsReceived := by
      rw [members, List.toFinset_card_of_nodup h.distinct, List.length_map]
      exact h.received
    lastSequence := by
      rw [members]
      exact h.lastSequence_eq
    balanced := h.balanced
    attempts_le := h.attempts_le
    datagramsLost := by
      rw [members]
      exact h.lost_eq
    reordered := h.reordered
    measurements := by
      rw [members]
      exact h.measurements_mem }

/-- A datagram, a late one and a duplicate. -/
theorem statistics_exact_sample :
    let ops : List RegistryOp := [.hello nodeN sessionS,
      .telemetry nodeN sessionS 2 normalValues fun _ => 5,
      .telemetry nodeN sessionS 0 normalValues fun _ => 6,
      .telemetry nodeN sessionS 2 normalValues fun _ => 7]
    let r := (registryMachine 0 1).exec (registryInit 0 1) ops
    let log := acceptedLog 0 1 ops nodeN.val sessionS.val
    log.map Prod.fst = [2, 0, 2] ∧ (firsts log).map Prod.fst = [2, 0] ∧
      (r.nodes 0).duplicates = 1 ∧ (r.nodes 0).reordered = 1 ∧
      StatisticsExact r 0 (firsts log) ((r.seen 0).members sessionLimit) := by
  intro ops r log
  have statistics := statistics_exact 0 1 ops r rfl 0 (by decide)
  exact ⟨by decide, by decide, by decide, by decide, statistics⟩

end Telep
