import Telep.Server.Proofs.Statistics

/-!
# Repeating the final report

A report is validated against the bitmap each time it arrives, and datagrams below `attempts`
are still accepted after the final one. The record keeps the final counters in every later
state (`finalised_exec`), and the report is accepted again exactly while the sequences received
fit in its `sent` counter.
-/

namespace Telep

namespace Record

/-- The record holds the final report `c` of `session`. -/
structure Finalised (x : Record) (session : Bytes) (c : ReportCounters) : Prop where
  session : x.node.session = session
  final : x.node.finalReport = true
  seen : x.node.reportSeen = true
  attempts : x.node.attempts = c.attempts
  sent : x.node.sent = c.sent
  omitted : x.node.omitted = c.omitted
  errors : x.node.sendErrors = c.errors

theorem Finalised.of_reported (x : Record) (c : ReportCounters) :
    (x.reported c.attempts c.sent c.omitted c.errors true).Finalised x.node.session c :=
  ⟨rfl, rfl, rfl, rfl, rfl, rfl, rfl⟩

/-- Only the identical report is accepted after the final one. -/
theorem Finalised.reported {x : Record} {session : Bytes} {c c' : ReportCounters} {final : Bool}
    (h : x.Finalised session c)
    (accepts : ¬ x.Refuses c'.attempts c'.sent c'.omitted c'.errors final) :
    (x.reported c'.attempts c'.sent c'.omitted c'.errors final).Finalised session c := by
  simp only [Refuses, h.final, true_and, not_or, not_not] at accepts
  obtain ⟨attempts, sent, omitted, errors, final⟩ := accepts.1.2.2.2.2.2.2
  exact ⟨h.session, final, rfl, attempts.trans h.attempts, sent.trans h.sent,
    omitted.trans h.omitted, errors.trans h.errors⟩

theorem Finalised.telemetry {x : Record} {session : Bytes} {c : ReportCounters}
    (h : x.Finalised session c) (now : Int) (sequence : Nat) (values : List Measurement) :
    (x.telemetry now sequence values).Finalised session c := by
  have same : (x.telemetry now sequence values).node.session = x.node.session ∧
      (x.telemetry now sequence values).node.finalReport = x.node.finalReport ∧
      (x.telemetry now sequence values).node.reportSeen = x.node.reportSeen ∧
      (x.telemetry now sequence values).node.attempts = x.node.attempts ∧
      (x.telemetry now sequence values).node.sent = x.node.sent ∧
      (x.telemetry now sequence values).node.omitted = x.node.omitted ∧
      (x.telemetry now sequence values).node.sendErrors = x.node.sendErrors := by
    unfold Record.telemetry
    split_ifs <;> exact ⟨rfl, rfl, rfl, rfl, rfl, rfl, rfl⟩
  obtain ⟨h1, h2, h3, h4, h5, h6, h7⟩ := same
  exact ⟨h1.trans h.session, h2.trans h.final, h3.trans h.seen, h4.trans h.attempts,
    h5.trans h.sent, h6.trans h.omitted, h7.trans h.errors⟩

/-- The final report of the record is refused exactly when more sequences were received than it
says were sent. -/
theorem Finalised.refuses_iff {x : Record} {session : Bytes} {c : ReportCounters}
    {log : SessionLog} (h : x.Finalised session c) (tracks : x.Tracks log) :
    x.Refuses c.attempts c.sent c.omitted c.errors true ↔ c.sent < x.node.datagramsReceived := by
  have balanced := tracks.balanced
  rw [h.attempts, h.sent, h.omitted, h.errors] at balanced
  have below : x.node.lastSequence < c.attempts := by
    rw [tracks.last, ← h.attempts]
    cases hm : ArrivalLog.newest log with
    | none =>
      simp only [Option.elim]
      omega
    | some m => simpa using tracks.final h.final m (ArrivalLog.newest_spec hm).1
  have count : x.row.count c.attempts = x.node.datagramsReceived := by
    rw [tracks.received, BitRow.count_eq_card, ← List.length_map Prod.fst,
      ← List.toFinset_card_of_nodup tracks.distinct]
    congr 1
    ext q
    rw [BitRow.mem_members, List.mem_toFinset, tracks.seen]
    refine and_iff_right_of_imp fun hq => ?_
    obtain ⟨e, he, rfl⟩ := List.mem_map.mp hq
    exact h.attempts ▸ tracks.final h.final e he
  simp only [Refuses, h.attempts, h.sent, h.omitted, h.errors, h.final, count, ne_eq, lt_irrefl,
    not_true_eq_false, or_false, and_false, false_or, true_and]
  omega

/-- Accepting the final report of the record again changes nothing. -/
theorem Finalised.reported_eq {x : Record} {session : Bytes} {c : ReportCounters}
    {log : SessionLog} (h : x.Finalised session c) (tracks : x.Tracks log) :
    x.reported c.attempts c.sent c.omitted c.errors true = x := by
  obtain ⟨node, row⟩ := x
  obtain ⟨-, final, seen, attempts, sent, omitted, errors⟩ := h
  have lost := tracks.lost
  rw [← updateLoss_lost] at lost
  rw [← attempts, ← sent, ← omitted, ← errors]
  obtain ⟨⟩ := node
  simp only at final seen
  subst final seen
  simp only [updateLoss] at lost
  rw [lost]
  rfl

/-- What a call does to a record keeps its final report. -/
theorem Finalised.stepRecord {x x' : Record} {session : Bytes} {c : ReportCounters} {room : Bool}
    {op : RegistryOp} (h : x.Finalised session c)
    (step : stepRecord room op (some x) = some x') : x'.Finalised session c := by
  cases op with
  | report id session' c' final =>
    simp only [Telep.stepRecord] at step
    split at step
    · next accepts => exact Option.some.inj step ▸ h.reported accepts.2
    · exact Option.some.inj step ▸ h
  | telemetry id session' sequence values clock =>
    simp only [Telep.stepRecord] at step
    split at step
    · exact Option.some.inj step ▸ h.telemetry _ _ _
    · exact Option.some.inj step ▸ h
  | _ => exact Option.some.inj step ▸ h

end Record

/-- No call removes a record. -/
theorem stepRecord_isSome (room : Bool) (op : RegistryOp) (x : Record) :
    ∃ x', stepRecord room op (some x) = some x' := by
  cases op with
  | report id session c final =>
    simp only [stepRecord]
    split <;> exact ⟨_, rfl⟩
  | telemetry id session sequence values clock =>
    simp only [stepRecord]
    split <;> exact ⟨_, rfl⟩
  | _ => exact ⟨x, rfl⟩

/-- The registry of a run that holds the final report `c` of `session` under `id`. -/
def HoldsFinalReport (id session : Bytes) (c : ReportCounters) (r : Registry) : Prop :=
  r.WellFormed ∧ ∃ x, recordOf r id = some x ∧ x.Finalised session c

theorem finalised_step {id session : Bytes} {c : ReportCounters} (r : Registry)
    (op : RegistryOp) (h : HoldsFinalReport id session c r) :
    HoldsFinalReport id session c (registryStep r op).2 := by
  obtain ⟨wf, x, hx, finalised⟩ := h
  refine ⟨wellFormed_step wf op, ?_⟩
  by_cases named : op.nodeId = some id
  · obtain ⟨x', step⟩ := stepRecord_isSome r.hasRoom op x
    exact ⟨x', by rw [recordOf_step_named wf named, hx, step], finalised.stepRecord step⟩
  · exact ⟨x, by rw [recordOf_step_other wf named, hx], finalised⟩

/-- An accepted report is stored in the record of its session. -/
theorem recordOf_of_accepted {r : Registry} (wf : r.WellFormed) {id : NodeId} {session : Session}
    {c : ReportCounters} {final : Bool}
    (accepted : (registryStep r (.report id session c final)).1 = .result none) :
    ∃ x : Record, x.node.session = session.val ∧
      recordOf (registryStep r (.report id session c final)).2 id.val =
        some (x.reported c.attempts c.sent c.omitted c.errors final) := by
  rw [recordOf_step_named wf rfl]
  rw [answer_step wf _ rfl] at accepted
  cases hx : recordOf r id.val with
  | none => simp [hx, answerRecord] at accepted
  | some x =>
    simp only [hx, answerRecord] at accepted
    split at accepted
    · next same =>
      split at accepted
      · simp at accepted
      · next accepts => exact ⟨x, same, if_pos ⟨same, accepts⟩⟩
    · simp at accepted

/-- An accepted final report is held by the record. -/
theorem holdsFinalReport_of_accepted {r : Registry} (wf : r.WellFormed) {id : NodeId}
    {session : Session} {c : ReportCounters}
    (accepted : (registryStep r (.report id session c true)).1 = .result none) :
    HoldsFinalReport id.val session.val c (registryStep r (.report id session c true)).2 := by
  obtain ⟨x, same, stored⟩ := recordOf_of_accepted wf accepted
  exact ⟨wellFormed_step wf _, _, stored, same ▸ Record.Finalised.of_reported x c⟩

/-- A report that its record does not refuse is stored in it. -/
theorem ReportEffect.of_accepts {r r' : Registry} {id session : Bytes}
    {attempts sent omitted errors : Nat} {final : Bool} {code : Option ErrorCode}
    (effect : ReportEffect r id session attempts sent omitted errors final code r')
    {i : Fin maxNodes} (found : findNode r.toRegistrySnapshot id = some i)
    (same : (r.record i).node.session = session)
    (accepts : ¬ (r.record i).Refuses attempts sent omitted errors final) :
    code = none ∧ r' = r.put i ((r.record i).reported attempts sent omitted errors final) := by
  cases effect with
  | unknown other => exact absurd same (other _ (recordOf_of_find found))
  | refused j found' same' refuses =>
    obtain rfl : j = i := Option.some.inj (found'.symm.trans found)
    exact absurd refuses accepts
  | accepted j found' same' accepts' =>
    obtain rfl : j = i := Option.some.inj (found'.symm.trans found)
    exact ⟨rfl, rfl⟩

/-- Repeating the final report `c` in `r` is answered with success and changes nothing. -/
def RepeatsFinalReport (r : Registry) (id : NodeId) (session : Session) (c : ReportCounters) :
    Prop :=
  (registryStep r (.report id session c true)).1 = .result none ∧
    (registryStep r (.report id session c true)).2 = r

/-- In a state that holds a final report, the report is accepted again, and then without any
change, exactly while the sequences received fit in its `sent` counter. -/
theorem repeats_iff_of_holds {startedAt bootId : Int} {r : Registry}
    (reachable : (registryMachine startedAt bootId).Reachable r) {id : NodeId}
    {session : Session} {c : ReportCounters} (h : HoldsFinalReport id.val session.val c r) :
    ∃ x, recordOf r id.val = some x ∧
      (RepeatsFinalReport r id session c ↔ x.node.datagramsReceived ≤ c.sent) := by
  obtain ⟨wf, x, hx, finalised⟩ := h
  obtain ⟨log, tracks⟩ := tracks_reachable reachable hx
  have refuses := finalised.refuses_iff tracks
  refine ⟨x, hx, ?_, ?_⟩
  · rintro ⟨accepted, -⟩
    rw [answer_step wf _ rfl, hx] at accepted
    by_contra more
    have := refuses.mpr (not_le.mp more)
    simp [answerRecord, finalised.session, this] at accepted
  · intro fits
    have accepts := fun h => not_lt.mpr fits (refuses.mp h)
    obtain ⟨i, found, rfl⟩ := recordOf_eq_some.mp hx
    obtain ⟨code, state⟩ := (report_effect r id.val session.val c.attempts c.sent c.omitted
      c.errors true).of_accepts found finalised.session accepts
    rw [finalised.reported_eq tracks, put_record] at state
    exact ⟨congrArg RegistryAnswer.result code, state⟩

/-- In every run in which a final report was accepted, and in every later state, the node is
still bound to the session, and repeating the report is accepted and changes nothing exactly
while the sequences received in the session fit in the report's `sent` counter. -/
theorem repeatsFinalReport_iff (startedAt bootId : Int) (before after : List RegistryOp)
    (id : NodeId) (session : Session) (c : ReportCounters) (r₁ r : Registry)
    (first : (registryMachine startedAt bootId).exec (registryInit startedAt bootId) before = r₁)
    (accepted : (registryStep r₁ (.report id session c true)).1 = .result none)
    (later : (registryMachine startedAt bootId).exec
      (registryStep r₁ (.report id session c true)).2 after = r) :
    ∃ x, recordOf r id.val = some x ∧ x.node.session = session.val ∧
      (RepeatsFinalReport r id session c ↔ x.node.datagramsReceived ≤ c.sent) := by
  have reachable : (registryMachine startedAt bootId).Reachable r₁ := ⟨before, first⟩
  have holds := holdsFinalReport_of_accepted (wellFormed_reachable reachable) accepted
  have holds' : HoldsFinalReport id.val session.val c r := by
    rw [← later]
    exact Machine.exec_preserves finalised_step holds after
  have reachable' : (registryMachine startedAt bootId).Reachable r := by
    rw [← later]
    exact (reachable.exec [.report id session c true]).exec after
  obtain ⟨x, hx, finalised⟩ := holds'.2
  obtain ⟨x', hx', iff⟩ := repeats_iff_of_holds reachable' holds'
  obtain rfl : x = x' := Option.some.inj (hx.symm.trans hx')
  exact ⟨x, hx, finalised.session, iff⟩

/-- The counters `1|0|1|0` of a node that omitted its only attempt. -/
def omittedCounters : ReportCounters where
  attempts := 1
  sent := 0
  omitted := 1
  errors := 0
  attempts_le := by decide
  sent_le := by decide
  omitted_le := by decide
  errors_le := by decide

/-- The datagram of the omitted attempt arrives after the final report. -/
theorem repeatsFinalReport_iff_sample :
    let r₁ := (registryStep (registryInit 0 1) (.hello nodeN sessionS)).2
    let r := (registryMachine 0 1).exec
      (registryStep r₁ (.report nodeN sessionS omittedCounters true)).2
      [.telemetry nodeN sessionS 0 normalValues fun _ => 5]
    ∃ x, recordOf r nodeN.val = some x ∧ x.node.session = sessionS.val ∧
      (RepeatsFinalReport r nodeN sessionS omittedCounters ↔
        x.node.datagramsReceived ≤ omittedCounters.sent) :=
  repeatsFinalReport_iff 0 1 [.hello nodeN sessionS]
    [.telemetry nodeN sessionS 0 normalValues fun _ => 5] nodeN sessionS omittedCounters _ _ rfl
    (by decide) rfl

/-- Then the identical report is answered with an error. -/
theorem late_datagram_refuses :
    let r₁ := (registryStep (registryInit 0 1) (.hello nodeN sessionS)).2
    let r := (registryMachine 0 1).exec
      (registryStep r₁ (.report nodeN sessionS omittedCounters true)).2
      [.telemetry nodeN sessionS 0 normalValues fun _ => 5]
    (registryStep r₁ (.report nodeN sessionS omittedCounters true)).1 = .result none ∧
      (registryStep r (.report nodeN sessionS omittedCounters true)).1 =
        .result (some .badFormat) ∧
      ¬ RepeatsFinalReport r nodeN sessionS omittedCounters := by
  intro r₁ r
  have refused : (registryStep r (.report nodeN sessionS omittedCounters true)).1 =
      .result (some .badFormat) := by
    decide
  refine ⟨by decide, refused, fun repeats => ?_⟩
  exact absurd (refused.symm.trans repeats.1) (by decide)

end Telep
