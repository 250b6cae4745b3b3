import Telep.Server.Proofs.FinalReport

/-!
# The counters of a sender only grow, and settle with its final report

A report never takes back what an earlier one said (`Record.Grows`). The final report excludes
every other one, so the sender's counters stand still after it; what still moves is the loss
estimate, which only falls, by one at most for each accepted datagram.
-/

namespace Telep

namespace Record

/-- What no call takes back. -/
structure Grows (x x' : Record) : Prop where
  session : x'.node.session = x.node.session
  attempts : x.node.attempts ≤ x'.node.attempts
  sent : x.node.sent ≤ x'.node.sent
  omitted : x.node.omitted ≤ x'.node.omitted
  errors : x.node.sendErrors ≤ x'.node.sendErrors
  seen : x.node.reportSeen = true → x'.node.reportSeen = true

namespace Grows

variable {x x' x'' : Record}

theorem refl (x : Record) : x.Grows x :=
  ⟨rfl, Nat.le_refl _, Nat.le_refl _, Nat.le_refl _, Nat.le_refl _, id⟩

theorem trans (h : x.Grows x') (h' : x'.Grows x'') : x.Grows x'' where
  session := h'.session.trans h.session
  attempts := h.attempts.trans h'.attempts
  sent := h.sent.trans h'.sent
  omitted := h.omitted.trans h'.omitted
  errors := h.errors.trans h'.errors
  seen := h'.seen ∘ h.seen

theorem telemetry (x : Record) (now : Int) (sequence : Nat) (values : List Measurement) :
    x.Grows (x.telemetry now sequence values) := by
  unfold Record.telemetry
  split_ifs <;> exact ⟨rfl, Nat.le_refl _, Nat.le_refl _, Nat.le_refl _, Nat.le_refl _, id⟩

/-- A report that is accepted is not below the stored one. -/
theorem reported {attempts sent omitted errors : Nat} {final : Bool}
    (accepts : ¬ x.Refuses attempts sent omitted errors final) :
    x.Grows (x.reported attempts sent omitted errors final) := by
  simp only [Refuses, not_or, not_lt] at accepts
  obtain ⟨⟨-, attempts, sent, omitted, errors, -⟩, -⟩ := accepts
  exact ⟨rfl, attempts, sent, omitted, errors, fun _ => rfl⟩

theorem stepRecord {room : Bool} {op : RegistryOp}
    (step : stepRecord room op (some x) = some x') : x.Grows x' := by
  cases op with
  | report id session c final =>
    simp only [Telep.stepRecord] at step
    split at step
    · next accepts => exact Option.some.inj step ▸ reported accepts.2
    · exact Option.some.inj step ▸ refl x
  | telemetry id session sequence values clock =>
    simp only [Telep.stepRecord] at step
    split at step
    · exact Option.some.inj step ▸ telemetry x _ _ _
    · exact Option.some.inj step ▸ refl x
  | _ => exact Option.some.inj step ▸ refl x

end Grows

/-- A datagram corrects the loss estimate downwards, by one at most. -/
theorem Tracks.lost_telemetry {x : Record} {log : SessionLog} (tracks : x.Tracks log) (now : Int)
    (sequence : Nat) (values : List Measurement) :
    (x.telemetry now sequence values).node.datagramsLost ≤ x.node.datagramsLost ∧
      x.node.datagramsLost ≤ (x.telemetry now sequence values).node.datagramsLost +
        if x.Late sequence then 0 else 1 := by
  by_cases late : x.Late sequence
  · rw [telemetry_late now values late]
    exact ⟨Nat.le_refl _, Nat.le_add_right _ _⟩
  · rw [if_neg late]
    cases seen : x.row.test sequence with
    | true =>
      rw [telemetry_duplicate now values late seen]
      exact ⟨Nat.le_refl _, Nat.le_add_right _ _⟩
    | false =>
      have after : (x.counted now sequence).datagramsLost = x.node.sent -
          (x.row.count x.node.attempts + if sequence < x.node.attempts then 1 else 0) := by
        rw [← BitRow.count_set seen]
        exact updateLoss_lost _ _
      have fall : (x.counted now sequence).datagramsLost ≤ x.node.datagramsLost ∧
          x.node.datagramsLost ≤ (x.counted now sequence).datagramsLost + 1 := by
        rw [after, tracks.lost]
        split <;> omega
      by_cases below : (sequence : Int) < x.node.lastSequence
      · rwa [telemetry_overtaken now values late seen below]
      · rwa [telemetry_advanced now values late seen below]

/-- A report that repeats the final one leaves the loss estimate as it is. -/
theorem Finalised.lost_reported {x : Record} {session : Bytes} {c c' : ReportCounters}
    {final : Bool} {log : SessionLog} (h : x.Finalised session c) (tracks : x.Tracks log)
    (accepts : ¬ x.Refuses c'.attempts c'.sent c'.omitted c'.errors final) :
    (x.reported c'.attempts c'.sent c'.omitted c'.errors final).node.datagramsLost =
      x.node.datagramsLost := by
  have same := h.reported accepts
  rw [tracks.lost, h.sent, h.attempts, ← same.sent, ← same.attempts]
  exact updateLoss_lost _ _

end Record

/-! ## Runs -/

section

variable {startedAt bootId : Int} {r : Registry} {id session : Bytes} {c : ReportCounters}

theorem grows_step (wf : r.WellFormed) (op : RegistryOp) {x : Record}
    (hx : recordOf r id = some x) :
    ∃ x', recordOf (registryStep r op).2 id = some x' ∧ x.Grows x' := by
  by_cases named : op.nodeId = some id
  · obtain ⟨x', step⟩ := stepRecord_isSome r.hasRoom op x
    exact ⟨x', by rw [recordOf_step_named wf named, hx, step], .stepRecord step⟩
  · exact ⟨x, by rw [recordOf_step_other wf named, hx], .refl x⟩

theorem grows_exec (wf : r.WellFormed) (ops : List RegistryOp) {x : Record}
    (hx : recordOf r id = some x) :
    ∃ x', recordOf ((registryMachine startedAt bootId).exec r ops) id = some x' ∧ x.Grows x' := by
  induction ops generalizing r x with
  | nil => exact ⟨x, hx, .refl x⟩
  | cons op ops ih =>
    obtain ⟨x₁, hx₁, first⟩ := grows_step wf op hx
    obtain ⟨x', hx', rest⟩ := ih (wellFormed_step wf op) hx₁
    exact ⟨x', hx', first.trans rest⟩

/-- Datagrams are accepted for a bound identifier in its session only. -/
theorem acceptedBy_session (wf : r.WellFormed) (op : RegistryOp)
    (accepted : acceptedBy id session r op ≠ []) :
    ∃ x, recordOf r id = some x ∧ x.node.session = session := by
  cases op with
  | telemetry id' session' sequence values clock =>
    rw [acceptedBy, ite_ne_right_iff] at accepted
    obtain ⟨⟨rfl, rfl, accepts⟩, -⟩ := accepted
    obtain ⟨x, hx, bound, -⟩ := (accepts_telemetry wf _ _ _ _ _).mp accepts
    exact ⟨x, hx, bound⟩
  | _ => exact absurd rfl accepted

theorem acceptedLog_session (startedAt bootId : Int) (ops : List RegistryOp) :
    ∀ id session, acceptedLog startedAt bootId ops id session ≠ [] →
      ∃ x, recordOf ((registryMachine startedAt bootId).exec (registryInit startedAt bootId) ops)
        id = some x ∧ x.node.session = session := by
  refine Machine.exec_history (P := fun ops r => ∀ id session,
    acceptedLog startedAt bootId ops id session ≠ [] →
      ∃ x, recordOf r id = some x ∧ x.node.session = session) ?_ ?_ ops
  · exact fun id session some => absurd rfl some
  · intro ops op h id session accepted
    have wf : Registry.WellFormed _ := wellFormed_reachable
      (Machine.Reachable.init (registryMachine startedAt bootId) |>.exec ops)
    have bound : ∃ x, recordOf ((registryMachine startedAt bootId).exec
        (registryInit startedAt bootId) ops) id = some x ∧ x.node.session = session := by
      rw [acceptedLog, Machine.collect_concat, ne_eq, List.append_eq_nil_iff, not_and_or]
        at accepted
      rcases accepted with earlier | now
      · exact h id session earlier
      · exact acceptedBy_session wf op now
    obtain ⟨x, hx, same⟩ := bound
    obtain ⟨x', hx', grows⟩ := grows_step wf op hx
    exact ⟨x', hx', grows.session.trans same⟩

/-- Once the record holds its final report, a call lowers the loss estimate by one at most, and
only by accepting a datagram. -/
theorem lost_step (reachable : (registryMachine startedAt bootId).Reachable r) {x : Record}
    (hx : recordOf r id = some x) (finalised : x.Finalised session c) (op : RegistryOp) :
    ∃ x', recordOf (registryStep r op).2 id = some x' ∧
      x'.node.datagramsLost ≤ x.node.datagramsLost ∧
      x.node.datagramsLost ≤ x'.node.datagramsLost + (acceptedBy id session r op).length := by
  have wf := wellFormed_reachable reachable
  obtain ⟨log, tracks⟩ := tracks_reachable reachable hx
  by_cases named : op.nodeId = some id
  · rw [recordOf_step_named wf named, hx]
    cases op with
    | report id' session' c' final =>
      simp only [stepRecord]
      split
      · next accepts =>
        have same := finalised.lost_reported tracks accepts.2
        exact ⟨_, rfl, same.le, same.ge.trans (Nat.le_add_right _ _)⟩
      · exact ⟨x, rfl, Nat.le_refl _, Nat.le_add_right _ _⟩
    | telemetry id' session' sequence values clock =>
      obtain rfl : id'.val = id := Option.some.inj named
      simp only [stepRecord]
      split
      · next bound =>
        obtain ⟨falls, byOne⟩ := tracks.lost_telemetry (clock 0) sequence.val values.val
        refine ⟨_, rfl, falls, byOne.trans (Nat.add_le_add_left ?_ _)⟩
        split
        · exact Nat.zero_le _
        · next onTime =>
          have accepts := (accepts_telemetry wf id' session' sequence values clock).mpr
            ⟨x, hx, bound, onTime⟩
          rw [acceptedBy, if_pos ⟨rfl, bound.symm.trans finalised.session, accepts⟩]
          exact Nat.le_refl _
      · exact ⟨x, rfl, Nat.le_refl _, Nat.le_add_right _ _⟩
    | hello id' session' => exact ⟨x, rfl, Nat.le_refl _, Nat.le_add_right _ _⟩
    | invalidDatagram => cases named
  · exact ⟨x, by rw [recordOf_step_other wf named, hx], Nat.le_refl _, Nat.le_add_right _ _⟩

theorem lost_exec (reachable : (registryMachine startedAt bootId).Reachable r)
    (holds : HoldsFinalReport id session c r) (ops : List RegistryOp) :
    ∃ x x', recordOf r id = some x ∧
      recordOf ((registryMachine startedAt bootId).exec r ops) id = some x' ∧
      x'.node.datagramsLost ≤ x.node.datagramsLost ∧
      x.node.datagramsLost ≤ x'.node.datagramsLost +
        ((registryMachine startedAt bootId).collect (acceptedBy id session) r ops).length := by
  induction ops generalizing r with
  | nil =>
    obtain ⟨-, x, hx, -⟩ := holds
    exact ⟨x, x, hx, hx, Nat.le_refl _, Nat.le_add_right _ _⟩
  | cons op ops ih =>
    obtain ⟨y, x', hy, hx', falls', byOne'⟩ := ih (reachable.exec [op])
      (finalised_step r op holds)
    obtain ⟨-, x, hx, finalised⟩ := holds
    obtain ⟨x₁, hx₁, falls, byOne⟩ := lost_step reachable hx finalised op
    obtain rfl : x₁ = y := Option.some.inj (hx₁.symm.trans hy)
    refine ⟨x, x', hx, hx', falls'.trans falls, ?_⟩
    rw [Machine.collect, List.length_append, Nat.add_comm (acceptedBy id session r op).length,
      ← Nat.add_assoc]
    exact byOne.trans (Nat.add_le_add_right byOne' _)

end

/-- From the state after `ops`, in which the final report `c` holds, to the state after
`ops ++ more`: the counters stand still, no sequence accepted for the node is beyond them, and
the loss estimate falls by at most one for each accepted datagram. -/
structure Settled (startedAt bootId : Int) (id session : Bytes) (c : ReportCounters)
    (ops more : List RegistryOp) (x x' : Record) : Prop where
  finalised : x.Finalised session c
  finalised' : x'.Finalised session c
  accepted : ∀ session', ∀ e ∈ acceptedLog startedAt bootId (ops ++ more) id session',
    e.1 < c.attempts
  falls : x'.node.datagramsLost ≤ x.node.datagramsLost
  byOne : x.node.datagramsLost ≤ x'.node.datagramsLost +
    ((registryMachine startedAt bootId).collect (acceptedBy id session)
      ((registryMachine startedAt bootId).exec (registryInit startedAt bootId) ops) more).length

theorem settled_of_holds {startedAt bootId : Int} {id session : Bytes} {c : ReportCounters}
    {ops : List RegistryOp} (holds : HoldsFinalReport id session c
      ((registryMachine startedAt bootId).exec (registryInit startedAt bootId) ops))
    (more : List RegistryOp) :
    ∃ x x', recordOf ((registryMachine startedAt bootId).exec (registryInit startedAt bootId) ops)
        id = some x ∧
      recordOf ((registryMachine startedAt bootId).exec (registryInit startedAt bootId)
        (ops ++ more)) id = some x' ∧
      Settled startedAt bootId id session c ops more x x' := by
  have reachable : (registryMachine startedAt bootId).Reachable _ := ⟨ops, rfl⟩
  obtain ⟨x, x', hx, hx', falls, byOne⟩ := lost_exec reachable holds more
  have holds' := Machine.exec_preserves (M := registryMachine startedAt bootId)
    (P := HoldsFinalReport id session c) finalised_step holds more
  rw [← Machine.exec_append] at hx' holds'
  obtain ⟨-, y, hy, finalised⟩ := holds
  obtain ⟨-, y', hy', finalised'⟩ := holds'
  obtain rfl : y = x := Option.some.inj (hy.symm.trans hx)
  obtain rfl : y' = x' := Option.some.inj (hy'.symm.trans hx')
  refine ⟨y, y', hx, hx', finalised, finalised', fun session' e he => ?_, falls, byOne⟩
  -- only the session of the report can have brought the sequence
  obtain ⟨z, hz, bound⟩ := acceptedLog_session startedAt bootId (ops ++ more) id session'
    (List.ne_nil_of_mem he)
  obtain rfl : y' = z := Option.some.inj (hx'.symm.trans hz)
  have tracks := (publishes_run startedAt bootId (ops ++ more)).bound id y' hx'
  rw [bound] at tracks
  obtain ⟨d, hd, same⟩ := List.mem_map.mp
    (ArrivalLog.mem_firsts.mpr (List.mem_map_of_mem (f := Prod.fst) he))
  rw [← same, ← finalised'.attempts]
  exact tracks.final finalised'.final d hd

/-- In every run, the counters of a sender never decrease and its first report is never
forgotten; and from the acceptance of a final report on, whatever calls follow, its counters and
flags stand still, every sequence accepted for the node is below `attempts`, and the loss
estimate never increases and falls by at most one for each accepted datagram. -/
theorem counters_settle (startedAt bootId : Int) (before : List RegistryOp) (r : Registry)
    (run : (registryMachine startedAt bootId).exec (registryInit startedAt bootId) before = r) :
    (∀ id x, recordOf r id = some x → ∀ after, ∃ x',
      recordOf ((registryMachine startedAt bootId).exec r after) id = some x' ∧ x.Grows x') ∧
    ∀ (id : NodeId) (session : Session) (c : ReportCounters),
      (registryStep r (.report id session c true)).1 = .result none → ∀ mid more, ∃ x x',
        recordOf ((registryMachine startedAt bootId).exec (registryInit startedAt bootId)
          (before ++ .report id session c true :: mid)) id.val = some x ∧
        recordOf ((registryMachine startedAt bootId).exec (registryInit startedAt bootId)
          (before ++ .report id session c true :: mid ++ more)) id.val = some x' ∧
        Settled startedAt bootId id.val session.val c
          (before ++ .report id session c true :: mid) more x x' := by
  have reachable : (registryMachine startedAt bootId).Reachable r := ⟨before, run⟩
  have wf := wellFormed_reachable reachable
  refine ⟨fun id x hx after => grows_exec wf after hx, fun id session c accepted mid more => ?_⟩
  refine settled_of_holds ?_ more
  rw [Machine.exec_append, run, Machine.exec_cons]
  exact Machine.exec_preserves finalised_step (holdsFinalReport_of_accepted wf accepted) mid

/-- A datagram that arrives after the final report of its session. -/
theorem counters_settle_sample :
    ∃ x x', recordOf ((registryMachine 0 1).exec (registryInit 0 1)
          [.hello nodeN sessionS, .report nodeN sessionS omittedCounters true]) nodeN.val =
        some x ∧
      recordOf ((registryMachine 0 1).exec (registryInit 0 1)
          [.hello nodeN sessionS, .report nodeN sessionS omittedCounters true,
            .telemetry nodeN sessionS 0 normalValues fun _ => 5]) nodeN.val = some x' ∧
      Settled 0 1 nodeN.val sessionS.val omittedCounters
        [.hello nodeN sessionS, .report nodeN sessionS omittedCounters true]
        [.telemetry nodeN sessionS 0 normalValues fun _ => 5] x x' :=
  (counters_settle 0 1 [.hello nodeN sessionS] _ rfl).2 nodeN sessionS omittedCounters (by decide)
    [] [.telemetry nodeN sessionS 0 normalValues fun _ => 5]

end Telep
