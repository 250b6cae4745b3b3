import Telep.Server.Proofs.Statistics

/-!
# The order of delivery

A batch of datagrams of one session is delivered in two orders. Which sequences each run
accepts is found by induction on the batch (`deliver_tracks`); the statistics follow, since
they are a function of the set of accepted datagrams.
-/

namespace Telep

open ArrivalLog

/-- A datagram of a session, and the clock at its arrival. -/
structure Delivery where
  sequence : Fin sessionLimit
  values : MeasurementSet
  clock : Clock

/-- What the sender sent. -/
def Delivery.datagram (d : Delivery) : Fin sessionLimit × MeasurementSet := (d.sequence, d.values)

/-- The call that the arrival leads to. -/
def Delivery.op (id : NodeId) (session : Session) (d : Delivery) : RegistryOp :=
  .telemetry id session d.sequence d.values d.clock

/-- The record after the datagrams of its session arrived in order. -/
def Record.deliver (x : Record) (batch : List Delivery) : Record :=
  batch.foldl (fun x d => x.telemetry (d.clock 0) d.sequence.val d.values.val) x

/-- What no datagram changes. -/
structure Record.SameSession (x y : Record) : Prop where
  inUse : x.node.inUse = y.node.inUse
  nodeId : x.node.nodeId = y.node.nodeId
  session : x.node.session = y.node.session
  attempts : x.node.attempts = y.node.attempts
  sent : x.node.sent = y.node.sent
  omitted : x.node.omitted = y.node.omitted
  sendErrors : x.node.sendErrors = y.node.sendErrors
  reportSeen : x.node.reportSeen = y.node.reportSeen
  finalReport : x.node.finalReport = y.node.finalReport

namespace Record.SameSession

theorem refl (x : Record) : x.SameSession x := ⟨rfl, rfl, rfl, rfl, rfl, rfl, rfl, rfl, rfl⟩

theorem symm {x y : Record} (h : x.SameSession y) : y.SameSession x :=
  ⟨h.1.symm, h.2.symm, h.3.symm, h.4.symm, h.5.symm, h.6.symm, h.7.symm, h.8.symm, h.9.symm⟩

theorem trans {x y z : Record} (h : x.SameSession y) (k : y.SameSession z) : x.SameSession z :=
  ⟨h.1.trans k.1, h.2.trans k.2, h.3.trans k.3, h.4.trans k.4, h.5.trans k.5, h.6.trans k.6,
    h.7.trans k.7, h.8.trans k.8, h.9.trans k.9⟩

theorem late_iff {x y : Record} (h : x.SameSession y) (sequence : Nat) :
    x.Late sequence ↔ y.Late sequence := by
  rw [Late, Late, h.finalReport, h.attempts]

end Record.SameSession

theorem telemetry_sameSession (x : Record) (now : Int) (sequence : Nat)
    (values : List Measurement) : (x.telemetry now sequence values).SameSession x := by
  unfold Record.telemetry
  split_ifs <;> exact ⟨rfl, rfl, rfl, rfl, rfl, rfl, rfl, rfl, rfl⟩

/-- Every datagram in time is received or a duplicate. -/
theorem telemetry_total (x : Record) (now : Int) (sequence : Nat) (values : List Measurement) :
    (x.telemetry now sequence values).node.datagramsReceived +
        (x.telemetry now sequence values).node.duplicates =
      x.node.datagramsReceived + x.node.duplicates + if x.Late sequence then 0 else 1 := by
  unfold Record.telemetry
  split_ifs with late seen below
  · rfl
  · exact (Nat.add_assoc _ _ _).symm
  · exact Nat.add_right_comm _ _ _
  · exact Nat.add_right_comm _ _ _

theorem deliver_sameSession (x : Record) (batch : List Delivery) :
    (x.deliver batch).SameSession x := by
  induction batch generalizing x with
  | nil => exact .refl x
  | cons d batch ih => exact (ih _).trans (telemetry_sameSession _ _ _ _)

theorem deliver_total (x : Record) (batch : List Delivery) :
    (x.deliver batch).node.datagramsReceived + (x.deliver batch).node.duplicates =
      x.node.datagramsReceived + x.node.duplicates +
        batch.countP fun d => ¬ x.Late d.sequence.val := by
  induction batch generalizing x with
  | nil => rfl
  | cons d batch ih =>
    have same := telemetry_sameSession x (d.clock 0) d.sequence.val d.values.val
    have total := telemetry_total x (d.clock 0) d.sequence.val d.values.val
    refine (ih (x.telemetry (d.clock 0) d.sequence.val d.values.val)).trans ?_
    rw [total, List.countP_cons]
    simp only [same.late_iff]
    by_cases late : x.Late d.sequence.val
    · simp [late]
    · simp only [late, if_false, not_false_eq_true, decide_true, if_true]
      omega

/-- The datagrams of the batch that are accepted: each one in time that was not known. -/
theorem deliver_tracks {x : Record} {log : SessionLog} (h : x.Tracks log)
    (batch : List Delivery) :
    ∃ new, (x.deliver batch).Tracks (log ++ new) ∧
      (∀ e ∈ new, ∃ d ∈ batch, (d.sequence.val, d.values.val) = e ∧ ¬ x.Late e.1) ∧
      ∀ d ∈ batch, ¬ x.Late d.sequence.val → d.sequence.val ∈ (log ++ new).map Prod.fst := by
  induction batch generalizing x log with
  | nil => exact ⟨[], (List.append_nil log).symm ▸ h, by simp, by simp⟩
  | cons d batch ih =>
    have same := telemetry_sameSession x (d.clock 0) d.sequence.val d.values.val
    have first := h.telemetry d.values.val d.sequence.isLt (d.clock 0)
    split at first
    · next old =>
      obtain ⟨new, tracks, sound, complete⟩ := ih first
      simp only [same.late_iff] at sound complete
      refine ⟨new, tracks, fun e he => ?_, fun d' hd' onTime => ?_⟩
      · obtain ⟨d', hd', rest⟩ := sound e he
        exact ⟨d', List.mem_cons_of_mem _ hd', rest⟩
      · rcases List.mem_cons.mp hd' with rfl | hd'
        · rw [List.map_append]
          exact List.mem_append_left _ ((h.seen _).mp (old.resolve_left onTime))
        · exact complete d' hd' onTime
    · next fresh =>
      rw [not_or] at fresh
      obtain ⟨new, tracks, sound, complete⟩ := ih first
      simp only [same.late_iff, List.append_assoc] at tracks sound complete
      refine ⟨_, tracks, fun e he => ?_, fun d' hd' onTime => ?_⟩
      · rcases List.mem_append.mp he with he | he
        · rw [List.mem_singleton.mp he]
          exact ⟨d, List.mem_cons_self, rfl, fresh.1⟩
        · obtain ⟨d', hd', rest⟩ := sound e he
          exact ⟨d', List.mem_cons_of_mem _ hd', rest⟩
      · rcases List.mem_cons.mp hd' with rfl | hd'
        · simp
        · exact complete d' hd' onTime

/-- The sequences known after the batch. -/
theorem deliver_keys {x : Record} {log new : SessionLog} {batch : List Delivery}
    (sound : ∀ e ∈ new, ∃ d ∈ batch, (d.sequence.val, d.values.val) = e ∧ ¬ x.Late e.1)
    (complete : ∀ d ∈ batch, ¬ x.Late d.sequence.val →
      d.sequence.val ∈ (log ++ new).map Prod.fst) (q : Nat) :
    q ∈ (log ++ new).map Prod.fst ↔
      q ∈ log.map Prod.fst ∨ ¬ x.Late q ∧ q ∈ batch.map fun d => d.sequence.val := by
  constructor
  · intro h
    rw [List.map_append] at h
    rcases List.mem_append.mp h with h | h
    · exact .inl h
    · obtain ⟨e, he, rfl⟩ := List.mem_map.mp h
      obtain ⟨d, hd, rfl, onTime⟩ := sound e he
      exact .inr ⟨onTime, List.mem_map_of_mem hd⟩
  · rintro (h | ⟨onTime, h⟩)
    · rw [List.map_append]
      exact List.mem_append_left _ h
    · obtain ⟨d, hd, rfl⟩ := List.mem_map.mp h
      exact complete d hd onTime

/-- Two records that publish the same statistics: all that is stored about a node but the
count of reordered datagrams and the time of the last one. -/
structure Record.SameStatistics (x y : Record) : Prop extends x.SameSession y where
  row : x.row = y.row
  received : x.node.datagramsReceived = y.node.datagramsReceived
  duplicates : x.node.duplicates = y.node.duplicates
  lost : x.node.datagramsLost = y.node.datagramsLost
  lastSequence : x.node.lastSequence = y.node.lastSequence
  measurements : x.node.measurements = y.node.measurements

/-- Two batches of the same datagrams, in any order and at any time. -/
structure SameDatagrams (batch batch' : List Delivery) : Prop where
  perm : (batch.map Delivery.datagram).Perm (batch'.map Delivery.datagram)
  copies : ∀ d ∈ batch, ∀ d' ∈ batch, d.sequence = d'.sequence → d.values = d'.values

theorem SameDatagrams.sequences {batch batch' : List Delivery} (h : SameDatagrams batch batch') :
    (batch.map fun d => d.sequence.val).Perm (batch'.map fun d => d.sequence.val) := by
  have := h.perm.map fun e => e.1.val
  simpa [Function.comp_def, Delivery.datagram] using this

/-- Copies in the two batches carry the same measurements. -/
theorem SameDatagrams.values {batch batch' : List Delivery} (h : SameDatagrams batch batch')
    {d d' : Delivery} (hd : d ∈ batch) (hd' : d' ∈ batch')
    (same : d.sequence.val = d'.sequence.val) : d.values = d'.values := by
  have : d'.datagram ∈ batch.map Delivery.datagram :=
    h.perm.mem_iff.mpr (List.mem_map_of_mem hd')
  obtain ⟨d'', hd'', copy⟩ := List.mem_map.mp this
  simp only [Delivery.datagram, Prod.mk.injEq] at copy
  rw [← copy.2]
  exact h.copies d hd d'' hd'' (Fin.ext (same.trans (by rw [copy.1])))

section SameKeys

variable {x y : Record} {log log' : SessionLog} (h : x.Tracks log) (h' : y.Tracks log')
  (keys : ∀ q, q ∈ log.map Prod.fst ↔ q ∈ log'.map Prod.fst)
include h h' keys

/-- The bitmap, the count and the last sequence depend on the set of sequences only. -/
theorem row_of_sameKeys : x.row = y.row :=
  BitRow.ext_test fun q => by rw [Bool.eq_iff_iff, h.seen, h'.seen, keys]

omit h h' in
theorem toFinset_of_sameKeys : (log.map Prod.fst).toFinset = (log'.map Prod.fst).toFinset := by
  ext q
  rw [List.mem_toFinset, List.mem_toFinset, keys]

theorem received_of_sameKeys : x.node.datagramsReceived = y.node.datagramsReceived := by
  rw [h.received, h'.received, ← List.length_map Prod.fst, ← List.length_map Prod.fst,
    ← List.toFinset_card_of_nodup h.distinct, ← List.toFinset_card_of_nodup h'.distinct,
    toFinset_of_sameKeys keys]

theorem lastSequence_of_sameKeys : x.node.lastSequence = y.node.lastSequence := by
  rw [h.lastSequence_eq, h'.lastSequence_eq, toFinset_of_sameKeys keys]

/-- The measurements too, when the logs agree on what each sequence carried. -/
theorem measurements_of_sameKeys
    (agree : ∀ e ∈ log, ∀ e' ∈ log', e.1 = e'.1 → e.2 = e'.2) :
    x.node.measurements = y.node.measurements := by
  have same := toFinset_of_sameKeys keys
  rw [h.measurements, h'.measurements]
  cases hm : newest log with
  | none =>
    rw [newest_eq_none.mp hm] at same
    have : log' = [] := by simpa using same.symm
    rw [newest_eq_none.mpr this]
  | some m =>
    cases hm' : newest log' with
    | none =>
      rw [newest_eq_none.mp hm'] at same
      have : log = [] := by simpa using same
      rw [newest_eq_none.mpr this] at hm
      cases hm
    | some m' =>
      have known : m.1 ∈ (log.map Prod.fst).toFinset :=
        List.mem_toFinset.mpr (List.mem_map_of_mem (newest_spec hm).1)
      have highest := newest_max hm ⟨_, known⟩
      have highest' := newest_max hm' ⟨_, same ▸ known⟩
      simp only [same, highest'] at highest
      exact agree m (newest_spec hm).1 m' (newest_spec hm').1 highest.symm

end SameKeys

/-- The order of delivery does not matter to the statistics. -/
theorem deliver_sameStatistics {x : Record} {log : SessionLog} (h : x.Tracks log)
    {batch batch' : List Delivery} (same : SameDatagrams batch batch') :
    (x.deliver batch).SameStatistics (x.deliver batch') := by
  obtain ⟨new, tracks, sound, complete⟩ := deliver_tracks h batch
  obtain ⟨new', tracks', sound', complete'⟩ := deliver_tracks h batch'
  have keys : ∀ q, q ∈ (log ++ new).map Prod.fst ↔ q ∈ (log ++ new').map Prod.fst := by
    intro q
    rw [deliver_keys sound complete, deliver_keys sound' complete', same.sequences.mem_iff]
  have session := (deliver_sameSession x batch).trans (deliver_sameSession x batch').symm
  have row := row_of_sameKeys tracks tracks' keys
  have received := received_of_sameKeys tracks tracks' keys
  exact {
    session with
    row := row
    received := received
    duplicates := by
      have total := deliver_total x batch
      have total' := deliver_total x batch'
      have onTime : (batch.countP fun d => ¬ x.Late d.sequence.val) =
          batch'.countP fun d => ¬ x.Late d.sequence.val := by
        have := same.sequences.countP_eq fun q => ¬ x.Late q
        simpa [List.countP_map, Function.comp_def] using this
      omega
    lost := by
      rw [tracks.lost, tracks'.lost, row, session.attempts, session.sent]
    lastSequence := lastSequence_of_sameKeys tracks tracks' keys
    measurements := by
      refine measurements_of_sameKeys tracks tracks' keys fun e he e' he' key => ?_
      -- a sequence known before the batch is logged with the old datagram in both runs
      by_cases old : e ∈ log
      · exact congrArg Prod.snd (List.inj_on_of_nodup_map tracks'.distinct
          (List.mem_append_left _ old) he' key)
      · by_cases old' : e' ∈ log
        · exact congrArg Prod.snd (List.inj_on_of_nodup_map tracks.distinct he
            (List.mem_append_left _ old') key)
        · obtain ⟨d, hd, rfl, -⟩ := sound e ((List.mem_append.mp he).resolve_left old)
          obtain ⟨d', hd', rfl, -⟩ := sound' e' ((List.mem_append.mp he').resolve_left old')
          exact congrArg Subtype.val (same.values hd hd' key) }

/-! ## Batches in the registry -/

/-- A batch of a bound session changes the record of its node and the global counters. -/
structure Delivered (r r' : Registry) (id : Bytes) (x : Record) (batch : List Delivery) :
    Prop where
  record : recordOf r' id = some (x.deliver batch)
  others : ∀ id', id' ≠ id → recordOf r' id' = recordOf r id'
  counts : r'.counts = ⟨r.datagramsTotal + batch.length, r.datagramsUnknownNode,
    r.datagramsInvalid + batch.countP fun d => x.Late d.sequence.val⟩

theorem delivered_batch (startedAt bootId : Int) {id : NodeId} {session : Session}
    (batch : List Delivery) {r : Registry} (wf : r.WellFormed) {x : Record}
    (hx : recordOf r id.val = some x) (bound : x.node.session = session.val) :
    Delivered r ((registryMachine startedAt bootId).exec r (batch.map (Delivery.op id session)))
      id.val x batch := by
  induction batch generalizing r x with
  | nil => exact ⟨hx, fun _ _ => rfl, rfl⟩
  | cons d batch ih =>
    have step := recordOf_step_named wf (show (d.op id session).nodeId = some id.val from rfl)
    rw [hx] at step
    have counts := (telemetry_effect r d.clock id.val session.val d.sequence.val
      d.values.val).counts hx bound
    have same := telemetry_sameSession x (d.clock 0) d.sequence.val d.values.val
    have rest := ih (wellFormed_step wf (d.op id session)) (step.trans (if_pos bound))
      (same.session.trans bound)
    refine ⟨rest.record, fun id' ne => ?_, ?_⟩
    · exact (rest.others id' ne).trans
        (recordOf_step_other wf fun named => ne (Option.some.inj named).symm)
    · have total := congrArg Counts.total counts
      have unknown := congrArg Counts.unknown counts
      have invalid := congrArg Counts.invalid counts
      refine rest.counts.trans ?_
      simp only [same.late_iff, List.countP_cons, decide_eq_true_iff, List.length_cons,
        Counts.mk.injEq]
      exact ⟨by rw [Nat.add_comm batch.length, ← Nat.add_assoc]; exact congrArg (· + _) total,
        unknown,
        by rw [Nat.add_comm (batch.countP _), ← Nat.add_assoc]; exact congrArg (· + _) invalid⟩

/-- Two registries with the same statistics of `id`, the same global counters of datagrams and
the same records of all other nodes. -/
structure SameOutcome (id : Bytes) (r r' : Registry) : Prop where
  node : ∃ x x', recordOf r id = some x ∧ recordOf r' id = some x' ∧ x.SameStatistics x'
  counts : r.counts = r'.counts
  others : ∀ id', id' ≠ id → recordOf r id' = recordOf r' id'

/-- From any reachable state, two deliveries of the same datagrams of a registered session, in
any order and at any times, have the same outcome. -/
theorem delivery_order_irrelevant {startedAt bootId : Int} {r : Registry}
    (reachable : (registryMachine startedAt bootId).Reachable r) {id : NodeId}
    {session : Session} {x : Record} (hx : recordOf r id.val = some x)
    (bound : x.node.session = session.val) {batch batch' : List Delivery}
    (same : SameDatagrams batch batch') :
    SameOutcome id.val
      ((registryMachine startedAt bootId).exec r (batch.map (Delivery.op id session)))
      ((registryMachine startedAt bootId).exec r (batch'.map (Delivery.op id session))) := by
  have wf := wellFormed_reachable reachable
  obtain ⟨log, tracks⟩ := tracks_reachable reachable hx
  have h := delivered_batch startedAt bootId batch wf hx bound
  have h' := delivered_batch startedAt bootId batch' wf hx bound
  have length : batch.length = batch'.length := by simpa using same.perm.length_eq
  have late : (batch.countP fun d => x.Late d.sequence.val) =
      batch'.countP fun d => x.Late d.sequence.val := by
    have := same.sequences.countP_eq fun q => x.Late q
    simpa [List.countP_map, Function.comp_def] using this
  refine ⟨⟨_, _, h.record, h'.record, deliver_sameStatistics tracks same⟩, ?_, fun id' ne => ?_⟩
  · rw [h.counts, h'.counts, length, late]
  · rw [h.others id' ne, h'.others id' ne]

/-- Sequences 0 and 1 of a session, 1 twice. -/
def inOrder : List Delivery :=
  [⟨0, normalValues, fun _ => 5⟩, ⟨1, normalValues, fun _ => 6⟩, ⟨1, normalValues, fun _ => 7⟩]

def outOfOrder : List Delivery :=
  [⟨1, normalValues, fun _ => 5⟩, ⟨0, normalValues, fun _ => 6⟩, ⟨1, normalValues, fun _ => 7⟩]

theorem delivery_order_irrelevant_sample :
    SameOutcome nodeN.val
      ((registryMachine 0 1).exec (registryStep (registryInit 0 1) (.hello nodeN sessionS)).2
        (inOrder.map (Delivery.op nodeN sessionS)))
      ((registryMachine 0 1).exec (registryStep (registryInit 0 1) (.hello nodeN sessionS)).2
        (outOfOrder.map (Delivery.op nodeN sessionS))) :=
  delivery_order_irrelevant ⟨[.hello nodeN sessionS], rfl⟩ (x := .created nodeN.val sessionS.val)
    (recordOf_step_named (wellFormed_init 0 1) rfl |>.trans (by
      rw [recordOf_init, hasRoom_of_empty (wellFormed_init 0 1) (recordOf_init 0 1)]; rfl)) rfl
    ⟨List.Perm.swap _ _ _, by simp [inOrder]⟩

end Telep
