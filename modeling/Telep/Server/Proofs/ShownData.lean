import Telep.Server.Proofs.AlertEdges
import Telep.Server.Proofs.ThreadRegistry

/-!
# What the replies print

In every reachable state the identifiers, the names and the numbers that the replies print are
those of valid messages and fit the types of the source, so the texts of the replies are words
separated by bars and fit in a frame (`shown_reachable`).
-/

namespace Telep

/-- What a reply prints of an alert. -/
structure Alert.Shown (alert : Alert) : Prop where
  nodeId : isValidNodeId alert.nodeId = true
  alertType : ∃ v ∈ variableNames, alert.alertType = alertTypeOf v

/-- What a call writes to a record besides its counters. -/
structure Record.Shown (x : Record) : Prop where
  lastSeen : IsLong x.node.lastSeen
  measurements : ∀ m ∈ x.node.measurements, ValidMeasurement m

/-- A counter whose text has twenty digits at most. -/
def Prints (n : Nat) : Prop := n < 10 ^ 20

/-- What the replies print in a state. -/
structure ServerState.Shown (s : ServerState) : Prop where
  wellFormed : s.registry.WellFormed
  record : ∀ i, (s.registry.nodes i).inUse = true → (s.registry.record i).Shown
  measurements : ∀ i, (s.registry.nodes i).measurements.length ≤ 5
  alerts : ∀ alert ∈ shownAlerts s.registry.toRegistrySnapshot, alert.Shown
  startedAt : IsLong s.registry.startedAt
  bootId : IsLong s.registry.bootId
  datagramsTotal : Prints s.registry.datagramsTotal
  datagramsInvalid : Prints s.registry.datagramsInvalid
  datagramsUnknownNode : Prints s.registry.datagramsUnknownNode
  duplicates : Prints (sumNodes s.registry.toRegistrySnapshot TelemetryNode.duplicates)
  totalAlerts : Prints s.registry.totalAlerts
  tracks : ∀ i, (s.registry.nodes i).inUse = true → ∃ log, (s.registry.record i).Tracks log

/-! ## The records -/

theorem stepRecord_shown {room : Bool} {op : RegistryOp} (timed : op.Timed) {x : Option Record}
    {x' : Record} (h : ∀ y, x = some y → y.Shown) (step : stepRecord room op x = some x') :
    x'.Shown := by
  cases op with
  | hello id session =>
    cases x with
    | none =>
      simp only [stepRecord, Option.ite_none_right_eq_some, Option.some.injEq] at step
      obtain ⟨-, rfl⟩ := step
      exact ⟨(by decide : IsLong 0), by simp [Record.created, TelemetryNode.zero]⟩
    | some y => exact h x' step
  | report id session c final =>
    cases x with
    | none => cases step
    | some y =>
      simp only [stepRecord] at step
      split at step
      · obtain rfl := Option.some.inj step
        exact ⟨(h y rfl).lastSeen, (h y rfl).measurements⟩
      · exact h x' step
  | telemetry id session sequence values clock =>
    cases x with
    | none => cases step
    | some y =>
      simp only [stepRecord] at step
      split at step
      · obtain rfl := Option.some.inj step
        unfold Record.telemetry
        split_ifs
        · exact h y rfl
        · exact ⟨(h y rfl).lastSeen, (h y rfl).measurements⟩
        · exact ⟨timed 0, (h y rfl).measurements⟩
        · exact ⟨timed 0, values.property.valid⟩
      · exact h x' step
  | invalidDatagram => exact h x' step

/-! ## The alerts -/

/-- The alerts of a call are those that a datagram raises. -/
theorem mem_alerts_step {r : Registry} {op : RegistryOp} {alert : Alert}
    (member : alert ∈ (registryStep r op).1.alerts) :
    ∃ id session sequence values clock stored, op = .telemetry id session sequence values clock ∧
      alert ∈ raisedAlerts stored id.val clock 1 values.val := by
  cases op with
  | telemetry id session sequence values clock =>
    have effect := telemetry_effect r clock id.val session.val sequence.val values.val
    simp only [registryStep] at member
    revert member effect
    generalize registryRecordTelemetry r clock id.val session.val sequence.val values.val = result
    obtain ⟨newAlerts, r'⟩ := result
    intro member effect
    cases effect with
    | advanced i found same onTime new above =>
      exact ⟨id, session, sequence, values, clock, (r.record i).node.measurements, rfl, member⟩
    | _ => cases member
  | _ => cases member

theorem alerts_shown {r : Registry} {op : RegistryOp} {alert : Alert}
    (member : alert ∈ (registryStep r op).1.alerts) : alert.Shown := by
  obtain ⟨id, session, sequence, values, clock, stored, rfl, raised⟩ := mem_alerts_step member
  have key := List.mem_map_of_mem (f := fun a : Alert => (a.nodeId, a.alertType)) raised
  rw [raisedAlerts_keys] at key
  obtain ⟨m, raised, pair⟩ := List.mem_map.mp key
  obtain ⟨nodeId, alertType⟩ := Prod.mk.inj pair
  exact ⟨nodeId ▸ id.property, m.name,
    (values.property.valid m (List.mem_of_mem_filter raised)).name_mem, alertType.symm⟩

/-! ## The counters -/

variable {startedAt bootId : Int} {r : Registry}

theorem TelemetryEffect.invalid_le {r r' : Registry} {clock : Clock} {id session : Bytes}
    {sequence : Nat} {values : List Measurement} {newAlerts : Option (List Alert)}
    (effect : TelemetryEffect r clock id session sequence values newAlerts r') :
    r.datagramsInvalid ≤ r'.datagramsInvalid := by
  cases effect with
  | late i found same late => exact Nat.le_succ _
  | advanced i found same onTime new above =>
    exact (congrArg Counts.invalid (counts_logged r.countTotal
      (raisedAlerts (r.record i).node.measurements id clock 1 values))).ge
  | _ => exact Nat.le_refl _

/-- A datagram of a class is also counted as received or as invalid. -/
theorem processed_le_step (wf : r.WellFormed)
    (h : r.processed ≤ r.datagramsTotal + r.datagramsInvalid) (op : RegistryOp) :
    (registryStep r op).2.processed ≤
      (registryStep r op).2.datagramsTotal + (registryStep r op).2.datagramsInvalid := by
  have same {r' : Registry} (classes : r'.classes = r.classes) (counts : r'.counts = r.counts) :
      r'.processed ≤ r'.datagramsTotal + r'.datagramsInvalid := by
    have total : r'.datagramsTotal = r.datagramsTotal := congrArg Counts.total counts
    have invalid : r'.datagramsInvalid = r.datagramsInvalid := congrArg Counts.invalid counts
    rw [Registry.processed, classes, total, invalid]
    exact h
  cases op with
  | hello id session =>
    have effect := register_effect wf id.val session.val
    exact same effect.classes effect.counts
  | report id session c final =>
    have effect := report_effect r id.val session.val c.attempts c.sent c.omitted c.errors final
    exact same effect.classes effect.counts
  | telemetry id session sequence values clock =>
    have effect := telemetry_effect r clock id.val session.val sequence.val values.val
    have total := effect.total
    have invalid := effect.invalid_le
    have processed := effect.countedOnce.processed
    simp only [registryStep]
    omega
  | invalidDatagram =>
    change r.classes .unique + r.classes .duplicate + r.classes .unknown +
      (r.datagramsInvalid + 1) ≤ r.datagramsTotal + (r.datagramsInvalid + 1)
    simp only [Registry.processed, Registry.classes] at h ⊢
    omega

/-- What holds of the registry after a run of timed calls. -/
structure Registry.Kept (startedAt bootId : Int) (r : Registry) : Prop where
  wellFormed : r.WellFormed
  shown : ∀ id x, recordOf r id = some x → x.Shown
  processed : r.processed ≤ r.datagramsTotal + r.datagramsInvalid
  boot : r.boot = (startedAt, bootId)

theorem Registry.Kept.step (h : r.Kept startedAt bootId) {op : RegistryOp} (timed : op.Timed) :
    (registryStep r op).2.Kept startedAt bootId where
  wellFormed := wellFormed_step h.wellFormed op
  shown id x hx := by
    rw [recordOf_step h.wellFormed] at hx
    split at hx
    · exact stepRecord_shown timed (h.shown id) hx
    · exact h.shown id x hx
  processed := processed_le_step h.wellFormed h.processed op
  boot := (boot_step h.wellFormed op).trans h.boot

theorem kept_init (startedAt bootId : Int) :
    (registryInit startedAt bootId).Kept startedAt bootId where
  wellFormed := wellFormed_init startedAt bootId
  shown id x hx := by
    rw [recordOf_init] at hx
    cases hx
  processed := by
    have empty := (conserved_init (fun _ => ⟨none, [], false⟩) startedAt bootId).processed
    rw [empty]
    exact Nat.zero_le _
  boot := rfl

theorem kept_run (startedAt bootId : Int) {ops : List RegistryOp} (timed : ∀ op ∈ ops, op.Timed) :
    ((registryMachine startedAt bootId).exec (registryInit startedAt bootId) ops).Kept startedAt
      bootId := by
  induction ops using List.reverseRecOn with
  | nil => exact kept_init startedAt bootId
  | append_singleton ops op ih =>
    rw [Machine.exec_concat]
    exact (ih fun o ho => timed o (List.mem_append_left _ ho)).step (timed op (by simp))

theorem alertLog_shown (startedAt bootId : Int) (ops : List RegistryOp) :
    ∀ alert ∈ alertLog startedAt bootId ops, alert.Shown := by
  intro alert member
  obtain ⟨op, -, r, answered⟩ := mem_alertLog member
  exact alerts_shown answered

/-- The alerts that the UDP thread recorded. -/
theorem ServerThreads.raised_shown {strtod : Bytes → StrtodResult} {startedAt bootId : Long}
    {s : ServerThreads} (h : (threadsMachine strtod startedAt bootId).Reachable s) :
    ∀ alert ∈ s.raised, alert.Shown := by
  obtain ⟨events, rfl⟩ := h
  obtain ⟨ops, run⟩ := registry_run strtod startedAt bootId events
  intro alert member
  apply alertLog_shown startedAt bootId ops
  exact run.raised ▸ member

/-- The replies of a reachable state print data that fit. -/
theorem ServerThreads.shown_reachable {strtod : Bytes → StrtodResult} {startedAt bootId : Long}
    {s : ServerThreads} (h : (threadsMachine strtod startedAt bootId).Reachable s) :
    s.toServerState.Shown := by
  have fits := countersFit_reachable h
  rw [countersFit, decide_eq_true_iff] at fits
  obtain ⟨total, invalid, -⟩ := fits
  obtain ⟨events, final⟩ := h
  obtain ⟨ops, run⟩ : ∃ ops, RegistryRun startedAt bootId events s ops := by
    rw [← final]
    exact registry_run strtod startedAt bootId events
  have kept := kept_run startedAt bootId run.timed
  have reachable : (registryMachine startedAt bootId).Reachable _ := ⟨ops, run.registry⟩
  have ring := ringHolds_run startedAt bootId ops
  rw [run.registry] at kept ring
  have limit : longMax = 2 ^ 63 - 1 := rfl
  have unique := unique_le reachable
  have alerts := totalAlerts_le reachable
  have started : s.registry.startedAt = startedAt := congrArg Prod.fst kept.boot
  have boot : s.registry.bootId = bootId := congrArg Prod.snd kept.boot
  have processed := kept.processed
  simp only [Registry.processed, Registry.unique, Registry.classes] at processed unique alerts
  exact {
    wellFormed := kept.wellFormed
    record := fun i used => kept.shown _ _ (kept.wellFormed.recordOf_slot used)
    measurements := measurementsFit reachable
    alerts := fun alert member => by
      rw [ring.shownAlerts_eq] at member
      exact alertLog_shown startedAt bootId ops alert (List.mem_of_mem_drop member)
    startedAt := started.symm ▸ startedAt.property
    bootId := boot.symm ▸ bootId.property
    datagramsTotal := by unfold Prints; omega
    datagramsInvalid := by unfold Prints; omega
    datagramsUnknownNode := by unfold Prints; omega
    duplicates := by unfold Prints; omega
    totalAlerts := by unfold Prints; omega
    tracks := fun i used => tracks_slot reachable used }

end Telep
