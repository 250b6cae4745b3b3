import Mathlib.Algebra.Order.BigOperators.Group.Finset
import Telep.Server.CheckedRegistry
import Telep.Server.Proofs.Conservation
import Telep.Server.Proofs.Statistics

/-!
# No index out of range, no overflow of the alert counter

A datagram raises at most one alert for each of its variables, of which there are five, and only a
sequence that is new to its session raises any. A session has 65536 sequences and the registry 64
sessions, which are never given up; so the counter of alerts is bounded (`totalAlerts_le`), and the
checked functions never fail (`registryStepChecked_eq`).
-/

namespace Telep

open SlotTable

/-! ## Measurements -/

/-- The variables of a datagram. -/
def variableNames : List Bytes :=
  [ascii "STATUS", ascii "TEMP", ascii "HUM", ascii "POWER", ascii "VIB"]

theorem valueRange_name {name : Bytes} {range : ℚ × ℚ} (h : valueRange name = some range) :
    name ∈ variableNames := by
  unfold valueRange at h
  split_ifs at h <;> simp [variableNames, *]

theorem ValidMeasurement.name_mem {m : Measurement} (h : ValidMeasurement m) :
    m.name ∈ variableNames := by
  rcases h with ⟨status, -⟩ | ⟨range, found, -⟩
  · simp [variableNames, status]
  · exact valueRange_name found

/-- A datagram carries five measurements at most. -/
theorem ValidMeasurements.length_le {values : List Measurement} (h : ValidMeasurements values) :
    values.length ≤ 5 := by
  have names : values.map Measurement.name ⊆ variableNames := by
    intro name member
    obtain ⟨m, hm, rfl⟩ := List.mem_map.mp member
    exact (h.valid m hm).name_mem
  have := (h.distinct.subperm names).length_le
  rwa [List.length_map] at this

theorem raisedAlerts_length (stored : List Measurement) (nodeId : Bytes) (clock : Clock)
    (readings : Nat) (values : List Measurement) :
    (raisedAlerts stored nodeId clock readings values).length ≤ values.length := by
  induction values generalizing readings with
  | nil => exact Nat.le_refl _
  | cons current values ih =>
    rw [raisedAlerts]
    split
    · exact Nat.succ_le_succ (ih _)
    · exact (ih _).trans (Nat.le_succ _)

/-! ## The counter of alerts -/

/-- The datagrams with a new sequence that the registry accepted. -/
def Registry.unique (r : Registry) : Nat := r.classes .unique

theorem Record.Tracks.received_le {x : Record} {log : SessionLog} (h : x.Tracks log) :
    x.node.datagramsReceived ≤ sessionLimit := by
  have below : log.map Prod.fst ⊆ List.range sessionLimit := by
    intro q hq
    obtain ⟨e, he, rfl⟩ := List.mem_map.mp hq
    exact List.mem_range.mpr (h.bounded e he)
  have := (h.distinct.subperm below).length_le
  rwa [List.length_map, List.length_range, ← h.received] at this

variable {startedAt bootId : Int} {r r' : Registry}

/-- A slot in use holds a record that publishes statistics. -/
theorem tracks_slot (reachable : (registryMachine startedAt bootId).Reachable r)
    {i : Fin maxNodes} (used : (r.nodes i).inUse = true) : ∃ log, (r.record i).Tracks log :=
  tracks_reachable reachable ((wellFormed_reachable reachable).recordOf_slot used)

theorem unique_le (reachable : (registryMachine startedAt bootId).Reachable r) :
    r.unique ≤ 64 * 65536 := by
  have each (i : Fin maxNodes) :
      (if (r.nodes i).inUse then (r.nodes i).datagramsReceived else 0) ≤ 65536 := by
    split
    · next used =>
      obtain ⟨log, tracks⟩ := tracks_slot reachable used
      exact tracks.received_le
    · exact Nat.zero_le _
  rw [Registry.unique, Registry.classes, sumNodes_eq]
  refine (Finset.sum_le_card_nsmul _ _ _ fun i _ => each i).trans ?_
  simp [maxNodes]

/-- Writing to the ring counts the alerts. -/
theorem logged_totalAlerts (r : Registry) (alerts : List Alert) :
    (r.logged alerts).totalAlerts = r.totalAlerts + alerts.length :=
  (foldl_pushAlert alerts r.toRegistrySnapshot).2.2.2.2

theorem RegisterEffect.totalAlerts {id session : Bytes} {code : Option ErrorCode}
    (effect : RegisterEffect r id session code r') : r'.totalAlerts = r.totalAlerts := by
  cases effect <;> rfl

theorem ReportEffect.totalAlerts {id session : Bytes} {attempts sent omitted errors : Nat}
    {final : Bool} {code : Option ErrorCode}
    (effect : ReportEffect r id session attempts sent omitted errors final code r') :
    r'.totalAlerts = r.totalAlerts := by
  cases effect <;> rfl

/-- A datagram with a new sequence pays for the alerts it raises. -/
theorem TelemetryEffect.totalAlerts_le {clock : Clock} {id session : Bytes} {sequence : Nat}
    {values : List Measurement} {newAlerts : Option (List Alert)}
    (effect : TelemetryEffect r clock id session sequence values newAlerts r')
    (valid : ValidMeasurements values) (h : r.totalAlerts ≤ 5 * r.unique) :
    r'.totalAlerts ≤ 5 * r'.unique := by
  have more : r.unique ≤ r'.unique := by
    obtain ⟨k, hk⟩ := effect.countedOnce
    rw [Registry.unique, Registry.unique, hk]
    cases k <;> simp
  cases effect with
  | advanced i found same onTime new above =>
    have used := (findNode_spec found).1
    have one : ((r.countTotal.logged (raisedAlerts (r.record i).node.measurements id clock 1
          values)).put i ((r.record i).advanced (clock 0) sequence values)).unique =
        r.unique + 1 := by
      have put : sumNodes ((r.countTotal.logged (raisedAlerts (r.record i).node.measurements id
            clock 1 values)).put i ((r.record i).advanced (clock 0) sequence
              values)).toRegistrySnapshot TelemetryNode.datagramsReceived = _ + 1 :=
        sumNodes_put_found (found_logged found _) used (by rw [logged_nodes]; rfl)
      refine put.trans (congrArg (· + 1) (sumNodes_of_nodes ?_ _))
      rw [logged_nodes]
      rfl
    rw [one]
    refine (logged_totalAlerts r.countTotal _).le.trans ?_
    have few := (raisedAlerts_length (r.record i).node.measurements id clock 1 values).trans
      valid.length_le
    change r.totalAlerts + _ ≤ _
    omega
  | _ => exact h.trans (Nat.mul_le_mul_left 5 more)

theorem totalAlerts_step (wf : r.WellFormed) (h : r.totalAlerts ≤ 5 * r.unique)
    (op : RegistryOp) :
    (registryStep r op).2.totalAlerts ≤ 5 * (registryStep r op).2.unique := by
  cases op with
  | hello id session =>
    have effect := register_effect wf id.val session.val
    change (registryRegisterNode r id.val session.val).2.totalAlerts ≤ _
    rw [effect.totalAlerts]
    exact h.trans (Nat.mul_le_mul_left 5 (congrFun effect.classes DatagramClass.unique).ge)
  | report id session c final =>
    have effect := report_effect r id.val session.val c.attempts c.sent c.omitted c.errors final
    change (registryReport r _ _ _ _ _ _ _).2.totalAlerts ≤ _
    rw [effect.totalAlerts]
    exact h.trans (Nat.mul_le_mul_left 5 (congrFun effect.classes DatagramClass.unique).ge)
  | telemetry id session sequence values clock =>
    exact (telemetry_effect r _ _ _ _ _).totalAlerts_le values.property h
  | invalidDatagram => exact h

/-- There are at most five alerts for each datagram with a new sequence. -/
theorem totalAlerts_le (reachable : (registryMachine startedAt bootId).Reachable r) :
    r.totalAlerts ≤ 5 * r.unique := by
  have both : r.WellFormed ∧ r.totalAlerts ≤ 5 * r.unique :=
    reachable.invariant (P := fun r => r.WellFormed ∧ r.totalAlerts ≤ 5 * r.unique)
      ⟨wellFormed_init startedAt bootId, Nat.zero_le _⟩
      fun _ op h => ⟨wellFormed_step h.1 op, totalAlerts_step h.1 h.2 op⟩
  exact both.2

/-! ## The checked functions -/

theorem testChecked_eq (row : BitRow) {q : Nat} (h : q < sessionLimit) :
    testChecked row q = some (row.test q) :=
  if_pos (Nat.div_lt_div_of_lt_of_dvd (by decide) h)

theorem setChecked_eq (row : BitRow) {q : Nat} (h : q < sessionLimit) :
    setChecked row q = some (row.set q) :=
  if_pos (Nat.div_lt_div_of_lt_of_dvd (by decide) h)

theorem countChecked_eq (row : BitRow) {n : Nat} (h : n ≤ sessionLimit) :
    countChecked row n = some (row.count n) := by
  induction n with
  | zero => rfl
  | succ n ih =>
    rw [countChecked, ih (Nat.le_of_succ_le h), testChecked_eq row h]
    rfl

theorem updateLossChecked_eq (row : BitRow) {node : TelemetryNode}
    (h : node.attempts ≤ sessionLimit) :
    updateLossChecked row node = some (updateLoss row node) := by
  rw [updateLossChecked, countChecked_eq row h]
  rfl

theorem registryReportChecked_eq (r : Registry) (id session : Bytes) {attempts : Nat}
    (sent omitted errors : Nat) (final : Bool) (h : attempts ≤ sessionLimit) :
    registryReportChecked r id session attempts sent omitted errors final =
      some (registryReport r id session attempts sent omitted errors final) := by
  unfold registryReportChecked registryReport
  cases findNode r.toRegistrySnapshot id with
  | none => rfl
  | some i =>
    dsimp only
    by_cases other : (r.nodes i).session ≠ session
    · rw [if_pos other, if_pos other]
    rw [if_neg other, if_neg other, apply_ite some]
    refine ite_congr rfl (fun _ => rfl) fun _ => ?_
    rw [countChecked_eq _ h, updateLossChecked_eq _ h]
    dsimp only [Option.bind_eq_bind, Option.bind_some, Option.pure_def]
    rw [apply_ite some]

/-- The index of an `int` that is not negative is a slot of the ring. -/
theorem ringIndex_eq (k : Nat) : ringIndex (k : Int) = some (Fin.ofNat maxAlerts k) := by
  have rest : ((k : Int).tmod (maxAlerts : Nat)) = ((k % maxAlerts : Nat) : Int) := by
    rw [Int.ofNat_tmod]
  have lt : k % maxAlerts < maxAlerts := Nat.mod_lt k (by decide)
  unfold ringIndex
  simp only [rest]
  rw [dif_pos ⟨Int.natCast_nonneg _, Int.ofNat_lt.mpr lt⟩]
  rfl

theorem addAlertChecked_eq {r : RegistrySnapshot} (room : r.totalAlerts < intMax) (now : Int)
    (nodeId variableName suffix : Bytes) (value : ℚ) :
    addAlertChecked r now nodeId variableName suffix value =
      some (addAlert r now nodeId variableName suffix value) := by
  rw [addAlertChecked, ringIndex_eq]
  exact if_pos room

/-- The alert loop stays within `new_alerts` and below `INT_MAX` when its measurements do. -/
theorem raiseAlertsChecked_eq (node : TelemetryNode) (nodeId : Bytes) (clock : Clock)
    {values : List Measurement} (readings : Nat) {newAlertCount : Nat} {r : RegistrySnapshot}
    (fits : newAlertCount + values.length ≤ maxVars)
    (room : r.totalAlerts + values.length ≤ intMax) :
    raiseAlertsChecked node nodeId clock readings newAlertCount r values =
      some (raiseAlerts node nodeId clock readings r values) := by
  induction values generalizing readings newAlertCount r with
  | nil => rfl
  | cons current values ih =>
    rw [List.length_cons] at fits room
    have added (variableName suffix : Bytes) (value : ℚ) :=
      addAlertChecked_eq (r := r) (by omega) (clock readings) nodeId variableName suffix value
    rw [raiseAlertsChecked, raiseAlerts]
    by_cases quiet : ¬ (isAnomalousValue current && !wasAnomalous node current.name) = true
    · rw [if_neg quiet, if_neg quiet]
      exact ih readings (by omega) (by omega)
    rw [not_not] at quiet
    rw [if_pos quiet, if_pos quiet, added, added, ← apply_ite some, Option.bind_some]
    have counted : (if current.name = ascii "STATUS" then
        addAlert r (clock readings) nodeId (ascii "STATUS") (ascii "FAIL") 0
      else addAlert r (clock readings) nodeId current.name (ascii "HIGH")
        current.value).2.totalAlerts = r.totalAlerts + 1 := by
      split <;> rfl
    revert counted
    generalize (if current.name = ascii "STATUS" then
        addAlert r (clock readings) nodeId (ascii "STATUS") (ascii "FAIL") 0
      else addAlert r (clock readings) nodeId current.name (ascii "HIGH") current.value) = added'
    intro counted
    obtain ⟨alert, r'⟩ := added'
    dsimp only at counted ⊢
    rw [if_pos (by omega), ih (readings + 1) (by omega) (by omega), Option.map_some]

theorem registryRecordTelemetryChecked_eq {r : Registry} (clock : Clock) (nodeId session : Bytes)
    {sequence : Nat} {values : List Measurement} (bound : sequence < sessionLimit)
    (attempts : ∀ i, (r.nodes i).inUse = true → (r.nodes i).attempts ≤ sessionLimit)
    (few : values.length ≤ maxVars) (room : r.totalAlerts + values.length ≤ intMax) :
    registryRecordTelemetryChecked r clock nodeId session sequence values =
      some (registryRecordTelemetry r clock nodeId session sequence values) := by
  unfold registryRecordTelemetryChecked registryRecordTelemetry
  dsimp only
  cases found : findNode r.countTotal.toRegistrySnapshot nodeId with
  | none => rfl
  | some i =>
    have within : (r.countTotal.nodes i).attempts ≤ sessionLimit :=
      attempts i (findNode_spec found).1
    dsimp only
    rw [apply_ite some, apply_ite some, testChecked_eq _ bound, setChecked_eq _ bound]
    refine ite_congr rfl (fun _ => rfl) fun _ => ite_congr rfl (fun _ => rfl) fun _ => ?_
    dsimp only [Option.bind_eq_bind, Option.bind_some, Option.pure_def]
    rw [apply_ite some]
    refine ite_congr rfl (fun _ => rfl) fun _ => ?_
    rw [updateLossChecked_eq _ (by exact within), Option.bind_some, apply_ite some]
    refine ite_congr rfl (fun _ => rfl) fun _ => ?_
    rw [raiseAlertsChecked_eq _ _ _ _ (by simpa using few) (by exact room), Option.bind_some,
      if_pos few]

theorem registryStepChecked_eq (reachable : (registryMachine startedAt bootId).Reachable r)
    (op : RegistryOp) : registryStepChecked r op = some (registryStep r op) := by
  cases op with
  | hello id session => rfl
  | report id session c final =>
    rw [registryStepChecked, registryReportChecked_eq _ _ _ _ _ _ _ c.attempts_le]
    rfl
  | telemetry id session sequence values clock =>
    have few := values.property.length_le
    have total := totalAlerts_le reachable
    have unique := unique_le reachable
    have vars : maxVars = 8 := rfl
    have max : intMax = 2147483647 := rfl
    rw [registryStepChecked, registryRecordTelemetryChecked_eq clock id.val session.val
      sequence.isLt (fun i used => ?_) (by omega) (by omega)]
    · rfl
    · obtain ⟨log, tracks⟩ := tracks_slot reachable used
      exact tracks.attempts_le
  | invalidDatagram => rfl

/-- A reader of the last alerts never leaves the ring. -/
theorem shownAlertsChecked_eq (snapshot : RegistrySnapshot) (window : Nat) :
    shownAlertsChecked snapshot window =
      some ((List.range (if snapshot.totalAlerts < window then snapshot.totalAlerts
        else window)).map fun k => snapshot.alerts (Fin.ofNat maxAlerts (snapshot.totalAlerts -
          (if snapshot.totalAlerts < window then snapshot.totalAlerts else window) + k))) := by
  have shown_le : (if snapshot.totalAlerts < window then snapshot.totalAlerts else window) ≤
      snapshot.totalAlerts := by
    split <;> omega
  unfold shownAlertsChecked
  dsimp only
  generalize (if snapshot.totalAlerts < window then snapshot.totalAlerts else window) = shown
    at shown_le
  have index (k : Nat) : (ringIndex ((snapshot.totalAlerts : Int) - shown + k)).map
      snapshot.alerts =
        some (snapshot.alerts (Fin.ofNat maxAlerts (snapshot.totalAlerts - shown + k))) := by
    rw [show (snapshot.totalAlerts : Int) - shown + k =
      ((snapshot.totalAlerts - shown + k : Nat) : Int) by omega, ringIndex_eq, Option.map_some]
  simp only [index]
  exact List.mapM_pure (m := Option)

/-! ## The stored measurements -/

/-- The loops over the measurements of a slot stay within its array. -/
def MeasurementsFit (r : Registry) : Prop := ∀ i, (r.nodes i).measurements.length ≤ 5

theorem MeasurementsFit.put (h : MeasurementsFit r) {i : Fin maxNodes} {x : Record}
    (fits : x.node.measurements.length ≤ 5) : MeasurementsFit (r.put i x) := by
  intro j
  by_cases same : j = i
  · subst same
    rwa [put_nodes_self]
  · simpa [Registry.put, same] using h j

theorem measurementsFit_step (wf : r.WellFormed) (h : MeasurementsFit r) (op : RegistryOp) :
    MeasurementsFit (registryStep r op).2 := by
  cases op with
  | hello id session =>
    have effect := register_effect wf id.val session.val
    change MeasurementsFit (registryRegisterNode r id.val session.val).2
    revert effect
    generalize (registryRegisterNode r id.val session.val).1 = code
    generalize (registryRegisterNode r id.val session.val).2 = r'
    intro effect
    cases effect with
    | created i fresh free => exact h.put (Nat.zero_le _)
    | _ => exact h
  | report id session c final =>
    have effect := report_effect r id.val session.val c.attempts c.sent c.omitted c.errors final
    change MeasurementsFit (registryReport r _ _ _ _ _ _ _).2
    revert effect
    generalize (registryReport r _ _ _ _ _ _ _).1 = code
    generalize (registryReport r _ _ _ _ _ _ _).2 = r'
    intro effect
    cases effect with
    | accepted i found same accepts => exact h.put (h i)
    | _ => exact h
  | telemetry id session sequence values clock =>
    have effect := telemetry_effect r clock id.val session.val sequence.val values.val
    change MeasurementsFit (registryRecordTelemetry r _ _ _ _ _).2
    revert effect
    generalize (registryRecordTelemetry r _ _ _ _ _).1 = newAlerts
    generalize (registryRecordTelemetry r _ _ _ _ _).2 = r'
    intro effect
    cases effect with
    | duplicate i found same onTime seen => exact h.put (h i)
    | overtaken i found same onTime new below => exact h.put (h i)
    | advanced i found same onTime new above =>
      refine MeasurementsFit.put (fun j => ?_) values.property.length_le
      rw [logged_nodes]
      exact h j
    | _ => exact h
  | invalidDatagram => exact h

theorem measurementsFit (reachable : (registryMachine startedAt bootId).Reachable r) :
    MeasurementsFit r := by
  have both : r.WellFormed ∧ MeasurementsFit r :=
    reachable.invariant (P := fun r => r.WellFormed ∧ MeasurementsFit r)
      ⟨wellFormed_init startedAt bootId, fun _ => Nat.zero_le _⟩
      fun _ op h => ⟨wellFormed_step h.1 op, measurementsFit_step h.1 h.2 op⟩
  exact both.2

/-! ## The whole registry -/

/-- No call of the servers and no reader of the alerts or measurements indexes an array out of
range or overflows the counter of alerts, which is bounded. -/
structure IndicesInRange (r : Registry) : Prop where
  calls : ∀ op, registryStepChecked r op = some (registryStep r op)
  measurements : ∀ i, (r.nodes i).measurements.length ≤ maxVars
  alertReaders : ∀ window, (shownAlertsChecked r.toRegistrySnapshot window).isSome
  alertList : shownAlertsChecked r.toRegistrySnapshot maxAlerts =
    some (shownAlerts r.toRegistrySnapshot)
  totalAlerts_le : r.totalAlerts ≤ 5 * sumNodes r.toRegistrySnapshot TelemetryNode.datagramsReceived
  unique_le : sumNodes r.toRegistrySnapshot TelemetryNode.datagramsReceived ≤ 64 * 65536

/-- In every reachable state of the server, whatever its clients sent. -/
theorem indices_in_range (strtod : Bytes → StrtodResult) (startedAt bootId : Int)
    (inputs : List ServerInput) :
    IndicesInRange ((serverMachine strtod startedAt bootId).exec (serverInit startedAt bootId)
      inputs).registry := by
  have reachable := registry_reachable
    ((Machine.Reachable.init (serverMachine strtod startedAt bootId)).exec inputs)
  exact {
    calls := registryStepChecked_eq reachable
    measurements := fun i => (measurementsFit reachable i).trans (by decide)
    alertReaders := fun window => by simp [shownAlertsChecked_eq]
    alertList := shownAlertsChecked_eq _ _
    totalAlerts_le := totalAlerts_le reachable
    unique_le := unique_le reachable }

end Telep
