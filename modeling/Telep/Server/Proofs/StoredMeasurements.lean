import Telep.Server.Proofs.ReplyText

/-!
# The stored measurements and their text

A node that has accepted telemetry stores a valid set of measurements (`stored_reachable`), and the
text of a valid set is its pairs joined by `;`, not cut by the buffers (`formatMeasurements_eq`).
-/

namespace Telep

/-! ## What a record keeps -/

/-- What holds of a created record and is kept by every call holds of every record. -/
theorem record_reachable {P : Record → Prop} (created : ∀ id session, P (.created id session))
    (kept : ∀ room op x x', P x → stepRecord room op (some x) = some x' → P x')
    {startedAt bootId : Int} {r : Registry} (h : (registryMachine startedAt bootId).Reachable r)
    {id : Bytes} {x : Record} (hx : recordOf r id = some x) : P x := by
  have all : r.WellFormed ∧ ∀ id x, recordOf r id = some x → P x := by
    refine h.invariant (P := fun r => r.WellFormed ∧ ∀ id x, recordOf r id = some x → P x)
      ⟨wellFormed_init startedAt bootId, fun id x hx => ?_⟩ fun r op ⟨wf, holds⟩ =>
        ⟨wellFormed_step wf op, fun id x hx => ?_⟩
    · rw [show recordOf (registryMachine startedAt bootId).init id = none from
        recordOf_init startedAt bootId id] at hx
      cases hx
    · change recordOf (registryStep r op).2 id = some x at hx
      by_cases named : op.nodeId = some id
      · rw [recordOf_step_named wf named] at hx
        cases before : recordOf r id with
        | none =>
          obtain ⟨session, rfl⟩ := stepRecord_created named (before ▸ hx)
          exact created id session
        | some y =>
          rw [before] at hx
          exact kept _ op y x (holds id y before) hx
      · rw [recordOf_step_other wf named] at hx
        exact holds id x hx
  exact all.2 id x hx

/-- A record that counts a datagram stores the measurements of one. -/
def Record.Stored (x : Record) : Prop :=
  (x.node.datagramsReceived = 0 ∧ x.node.lastSequence = -1) ∨
    ValidMeasurements x.node.measurements

theorem Record.Stored.telemetry {x : Record} (h : x.Stored) (now : Int) (sequence : Nat)
    (values : MeasurementSet) : (x.telemetry now sequence values.val).Stored := by
  unfold Record.telemetry
  split_ifs with late seen below
  · exact h
  · exact h
  · rcases h with ⟨-, none⟩ | valid
    · -- the first sequence is below no other
      rw [none] at below
      omega
    · exact .inr valid
  · exact .inr values.property

theorem stored_reachable {startedAt bootId : Int} {r : Registry}
    (h : (registryMachine startedAt bootId).Reachable r) {id : Bytes} {x : Record}
    (hx : recordOf r id = some x) : x.Stored := by
  refine record_reachable (P := Record.Stored) (fun id session => .inl ⟨rfl, rfl⟩) ?_ h hx
  intro room op x x' stored step
  cases op with
  | hello id session =>
    obtain rfl := Option.some.inj step
    exact stored
  | report id session c final =>
    simp only [stepRecord] at step
    split at step
    · obtain rfl := Option.some.inj step
      exact stored
    · obtain rfl := Option.some.inj step
      exact stored
  | telemetry id session sequence values clock =>
    simp only [stepRecord] at step
    split at step
    · obtain rfl := Option.some.inj step
      exact stored.telemetry _ _ values
    · obtain rfl := Option.some.inj step
      exact stored
  | invalidDatagram =>
    obtain rfl := Option.some.inj step
    exact stored

/-- In every state of the threads, a node that accepted a datagram stores a valid set. -/
theorem ServerThreads.stored_reachable {strtod : Bytes → StrtodResult} {startedAt bootId : Long}
    {s : ServerThreads} (h : (threadsMachine strtod startedAt bootId).Reachable s)
    {node : TelemetryNode} (member : node ∈ registeredNodes s.registry.toRegistrySnapshot)
    (accepted : 0 < node.datagramsReceived) : ValidMeasurements node.measurements := by
  obtain ⟨events, final⟩ := h
  obtain ⟨ops, run⟩ : ∃ ops, RegistryRun startedAt bootId events s ops := by
    rw [← final]
    exact registry_run strtod startedAt bootId events
  have reachable : (registryMachine startedAt bootId).Reachable s.registry := ⟨ops, run.registry⟩
  obtain ⟨i, used, rfl⟩ := mem_registeredNodes.mp member
  have stored := Telep.stored_reachable reachable
    ((wellFormed_reachable reachable).recordOf_slot used)
  rcases stored with ⟨none, -⟩ | valid
  · exact absurd none (Nat.pos_iff_ne_zero.mp accepted)
  · exact valid

/-! ## Their text -/

/-- The text after the `=` of a printed measurement. -/
def Measurement.printed (m : Measurement) : Bytes :=
  if m.name = ascii "STATUS" then if m.value ≠ 0 then ascii "OK" else ascii "FAIL"
  else formatFixed2 m.value

theorem formatMeasurement_eq (m : Measurement) :
    formatMeasurement m = m.name ++ equalsSign :: m.printed := by
  unfold formatMeasurement Measurement.printed
  split <;> rw [List.append_assoc] <;> rfl

theorem intercalate_cons_eq (separator part : Bytes) (parts : List Bytes) :
    List.intercalate separator (part :: parts) = part ++ parts.flatMap (separator ++ ·) := by
  induction parts generalizing part with
  | nil => simp
  | cons next parts ih =>
    rw [List.intercalate_cons_cons, ih, List.flatMap_cons, List.append_assoc, List.append_assoc]

/-- The loop writes every text that fits. -/
theorem formatMeasurementsFrom_eq {outSize written : Nat} {out : Bytes} {ms : List Measurement}
    (valid : ∀ m ∈ ms, ValidMeasurement m) (room : written + 19 * ms.length < outSize) :
    formatMeasurementsFrom outSize out written (ascii ";") ms =
      out ++ ms.flatMap fun m => ascii ";" ++ formatMeasurement m := by
  induction ms generalizing out written with
  | nil => rw [formatMeasurementsFrom, List.flatMap_nil, List.append_nil]
  | cons m ms ih =>
    have short := (formatMeasurement_fits (valid m List.mem_cons_self)).2
    have one : (ascii ";").length = 1 := rfl
    rw [List.length_cons] at room
    have length : (ascii ";" ++ formatMeasurement m).length ≤ 19 := by
      rw [List.length_append]
      omega
    rw [formatMeasurementsFrom, if_pos (by omega)]
    dsimp only
    rw [snprintf_of_length (by omega),
      ih (fun m' member => valid m' (List.mem_cons_of_mem _ member)) (by omega),
      List.flatMap_cons, List.append_assoc]

/-- The text of valid measurements, in any buffer of 96 bytes or more. -/
theorem formatMeasurements_eq {node : TelemetryNode} {outSize : Nat}
    (valid : ∀ m ∈ node.measurements, ValidMeasurement m) (few : node.measurements.length ≤ 5)
    (room : 96 ≤ outSize) :
    formatMeasurements node outSize =
      List.intercalate (ascii ";") (node.measurements.map formatMeasurement) := by
  unfold formatMeasurements
  revert valid few
  cases node.measurements with
  | nil =>
    intro valid few
    rfl
  | cons m ms =>
    intro valid few
    have short := (formatMeasurement_fits (valid m List.mem_cons_self)).2
    rw [List.length_cons] at few
    rw [formatMeasurementsFrom, if_pos (by omega)]
    dsimp only
    rw [List.nil_append, List.nil_append, snprintf_of_length (by omega),
      formatMeasurementsFrom_eq (fun m' member => valid m' (List.mem_cons_of_mem _ member))
        (by omega),
      List.map_cons, intercalate_cons_eq, List.flatMap_map]

theorem formatMeasurements_length_le {node : TelemetryNode}
    (valid : ∀ m ∈ node.measurements, ValidMeasurement m) (few : node.measurements.length ≤ 5)
    (outSize : Nat) : (formatMeasurements node outSize).length ≤ 95 := by
  have fits := (formatMeasurementsFrom_fits outSize [] 0 [] valid (by decide) (by decide)
    (by decide)).2
  rw [List.length_nil] at fits
  rw [formatMeasurements]
  omega

end Telep
