import Telep.Server.Proofs.Hundredths
import Telep.Server.Proofs.StatusPage

/-!
# The highlighted values

A value that the page highlights is anomalous as it was stored, and the alert log holds the alert
that its anomaly began with (`highlights_alerted`).
-/

namespace Telep

/-! ## Thresholds -/

/-- What the page highlights is anomalous. -/
theorem anomalous_of_hot {strtod : Bytes → StrtodResult} (reads : ReadsHundredths strtod)
    {m : Measurement} (valid : ValidMeasurement m)
    (hot : measurementIsHot strtod m.name m.printed = true) : isAnomalousValue m = true := by
  unfold measurementIsHot Measurement.printed at hot
  unfold isAnomalousValue
  split
  · next status =>
    rw [if_pos status, if_pos status] at hot
    by_contra normal
    rw [if_pos (by simpa using normal)] at hot
    exact absurd rfl (of_decide_eq_true hot)
  · next other =>
    rw [if_neg other, if_neg other, reads.formatFixed2 valid.abs_value_le] at hot
    have read : formatFixed2 m.value ≠ [] := by simp [formatFixed2]
    rw [if_neg (Ne.symm read)] at hot
    dsimp only at hot
    have above {n : Nat} (h : decide ((n : ℚ) < roundedHundredths m.value) = true) :
        (n : ℚ) < m.value := lt_of_lt_roundedHundredths (of_decide_eq_true h)
    refine decide_eq_true ?_
    unfold alertThreshold
    split_ifs at hot with temp hum power vib
    · rw [if_pos temp]
      exact ⟨by norm_num [tempMax], by simpa [tempMax] using above (n := 40) hot⟩
    · rw [if_neg temp, if_pos hum]
      exact ⟨by norm_num [humMax], by simpa [humMax] using above (n := 85) hot⟩
    · rw [if_neg temp, if_neg hum, if_pos power]
      exact ⟨by norm_num [powerMax], by simpa [powerMax] using above (n := 500) hot⟩
    · rw [if_neg temp, if_neg hum, if_neg power, if_pos vib]
      exact ⟨by norm_num [vibMax], by simpa [vibMax] using above (n := 7) hot⟩

/-! ## The alert behind a stored anomaly -/

section Runs

variable {startedAt bootId : Int} {id v : Bytes}

/-- The log holds an alert for the variable, raised by a datagram of the node in order, and every
datagram in order since then reported the variable as anomalous. -/
def AlertStands (startedAt bootId : Int) (id v : Bytes) (ops : List RegistryOp) : Prop :=
  ∃ before first mid values alert, ops = before ++ first :: mid ∧
    orderedDuring startedAt bootId id before [first] = [values] ∧
    alert ∈ alertsDuring startedAt bootId id v before [first] ∧
    alert ∈ alertLog startedAt bootId ops ∧
    ∀ later ∈ orderedDuring startedAt bootId id (before ++ [first]) mid,
      ∃ m ∈ later.val, m.name = v ∧ isAnomalousValue m = true

/-- The alerts of a call of the run are in its log. -/
theorem alertsDuring_logged {before mid : List RegistryOp} {first : RegistryOp} {alert : Alert}
    (raised : alert ∈ alertsDuring startedAt bootId id v before [first]) :
    alert ∈ alertLog startedAt bootId (before ++ first :: mid) := by
  rw [alertsDuring_singleton] at raised
  have answered := List.mem_of_mem_filter raised
  rw [alertLog, Machine.outputs, Machine.collect_append, List.flatMap_append, Machine.collect,
    List.flatMap_append, List.flatMap_singleton]
  exact List.mem_append_right _ (List.mem_append_left _ answered)

/-- The stored measurements are those of a datagram, or none. -/
theorem storedOf_distinct (ops : List RegistryOp) :
    ((storedOf (registryAfter startedAt bootId ops) id).map Measurement.name).Nodup := by
  have stored : storedOf (registryAfter startedAt bootId ([] ++ ops)) id = _ := storedOf_after ops
  rw [List.nil_append] at stored
  rw [stored]
  cases (orderedDuring startedAt bootId id [] ops).getLast? with
  | none =>
    have start : storedOf (registryAfter startedAt bootId []) id = [] := by
      rw [storedOf, registryAfter, Machine.exec_nil, recordOf_init]
      rfl
    rw [Option.elim_none, start]
    exact List.nodup_nil
  | some values => exact values.property.distinct

/-- A stored anomaly began with an alert. -/
theorem alertStands_of_stored (known : v ∈ variableNames) {ops : List RegistryOp} {m : Measurement}
    (stored : m ∈ storedOf (registryAfter startedAt bootId ops) id) (name : m.name = v)
    (anomalous : isAnomalousValue m = true) : AlertStands startedAt bootId id v ops := by
  have reads : reading v (storedOf (registryAfter startedAt bootId ops) id) = some true :=
    (reading_eq_some (storedOf_distinct ops)).mpr ⟨m, stored, name, anomalous⟩
  obtain ⟨before, first, mid, rfl, raised, -, since⟩ := last_alert known ops reads
  obtain ⟨alert, raised_alert⟩ := List.exists_mem_of_ne_nil _ raised
  obtain ⟨values, ordered, -, -⟩ := (alertsDuring_ne_nil known).mp raised
  refine ⟨before, first, mid, values, alert, rfl, ordered, raised_alert,
    alertsDuring_logged raised_alert, fun later member => ?_⟩
  exact (reading_eq_some later.property.distinct).mp (since later member)

end Runs

/-! ## The page -/

namespace ServerThreads

/-- In every reachable state, a highlighted variable is stored with an anomalous value, and the log
holds the alert of its anomaly. -/
theorem highlights_alerted {strtod : Bytes → StrtodResult} (reads : ReadsHundredths strtod)
    (startedAt bootId : Long) (events : List ThreadEvent) :
    let s := (threadsMachine strtod startedAt bootId).exec (threadsInit startedAt bootId) events
    ∃ ops, RegistryRun startedAt bootId events s ops ∧
      ∀ node ∈ registeredNodes s.registry.toRegistrySnapshot,
        ∀ field ∈ splitFields (snprintf maxLine (formatMeasurements node maxLine)),
          measurementIsHot strtod field.1 field.2 = true →
            ∃ m ∈ node.measurements, field = (m.name, m.printed) ∧ isAnomalousValue m = true ∧
              AlertStands startedAt bootId node.nodeId m.name ops := by
  intro s
  obtain ⟨ops, run⟩ := registry_run strtod startedAt bootId events
  refine ⟨ops, run, fun node member field chip hot => ?_⟩
  have shown := shown_reachable (show (threadsMachine strtod startedAt bootId).Reachable s from
    ⟨events, rfl⟩)
  obtain ⟨i, used, rfl⟩ := mem_registeredNodes.mp member
  have valid : ∀ m ∈ (s.registry.nodes i).measurements, ValidMeasurement m :=
    (shown.record i used).measurements
  rw [splitFields_measurements valid (shown.measurements i)] at chip
  obtain ⟨m, stored, rfl⟩ := List.mem_map.mp chip
  have anomalous := anomalous_of_hot reads (valid m stored) hot
  refine ⟨m, stored, rfl, anomalous, ?_⟩
  refine alertStands_of_stored (valid m stored).name_mem (m := m) ?_ rfl anomalous
  have after : registryAfter startedAt bootId ops = s.registry := run.registry
  rw [after, storedOf, shown.wellFormed.recordOf_slot used]
  exact stored

/-- A node whose temperature is too high. -/
def hotEvents : List ThreadEvent :=
  [.accept alarmedThread.fd, .arrive 0 (frames lineFeed [ascii "HELLO|N|" ++ sessionS.val]),
    .owner 0 .start, .owner 0 .drain, .owner 0 (.receive alarmedReadings),
    .datagram ⟨alarmedReadings.val.clock, alarmedReadings.property.1⟩ (ascii "TELEMETRY|N|" ++
      sessionS.val ++ ascii "|0|TEMP=45.00;HUM=50.00;STATUS=OK" ++ [lineFeed])]

theorem highlights_alerted_sample :
    ∃ ops, AlertStands 7 1 (ascii "N") (ascii "TEMP") ops := by
  let s := (threadsMachine strtodHundredths ⟨7, by decide⟩ ⟨1, by decide⟩).exec
    (threadsInit ⟨7, by decide⟩ ⟨1, by decide⟩) hotEvents
  have run : (registeredNodes s.registry.toRegistrySnapshot).map (fun node =>
      (node.nodeId, splitFields (snprintf maxLine (formatMeasurements node maxLine)))) =
        [(ascii "N", [(ascii "TEMP", ascii "45.00"), (ascii "HUM", ascii "50.00"),
          (ascii "STATUS", ascii "OK")])] := by
    decide +kernel
  have hot : measurementIsHot strtodHundredths (ascii "TEMP") (ascii "45.00") = true := by
    decide +kernel
  obtain ⟨node, member, same⟩ := List.mem_map.mp (run ▸ List.mem_cons_self)
  obtain ⟨id, fields⟩ := Prod.mk.inj same
  obtain ⟨ops, -, shown⟩ := highlights_alerted strtodHundredths_reads ⟨7, by decide⟩ ⟨1, by decide⟩
    hotEvents
  obtain ⟨m, -, field, -, stands⟩ := shown node member (ascii "TEMP", ascii "45.00")
    (fields ▸ List.mem_cons_self) hot
  obtain ⟨name, -⟩ := Prod.mk.inj field
  rw [← name, id] at stands
  exact ⟨ops, stands⟩

end ServerThreads

end Telep
