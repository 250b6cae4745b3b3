import Telep.Server.HttpStatusServer
import Telep.Server.Proofs.StoredMeasurements

/-!
# The alerts that are shown

In every reachable state the ring holds the last alerts that were recorded, whichever index window
a reader takes (`shownAlerts_reachable`, `recentAlerts_reachable`), with numbers of their types.
-/

namespace Telep

/-! ## The windows over the ring -/

/-- The page shows the last twenty alerts of the log, newest first. -/
theorem RegistrySnapshot.RingHolds.recentAlerts_eq {r : RegistrySnapshot} {log : List Alert}
    (h : r.RingHolds log) : recentAlerts r = (log.drop (log.length - 20)).reverse := by
  have ring : maxAlerts = 128 := rfl
  have shown : (if r.totalAlerts < 20 then r.totalAlerts else 20) =
      log.length - (log.length - 20) := by
    rw [h.total]
    split <;> omega
  unfold recentAlerts
  rw [shown]
  refine List.ext_getElem (by simp) fun k hk _ => ?_
  rw [List.length_map, List.length_range] at hk
  have place : r.totalAlerts - 1 - k = log.length - 1 - k := by rw [h.total]
  have mirrored : log.length - 20 + ((log.drop (log.length - 20)).length - 1 - k) =
      log.length - 1 - k := by
    rw [List.length_drop]
    omega
  simp only [List.getElem_map, List.getElem_range, List.getElem_reverse, List.getElem_drop, place,
    mirrored]
  exact h.slot _ (by omega) (by omega)

/-! ## Their numbers -/

/-- The numbers of an alert. -/
structure Alert.Ranged (alert : Alert) : Prop where
  timestamp : IsLong alert.timestamp
  value : |alert.value| ≤ 1000000

theorem raisedAlerts_ranged {stored values : List Measurement} {id : Bytes} {clock : Clock}
    {readings : Nat} (valid : ∀ m ∈ values, ValidMeasurement m)
    (timed : ∀ k, IsLong (clock k)) :
    ∀ alert ∈ raisedAlerts stored id clock readings values, alert.Ranged := by
  induction values generalizing readings with
  | nil => exact fun alert member => absurd member List.not_mem_nil
  | cons current values ih =>
    obtain ⟨this, rest⟩ := List.forall_mem_cons.mp valid
    rw [raisedAlerts]
    split
    · refine List.forall_mem_cons.mpr ⟨?_, ih rest⟩
      split
      · exact ⟨timed _, by norm_num⟩
      · exact ⟨timed _, this.abs_value_le⟩
    · exact ih rest

theorem alertLog_ranged {startedAt bootId : Int} {ops : List RegistryOp}
    (timed : ∀ op ∈ ops, op.Timed) : ∀ alert ∈ alertLog startedAt bootId ops, alert.Ranged := by
  intro alert member
  obtain ⟨op, listed, r, answered⟩ := mem_alertLog member
  obtain ⟨id, session, sequence, values, clock, stored, rfl, raised⟩ := mem_alerts_step answered
  exact raisedAlerts_ranged values.property.valid (timed _ listed) alert raised

/-! ## Reachable states -/

namespace ServerThreads

variable {strtod : Bytes → StrtodResult} {startedAt bootId : Long} {s : ServerThreads}

/-- The ring holds the alerts that the UDP thread recorded, and these are in range. -/
theorem ringHolds_reachable (h : (threadsMachine strtod startedAt bootId).Reachable s) :
    s.registry.RingHolds s.raised ∧ ∀ alert ∈ s.raised, alert.Ranged := by
  obtain ⟨events, rfl⟩ := h
  obtain ⟨ops, run⟩ := registry_run strtod startedAt bootId events
  have holds := ringHolds_run startedAt bootId ops
  rw [run.registry, run.raised] at holds
  refine ⟨holds, fun alert member => ?_⟩
  exact alertLog_ranged run.timed alert (run.raised ▸ member)

/-- `GET_ALERTS` and `/alerts` show the last `maxAlerts` recorded alerts. -/
theorem shownAlerts_reachable (h : (threadsMachine strtod startedAt bootId).Reachable s) :
    shownAlerts s.registry.toRegistrySnapshot = s.raised.drop (s.raised.length - maxAlerts) :=
  (ringHolds_reachable h).1.shownAlerts_eq

/-- The page shows the last twenty of them in reverse order. -/
theorem recentAlerts_reachable (h : (threadsMachine strtod startedAt bootId).Reachable s) :
    recentAlerts s.registry.toRegistrySnapshot =
      (s.raised.drop (s.raised.length - 20)).reverse :=
  (ringHolds_reachable h).1.recentAlerts_eq

end ServerThreads

end Telep
