import Telep.Server.Proofs.Records
import Telep.Server.TcpCommandServer

/-!
# The alert log

The alerts a run raised, in order, are the answers of its calls; the ring of the registry holds
the last `maxAlerts` of them (`ringHolds_run`).
-/

namespace Telep

/-- The alerts a call raised. -/
def RegistryAnswer.alerts : RegistryAnswer → List Alert
  | .recorded (some newAlerts) => newAlerts
  | _ => []

/-- All the alerts a run raised, in order. -/
def alertLog (startedAt bootId : Int) (ops : List RegistryOp) : List Alert :=
  ((registryMachine startedAt bootId).outputs (registryInit startedAt bootId) ops).flatMap
    RegistryAnswer.alerts

/-- An alert of the log is the answer to a call. -/
theorem mem_alertLog {startedAt bootId : Int} {ops : List RegistryOp} {alert : Alert}
    (member : alert ∈ alertLog startedAt bootId ops) :
    ∃ op ∈ ops, ∃ r, alert ∈ (registryStep r op).1.alerts := by
  induction ops using List.reverseRecOn with
  | nil => exact absurd member List.not_mem_nil
  | append_singleton ops op ih =>
    rw [alertLog, Machine.outputs, Machine.collect_concat, List.flatMap_append] at member
    rcases List.mem_append.mp member with old | new
    · obtain ⟨op', listed, r, answered⟩ := ih old
      exact ⟨op', List.mem_append_left _ listed, r, answered⟩
    · rw [List.flatMap_singleton] at new
      exact ⟨op, by simp, _, new⟩

/-- The ring holds the last `maxAlerts` alerts of the log, each in its slot. -/
structure RegistrySnapshot.RingHolds (r : RegistrySnapshot) (log : List Alert) : Prop where
  total : r.totalAlerts = log.length
  slot : ∀ k (h : k < log.length), log.length ≤ k + maxAlerts →
    r.alerts (Fin.ofNat maxAlerts k) = log[k]

/-- `GET_ALERTS` shows the last alerts of the log. -/
theorem RegistrySnapshot.RingHolds.shownAlerts_eq {r : RegistrySnapshot} {log : List Alert}
    (h : r.RingHolds log) : shownAlerts r = log.drop (log.length - maxAlerts) := by
  have ring : maxAlerts = 128 := rfl
  have shown : (if r.totalAlerts < maxAlerts then r.totalAlerts else maxAlerts) =
      log.length - (log.length - maxAlerts) := by
    rw [h.total]
    split <;> omega
  unfold shownAlerts
  rw [shown]
  refine List.ext_getElem (by simp) fun k hk _ => ?_
  rw [List.length_map, List.length_range] at hk
  have place : r.totalAlerts - (log.length - (log.length - maxAlerts)) + k =
      log.length - maxAlerts + k := by
    rw [h.total]
    omega
  simp only [List.getElem_map, List.getElem_range, List.getElem_drop, place]
  exact h.slot _ (by omega) (by omega)

theorem ringHolds_pushAlert {r : RegistrySnapshot} {log : List Alert} (h : r.RingHolds log)
    (alert : Alert) : (pushAlert r alert).RingHolds (log ++ [alert]) where
  total := by simp [pushAlert, h.total]
  slot k hk recent := by
    rw [List.length_append, List.length_singleton] at hk recent
    by_cases last : k = log.length
    · subst last
      simp [pushAlert, h.total]
    · have older : k < log.length := by omega
      -- within one turn of the ring the slot of an older alert is another slot
      have other : Fin.ofNat maxAlerts k ≠ Fin.ofNat maxAlerts r.totalAlerts := by
        intro same
        have same : k % 128 = r.totalAlerts % 128 := congrArg Fin.val same
        rw [h.total] at same
        have : log.length + 1 ≤ k + 128 := recent
        omega
      have kept : (pushAlert r alert).alerts (Fin.ofNat maxAlerts k) =
          r.alerts (Fin.ofNat maxAlerts k) := Function.update_of_ne other _ _
      rw [kept, List.getElem_append_left older]
      exact h.slot k older (by omega)

theorem ringHolds_foldl {r : RegistrySnapshot} {log : List Alert} (h : r.RingHolds log)
    (alerts : List Alert) : (alerts.foldl pushAlert r).RingHolds (log ++ alerts) := by
  induction alerts generalizing r log with
  | nil => simpa using h
  | cons alert alerts ih => simpa using ih (ringHolds_pushAlert h alert)

/-- A call that raises nothing leaves the ring alone. -/
theorem RegistrySnapshot.RingHolds.quiet {r r' : RegistrySnapshot} {log raised : List Alert}
    (h : r.RingHolds log) (alerts : r'.alerts = r.alerts)
    (total : r'.totalAlerts = r.totalAlerts) (none : raised = []) :
    r'.RingHolds (log ++ raised) := by
  rw [none, List.append_nil]
  exact ⟨total.trans h.total, by rw [alerts]; exact h.slot⟩

theorem RegisterEffect.ringHolds {r r' : Registry} {id session : Bytes}
    {code : Option ErrorCode} (effect : RegisterEffect r id session code r') {log : List Alert}
    (h : r.RingHolds log) : r'.RingHolds (log ++ (RegistryAnswer.result code).alerts) := by
  cases effect <;> exact h.quiet rfl rfl rfl

theorem ReportEffect.ringHolds {r r' : Registry} {id session : Bytes}
    {attempts sent omitted errors : Nat} {final : Bool} {code : Option ErrorCode}
    (effect : ReportEffect r id session attempts sent omitted errors final code r')
    {log : List Alert} (h : r.RingHolds log) :
    r'.RingHolds (log ++ (RegistryAnswer.result code).alerts) := by
  cases effect <;> exact h.quiet rfl rfl rfl

theorem TelemetryEffect.ringHolds {r r' : Registry} {clock : Clock} {id session : Bytes}
    {sequence : Nat} {values : List Measurement} {newAlerts : Option (List Alert)}
    (effect : TelemetryEffect r clock id session sequence values newAlerts r') {log : List Alert}
    (h : r.RingHolds log) : r'.RingHolds (log ++ (RegistryAnswer.recorded newAlerts).alerts) := by
  cases effect with
  | advanced i found same onTime new above =>
    have pushed := ringHolds_foldl (r := r.countTotal.toRegistrySnapshot) ⟨h.total, h.slot⟩
      (raisedAlerts (r.record i).node.measurements id clock 1 values)
    exact ⟨pushed.total, pushed.slot⟩
  | _ => exact h.quiet rfl rfl rfl

/-- A call writes to the ring the alerts it answers. -/
theorem ringHolds_step {r : Registry} (wf : r.WellFormed) {log : List Alert}
    (h : r.RingHolds log) (op : RegistryOp) :
    (registryStep r op).2.RingHolds (log ++ (registryStep r op).1.alerts) := by
  cases op with
  | hello id session => exact (register_effect wf id.val session.val).ringHolds h
  | report id session c final => exact (report_effect r _ _ _ _ _ _ _).ringHolds h
  | telemetry id session sequence values clock => exact (telemetry_effect r _ _ _ _ _).ringHolds h
  | invalidDatagram => exact h.quiet rfl rfl rfl

/-- After any run, the ring holds the last alerts of the run. -/
theorem ringHolds_run (startedAt bootId : Int) (ops : List RegistryOp) :
    ((registryMachine startedAt bootId).exec (registryInit startedAt bootId) ops).RingHolds
      (alertLog startedAt bootId ops) := by
  refine Machine.exec_history
    (P := fun ops (r : Registry) => r.RingHolds (alertLog startedAt bootId ops))
    ⟨rfl, by simp [alertLog, Machine.outputs, Machine.collect]⟩ ?_ ops
  intro ops op h
  have wf : Registry.WellFormed _ := wellFormed_reachable
    (Machine.Reachable.init (registryMachine startedAt bootId) |>.exec ops)
  have log : alertLog startedAt bootId (ops ++ [op]) = alertLog startedAt bootId ops ++
      (registryStep ((registryMachine startedAt bootId).exec (registryInit startedAt bootId) ops)
        op).1.alerts := by
    simp [alertLog, Machine.outputs, Machine.collect_concat, registryMachine]
  rw [log]
  exact ringHolds_step wf h op

end Telep
