import Telep.Server.Proofs.AlertLog
import Telep.Server.Proofs.ThreadLinks

/-!
# The registry under the threads

Whatever the interleaving, the registry has gone through a run of calls, at most one for each step,
and the alerts that the UDP thread recorded are the alert log of that run (`registry_run`).
-/

namespace Telep

/-- Whether the clock of a call reads values of `time_t`. -/
def RegistryOp.Timed : RegistryOp → Prop
  | .telemetry _ _ _ _ clock => ∀ k, IsLong (clock k)
  | _ => True

namespace ServerThreads

variable {strtod : Bytes → StrtodResult} {s s' : ServerThreads} {event : ThreadEvent}

theorem serveLine_registry (state : ServerState) (fd : ClientFd) (readings : Readings)
    (line : ReceivedLine) :
    (serveLine state fd readings line).state.registry = state.registry ∨
      (∃ id session, (serveLine state fd readings line).state.registry =
        (registryStep state.registry (.hello id session)).2) ∨
      ∃ id session c final, (serveLine state fd readings line).state.registry =
        (registryStep state.registry (.report id session c final)).2 := by
  cases line with
  | line text => exact (handleCommand_handled state fd readings text).registry
  | overflow => exact .inl rfl
  | invalid => exact .inl rfl

/-- What a step does to the registry and to the recorded alerts. -/
inductive RegistryEffect (s s' : ServerThreads) : Prop
  | same (registry : s'.registry = s.registry) (raised : s'.raised = s.raised)
  | call (op : RegistryOp) (registry : s'.registry = (registryStep s.registry op).2)
      (raised : s'.raised = s.raised ++ (registryStep s.registry op).1.alerts)
      (timed : op.Timed)

theorem OwnerEffect.registry {c : Nat} {t : ClientThread} {owner : OwnerEvent}
    (effect : OwnerEffect s c t owner s') : RegistryEffect s s' := by
  cases effect with
  | received readings d line rest waits descriptor reads result serves =>
    subst serves
    rcases serveLine_registry s.toServerState t.fd readings line with same | ⟨id, session, call⟩ |
      ⟨id, session, c', final, call⟩
    · exact .same same rfl
    · exact .call (.hello id session) call (List.append_nil _).symm trivial
    · exact .call (.report id session c' final) call (List.append_nil _).symm trivial
  | failed buffer after sending =>
    refine .same ?_ ?_ <;> simp only [raised, moveTo, setThread, shutdown] <;> split <;> rfl
  | _ => exact .same rfl rfl

theorem registryEffect_step (step : s.step strtod event = some s') :
    RegistryEffect s s' := by
  cases event with
  | accept fd =>
    simp only [ServerThreads.step, accept, Option.ite_none_right_eq_some, Option.some.injEq] at step
    obtain ⟨-, rfl⟩ := step
    exact .same rfl rfl
  | arrive d bytes =>
    simp only [ServerThreads.step, Option.ite_none_right_eq_some, Option.some.injEq] at step
    obtain ⟨-, rfl⟩ := step
    exact .same rfl rfl
  | owner d event =>
    obtain ⟨u, -, step⟩ := Option.bind_eq_some_iff.mp step
    exact (ownerStep_effect step).registry
  | datagram clock bytes =>
    simp only [ServerThreads.step, Option.ite_none_right_eq_some, Option.some.injEq] at step
    obtain ⟨none, rfl⟩ := step
    have effect := datagram_effect strtod s.registry clock.val bytes
    have before : s.raised = s.broadcasted := by rw [raised, none, List.append_nil]
    revert effect
    generalize udpTelemetryServer strtod s.registry clock.val bytes = result
    intro effect
    obtain ⟨newAlerts, registry⟩ := result
    cases effect with
    | malformed none =>
      exact .call .invalidDatagram rfl (congrArg (· ++ []) before.symm) trivial
    | telemetry m some id session sequence values same =>
      refine .call (.telemetry id session sequence values clock.val) rfl ?_ clock.property
      refine congrArg₂ (· ++ ·) before.symm ?_
      simp only [registryStep]
      cases (registryRecordTelemetry s.registry clock.val id.val session.val sequence.val
        values.val).1 <;> rfl
  | broadcast =>
    obtain ⟨alert, newAlerts, next, rfl⟩ := broadcast_eq_some step
    exact .same rfl (by simp [raised, next])

/-- The run of calls behind a run of the threads. -/
structure RegistryRun (startedAt bootId : Long) (events : List ThreadEvent) (s : ServerThreads)
    (ops : List RegistryOp) : Prop where
  registry : (registryMachine startedAt bootId).exec (registryInit startedAt bootId) ops = s.registry
  raised : alertLog startedAt bootId ops = s.raised
  length_le : ops.length ≤ events.length
  timed : ∀ op ∈ ops, op.Timed

theorem registry_run (strtod : Bytes → StrtodResult) (startedAt bootId : Long)
    (events : List ThreadEvent) :
    ∃ ops, RegistryRun startedAt bootId events
      ((threadsMachine strtod startedAt bootId).exec (threadsInit startedAt bootId) events) ops := by
  refine Machine.exec_history
    (P := fun events s => ∃ ops, RegistryRun startedAt bootId events s ops)
    ⟨[], rfl, rfl, le_rfl, by simp⟩ (fun events event ih => ?_) events
  obtain ⟨ops, run⟩ := ih
  generalize (threadsMachine strtod startedAt bootId).exec (threadsInit startedAt bootId) events = s
    at run ⊢
  have stays (s' : ServerThreads) (registry : s'.registry = s.registry)
      (raised : s'.raised = s.raised) :
      ∃ ops, RegistryRun startedAt bootId (events ++ [event]) s' ops := by
    refine ⟨ops, run.registry.trans registry.symm, run.raised.trans raised.symm, ?_, ?_⟩
    · rw [List.length_append]
      exact run.length_le.trans (Nat.le_add_right _ _)
    · exact run.timed
  refine preserves_next
    (P := fun s' => ∃ ops, RegistryRun startedAt bootId (events ++ [event]) s' ops)
    (stays s rfl rfl) fun s' step => ?_
  cases registryEffect_step step with
  | same registry raised => exact stays s' registry raised
  | call op registry raised timed =>
    refine ⟨ops ++ [op], ?_, ?_, ?_, ?_⟩
    · rw [Machine.exec_concat, run.registry, registry]
      rfl
    · rw [alertLog, Machine.outputs, Machine.collect_concat, List.flatMap_append, raised,
        ← run.raised, run.registry]
      simp [alertLog, Machine.outputs, registryMachine]
    · rw [List.length_append, List.length_append]
      exact Nat.add_le_add_right run.length_le 1
    · intro o ho
      rcases List.mem_append.mp ho with old | new
      · exact run.timed o old
      · exact List.mem_singleton.mp new ▸ timed

end ServerThreads

end Telep
