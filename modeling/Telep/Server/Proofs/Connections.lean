import Telep.Server.Proofs.ThreadLinks

/-!
# The inductions over the connections of a run

A property that every connection has when it is accepted and that every step preserves holds of
every connection of every run (`connections_run`).
-/

namespace Telep

namespace ServerThreads

section Steps

variable {s s' : ServerThreads} {c : Nat} {t : ClientThread}

/-- A connection that was accepted by a step. -/
structure Newborn (s' : ServerThreads) (c : Nat) (t : ClientThread) : Prop where
  point : t.point = .accepted
  blocks : t.blocks = []
  socket : s'.sockets c = ⟨[], [], false⟩
  arrived : s'.arrived c = []

/-- A thread that was not there before a step is new. -/
theorem born {strtod : Bytes → StrtodResult} {event : ThreadEvent} (h : s.Linked)
    (none : s.threads c = none) (step : s.step strtod event = some s')
    (some : s'.threads c = some t) : s'.Newborn c t := by
  have same (kept : s'.threads c = s.threads c) : s'.Newborn c t := by
    rw [kept, none] at some
    cases some
  cases event with
  | accept fd =>
    simp only [ServerThreads.step, accept, Option.ite_none_right_eq_some, Option.some.injEq] at step
    obtain ⟨-, rfl⟩ := step
    by_cases new : c = s.accepted
    · subst new
      obtain rfl : (⟨fd, .accepted, []⟩ : ClientThread) = t := by simpa using some
      exact ⟨rfl, rfl, Function.update_self _ _ _, Function.update_self _ _ _⟩
    · exact same (Function.update_of_ne new _ _)
  | arrive d bytes =>
    simp only [ServerThreads.step, Option.ite_none_right_eq_some, Option.some.injEq] at step
    obtain ⟨-, rfl⟩ := step
    exact same rfl
  | owner d event =>
    obtain ⟨u, stepped, step⟩ := Option.bind_eq_some_iff.mp step
    refine same ((ownerStep_effect step).others h stepped ?_).1
    rintro rfl
    rw [none] at stepped
    cases stepped
  | datagram clock bytes =>
    simp only [ServerThreads.step, Option.ite_none_right_eq_some, Option.some.injEq] at step
    obtain ⟨-, rfl⟩ := step
    exact same rfl
  | broadcast =>
    obtain ⟨alert, newAlerts, -, rfl⟩ := broadcast_eq_some step
    exact same rfl

end Steps

section Runs

variable {strtod : Bytes → StrtodResult} {startedAt bootId : Long} {s : ServerThreads} {c : Nat}
  {t : ClientThread}

/-- The rule for the connections of a run whose events all satisfy `ok`. -/
theorem connections_run (ok : ThreadEvent → Prop) {P : ServerThreads → Nat → ClientThread → Prop}
    (newborn : ∀ (s : ServerThreads) c t, s.Newborn c t → P s c t)
    (step : ∀ s s' event c t t', (threadsMachine strtod startedAt bootId).Reachable s → ok event →
      s.threads c = some t → s'.threads c = some t' → s.step strtod event = some s' →
      P s c t → P s' c t')
    (events : List ThreadEvent) (all : ∀ event ∈ events, ok event) :
    ∀ c t, ((threadsMachine strtod startedAt bootId).exec (threadsInit startedAt bootId)
      events).threads c = some t → P ((threadsMachine strtod startedAt bootId).exec
        (threadsInit startedAt bootId) events) c t := by
  induction events using List.reverseRecOn with
  | nil =>
    intro c t thread
    cases thread
  | append_singleton events event ih =>
    have before := ih fun e he => all e (List.mem_append_left _ he)
    have reachable : (threadsMachine strtod startedAt bootId).Reachable _ := ⟨events, rfl⟩
    rw [Machine.exec_concat]
    refine preserves_next (P := fun s => ∀ c t, s.threads c = some t → P s c t) before
      fun s' happens c t' thread' => ?_
    cases thread : ((threadsMachine strtod startedAt bootId).exec (threadsInit startedAt bootId)
        events).threads c with
    | none => exact newborn s' c t' (born (linked_reachable reachable) thread happens thread')
    | some t =>
      exact step _ s' event c t t' reachable (all event (by simp)) thread thread' happens
        (before c t thread)

/-- The rule for the connections of every run. -/
theorem connections_reachable {P : ServerThreads → Nat → ClientThread → Prop}
    (newborn : ∀ (s : ServerThreads) c t, s.Newborn c t → P s c t)
    (step : ∀ s s' event c t t', (threadsMachine strtod startedAt bootId).Reachable s →
      s.threads c = some t → s'.threads c = some t' → s.step strtod event = some s' →
      P s c t → P s' c t')
    (h : (threadsMachine strtod startedAt bootId).Reachable s) (thread : s.threads c = some t) :
    P s c t := by
  obtain ⟨events, rfl⟩ := h
  exact connections_run (fun _ => True) newborn
    (fun s s' event c t t' reachable _ => step s s' event c t t' reachable) events
    (fun _ _ => trivial) c t thread

end Runs

end ServerThreads

end Telep
