import Telep.Client.Measurements
import Telep.Client.Proofs.Interrupt
import Telep.Misc.FloorSteps

/-!
# The schedule of the omissions

`omitted_by_drop` holds where the floor of the multiples of the percentage rises, so a window of
attempts has as many omissions as the floor rises over it. The counters of the main loop follow
the schedule, whatever sends fail and whenever a session is replaced (`drop_schedule`).
-/

namespace Telep

/-! ## The predicate -/

theorem truncated_eq {q : ℚ} (nonneg : 0 ≤ q) : truncated q = ⌊q⌋ := if_neg (not_lt.mpr nonneg)

section Percentage

variable {percentage : ℚ} (low : 0 ≤ percentage) (high : percentage ≤ 100)

include low

theorem omittedByDrop_eq (sequence : Nat) :
    omittedByDrop sequence percentage =
      decide (⌊(sequence : ℚ) * (percentage / 100)⌋ <
        ⌊((sequence : ℚ) + 1) * (percentage / 100)⌋) := by
  have nonneg (k : Nat) : (0 : ℚ) ≤ k * percentage / 100 := by positivity
  have next := nonneg (sequence + 1)
  push_cast at next
  rw [omittedByDrop, truncated_eq (nonneg sequence), truncated_eq next, mul_div_assoc,
    mul_div_assoc]

include high

/-- The omissions of a window. -/
theorem countP_omittedByDrop (k n : Nat) :
    (((List.range' k n).countP (omittedByDrop · percentage) : Nat) : ℤ) =
      ⌊((k : ℚ) + n) * percentage / 100⌋ - ⌊(k : ℚ) * percentage / 100⌋ := by
  have low' : 0 ≤ percentage / 100 := by positivity
  have high' : percentage / 100 ≤ 1 := by linarith
  simp only [omittedByDrop_eq low, mul_div_assoc]
  exact countP_floor_lt low' high' k n

/-- The omissions of the first attempts. -/
theorem countP_omittedByDrop_first (n : Nat) :
    (((List.range n).countP (omittedByDrop · percentage) : Nat) : ℤ) =
      ⌊(n : ℚ) * percentage / 100⌋ := by
  have first := countP_omittedByDrop low high 0 n
  rw [List.range_eq_range', first, Nat.cast_zero, zero_add, zero_mul, zero_div, Int.floor_zero,
    Int.sub_zero]

end Percentage

/-! ## The main loop -/

/-- An attempt that is not omitted, before it is counted. -/
@[simp] def Point.isSending : Point → Bool
  | handed => true
  | failed => true
  | _ => false

namespace World

variable {w w' : World} {a : NodeArgs}

/-- What a step does to the count of the attempts. -/
inductive CountEffect (a : NodeArgs) (w w' : World) : Prop
  | stays (counters : w'.counters = w.counters)
      (unattempted : w'.point.unattempted = w.point.unattempted)
      (sending : w'.point.isSending = true → w.point.isSending = true)
  | sends (point : w.point = .attempt) (due : a.omittedByDrop w.counters.attempts = false)
      (counters : w'.counters = w.counters) (unattempted : w'.point.unattempted = 0)
  | omits (point : w.point = .attempt) (due : a.omittedByDrop w.counters.attempts = true)
      (counters : w'.counters = { w.counters with omitted := w.counters.omitted + 1 })
      (counted : w'.point = .counted)
  | counts (point : w.point.isSending = true)
      (attempts : w'.counters.attempts = w.counters.attempts)
      (omitted : w'.counters.omitted = w.counters.omitted) (counted : w'.point = .counted)
  | advances (point : w.point = .counted)
      (counters : w'.counters = { w.counters with attempts := w.counters.attempts + 1 })
      (advanced : w'.point = .advanced)
  | resets (counters : w'.counters = .zero) (unattempted : w'.point.unattempted = 0)
      (sending : w'.point.isSending = false)

/-- The omissions counted so far are those of the schedule. -/
structure Scheduled (w : World) (a : NodeArgs) : Prop where
  omitted : w.counters.omitted =
    (List.range (w.counters.attempts + w.point.unattempted)).countP a.omittedByDrop
  sending : w.point.isSending = true → a.omittedByDrop w.counters.attempts = false

theorem CountEffect.scheduled (effect : CountEffect a w w') (h : w.Scheduled a) :
    w'.Scheduled a := by
  cases effect with
  | stays counters unattempted sending =>
    refine ⟨?_, fun sends => ?_⟩
    · rw [counters, unattempted]
      exact h.omitted
    · rw [counters]
      exact h.sending (sending sends)
  | sends point due counters unattempted =>
    refine ⟨?_, fun _ => ?_⟩
    · have omitted := h.omitted
      rw [point] at omitted
      rw [counters, unattempted]
      exact omitted
    · rw [counters]
      exact due
  | omits point due counters counted =>
    refine ⟨?_, fun sends => ?_⟩
    · have omitted := h.omitted
      rw [point] at omitted
      rw [counters, counted]
      show w.counters.omitted + 1 = (List.range (w.counters.attempts + 1)).countP _
      rw [List.range_succ, List.countP_append, List.countP_singleton, if_pos due, omitted]
      rfl
    · rw [counted] at sends
      cases sends
  | counts point attempts omitted counted =>
    refine ⟨?_, fun sends => ?_⟩
    · have before := h.omitted
      have waits : w.point.unattempted = 0 := by
        cases at_point : w.point <;> simp_all
      rw [waits] at before
      rw [omitted, attempts, counted]
      show w.counters.omitted = (List.range (w.counters.attempts + 1)).countP _
      rw [List.range_succ, List.countP_append, List.countP_singleton, h.sending point, before]
      rfl
    · rw [counted] at sends
      cases sends
  | advances point counters advanced =>
    refine ⟨?_, fun sends => ?_⟩
    · have omitted := h.omitted
      rw [point] at omitted
      rw [counters, advanced]
      exact omitted
    · rw [advanced] at sends
      cases sends
  | resets counters unattempted sending =>
    refine ⟨?_, fun sends => ?_⟩
    · rw [counters, unattempted]
      rfl
    · rw [sending] at sends
      cases sends

/-- A step outside the attempts. -/
theorem CountEffect.outside (counters : w'.counters = w.counters)
    (before : w.point.unattempted = 0) (after : w'.point.unattempted = 0)
    (idle : w'.point.isSending = false) : CountEffect a w w' :=
  .stays counters (after.trans before.symm) fun sends =>
    absurd (idle.symm.trans sends) Bool.false_ne_true

/-- `control` ends without success. -/
theorem CountEffect.leaves {final : Option Nat} {p : Point} (counters : w'.counters = w.counters)
    (before : w.point.unattempted = 0) (point : w'.point = p) (leaves : Leaves final p) :
    CountEffect a w w' := by
  cases leaves <;> exact .outside counters before (by rw [point]; rfl) (by rw [point]; rfl)

/-- The replies of `control`. -/
theorem countEffect_read {fresh : Session} {now : ℚ}
    (step : a.step w (.read fresh now) = some w') : CountEffect a w w' := by
  rw [NodeArgs.step] at step
  split at step
  · next final bootId point =>
    unfold readStatus at step
    split at step
    · split at step
      · obtain rfl := Option.some.inj step
        exact .outside rfl (by rw [point]; rfl) rfl rfl
      · cases step
    · obtain rfl := Option.some.inj step
      exact .outside rfl (by rw [point]; rfl) rfl rfl
  · next final code point =>
    obtain rfl := Option.some.inj step
    cases code with
    | none => exact .outside rfl (by rw [point]; rfl) rfl rfl
    | some code =>
      obtain ⟨p, moved, leaves⟩ := leaves_rejected w final
      rw [readHello, moved]
      exact .leaves rfl (by rw [point]; rfl) rfl leaves
  · next final code point =>
    split at step
    · obtain rfl := Option.some.inj step
      have before : w.point.unattempted = 0 := by rw [point]; rfl
      cases code with
      | none =>
        cases final with
        | none => exact .outside rfl before rfl rfl
        | some k => exact .outside rfl before rfl rfl
      | some code =>
        obtain ⟨p, moved, leaves⟩ := leaves_rejected
          { w with reportReplies := w.reportReplies ++ [some code] } final
        rw [readReport, moved]
        exact .leaves rfl before rfl leaves
    · cases step
  · cases step

theorem countEffect_step {event : WorldEvent} (step : a.step w event = some w') :
    CountEffect a w w' := by
  have unchanged {v : World} (counters : v.counters = w.counters) (point : v.point = w.point) :
      CountEffect a w v :=
    .stays counters (congrArg _ point) fun sends => point ▸ sends
  cases event with
  | check now =>
    rw [NodeArgs.step] at step
    split at step
    · next guard =>
      dsimp only at step
      have before : w.point.unattempted = 0 := by rw [guard.1]; rfl
      split at step
      · split at step
        · obtain rfl := Option.some.inj step
          exact .outside rfl before rfl rfl
        · obtain rfl := Option.some.inj step
          exact .outside rfl before rfl rfl
      · obtain rfl := Option.some.inj step
        exact .outside rfl before rfl rfl
    · cases step
  | connect =>
    rw [NodeArgs.step] at step
    split at step
    · next final point =>
      obtain rfl := Option.some.inj step
      exact .outside rfl (by rw [point]; rfl) rfl rfl
    · cases step
  | ask =>
    rw [NodeArgs.step] at step
    split at step
    · next final phase point =>
      split at step
      · obtain rfl := Option.some.inj step
        exact .outside rfl (by rw [point]; rfl) rfl rfl
      · cases step
    · cases step
  | answer =>
    rw [NodeArgs.step] at step
    split at step
    · next final phase exchange request point flight =>
      obtain rfl := Option.some.inj step
      exact .outside rfl (by rw [point]; rfl) rfl rfl
    · cases step
  | read fresh now => exact countEffect_read step
  | zero =>
    rw [NodeArgs.step] at step
    split at step
    · obtain rfl := Option.some.inj step
      exact .resets rfl rfl rfl
    · cases step
  | settle =>
    rw [NodeArgs.step] at step
    split at step
    · next final bootId point =>
      obtain rfl := Option.some.inj step
      exact .outside rfl (by rw [point]; rfl) rfl rfl
    · cases step
  | fail =>
    rw [NodeArgs.step] at step
    split at step
    · next final phase exchange point =>
      obtain rfl := Option.some.inj step
      obtain ⟨p, moved, leaves⟩ := leaves_unavailable w final
      rw [moved]
      exact .leaves rfl (by rw [point]; rfl) rfl leaves
    · cases step
  | omits =>
    rw [NodeArgs.step] at step
    split at step
    · next guard =>
      obtain rfl := Option.some.inj step
      exact .omits guard.1 guard.2 rfl rfl
    · cases step
  | send values =>
    rw [NodeArgs.step] at step
    split at step
    · next guard =>
      obtain rfl := Option.some.inj step
      exact .sends guard.1 (Bool.eq_false_of_not_eq_true guard.2) rfl rfl
    · cases step
  | sendFails =>
    rw [NodeArgs.step] at step
    split at step
    · next guard =>
      obtain rfl := Option.some.inj step
      exact .sends guard.1 (Bool.eq_false_of_not_eq_true guard.2) rfl rfl
    · cases step
  | count =>
    rw [NodeArgs.step] at step
    split at step
    · next point =>
      obtain rfl := Option.some.inj step
      exact .counts (by rw [point]; rfl) rfl rfl rfl
    · next point =>
      obtain rfl := Option.some.inj step
      exact .counts (by rw [point]; rfl) rfl rfl rfl
    · cases step
  | advance =>
    rw [NodeArgs.step] at step
    split at step
    · next point =>
      obtain rfl := Option.some.inj step
      exact .advances point rfl rfl
    · cases step
  | total =>
    rw [NodeArgs.step] at step
    split at step
    · next point =>
      obtain rfl := Option.some.inj step
      exact .outside rfl (by rw [point]; rfl) rfl rfl
    · cases step
  | wake =>
    rw [NodeArgs.step] at step
    split at step
    · next point =>
      obtain rfl := Option.some.inj step
      exact .outside rfl (by rw [point]; rfl) rfl rfl
    · cases step
  | deliver k clock =>
    rw [NodeArgs.step] at step
    split at step
    · obtain rfl := Option.some.inj step
      exact unchanged rfl rfl
    · cases step
  | serveStale k =>
    rw [NodeArgs.step] at step
    split at step
    · obtain rfl := Option.some.inj step
      exact unchanged rfl rfl
    · cases step
  | restart startedAt bootId =>
    rw [NodeArgs.step] at step
    split at step
    · obtain rfl := Option.some.inj step
      exact unchanged rfl rfl
    · cases step
  | others op =>
    rw [NodeArgs.step] at step
    split at step
    · cases step
    · obtain rfl := Option.some.inj step
      exact unchanged rfl rfl

theorem scheduled_init (a : NodeArgs) (startedAt bootId : Int) :
    (a.world startedAt bootId).Scheduled a where
  omitted := rfl
  sending sends := by cases sends

/-- Every run follows the schedule. -/
theorem scheduled_exec (a : NodeArgs) (startedAt bootId : Int) (events : List WorldEvent) :
    ((a.machine startedAt bootId).exec (a.world startedAt bootId) events).Scheduled a := by
  refine Machine.exec_preserves (M := a.machine startedAt bootId)
    (P := fun w => World.Scheduled w a) (fun w event h => ?_)
    (scheduled_init a startedAt bootId) events
  show ((a.step w event).getD w).Scheduled a
  cases step : a.step w event with
  | none => exact h
  | some w' => exact (countEffect_step step).scheduled h

/-- The attempts of the session that are in the counters. -/
def attemptsMade (w : World) : Nat := w.counters.attempts + w.point.unattempted

/-- The counters of the main loop at a percentage. -/
theorem counters_drop {percentage : ℚ} (low : 0 ≤ percentage) (high : percentage ≤ 100)
    (drops : ∀ sequence, a.omittedByDrop sequence = omittedByDrop sequence percentage)
    (startedAt bootId : Int) (events : List WorldEvent)
    (run : (a.machine startedAt bootId).exec (a.world startedAt bootId) events = w) :
    (w.counters.omitted : ℤ) = ⌊(w.attemptsMade : ℚ) * percentage / 100⌋ ∧
      (w.counters.sent + w.counters.sendErrors : ℤ) = w.attemptsMade - w.counters.omitted := by
  have scheduled := scheduled_exec a startedAt bootId events
  have sum := ((inv_init a startedAt bootId).exec startedAt bootId events).accounts.sum
  rw [run] at scheduled sum
  have same : a.omittedByDrop = (omittedByDrop · percentage) := funext drops
  constructor
  · rw [scheduled.omitted, same]
    exact countP_omittedByDrop_first low high w.attemptsMade
  · unfold attemptsMade
    omega

end World

/-- For every percentage, the omissions of a window of attempts are the rise of the floor over it,
those of the first attempts of a session the floor itself, and those of any window the floor for its
length or one more. In every run of a node with the percentage, `omitted` is the floor for the
attempts of the session that were made, and the others were sent or failed. -/
theorem drop_schedule {percentage : ℚ} (low : 0 ≤ percentage) (high : percentage ≤ 100) :
    (∀ k n : Nat, (((List.range' k n).countP (omittedByDrop · percentage) : Nat) : ℤ) =
        ⌊((k : ℚ) + n) * percentage / 100⌋ - ⌊(k : ℚ) * percentage / 100⌋) ∧
      (∀ n : Nat, (((List.range n).countP (omittedByDrop · percentage) : Nat) : ℤ) =
        ⌊(n : ℚ) * percentage / 100⌋) ∧
      (∀ k n : Nat, (((List.range' k n).countP (omittedByDrop · percentage) : Nat) : ℤ) =
          ⌊(n : ℚ) * percentage / 100⌋ ∨
        (((List.range' k n).countP (omittedByDrop · percentage) : Nat) : ℤ) =
          ⌊(n : ℚ) * percentage / 100⌋ + 1) ∧
      ∀ (a : NodeArgs) (startedAt bootId : Int) (events : List WorldEvent),
        (∀ sequence, a.omittedByDrop sequence = omittedByDrop sequence percentage) →
        let w := (a.machine startedAt bootId).exec (a.world startedAt bootId) events
        (w.counters.omitted : ℤ) = ⌊(w.attemptsMade : ℚ) * percentage / 100⌋ ∧
          (w.counters.sent + w.counters.sendErrors : ℤ) =
            w.attemptsMade - w.counters.omitted := by
  refine ⟨countP_omittedByDrop low high, countP_omittedByDrop_first low high, fun k n => ?_,
    fun a startedAt bootId events drops =>
      World.counters_drop low high drops startedAt bootId events rfl⟩
  rw [countP_omittedByDrop low high]
  simp only [mul_div_assoc]
  exact floor_window (percentage / 100) k n

/-- A node that omits every second attempt. -/
def halvedNode : NodeArgs := { nodeArgsN with omittedByDrop := (omittedByDrop · 50) }

/-- The first attempt is sent, the second one is omitted. -/
def halvedEvents : List WorldEvent :=
  firstDatagram ++ [.count, .advance, .total, .wake, .check 1, .omits]

theorem drop_schedule_sample :
    (List.range' 3 4).countP (omittedByDrop · 50) = 2 ∧
      let w := (halvedNode.machine 0 7).exec (halvedNode.world 0 7) halvedEvents
      w.counters = ⟨1, 1, 1, 0⟩ ∧ w.attemptsMade = 2 ∧
        (w.counters.omitted : ℤ) = ⌊(w.attemptsMade : ℚ) * 50 / 100⌋ := by
  obtain ⟨window, -, -, run⟩ := drop_schedule (show (0 : ℚ) ≤ 50 by norm_num) (by norm_num)
  refine ⟨?_, by decide +kernel, by decide +kernel,
    (run halvedNode 0 7 halvedEvents fun _ => rfl).1⟩
  have count := window 3 4
  norm_num at count
  exact_mod_cast count

end Telep
