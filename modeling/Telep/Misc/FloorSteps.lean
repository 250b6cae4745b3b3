import Mathlib.Algebra.Order.Floor.Ring
import Mathlib.Tactic.Linarith
import Mathlib.Tactic.Ring

/-!
# Steps of a floor

The floors of the multiples of a number from 0 to 1 rise by one or not at all from each multiple to
the next, so the rises of a window are counted by the difference of the floors at its ends.
-/

namespace Telep

universe u

section FloorSteps

variable {K : Type u} [CommRing K] [LinearOrder K] [IsStrictOrderedRing K] [FloorRing K] {r : K}

theorem floor_succ_mul (low : 0 ≤ r) (high : r ≤ 1) (k : Nat) :
    ⌊((k : K) + 1) * r⌋ =
      ⌊(k : K) * r⌋ + if ⌊(k : K) * r⌋ < ⌊((k : K) + 1) * r⌋ then 1 else 0 := by
  have next : ((k : K) + 1) * r = k * r + r := by ring
  have le : ⌊(k : K) * r⌋ ≤ ⌊((k : K) + 1) * r⌋ := Int.floor_mono (by linarith)
  have above : ⌊((k : K) + 1) * r⌋ ≤ ⌊(k : K) * r⌋ + 1 := by
    rw [← Int.floor_add_one]
    exact Int.floor_mono (by linarith)
  split <;> omega

/-- The rises of a window telescope. -/
theorem countP_floor_lt (low : 0 ≤ r) (high : r ≤ 1) (k n : Nat) :
    (((List.range' k n).countP fun i : Nat => ⌊(i : K) * r⌋ < ⌊((i : K) + 1) * r⌋ : Nat) : ℤ) =
      ⌊((k : K) + n) * r⌋ - ⌊(k : K) * r⌋ := by
  induction n with
  | zero => simp
  | succ n ih =>
    have last := floor_succ_mul low high (k + n)
    have start : ((k + n : Nat) : K) = k + n := Nat.cast_add k n
    have ends : (k : K) + (n + 1 : Nat) = k + n + 1 := by rw [Nat.cast_succ, add_assoc]
    rw [start] at last
    rw [List.range'_concat, List.countP_append, Nat.cast_add, ih, ends, last,
      List.countP_singleton, Nat.one_mul, start]
    simp only [decide_eq_true_eq]
    split
    · push_cast
      ring
    · push_cast
      ring

/-- The rises of a window are those of the first window of its length, or one more. -/
theorem floor_window (r : K) (k n : Nat) :
    ⌊((k : K) + n) * r⌋ - ⌊(k : K) * r⌋ = ⌊(n : K) * r⌋ ∨
      ⌊((k : K) + n) * r⌋ - ⌊(k : K) * r⌋ = ⌊(n : K) * r⌋ + 1 := by
  have split : ((k : K) + n) * r = k * r + n * r := by ring
  have low := Int.le_floor_add ((k : K) * r) ((n : K) * r)
  have high := Int.le_floor_add_floor ((k : K) * r) ((n : K) * r)
  rw [split]
  omega

end FloorSteps

end Telep
