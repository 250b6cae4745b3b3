import Mathlib.Tactic.Linarith
import Mathlib.Tactic.Ring
import Telep.Misc.Text

/-!
# Rounding to hundredths

The number that `%.2f` prints: a nearest hundredth, which does not leave an interval with integer
ends.
-/

namespace Telep

theorem roundHalfEven_cases {q : ℚ} (nonneg : 0 ≤ q) :
    ((roundHalfEven q : ℚ) = q.floor ∧ q - q.floor ≤ 1 / 2) ∨
      ((roundHalfEven q : ℚ) = q.floor + 1 ∧ 1 / 2 ≤ q - q.floor) := by
  have floor : ((q.floor.toNat : Nat) : ℚ) = q.floor := by
    have : (0 : ℤ) ≤ q.floor := Int.floor_nonneg.mpr nonneg
    exact_mod_cast Int.toNat_of_nonneg this
  unfold roundHalfEven
  dsimp only
  split_ifs with below above even
  · exact .inl ⟨floor, below.le⟩
  · exact .inr ⟨by push_cast; rw [floor], above.le⟩
  · exact .inl ⟨floor, not_lt.mp above⟩
  · exact .inr ⟨by push_cast; rw [floor], not_lt.mp below⟩

/-- No integer is nearer. -/
theorem roundHalfEven_near {q : ℚ} (nonneg : 0 ≤ q) : |(roundHalfEven q : ℚ) - q| ≤ 1 / 2 := by
  have low : (q.floor : ℚ) ≤ q := Int.floor_le q
  have high : q < q.floor + 1 := Int.lt_floor_add_one q
  rw [abs_le]
  rcases roundHalfEven_cases nonneg with ⟨round, half⟩ | ⟨round, half⟩
  · rw [round]
    constructor <;> linarith
  · rw [round]
    constructor <;> linarith

theorem roundHalfEven_le {q : ℚ} {n : Nat} (nonneg : 0 ≤ q) (le : q ≤ n) :
    roundHalfEven q ≤ n := by
  by_contra beyond
  have far : (n : ℚ) + 1 ≤ roundHalfEven q := by exact_mod_cast not_le.mp beyond
  have near := (abs_le.mp (roundHalfEven_near nonneg)).2
  linarith

theorem hundredths_le {q : ℚ} (range : |q| ≤ 1000000) :
    roundHalfEven (|q| * 100) ≤ 100000000 := by
  have nonneg : (0 : ℚ) ≤ |q| * 100 := mul_nonneg (abs_nonneg q) (by norm_num)
  refine roundHalfEven_le nonneg ?_
  push_cast
  linarith

theorem formatFixed2_short {q : ℚ} (range : |q| ≤ 1000000) : (formatFixed2 q).length ≤ 11 := by
  have small := hundredths_le range
  exact formatFixed2_length_le (k := 7) (by decide) (by omega)

/-- The number that `%.2f` prints. -/
def roundedHundredths (q : ℚ) : ℚ := (if q < 0 then -1 else 1) * (roundHalfEven (|q| * 100) / 100)

/-- It is a whole number of hundredths, and no other is nearer. -/
theorem roundedHundredths_near (q : ℚ) :
    (∃ k : ℤ, roundedHundredths q = k / 100) ∧ |roundedHundredths q - q| ≤ 1 / 200 := by
  have nonneg : (0 : ℚ) ≤ |q| * 100 := mul_nonneg (abs_nonneg q) (by norm_num)
  obtain ⟨low, high⟩ := abs_le.mp (roundHalfEven_near nonneg)
  unfold roundedHundredths
  split
  · next negative =>
    rw [abs_of_neg negative] at low high ⊢
    refine ⟨⟨-roundHalfEven (-q * 100), by push_cast; ring⟩, abs_le.mpr ?_⟩
    constructor <;> linarith
  · next positive =>
    rw [abs_of_nonneg (not_lt.mp positive)] at low high ⊢
    refine ⟨⟨roundHalfEven (q * 100), by push_cast; ring⟩, abs_le.mpr ?_⟩
    constructor <;> linarith

/-- A number above a whole threshold once it is rounded is above it. -/
theorem lt_of_lt_roundedHundredths {q : ℚ} {n : Nat} (h : (n : ℚ) < roundedHundredths q) :
    (n : ℚ) < q := by
  obtain ⟨⟨k, whole⟩, near⟩ := roundedHundredths_near q
  rw [whole] at h near
  have cents : (n : ℚ) * 100 < k := by linarith
  have next : (n : ℤ) * 100 + 1 ≤ k := by exact_mod_cast cents
  have next : (n : ℚ) * 100 + 1 ≤ k := by exact_mod_cast next
  have close := (abs_le.mp near).2
  linarith

/-- Rounding keeps a value between integers. -/
theorem roundedHundredths_mem {q : ℚ} {low high : Nat} (low_le : -(low : ℚ) ≤ q)
    (le_high : q ≤ high) :
    -(low : ℚ) ≤ roundedHundredths q ∧ roundedHundredths q ≤ high := by
  have round (bound : Nat) (le : |q| ≤ bound) :
      (roundHalfEven (|q| * 100) : ℚ) / 100 ≤ bound := by
    have nonneg : (0 : ℚ) ≤ |q| * 100 := mul_nonneg (abs_nonneg q) (by norm_num)
    have := roundHalfEven_le (n := bound * 100) nonneg (by push_cast; linarith)
    have cast : (roundHalfEven (|q| * 100) : ℚ) ≤ (bound : ℚ) * 100 := by exact_mod_cast this
    linarith
  have pos : (0 : ℚ) ≤ (roundHalfEven (|q| * 100) : ℚ) / 100 := by positivity
  have lows : (0 : ℚ) ≤ low := Nat.cast_nonneg low
  have highs : (0 : ℚ) ≤ high := Nat.cast_nonneg high
  unfold roundedHundredths
  split
  · next negative =>
    have := round low (by rw [abs_of_neg negative]; linarith)
    exact ⟨by linarith, by linarith⟩
  · next positive =>
    have := round high (by rw [abs_of_nonneg (not_lt.mp positive)]; exact le_high)
    exact ⟨by linarith, by linarith⟩

end Telep
