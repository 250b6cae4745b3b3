import Mathlib.Data.Finset.Card
import Mathlib.Data.Finset.Range
import Mathlib.Data.Finset.Insert
import Mathlib.Tactic.Ring

/-!
# Packed bitmaps

A row of bytes read as a set of natural numbers: bit `q % 8` of byte `q / 8` stands for `q`.
`test`, `set` and `count` are the three operations C code writes with shifts and masks;
`members` is the finite set they compute on.
-/

namespace Telep

/-- The bytes of a bitmap, by index. -/
abbrev BitRow := Nat → BitVec 8

namespace BitRow

/-- The one-bit mask of `q` inside its byte. -/
def mask (q : Nat) : BitVec 8 := 1#8 <<< (q % 8)

/-- Whether the bit of `q` is set. -/
def test (row : BitRow) (q : Nat) : Bool := row (q / 8) &&& mask q != 0

/-- The row with the bit of `q` set. -/
def set (row : BitRow) (q : Nat) : BitRow :=
  fun i => if i = q / 8 then row i ||| mask q else row i

/-- How many numbers below `n` have their bit set, counted one by one. -/
def count (row : BitRow) : Nat → Nat
  | 0 => 0
  | q + 1 => row.count q + (row.test q).toNat

/-- The row with no bit set. -/
def empty : BitRow := fun _ => 0

/-- The numbers below `n` whose bit is set. -/
def members (row : BitRow) (n : Nat) : Finset Nat := (Finset.range n).filter fun q => row.test q

theorem test_eq_getLsbD (row : BitRow) (q : Nat) : row.test q = (row (q / 8)).getLsbD (q % 8) := by
  have h8 : q % 8 < 8 := Nat.mod_lt _ (by decide)
  have hm : mask q = BitVec.twoPow 8 (q % 8) := rfl
  have hne : BitVec.twoPow 8 (q % 8) ≠ 0#8 := by
    intro h
    have := congrArg (fun x => x.getLsbD (q % 8)) h
    simp [h8] at this
  rw [test, hm, BitVec.and_twoPow]
  cases hb : (row (q / 8)).getLsbD (q % 8) <;> simp [hne]

@[simp] theorem test_empty (q : Nat) : empty.test q = false := by
  simp [test_eq_getLsbD, empty]

/-- Setting a bit sets that bit and no other. -/
@[simp] theorem test_set (row : BitRow) (p q : Nat) :
    (row.set p).test q = (decide (q = p) || row.test q) := by
  have hm : mask p = BitVec.twoPow 8 (p % 8) := rfl
  have h8 : q % 8 < 8 := Nat.mod_lt _ (by decide)
  rw [test_eq_getLsbD, test_eq_getLsbD, set]
  by_cases hb : q / 8 = p / 8
  · rw [if_pos hb, BitVec.getLsbD_or, hm, BitVec.getLsbD_twoPow]
    have : (decide (p % 8 < 8) && decide (p % 8 = q % 8)) = decide (q = p) := by
      have h8' : p % 8 < 8 := Nat.mod_lt _ (by decide)
      simp only [h8', decide_true, Bool.true_and, decide_eq_decide]
      omega
    rw [this, Bool.or_comm]
  · have hne : q ≠ p := fun h => hb (by rw [h])
    rw [if_neg hb]
    simp [hne]

/-- A row is the set of its bits. -/
theorem ext_test {row row' : BitRow} (h : ∀ q, row.test q = row'.test q) : row = row' := by
  funext i
  refine BitVec.eq_of_getLsbD_eq fun j hj => ?_
  have div : (8 * i + j) / 8 = i := by omega
  have mod : (8 * i + j) % 8 = j := by omega
  have bit := h (8 * i + j)
  rwa [test_eq_getLsbD, test_eq_getLsbD, div, mod] at bit

theorem mem_members {row : BitRow} {n q : Nat} : q ∈ row.members n ↔ q < n ∧ row.test q = true := by
  simp [members]

/-- The counting loop computes the cardinality of the set it runs over. -/
theorem count_eq_card (row : BitRow) (n : Nat) : row.count n = (row.members n).card := by
  induction n with
  | zero => rfl
  | succ n ih =>
    rw [count, ih, members, members, Finset.range_add_one, Finset.filter_insert]
    cases row.test n <;> simp

@[simp] theorem count_empty (n : Nat) : empty.count n = 0 := by
  rw [count_eq_card, Finset.card_eq_zero, Finset.eq_empty_iff_forall_notMem]
  simp [mem_members]

/-- Setting a clear bit adds one to every count past it and leaves the others. -/
theorem count_set {row : BitRow} {q : Nat} (clear : row.test q = false) (n : Nat) :
    (row.set q).count n = row.count n + if q < n then 1 else 0 := by
  induction n with
  | zero => rfl
  | succ n ih =>
    rw [count, count, ih, test_set]
    rcases Nat.lt_trichotomy q n with h | rfl | h
    · have : ¬ n = q := by omega
      simp only [this, h, Nat.lt_succ_of_lt h, decide_false, Bool.false_or, if_true]
      omega
    · simp [clear]
    · have h1 : ¬ n = q := by omega
      have h2 : ¬ q < n := by omega
      have h3 : ¬ q < n + 1 := by omega
      simp [h1, h2, h3]

end BitRow

end Telep
