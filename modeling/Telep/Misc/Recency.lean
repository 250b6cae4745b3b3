import Mathlib.Algebra.Order.Group.Basic
import Telep.Misc.Machine

/-!
# Stamps and whether one of them is recent

Something happens now and then along a run and leaves a stamp of the clock. A cell that keeps only
the last stamp, zero while there is none, tells whether it happened within the last `limit` as long
as the clock does not go back (`recent_iff`).
-/

namespace Telep

universe u v w y

variable {α : Type u}

/-- What a cell holds that keeps the last stamp. -/
def lastStamp [Zero α] (stamps : List α) : α := stamps.getLast?.getD 0

section Cells

@[simp] theorem lastStamp_nil [Zero α] : lastStamp ([] : List α) = 0 := rfl

@[simp] theorem lastStamp_concat [Zero α] (stamps : List α) (t : α) :
    lastStamp (stamps ++ [t]) = t := by
  simp [lastStamp]

theorem lastStamp_mem [Zero α] {stamps : List α} (some : stamps ≠ []) :
    lastStamp stamps ∈ stamps := by
  rw [lastStamp, List.getLast?_eq_some_getLast some]
  exact List.getLast_mem some

variable [AddCommGroup α] [LinearOrder α] [IsOrderedAddMonoid α] {stamps : List α}

omit [IsOrderedAddMonoid α] in
/-- The last of stamps that do not go back is the greatest. -/
theorem le_lastStamp (sorted : stamps.Pairwise (· ≤ ·)) {t : α} (member : t ∈ stamps) :
    t ≤ lastStamp stamps := by
  rcases List.eq_nil_or_concat stamps with rfl | ⟨before, last, rfl⟩
  · cases member
  · rw [List.concat_eq_append] at sorted member ⊢
    rw [lastStamp_concat]
    rw [List.mem_append, List.mem_singleton] at member
    rcases member with earlier | rfl
    · exact (List.pairwise_append.mp sorted).2.2 t earlier last (List.mem_singleton_self _)
    · exact le_rfl

omit [IsOrderedAddMonoid α] in
theorem lastStamp_eq_zero (positive : ∀ t ∈ stamps, 0 < t) :
    lastStamp stamps = 0 ↔ stamps = [] := by
  constructor
  · intro zero
    by_contra some
    exact (positive _ (lastStamp_mem some)).ne' zero
  · rintro rfl
    rfl

/-- The cell tells whether a stamp is recent. -/
theorem recent_iff (sorted : stamps.Pairwise (· ≤ ·)) (positive : ∀ t ∈ stamps, 0 < t)
    (now limit : α) :
    (lastStamp stamps ≠ 0 ∧ now - lastStamp stamps < limit) ↔
      ∃ t ∈ stamps, now - t < limit := by
  rw [Ne, lastStamp_eq_zero positive]
  constructor
  · rintro ⟨some, recent⟩
    exact ⟨_, lastStamp_mem some, recent⟩
  · rintro ⟨t, member, recent⟩
    exact ⟨List.ne_nil_of_mem member,
      lt_of_le_of_lt (sub_le_sub_left (le_lastStamp sorted member) now) recent⟩

end Cells

/-! ## Stamps along a run -/

namespace Machine

variable {σ : Type u} {ι : Type v} {ο : Type w} {β : Type y} (M : Machine σ ι ο)
  {f : σ → ι → List β} {s : σ} {is : List ι}

/-- What was collected comes from a step of the run. -/
theorem mem_collect {b : β} :
    b ∈ M.collect f s is ↔ ∃ js i ks, is = js ++ i :: ks ∧ b ∈ f (M.exec s js) i := by
  induction is generalizing s with
  | nil => simp [collect]
  | cons i is ih =>
    rw [collect, List.mem_append, ih]
    constructor
    · rintro (now | ⟨js, i', ks, rfl, later⟩)
      · exact ⟨[], i, is, rfl, now⟩
      · exact ⟨i :: js, i', ks, rfl, later⟩
    · rintro ⟨js, i', ks, split, within⟩
      cases js with
      | nil =>
        obtain ⟨rfl, rfl⟩ := List.cons.inj split
        exact .inl within
      | cons j js =>
        obtain ⟨rfl, rfl⟩ := List.cons.inj split
        exact .inr ⟨js, i', ks, rfl, within⟩

/-- Steps that contribute at most what their inputs carry. -/
theorem collect_sublist {g : ι → List β} (each : ∀ s i, List.Sublist (f s i) (g i)) :
    List.Sublist (M.collect f s is) (is.flatMap g) := by
  induction is generalizing s with
  | nil => exact List.Sublist.refl _
  | cons i is ih =>
    rw [collect, List.flatMap_cons]
    exact (each s i).append ih

end Machine

end Telep
