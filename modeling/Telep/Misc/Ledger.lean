import Mathlib.Data.List.Count
import Mathlib.Data.List.Perm.Basic
import Mathlib.Data.List.Nodup

/-!
# A ledger

Every item is taken once, and what was taken is either returned or still owed. So an item that is
not owed was returned exactly once, and as many items are owed as were taken and not returned.
-/

namespace Telep

universe u

/-- What was taken, each item once, is what was returned and what is owed. -/
structure Balanced {α : Type u} [BEq α] (taken returned owed : List α) : Prop where
  once : taken.Nodup
  balance : ∀ item, taken.count item = returned.count item + owed.count item

namespace Balanced

variable {α : Type u} [BEq α] {taken returned owed owed' : List α} {item : α}

theorem nil : Balanced ([] : List α) [] [] := ⟨List.nodup_nil, fun _ => rfl⟩

theorem perm (h : Balanced taken returned owed) (same : owed.Perm owed') :
    Balanced taken returned owed' :=
  ⟨h.once, fun item => by rw [h.balance, same.count_eq]⟩

theorem take (h : Balanced taken returned owed) (fresh : item ∉ taken) :
    Balanced (taken ++ [item]) returned (item :: owed) where
  once := List.nodup_append.mpr ⟨h.once, List.nodup_singleton item, fun a member b single => by
    rw [List.mem_singleton.mp single]
    exact ne_of_mem_of_not_mem member fresh⟩
  balance other := by
    simp only [List.count_append, List.count_cons, List.count_nil, h.balance]
    omega

theorem give (h : Balanced taken returned (item :: owed)) :
    Balanced taken (returned ++ [item]) owed where
  once := h.once
  balance other := by
    simp only [List.count_append, List.count_cons, List.count_nil, h.balance]
    omega

variable [LawfulBEq α] (h : Balanced taken returned owed)

include h

theorem count_le (item : α) : returned.count item + owed.count item ≤ 1 :=
  h.balance item ▸ List.nodup_iff_count_le_one.mp h.once item

theorem mem_taken : item ∈ taken ↔ item ∈ returned ∨ item ∈ owed := by
  rw [← List.count_pos_iff, ← List.count_pos_iff, ← List.count_pos_iff, h.balance]
  omega

/-- What is owed is owed once. -/
theorem owed_nodup : owed.Nodup :=
  List.nodup_iff_count_le_one.mpr fun item => Nat.le_trans (Nat.le_add_left _ _) (h.count_le item)

/-- What was taken was returned once if it is not owed, and not yet otherwise. -/
theorem count_returned (member : item ∈ taken) :
    returned.count item = if item ∈ owed then 0 else 1 := by
  have le := h.count_le item
  have one := List.count_eq_one_of_mem h.once member
  rw [h.balance] at one
  split
  · next owes =>
    have := List.count_pos_iff.mpr owes
    omega
  · next free =>
    rw [List.count_eq_zero.mpr free] at one
    exact one

/-- What is owed is what was taken and not returned. -/
theorem perm_owed : owed.Perm (taken.filter (· ∉ returned)) := by
  refine (List.perm_ext_iff_of_nodup h.owed_nodup (h.once.filter _)).mpr fun item => ?_
  rw [List.mem_filter, decide_eq_true_eq, h.mem_taken]
  constructor
  · intro owes
    refine ⟨.inr owes, fun back => ?_⟩
    have le := h.count_le item
    have owes := List.count_pos_iff.mpr owes
    have back := List.count_pos_iff.mpr back
    omega
  · rintro ⟨back | owes, free⟩
    · exact absurd back free
    · exact owes

end Balanced

/-! ## Accounts -/

section Column

universe v

variable {α : Type u} {β : Type v} [DecidableEq α] [DecidableEq β]

/-- The items of a ledger of several accounts that are of one of them. -/
def column (items : List (α × β)) (account : α) : List β :=
  (items.filter (·.1 = account)).map Prod.snd

theorem count_column (items : List (α × β)) (account : α) (item : β) :
    (column items account).count item = items.count (account, item) := by
  induction items with
  | nil => rfl
  | cons entry items ih =>
    obtain ⟨other, it⟩ := entry
    rw [column] at ih ⊢
    by_cases same : other = account
    · simp [same, List.count_cons, ih]
    · simp [same, ih]

variable {taken returned owed : List (α × β)}

/-- A balanced ledger balances in each account. -/
theorem Balanced.column (h : Balanced taken returned owed) (account : α) :
    Balanced (column taken account) (column returned account) (column owed account) where
  once := List.nodup_iff_count_le_one.mpr fun item => by
    rw [count_column]
    exact List.nodup_iff_count_le_one.mp h.once _
  balance item := by
    rw [count_column, count_column, count_column]
    exact h.balance _

end Column

end Telep
