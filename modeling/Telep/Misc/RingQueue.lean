import Mathlib.Data.Nat.ModEq
import Mathlib.Logic.Function.Basic

/-!
# Queues in a ring of cells

A first-in first-out queue kept in `n` cells with the index of its first element and the
number of its elements. `contents` is the list it stands for; `push` and `pop` are `append` and
`tail` on that list while the queue stays within its cells.
-/

namespace Telep

universe u

structure RingQueue (α : Type u) where
  head : Nat
  count : Nat
  cells : Nat → α

namespace RingQueue

variable {α : Type u} {n : Nat}

/-- The indices of a queue of `n` cells. -/
structure Within (n : Nat) (q : RingQueue α) : Prop where
  head_lt : q.head < n
  count_le : q.count ≤ n

/-- The elements in the order they were pushed. -/
def contents (n : Nat) (q : RingQueue α) : List α :=
  (List.range q.count).map fun k => q.cells ((q.head + k) % n)

/-- Writes `x` to the first free cell. -/
def push (n : Nat) (q : RingQueue α) (x : α) : RingQueue α :=
  { q with cells := Function.update q.cells ((q.head + q.count) % n) x, count := q.count + 1 }

/-- Gives up the first cell. -/
def pop (n : Nat) (q : RingQueue α) : RingQueue α :=
  { q with head := (q.head + 1) % n, count := q.count - 1 }

@[simp] theorem contents_length (q : RingQueue α) : (q.contents n).length = q.count := by
  simp [contents]

theorem contents_of_count_eq_zero {q : RingQueue α} (h : q.count = 0) : q.contents n = [] := by
  simp [contents, h]

/-- Two cells of a queue are one cell only when they hold one element. -/
theorem cell_injective {h i j : Nat} (hi : i < n) (hj : j < n)
    (same : (h + i) % n = (h + j) % n) : i = j := by
  have := Nat.ModEq.add_left_cancel' h (show Nat.ModEq n (h + i) (h + j) from same)
  rwa [Nat.ModEq, Nat.mod_eq_of_lt hi, Nat.mod_eq_of_lt hj] at this

theorem contents_push {q : RingQueue α} (room : q.count < n) (x : α) :
    (q.push n x).contents n = q.contents n ++ [x] := by
  have old : ∀ k ∈ List.range q.count,
      (q.push n x).cells ((q.head + k) % n) = q.cells ((q.head + k) % n) := by
    intro k hk
    have lt := List.mem_range.mp hk
    refine Function.update_of_ne (fun same => ?_) _ _
    have := cell_injective (lt.trans room) room same
    omega
  have new : (q.push n x).cells ((q.head + q.count) % n) = x := Function.update_self _ _ _
  rw [contents, push, List.range_succ, List.map_append, List.map_singleton]
  exact congrArg₂ (· ++ [·]) (List.map_congr_left old) new

theorem contents_pop {q : RingQueue α} (within : q.Within n) (nonempty : q.count ≠ 0) :
    q.contents n = q.cells q.head :: (q.pop n).contents n := by
  obtain ⟨m, hm⟩ := Nat.exists_eq_succ_of_ne_zero nonempty
  rw [contents, contents, pop, hm, List.range_succ_eq_map, List.map_cons, List.map_map,
    Nat.add_zero, Nat.mod_eq_of_lt within.head_lt]
  refine congrArg (_ :: ·) (List.map_congr_left fun k _ => ?_)
  dsimp only [Function.comp]
  rw [Nat.mod_add_mod, Nat.succ_eq_add_one, Nat.add_assoc, Nat.add_comm 1 k]

theorem Within.push {q : RingQueue α} (within : q.Within n) (room : q.count < n) (x : α) :
    (q.push n x).Within n := ⟨within.head_lt, room⟩

theorem Within.pop {q : RingQueue α} (within : q.Within n) : (q.pop n).Within n :=
  ⟨Nat.mod_lt _ (Nat.zero_lt_of_lt within.head_lt), (Nat.sub_le _ _).trans within.count_le⟩

end RingQueue

end Telep
