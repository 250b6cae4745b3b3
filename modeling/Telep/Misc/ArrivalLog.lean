import Mathlib.Data.List.Induction
import Mathlib.Order.Lattice

/-!
# Logs of numbered arrivals

What a receiver of numbered items can say about the items it accepted, in the order it
accepted them: which arrivals brought a new number, which one carries the highest number, and
how many arrived after an item with a higher number. All three are computed one arrival at a
time, and the lemmas say what one more arrival does to them.
-/

namespace Telep.ArrivalLog

universe u v

variable {α : Type u} {β : Type v} [LinearOrder α]

/-- The newer of the newest arrival so far and one more arrival. -/
def newer (best : Option (α × β)) (e : α × β) : Option (α × β) :=
  match best with
  | none => some e
  | some m => if e.1 < m.1 then some m else some e

/-- The arrival with the highest number. -/
def newest (log : List (α × β)) : Option (α × β) := log.foldl newer none

/-- The arrivals kept so far and one more, which is dropped when its number is known. -/
def keepFirst (kept : List (α × β)) (e : α × β) : List (α × β) :=
  if e.1 ∈ kept.map Prod.fst then kept else kept ++ [e]

/-- The first arrival of each number. -/
def firsts (log : List (α × β)) : List (α × β) := log.foldl keepFirst []

/-- How many of `xs`, arriving in order after `earlier`, are below something that arrived
before them. -/
def overtakenFrom (earlier : List α) : List α → Nat
  | [] => 0
  | x :: xs => (if ∃ y ∈ earlier, x < y then 1 else 0) + overtakenFrom (x :: earlier) xs

/-- How many arrivals are below an earlier arrival. -/
def overtaken (log : List (α × β)) : Nat := overtakenFrom [] (log.map Prod.fst)

theorem mem_keepFirst {kept : List (α × β)} {e : α × β} {a : α} :
    a ∈ (keepFirst kept e).map Prod.fst ↔ a ∈ kept.map Prod.fst ∨ a = e.1 := by
  unfold keepFirst
  split
  · next known =>
    constructor
    · exact .inl
    · rintro (h | rfl)
      · exact h
      · exact known
  · rw [List.map_append, List.mem_append, List.map_singleton, List.mem_singleton]

/-- Every number that arrived has its first arrival. -/
theorem mem_firsts {log : List (α × β)} {a : α} :
    a ∈ (firsts log).map Prod.fst ↔ a ∈ log.map Prod.fst := by
  induction log using List.reverseRecOn with
  | nil => rfl
  | append_singleton log e ih =>
    have last : firsts (log ++ [e]) = keepFirst (firsts log) e := by simp [firsts]
    rw [last, mem_keepFirst, ih, List.map_append, List.mem_append, List.map_singleton,
      List.mem_singleton]

@[simp] theorem firsts_nil : firsts ([] : List (α × β)) = [] := rfl

theorem firsts_concat (log : List (α × β)) (e : α × β) :
    firsts (log ++ [e]) = if e.1 ∈ log.map Prod.fst then firsts log else firsts log ++ [e] := by
  have last : firsts (log ++ [e]) = keepFirst (firsts log) e := by simp [firsts]
  simp only [last, keepFirst, mem_firsts]

theorem newest_concat (log : List (α × β)) (e : α × β) :
    newest (log ++ [e]) = newer (newest log) e := by
  simp [newest]

theorem newest_eq_none {log : List (α × β)} : newest log = none ↔ log = [] := by
  constructor
  · intro h
    induction log using List.reverseRecOn with
    | nil => rfl
    | append_singleton log e _ =>
      rw [newest_concat] at h
      unfold newer at h
      split at h
      · simp at h
      · split at h <;> simp at h
  · rintro rfl
    rfl

/-- The newest arrival is an arrival, and no arrival is above it. -/
theorem newest_spec {log : List (α × β)} {m : α × β} (h : newest log = some m) :
    m ∈ log ∧ ∀ e ∈ log, e.1 ≤ m.1 := by
  induction log using List.reverseRecOn generalizing m with
  | nil => simp [newest] at h
  | append_singleton log e ih =>
    rw [newest_concat] at h
    unfold newer at h
    cases hl : newest log with
    | none =>
      obtain rfl : e = m := by simpa [hl] using h
      simp [newest_eq_none.mp hl]
    | some b =>
      obtain ⟨member, above⟩ := ih hl
      by_cases below : e.1 < b.1
      · obtain rfl : b = m := by simpa [hl, below] using h
        refine ⟨List.mem_append_left _ member, fun d hd => ?_⟩
        rcases List.mem_append.mp hd with hd | hd
        · exact above d hd
        · rw [List.mem_singleton.mp hd]
          exact below.le
      · obtain rfl : e = m := by simpa [hl, below] using h
        refine ⟨by simp, fun d hd => ?_⟩
        rcases List.mem_append.mp hd with hd | hd
        · exact (above d hd).trans (not_lt.mp below)
        · rw [List.mem_singleton.mp hd]

theorem overtakenFrom_concat (earlier xs : List α) (x : α) :
    overtakenFrom earlier (xs ++ [x]) =
      overtakenFrom earlier xs + if ∃ y ∈ earlier ++ xs, x < y then 1 else 0 := by
  induction xs generalizing earlier with
  | nil => simp [overtakenFrom]
  | cons z xs ih =>
    have same : (∃ y ∈ z :: earlier ++ xs, x < y) ↔ ∃ y ∈ earlier ++ z :: xs, x < y := by
      simp only [List.mem_append, List.mem_cons]
      constructor <;> rintro ⟨y, hy, lt⟩ <;> exact ⟨y, by tauto, lt⟩
    rw [List.cons_append, overtakenFrom, overtakenFrom, ih, Nat.add_assoc]
    simp only [same]

/-- One more arrival is overtaken exactly when it is below the newest one. -/
theorem overtaken_concat (log : List (α × β)) (e : α × β) :
    overtaken (log ++ [e]) =
      overtaken log + (newest log).elim 0 fun m => if e.1 < m.1 then 1 else 0 := by
  rw [overtaken, List.map_append, List.map_singleton, overtakenFrom_concat, ← overtaken,
    List.nil_append]
  congr 1
  cases hl : newest log with
  | none => simp [newest_eq_none.mp hl]
  | some m =>
    obtain ⟨member, above⟩ := newest_spec hl
    have same : (∃ y ∈ log.map Prod.fst, e.1 < y) ↔ e.1 < m.1 := by
      constructor
      · rintro ⟨y, hy, lt⟩
        obtain ⟨d, hd, rfl⟩ := List.mem_map.mp hy
        exact lt.trans_le (above d hd)
      · intro lt
        exact ⟨m.1, List.mem_map_of_mem member, lt⟩
    simp only [same, Option.elim]

end Telep.ArrivalLog
