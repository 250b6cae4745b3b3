import Mathlib.Data.List.TakeWhile

/-!
# Frames of a stream

A stream of frames, each ended by one mark that its content does not contain. A reader that holds
the beginning of such a stream holds either the whole first frame or a part of it without a mark,
wherever the stream was cut.
-/

namespace Telep

universe u

variable {α : Type u} {mark : α} {frame buffer rest : List α} {contents : List (List α)}

/-- The stream of the contents, each followed by the mark. -/
def frames (mark : α) (contents : List (List α)) : List α := contents.flatMap (· ++ [mark])

@[simp] theorem frames_nil : frames mark [] = [] := rfl

@[simp] theorem frames_cons :
    frames mark (frame :: contents) = frame ++ mark :: frames mark contents := by
  simp [frames]

theorem frames_append (more : List (List α)) :
    frames mark (contents ++ more) = frames mark contents ++ frames mark more := by
  simp [frames]

theorem length_le_frames : contents.length ≤ (frames mark contents).length := by
  induction contents with
  | nil => exact Nat.le_refl _
  | cons frame contents ih =>
    rw [frames_cons, List.length_cons, List.length_append, List.length_cons]
    omega

/-- The first item that fails a test. -/
theorem first_inj {p : α → Prop} {as bs xs ys : List α} {x y : α} (ha : ∀ a ∈ as, p a)
    (hb : ∀ b ∈ bs, p b) (hx : ¬ p x) (hy : ¬ p y) (same : as ++ x :: xs = bs ++ y :: ys) :
    as = bs ∧ x = y ∧ xs = ys := by
  induction as generalizing bs with
  | nil =>
    cases bs with
    | nil => exact ⟨rfl, List.cons.inj same⟩
    | cons b bs =>
      obtain ⟨rfl, -⟩ := List.cons.inj same
      exact absurd (hb x List.mem_cons_self) hx
  | cons a as ih =>
    obtain ⟨this, others⟩ := List.forall_mem_cons.mp ha
    cases bs with
    | nil =>
      obtain ⟨rfl, -⟩ := List.cons.inj same
      exact absurd this hy
    | cons b bs =>
      obtain ⟨rfl, rest⟩ := List.cons.inj same
      obtain ⟨rfl, both⟩ := ih others (fun b member => hb b (List.mem_cons_of_mem _ member)) rest
      exact ⟨rfl, both⟩

/-- The content before the first mark. -/
theorem mark_inj {other rest' : List α} (clean : mark ∉ frame) (clean' : mark ∉ other)
    (same : frame ++ mark :: rest = other ++ mark :: rest') : frame = other ∧ rest = rest' := by
  obtain ⟨contents, -, rests⟩ := first_inj (p := (· ≠ mark))
    (fun _ member => ne_of_mem_of_not_mem member clean)
    (fun _ member => ne_of_mem_of_not_mem member clean') (not_not.mpr rfl) (not_not.mpr rfl) same
  exact ⟨contents, rests⟩

/-- Of two ways to read a stream, one into all its frames, the other reads the first of them. -/
theorem frames_common {rest' : List α} {more : List (List α)}
    (clean : ∀ frame ∈ contents, mark ∉ frame) (clean' : ∀ frame ∈ more, mark ∉ frame)
    (last : mark ∉ rest') (same : frames mark contents ++ rest = frames mark more ++ rest') :
    ∃ left, more = contents ++ left ∧ rest = frames mark left ++ rest' := by
  induction contents generalizing more with
  | nil => exact ⟨more, rfl, same⟩
  | cons frame contents ih =>
    rw [frames_cons, List.append_assoc, List.cons_append] at same
    cases more with
    | nil =>
      rw [frames_nil, List.nil_append] at same
      simp [← same] at last
    | cons frame' more =>
      rw [frames_cons, List.append_assoc, List.cons_append] at same
      obtain ⟨rfl, tail⟩ := mark_inj (clean frame List.mem_cons_self)
        (clean' frame' List.mem_cons_self) same
      obtain ⟨left, rfl, rest⟩ := ih (fun f h => clean f (List.mem_cons_of_mem _ h))
        (fun f h => clean' f (List.mem_cons_of_mem _ h)) tail
      exact ⟨left, rfl, rest⟩

/-! ## The first mark of a text -/

section FirstMark

variable [DecidableEq α] {text : List α}

theorem not_mem_takeWhile (mark : α) (text : List α) : mark ∉ text.takeWhile (· ≠ mark) := by
  intro member
  simpa using List.mem_takeWhile_imp member

theorem takeWhile_clean (clean : mark ∉ text) : text.takeWhile (· ≠ mark) = text := by
  refine List.takeWhile_eq_self_iff.mpr fun _ member => ?_
  exact decide_eq_true (ne_of_mem_of_not_mem member clean)

/-- What follows a mark does not matter. -/
theorem takeWhile_mark (text rest : List α) :
    (text ++ mark :: rest).takeWhile (· ≠ mark) = text.takeWhile (· ≠ mark) := by
  induction text with
  | nil => simp
  | cons c text ih =>
    rw [List.cons_append, List.takeWhile_cons, List.takeWhile_cons, ih]

theorem takeWhile_frame (clean : mark ∉ frame) (rest : List α) :
    (frame ++ mark :: rest).takeWhile (· ≠ mark) = frame := by
  rw [takeWhile_mark, takeWhile_clean clean]

theorem dropWhile_frame (clean : mark ∉ frame) (rest : List α) :
    (frame ++ mark :: rest).dropWhile (· ≠ mark) = mark :: rest := by
  have split := List.takeWhile_append_dropWhile (p := (· ≠ mark)) (l := frame ++ mark :: rest)
  rw [takeWhile_frame clean] at split
  exact List.append_cancel_left split

/-- A text is cut at its first mark, if it has one. -/
theorem first_mark (mark : α) (text : List α) :
    (mark ∉ text ∧ text.dropWhile (· ≠ mark) = []) ∨
      ∃ rest, text.dropWhile (· ≠ mark) = mark :: rest ∧
        text = text.takeWhile (· ≠ mark) ++ mark :: rest := by
  by_cases member : mark ∈ text
  · obtain ⟨frame, rest, rfl, clean⟩ := List.eq_append_cons_of_mem member
    exact .inr ⟨rest, dropWhile_frame clean rest, by rw [takeWhile_frame clean]⟩
  · have split := List.takeWhile_append_dropWhile (p := (· ≠ mark)) (l := text)
    rw [takeWhile_clean member] at split
    exact .inl ⟨member, List.append_cancel_left (split.trans (List.append_nil text).symm)⟩

end FirstMark

end Telep
