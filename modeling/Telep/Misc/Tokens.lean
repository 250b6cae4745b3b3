import Telep.Misc.Frames

/-!
# Tokens of a text

The parts between the marks of a text, the frames of a stream, and the tokens of a text: the parts
that are not empty, as `strtok` finds them.
-/

namespace Telep

universe u

variable {α : Type u} [DecidableEq α] {mark : α} {word rest text : List α}

/-- No part contains the mark. -/
theorem not_mem_of_mem_splitOn {part : List α} (member : part ∈ text.splitOn mark) :
    mark ∉ part := by
  induction text generalizing part with
  | nil =>
    rw [List.splitOn_nil, List.mem_singleton] at member
    simp [member]
  | cons c text ih =>
    rw [List.splitOn_cons_eq_if_modifyHead] at member
    split at member
    · rcases List.mem_cons.mp member with rfl | member
      · exact List.not_mem_nil
      · exact ih member
    · next other =>
      cases parts : text.splitOn mark with
      | nil => exact absurd parts (List.splitOn_ne_nil mark text)
      | cons first parts' =>
        rw [parts, List.modifyHead_cons] at member
        rw [parts] at ih
        rcases List.mem_cons.mp member with rfl | member
        · intro within
          rcases List.mem_cons.mp within with rfl | within
          · simp at other
          · exact ih List.mem_cons_self within
        · exact ih (List.mem_cons_of_mem _ member)

/-- Every stream is a stream of frames and a part without a mark. -/
theorem exists_frames (mark : α) (stream : List α) :
    ∃ contents last, stream = frames mark contents ++ last ∧
      (∀ frame ∈ contents, mark ∉ frame) ∧ mark ∉ last := by
  induction stream with
  | nil => exact ⟨[], [], rfl, by simp, List.not_mem_nil⟩
  | cons c stream ih =>
    obtain ⟨contents, last, rfl, clean, partial_clean⟩ := ih
    by_cases same : c = mark
    · subst same
      refine ⟨[] :: contents, last, by simp, ?_, partial_clean⟩
      exact List.forall_mem_cons.mpr ⟨List.not_mem_nil, clean⟩
    · have other : mark ∉ [c] := fun h => same (List.mem_singleton.mp h).symm
      cases contents with
      | nil =>
        refine ⟨[], c :: last, by simp, by simp, ?_⟩
        rw [List.mem_cons, not_or]
        exact ⟨Ne.symm same, partial_clean⟩
      | cons frame contents =>
        refine ⟨(c :: frame) :: contents, last, by simp, ?_, partial_clean⟩
        obtain ⟨first, rest⟩ := List.forall_mem_cons.mp clean
        refine List.forall_mem_cons.mpr ⟨?_, rest⟩
        rw [List.mem_cons, not_or]
        exact ⟨Ne.symm same, first⟩

/-- The frames are parts, before the parts of the rest. -/
theorem splitOn_frames {contents : List (List α)} (clean : ∀ frame ∈ contents, mark ∉ frame) :
    (frames mark contents ++ rest).splitOn mark = contents ++ rest.splitOn mark := by
  induction contents with
  | nil => rfl
  | cons frame contents ih =>
    obtain ⟨this, others⟩ := List.forall_mem_cons.mp clean
    rw [frames_cons, List.append_assoc, List.cons_append,
      List.splitOn_append_cons_self_of_not_mem this, ih others, List.cons_append]

/-- The parts of the beginning of a text begin its parts. -/
theorem exists_part_of_append {part : List α} (member : part ∈ text.splitOn mark)
    (more : List α) : ∃ whole ∈ (text ++ more).splitOn mark, part <+: whole := by
  obtain ⟨contents, last, rfl, clean, clean'⟩ := exists_frames mark text
  rw [splitOn_frames clean, List.splitOn_eq_singleton clean', List.mem_append,
    List.mem_singleton] at member
  rw [List.append_assoc, splitOn_frames clean]
  rcases member with member | rfl
  · exact ⟨part, List.mem_append_left _ member, List.prefix_rfl⟩
  · by_cases within : mark ∈ more
    · obtain ⟨before, after, rfl, free⟩ := List.eq_append_cons_of_mem within
      have first : mark ∉ part ++ before := by
        rw [List.mem_append, not_or]
        exact ⟨clean', free⟩
      rw [← List.append_assoc part, List.splitOn_append_cons_self_of_not_mem first]
      exact ⟨part ++ before, List.mem_append_right _ List.mem_cons_self, List.prefix_append _ _⟩
    · have free : mark ∉ part ++ more := by
        rw [List.mem_append, not_or]
        exact ⟨clean', within⟩
      rw [List.splitOn_eq_singleton free]
      exact ⟨part ++ more, List.mem_append_right _ (List.mem_singleton_self _),
        List.prefix_append _ _⟩

theorem length_le_of_mem_splitOn {part : List α} (member : part ∈ text.splitOn mark) :
    part.length ≤ text.length := by
  induction text generalizing part with
  | nil =>
    rw [List.splitOn_nil, List.mem_singleton] at member
    rw [member]
  | cons c text ih =>
    rw [List.splitOn_cons_eq_if_modifyHead] at member
    rw [List.length_cons]
    split at member
    · rcases List.mem_cons.mp member with rfl | member
      · exact Nat.zero_le _
      · exact (ih member).trans (Nat.le_succ _)
    · cases parts : text.splitOn mark with
      | nil => exact absurd parts (List.splitOn_ne_nil mark text)
      | cons first others =>
        rw [parts] at ih
        rw [parts, List.modifyHead_cons] at member
        rcases List.mem_cons.mp member with rfl | member
        · exact Nat.succ_le_succ (ih List.mem_cons_self)
        · exact (ih (List.mem_cons_of_mem _ member)).trans (Nat.le_succ _)

/-- A part of a stream of texts, which may contain the mark, is no longer than one of them. -/
theorem length_le_of_mem_splitOn_frames {texts : List (List α)} {part : List α} {n : Nat}
    (short : ∀ text ∈ texts, text.length ≤ n)
    (member : part ∈ (frames mark texts).splitOn mark) : part.length ≤ n := by
  induction texts with
  | nil =>
    rw [frames_nil, List.splitOn_nil, List.mem_singleton] at member
    rw [member]
    exact Nat.zero_le n
  | cons text texts ih =>
    obtain ⟨this, others⟩ := List.forall_mem_cons.mp short
    rw [frames_cons, List.splitOn_append_cons_self, List.mem_append] at member
    rcases member with member | member
    · exact (length_le_of_mem_splitOn member).trans this
    · exact ih others member

/-- The parts that are not empty. -/
def tokens (mark : α) (text : List α) : List (List α) :=
  (text.splitOn mark).filter fun part => part ≠ []

@[simp] theorem tokens_nil : tokens mark [] = [] := by simp [tokens]

/-- Marks before a token are skipped. -/
@[simp] theorem tokens_mark : tokens mark (mark :: text) = tokens mark text := by
  simp [tokens, List.splitOn_cons_eq_if_modifyHead]

theorem tokens_word (clean : mark ∉ word) (nonempty : word ≠ []) :
    tokens mark (word ++ mark :: rest) = word :: tokens mark rest := by
  rw [tokens, List.splitOn_append_cons_self_of_not_mem clean, List.filter_cons_of_pos (by simpa)]
  rfl

theorem tokens_last (clean : mark ∉ word) (nonempty : word ≠ []) : tokens mark word = [word] := by
  rw [tokens, List.splitOn_eq_singleton clean, List.filter_cons_of_pos (by simpa), List.filter_nil]

/-- The first token and the text after it, once the marks before it are dropped. -/
theorem tokens_first (mark : α) (text : List α) :
    (text.dropWhile (· = mark) = [] ∧ tokens mark text = []) ∨
      ∃ word rest, text.dropWhile (· = mark) = word ++ rest ∧ word ≠ [] ∧ mark ∉ word ∧
        (rest = [] ∨ ∃ more, rest = mark :: more) ∧
        tokens mark text = word :: tokens mark rest := by
  induction text with
  | nil => exact .inl ⟨rfl, tokens_nil⟩
  | cons c text ih =>
    by_cases same : c = mark
    · subst same
      rw [List.dropWhile_cons_of_pos (by simp), tokens_mark]
      exact ih
    · right
      rw [List.dropWhile_cons_of_neg (by simpa using same)]
      rcases first_mark mark (c :: text) with ⟨clean, -⟩ | ⟨more, -, split⟩
      · refine ⟨c :: text, [], (List.append_nil _).symm, List.cons_ne_nil _ _, clean, .inl rfl, ?_⟩
        rw [tokens_nil]
        exact tokens_last clean (List.cons_ne_nil _ _)
      · have clean := not_mem_takeWhile mark (c :: text)
        have nonempty : (c :: text).takeWhile (· ≠ mark) ≠ [] := by simp [same]
        refine ⟨_, mark :: more, split, nonempty, clean, .inr ⟨more, rfl⟩, ?_⟩
        rw [tokens_mark, ← tokens_word clean nonempty, ← split]

/-- Joined parts that are not empty are the tokens. -/
theorem tokens_intercalate {parts : List (List α)}
    (valid : ∀ part ∈ parts, part ≠ [] ∧ mark ∉ part) :
    tokens mark (List.intercalate [mark] parts) = parts := by
  cases parts with
  | nil => simp [List.intercalate]
  | cons part parts =>
    rw [tokens, List.splitOn_intercalate mark (fun part member => (valid part member).2)
      (List.cons_ne_nil part parts)]
    exact List.filter_eq_self.mpr fun part member => by simpa using (valid part member).1

end Telep
