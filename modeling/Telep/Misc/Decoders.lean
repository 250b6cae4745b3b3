import Mathlib.Data.List.Infix

/-!
# Decoders that know where their text ends

A decoder takes a value from the beginning of a list, or nothing. It is exact for a text if it takes
the value from this text whatever follows it, and takes nothing from a part of it: a decoder that
waits for more then stops at the end of the text, however the text arrives.
-/

namespace Telep

universe u v

/-- A decoder of a value at the beginning of a list. -/
def Decoder (ι : Type u) (α : Type v) : Type (max u v) := List ι → Option (α × List ι)

variable {ι : Type u} {α β : Type v}

instance : Monad (Decoder ι) where
  pure a := fun input => some (a, input)
  bind p q := fun input => (p input).bind fun r => q r.1 r.2

namespace Decoder

/-- A step that reads nothing and can fail. -/
def lift (a : Option α) : Decoder ι α := fun input => a.map (·, input)

/-- What stands before the first mark. -/
def upTo [DecidableEq ι] (mark : ι) : Decoder ι (List ι)
  | [] => none
  | c :: rest =>
      if c = mark then some ([], rest) else (upTo mark rest).map fun r => (c :: r.1, r.2)

/-- A number of items. -/
def take (n : Nat) : Decoder ι (List ι) :=
  fun input => if n ≤ input.length then some (input.take n, input.drop n) else none

/-- Fewer values than the limit, up to the decoder's `none`. -/
def many (p : Decoder ι (Option α)) : Nat → Decoder ι (List α)
  | 0 => lift none
  | limit + 1 => do
      match ← p with
      | none => return []
      | some a => return a :: (← many p limit)

/-- The decoder takes the value from this text, and from no part of it. -/
structure Exact (p : Decoder ι α) (text : List ι) (a : α) : Prop where
  reads : ∀ rest, p (text ++ rest) = some (a, rest)
  waits : ∀ part, part <+: text → part ≠ text → p part = none

variable {p : Decoder ι α} {q : α → Decoder ι β} {text text' : List ι} {a : α} {b : β}

theorem exact_pure (a : α) : Exact (pure a : Decoder ι α) [] a where
  reads _ := rfl
  waits _ begins part := absurd (List.prefix_nil.mp begins) part

theorem exact_lift {answer : Option α} (known : answer = some a) :
    Exact (lift answer : Decoder ι α) [] a where
  reads rest := by
    rw [lift, known]
    rfl
  waits _ begins part := absurd (List.prefix_nil.mp begins) part

theorem Exact.bind (first : Exact p text a) (next : Exact (q a) text' b) :
    Exact (p >>= q) (text ++ text') b where
  reads rest := by
    show (p (text ++ text' ++ rest)).bind _ = _
    rw [List.append_assoc, first.reads]
    exact next.reads rest
  waits part begins other := by
    show (p part).bind _ = none
    rcases List.prefix_or_prefix_of_prefix begins (List.prefix_append text text') with
      short | ⟨part', rfl⟩
    · by_cases whole : part = text
      · -- the first decoder ends here, and the second has nothing
        have more : [] ≠ text' := by
          rintro rfl
          exact other (by rw [whole, List.append_nil])
        have reads := first.reads []
        rw [List.append_nil] at reads
        rw [whole, reads]
        exact next.waits [] List.nil_prefix more
      · rw [first.waits part short whole]
        rfl
    · rw [first.reads]
      refine next.waits part' ((List.prefix_append_right_inj text).mp begins) fun same => ?_
      exact other (same ▸ rfl)

/-- A step before that reads nothing. -/
theorem Exact.silent (first : Exact p [] a) (next : Exact (q a) text b) :
    Exact (p >>= q) text b := first.bind next

/-- A last step that reads nothing. -/
theorem Exact.then (first : Exact p text a) (next : Exact (q a) [] b) : Exact (p >>= q) text b := by
  have both := first.bind next
  rwa [List.append_nil] at both

theorem exact_upTo [DecidableEq ι] {mark : ι} {frame : List ι} (clean : mark ∉ frame) :
    Exact (upTo mark : Decoder ι (List ι)) (frame ++ [mark]) frame := by
  induction frame with
  | nil =>
    refine ⟨fun rest => if_pos rfl, fun part begins other => ?_⟩
    cases part with
    | nil => rfl
    | cons c part =>
      obtain ⟨rfl, empty⟩ := List.cons_prefix_cons.mp begins
      obtain rfl := List.prefix_nil.mp empty
      exact absurd rfl other
  | cons c frame ih =>
    obtain ⟨differs, clean⟩ := not_or.mp (mt List.mem_cons.mpr clean)
    have rest := ih clean
    refine ⟨fun more => ?_, fun part begins other => ?_⟩
    · rw [List.cons_append, List.cons_append, upTo, if_neg (Ne.symm differs), rest.reads]
      rfl
    · cases part with
      | nil => rfl
      | cons d part =>
        obtain ⟨rfl, inside⟩ := List.cons_prefix_cons.mp begins
        rw [upTo, if_neg (Ne.symm differs), rest.waits part inside (mt (congrArg (d :: ·)) other)]
        rfl

theorem exact_take (text : List ι) : Exact (take text.length : Decoder ι (List ι)) text text where
  reads rest := by
    rw [take, if_pos (by rw [List.length_append]; exact Nat.le_add_right _ _),
      List.take_left', List.drop_left'] <;> rfl
  waits part begins other := by
    refine if_neg (Nat.not_le.mpr (Nat.lt_of_le_of_ne begins.length_le fun same => other ?_))
    exact begins.eq_of_length same

/-- Several texts in a row and the text of the end. -/
theorem exact_many {p : Decoder ι (Option α)} {print : α → List ι} {last : List ι}
    {values : List α} {limit : Nat} (each : ∀ a ∈ values, Exact p (print a) (some a))
    (ends : Exact p last none) (few : values.length < limit) :
    Exact (many p limit) (values.flatMap print ++ last) values := by
  induction values generalizing limit with
  | nil =>
    obtain ⟨limit, rfl⟩ := Nat.exists_eq_succ_of_ne_zero (Nat.ne_of_gt few)
    exact ends.then (exact_pure _)
  | cons a values ih =>
    obtain ⟨limit, rfl⟩ := Nat.exists_eq_succ_of_ne_zero (Nat.ne_of_gt (Nat.zero_lt_of_lt few))
    obtain ⟨this, others⟩ := List.forall_mem_cons.mp each
    rw [List.flatMap_cons, List.append_assoc]
    exact this.bind ((ih others (Nat.lt_of_succ_lt_succ few)).then (exact_pure _))

end Decoder

end Telep
