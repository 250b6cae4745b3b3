import Mathlib.Data.Nat.Digits.Lemmas
import Mathlib.Data.Rat.Floor
import Mathlib.Tactic.IntervalCases

/-!
# Byte strings and printed numbers

Texts are lists of bytes. `decimal`, `formatInt` and `formatFixed2` are what `printf` writes
for an unsigned number, for `%ld` and for `%.2f` of an exact rational; `snprintf` cuts a text
to a buffer. `Printable` is the alphabet of a line that contains neither blanks nor control
bytes.
-/

namespace Telep

abbrev Bytes := List UInt8

/-- The bytes of an ASCII literal. -/
def ascii (s : String) : Bytes := s.toList.map fun c => UInt8.ofNat c.toNat

instance : LawfulBEq Bytes := List.instLawfulBEq

/-- Decided along the list, whatever the type of its elements. -/
instance decidableForallMem {α : Type} {p : α → Prop} [DecidablePred p] (l : List α) :
    Decidable (∀ a ∈ l, p a) := List.decidableBAll p l

/-- The line feed that ends every frame. -/
def lineFeed : UInt8 := 10

/-- The carriage return. -/
def carriageReturn : UInt8 := 13

/-- The decimal digits of `n`, most significant first. -/
def decimal (n : Nat) : Bytes :=
  if n = 0 then [48] else (Nat.digits 10 n).reverse.map fun d => UInt8.ofNat (48 + d)

/-- `%ld`. -/
def formatInt : Int → Bytes
  | .ofNat n => decimal n
  | .negSucc n => 45 :: decimal (n + 1)

/-- The natural number nearest to `q`, the even one of two. -/
def roundHalfEven (q : ℚ) : Nat :=
  let low := q.floor.toNat
  let rest := q - q.floor
  if rest < 1 / 2 then low
  else if 1 / 2 < rest then low + 1
  else if low % 2 = 0 then low else low + 1

/-- `%.2f`: the sign, then the nearest number of hundredths with a point before its last two
digits. A rational has no negative zero, which `printf` writes as `-0.00`. -/
def formatFixed2 (q : ℚ) : Bytes :=
  let hundredths := roundHalfEven (|q| * 100)
  (if q < 0 then [45] else []) ++ decimal (hundredths / 100) ++
    [46, UInt8.ofNat (48 + hundredths / 10 % 10), UInt8.ofNat (48 + hundredths % 10)]

/-- What `snprintf` leaves in a buffer of `size` bytes. -/
def snprintf (size : Nat) (text : Bytes) : Bytes := text.take (size - 1)

/-- Every byte is a printable ASCII character other than the blank. -/
def Printable (s : Bytes) : Prop := ∀ c ∈ s, 33 ≤ c ∧ c ≤ 126

instance (s : Bytes) : Decidable (Printable s) :=
  inferInstanceAs (Decidable (∀ c ∈ s, 33 ≤ c ∧ c ≤ 126))

theorem Printable.append {s t : Bytes} (hs : Printable s) (ht : Printable t) :
    Printable (s ++ t) := by
  intro c hc
  rcases List.mem_append.mp hc with h | h
  · exact hs c h
  · exact ht c h

theorem Printable.take {s : Bytes} (hs : Printable s) (n : Nat) : Printable (s.take n) :=
  fun c hc => hs c (List.mem_of_mem_take hc)

theorem Printable.not_mem_lineFeed {s : Bytes} (h : Printable s) : lineFeed ∉ s :=
  fun hc => absurd (h _ hc).1 (by decide)

theorem Printable.not_mem_carriageReturn {s : Bytes} (h : Printable s) : carriageReturn ∉ s :=
  fun hc => absurd (h _ hc).1 (by decide)

/-- A byte that stands for a decimal digit. -/
def IsDigit (c : UInt8) : Prop := 48 ≤ c ∧ c ≤ 57

theorem isDigit_ofNat {d : Nat} (h : d < 10) : IsDigit (UInt8.ofNat (48 + d)) := by
  unfold IsDigit
  interval_cases d <;> decide

theorem decimal_digits (n : Nat) : ∀ c ∈ decimal n, IsDigit c := by
  unfold decimal
  split
  · simp [IsDigit]
  · intro c hc
    obtain ⟨d, hd, rfl⟩ := List.mem_map.mp hc
    exact isDigit_ofNat (Nat.digits_lt_base (by decide) (List.mem_reverse.mp hd))

theorem decimal_ne_nil (n : Nat) : decimal n ≠ [] := by
  unfold decimal
  split
  · simp
  · simp [Nat.digits_ne_nil_iff_ne_zero, *]

/-- A number below `10 ^ k` has `k` digits at most. -/
theorem decimal_length_le {n k : Nat} (pos : 0 < k) (h : n < 10 ^ k) : (decimal n).length ≤ k := by
  unfold decimal
  split
  · exact pos
  · rw [List.length_map, List.length_reverse, Nat.digits_length_le_iff (by decide)]
    exact h

theorem formatFixed2_length_le {q : ℚ} {k : Nat} (pos : 0 < k)
    (h : roundHalfEven (|q| * 100) / 100 < 10 ^ k) : (formatFixed2 q).length ≤ k + 4 := by
  have digits := decimal_length_le pos h
  unfold formatFixed2
  rw [List.length_append, List.length_append]
  have sign : (if q < 0 then [(45 : UInt8)] else []).length ≤ 1 := by split <;> simp
  simp only [List.length_cons, List.length_nil]
  omega

theorem formatInt_chars (z : Int) : ∀ c ∈ formatInt z, c = 45 ∨ IsDigit c := by
  intro c hc
  cases z with
  | ofNat n => exact .inr (decimal_digits n c hc)
  | negSucc n =>
    rcases List.mem_cons.mp hc with h | h
    · exact .inl h
    · exact .inr (decimal_digits _ c h)

theorem formatInt_ne_nil (z : Int) : formatInt z ≠ [] := by
  cases z with
  | ofNat n => exact decimal_ne_nil n
  | negSucc n => simp [formatInt]

theorem IsDigit.printable {c : UInt8} (h : IsDigit c) : 33 ≤ c ∧ c ≤ 126 := by
  obtain ⟨h1, h2⟩ := h
  have low : (33 : UInt8) ≤ 48 := by decide
  have high : (57 : UInt8) ≤ 126 := by decide
  exact ⟨UInt8.le_trans low h1, UInt8.le_trans h2 high⟩

theorem decimal_printable (n : Nat) : Printable (decimal n) :=
  fun c hc => (decimal_digits n c hc).printable

theorem formatInt_printable (z : Int) : Printable (formatInt z) := by
  intro c hc
  rcases formatInt_chars z c hc with rfl | h
  · decide
  · exact h.printable

theorem formatFixed2_printable (q : ℚ) : Printable (formatFixed2 q) := by
  have digit (n : Nat) : 33 ≤ UInt8.ofNat (48 + n % 10) ∧ UInt8.ofNat (48 + n % 10) ≤ 126 :=
    (isDigit_ofNat (Nat.mod_lt n (by decide))).printable
  unfold formatFixed2
  refine Printable.append (Printable.append ?_ (decimal_printable _)) ?_
  · split <;> simp [Printable]
  · intro c hc
    simp only [List.mem_cons, List.not_mem_nil, or_false] at hc
    rcases hc with rfl | rfl | rfl
    · decide
    · exact digit _
    · exact digit _

/-! ## Cut texts -/

section Cut

variable {size : Nat} {head text : Bytes}

theorem snprintf_length_lt (pos : 0 < size) : (snprintf size text).length < size := by
  have := List.length_take_le (size - 1) text
  rw [snprintf]
  omega

/-- A text that fits is not cut. -/
theorem snprintf_of_length (fits : text.length < size) : snprintf size text = text :=
  List.take_of_length_le (by omega)

theorem Printable.snprintf (h : Printable text) : Printable (snprintf size text) := h.take _

/-- A cut text begins as the text does. -/
theorem prefix_snprintf (begins : head <+: text) (fits : head.length < size) :
    head <+: snprintf size text := by
  obtain ⟨rest, rfl⟩ := begins
  rw [Telep.snprintf, List.take_append, List.take_of_length_le (by omega)]
  exact List.prefix_append _ _

end Cut

theorem length_append_le {s t : Bytes} {m n : Nat} (hs : s.length ≤ m) (ht : t.length ≤ n) :
    (s ++ t).length ≤ m + n := by
  rw [List.length_append]
  exact Nat.add_le_add hs ht

/-- The length of a literal, as `⟨_, rfl, rfl⟩` finds it. -/
theorem ascii_length_le {s : String} {n : Nat}
    (h : ∃ chars : List Char, s = String.ofList chars ∧ chars.length = n) :
    (ascii s).length ≤ n := by
  obtain ⟨chars, rfl, rfl⟩ := h
  rw [ascii, List.length_map, String.toList_ofList]

theorem intercalate_length_le (separator : Bytes) {parts : List Bytes} {n : Nat}
    (each : ∀ part ∈ parts, part.length ≤ n) :
    (List.intercalate separator parts).length ≤ parts.length * (n + separator.length) := by
  induction parts with
  | nil => exact Nat.zero_le _
  | cons part parts ih =>
    have rest := ih fun p hp => each p (List.mem_cons_of_mem _ hp)
    have first := each part List.mem_cons_self
    cases parts with
    | nil =>
      rw [List.intercalate_singleton, List.length_singleton]
      omega
    | cons next parts =>
      rw [List.intercalate_cons_cons, List.length_append, List.length_append, List.length_cons,
        Nat.succ_mul]
      omega

theorem printable_intercalate {separator : Bytes} {parts : List Bytes}
    (hs : Printable separator) (each : ∀ part ∈ parts, Printable part) :
    Printable (List.intercalate separator parts) := by
  induction parts with
  | nil => simp [Printable]
  | cons part parts ih =>
    have rest := ih fun p hp => each p (List.mem_cons_of_mem _ hp)
    have first := each part List.mem_cons_self
    cases parts with
    | nil => rwa [List.intercalate_singleton]
    | cons next parts =>
      rw [List.intercalate_cons_cons]
      exact (first.append hs).append rest

end Telep
