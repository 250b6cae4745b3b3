import Telep.Misc.Text

/-!
# JSON texts

The grammar of JSON as a predicate on texts, without the blanks that may stand between tokens, the
escapes of strings and the exponents of numbers.
-/

namespace Telep

/-- `"text"` -/
def quoted (text : Bytes) : Bytes := ascii "\"" ++ text ++ ascii "\""

/-- `"key":value` -/
def memberText (member : Bytes × Bytes) : Bytes := quoted member.1 ++ ascii ":" ++ member.2

def arrayText (items : List Bytes) : Bytes :=
  ascii "[" ++ List.intercalate (ascii ",") items ++ ascii "]"

def objectText (members : List (Bytes × Bytes)) : Bytes :=
  ascii "\x7b" ++ List.intercalate (ascii ",") (members.map memberText) ++ ascii "\x7d"

/-- A text that needs no escapes as a string. -/
def IsPlain (text : Bytes) : Prop := ∀ c ∈ text, (32 ≤ c ∧ c ≤ 126) ∧ c ≠ 34 ∧ c ≠ 92

instance (text : Bytes) : Decidable (IsPlain text) :=
  inferInstanceAs (Decidable (∀ c ∈ text, (32 ≤ c ∧ c ≤ 126) ∧ c ≠ 34 ∧ c ≠ 92))

/-- The digits before the point: no zero stands before another digit. -/
structure IsWhole (text : Bytes) : Prop where
  nonempty : text ≠ []
  digits : ∀ c ∈ text, IsDigit c
  leading : text.head? = some 48 → text = [48]

/-- A number: a sign, digits, and digits after a point. -/
def IsJsonNumber (text : Bytes) : Prop :=
  ∃ sign whole fraction, text = sign ++ whole ++ fraction ∧ (sign = [] ∨ sign = [45]) ∧
    IsWhole whole ∧
      (fraction = [] ∨ ∃ digits, fraction = 46 :: digits ∧ digits ≠ [] ∧ ∀ c ∈ digits, IsDigit c)

/-- A JSON text. -/
inductive IsJson : Bytes → Prop
  | literal (text : Bytes) (known : text = ascii "true" ∨ text = ascii "false") : IsJson text
  | number (text : Bytes) (number : IsJsonNumber text) : IsJson text
  | string (text : Bytes) (plain : IsPlain text) : IsJson (quoted text)
  | array (items : List Bytes) (each : ∀ item ∈ items, IsJson item) : IsJson (arrayText items)
  | object (members : List (Bytes × Bytes)) (keys : ∀ member ∈ members, IsPlain member.1)
      (each : ∀ member ∈ members, IsJson member.2) : IsJson (objectText members)

theorem IsPlain.append {s t : Bytes} (hs : IsPlain s) (ht : IsPlain t) : IsPlain (s ++ t) := by
  intro c hc
  rcases List.mem_append.mp hc with h | h
  · exact hs c h
  · exact ht c h

/-- Between the quotation mark and the backslash. -/
theorem plain_of_le {c : UInt8} (low : 35 ≤ c) (high : c ≤ 91) :
    (32 ≤ c ∧ c ≤ 126) ∧ c ≠ 34 ∧ c ≠ 92 := by
  refine ⟨⟨UInt8.le_trans (by decide) low, UInt8.le_trans high (by decide)⟩, ?_, ?_⟩
  · rintro rfl
    exact absurd low (by decide)
  · rintro rfl
    exact absurd high (by decide)

/-- Above the backslash. -/
theorem plain_of_ge {c : UInt8} (low : 93 ≤ c) (high : c ≤ 126) :
    (32 ≤ c ∧ c ≤ 126) ∧ c ≠ 34 ∧ c ≠ 92 := by
  refine ⟨⟨UInt8.le_trans (by decide) low, high⟩, ?_, ?_⟩
  · rintro rfl
    exact absurd low (by decide)
  · rintro rfl
    exact absurd low (by decide)

theorem IsDigit.plain {c : UInt8} (h : IsDigit c) : (32 ≤ c ∧ c ≤ 126) ∧ c ≠ 34 ∧ c ≠ 92 :=
  plain_of_le (UInt8.le_trans (by decide) h.1) (UInt8.le_trans h.2 (by decide))

theorem isWhole_decimal (n : Nat) : IsWhole (decimal n) where
  nonempty := decimal_ne_nil n
  digits := decimal_digits n
  leading := by
    unfold decimal
    split
    · intro _
      rfl
    · next positive =>
      -- the last digit of `Nat.digits` is not zero
      have digits : Nat.digits 10 n ≠ [] := Nat.digits_ne_nil_iff_ne_zero.mpr positive
      have last := Nat.getLast_digit_ne_zero 10 positive
      have small : (Nat.digits 10 n).getLast digits < 10 :=
        Nat.digits_lt_base (by decide) (List.getLast_mem digits)
      intro zero
      rw [List.head?_map, List.head?_reverse, List.getLast?_eq_some_getLast digits] at zero
      have same : UInt8.ofNat (48 + (Nat.digits 10 n).getLast digits) = 48 := Option.some.inj zero
      revert same last small
      generalize (Nat.digits 10 n).getLast digits = d
      intro last small same
      interval_cases d
      · exact absurd rfl last
      all_goals exact absurd same (by decide)

theorem isJsonNumber_decimal (n : Nat) : IsJsonNumber (decimal n) :=
  ⟨[], decimal n, [], by simp, .inl rfl, isWhole_decimal n, .inl rfl⟩

theorem isJsonNumber_formatInt (z : Int) : IsJsonNumber (formatInt z) := by
  cases z with
  | ofNat n => exact isJsonNumber_decimal n
  | negSucc n =>
    exact ⟨[45], decimal (n + 1), [], by simp [formatInt], .inr rfl, isWhole_decimal _, .inl rfl⟩

theorem isJsonNumber_formatFixed2 (q : ℚ) : IsJsonNumber (formatFixed2 q) := by
  have digit (n : Nat) : IsDigit (UInt8.ofNat (48 + n % 10)) :=
    isDigit_ofNat (Nat.mod_lt n (by decide))
  refine ⟨if q < 0 then [45] else [], decimal (roundHalfEven (|q| * 100) / 100), _, rfl, ?_,
    isWhole_decimal _, .inr ⟨_, rfl, List.cons_ne_nil _ _, ?_⟩⟩
  · split
    · exact .inr rfl
    · exact .inl rfl
  · intro c hc
    simp only [List.mem_cons, List.not_mem_nil, or_false] at hc
    rcases hc with rfl | rfl
    · exact digit _
    · exact digit _

theorem isJson_flag (b : Bool) : IsJson (if b then ascii "true" else ascii "false") := by
  cases b with
  | true => exact .literal _ (.inl rfl)
  | false => exact .literal _ (.inr rfl)

end Telep
