import Telep.Misc.Rounding
import Telep.Server.Proofs.Datagrams

/-!
# Numbers of hundredths

What `%.2f` prints and `strtod` reads back.
-/

namespace Telep

theorem digit_toNat {d : Nat} (h : d < 10) : (UInt8.ofNat (48 + d)).toNat - 48 = d := by
  interval_cases d <;> rfl

theorem IsDigit.eq_ofNat {c : UInt8} (h : IsDigit c) : ∃ d < 10, c = UInt8.ofNat (48 + d) := by
  have low : 48 ≤ c.toNat := h.1
  have high : c.toNat ≤ 57 := h.2
  refine ⟨c.toNat - 48, by omega, ?_⟩
  rw [Nat.add_sub_cancel' low, UInt8.ofNat_toNat]

/-- A digit is one of the characters of a number. -/
theorem IsDigit.mem_numberChars {c : UInt8} (h : IsDigit c) : c ∈ ascii "0123456789+-.eE" := by
  obtain ⟨d, small, rfl⟩ := h.eq_ofNat
  interval_cases d <;> decide

theorem digitsValue_reverse {digits : List Nat} (small : ∀ d ∈ digits, d < 10) :
    digitsValue (digits.reverse.map fun d => UInt8.ofNat (48 + d)) = Nat.ofDigits 10 digits := by
  induction digits with
  | nil => rfl
  | cons d digits ih =>
    have rest := ih fun e he => small e (List.mem_cons_of_mem _ he)
    rw [digitsValue] at rest ⊢
    rw [List.reverse_cons, List.map_append, List.foldl_append, rest, Nat.ofDigits_cons]
    simp only [List.map_singleton, List.foldl_cons, List.foldl_nil,
      digit_toNat (small d List.mem_cons_self)]
    exact Nat.add_comm _ _

theorem isNumber_decimal (n : Nat) : IsNumber (decimal n) n where
  nonempty := decimal_ne_nil n
  digits := decimal_digits n
  denotes := by
    unfold decimal
    split
    · next zero => rw [zero]; rfl
    · rw [digitsValue_reverse fun d hd => Nat.digits_lt_base (by decide) hd, Nat.ofDigits_digits]

/-- A number of hundredths, as `%.2f` prints it. -/
def hundredthsLiteral (negative : Bool) (hundredths : Nat) : Bytes :=
  (if negative then [45] else []) ++ decimal (hundredths / 100) ++
    [46, UInt8.ofNat (48 + hundredths / 10 % 10), UInt8.ofNat (48 + hundredths % 10)]

/-- `strtod` reads the whole literal of a number of hundredths and returns that number. -/
def ReadsHundredths (strtod : Bytes → StrtodResult) : Prop :=
  ∀ negative hundredths, hundredths ≤ 100000000 →
    strtod (hundredthsLiteral negative hundredths) =
      ⟨some ((if negative then -1 else 1) * (hundredths / 100)), [], false⟩

theorem formatFixed2_eq (q : ℚ) :
    formatFixed2 q = hundredthsLiteral (q < 0) (roundHalfEven (|q| * 100)) := by
  simp [formatFixed2, hundredthsLiteral]

/-- `strtod` reads the rounded value that was printed. -/
theorem ReadsHundredths.formatFixed2 {strtod : Bytes → StrtodResult}
    (reads : ReadsHundredths strtod) {q : ℚ} (range : |q| ≤ 1000000) :
    strtod (formatFixed2 q) = ⟨some (roundedHundredths q), [], false⟩ := by
  rw [formatFixed2_eq, reads (q < 0) _ (hundredths_le range), roundedHundredths]
  simp only [decide_eq_true_eq]

theorem hundredthsLiteral_chars (negative : Bool) (hundredths : Nat) :
    ∀ c ∈ hundredthsLiteral negative hundredths, c = 45 ∨ c = 46 ∨ IsDigit c := by
  have digit (n : Nat) : IsDigit (UInt8.ofNat (48 + n % 10)) :=
    isDigit_ofNat (Nat.mod_lt n (by decide))
  intro c hc
  simp only [hundredthsLiteral, List.mem_append, List.mem_cons, List.not_mem_nil, or_false] at hc
  rcases hc with (hc | hc) | rfl | rfl | rfl
  · split at hc
    · exact .inl (List.mem_singleton.mp hc)
    · cases hc
  · exact .inr (.inr (decimal_digits _ c hc))
  · exact .inr (.inl rfl)
  · exact .inr (.inr (digit _))
  · exact .inr (.inr (digit _))

/-- `strtod` on a text of a sign, digits and a point before the last two of them. -/
def strtodHundredths (text : Bytes) : StrtodResult :=
  ⟨some ((if text.head? = some 45 then -1 else 1) * (digitsValue (text.filter (IsDigit ·)) / 100)),
    [], false⟩

theorem strtodHundredths_reads : ReadsHundredths strtodHundredths := by
  intro negative hundredths _
  have digit (n : Nat) : IsDigit (UInt8.ofNat (48 + n % 10)) :=
    isDigit_ofNat (Nat.mod_lt n (by decide))
  have digits : (hundredthsLiteral negative hundredths).filter (IsDigit ·) =
      decimal (hundredths / 100) ++
        [UInt8.ofNat (48 + hundredths / 10 % 10), UInt8.ofNat (48 + hundredths % 10)] := by
    have whole : (decimal (hundredths / 100)).filter (IsDigit ·) = decimal (hundredths / 100) :=
      List.filter_eq_self.mpr fun c hc => decide_eq_true (decimal_digits _ c hc)
    have sign : (if negative then [(45 : UInt8)] else []).filter (IsDigit ·) = [] := by
      cases negative <;> decide
    have point : ¬ IsDigit 46 := by decide
    have last : [UInt8.ofNat (48 + hundredths / 10 % 10),
        UInt8.ofNat (48 + hundredths % 10)].filter (IsDigit ·) = _ :=
      List.filter_eq_self.mpr fun c hc => by
        rcases List.mem_pair.mp hc with rfl | rfl <;> exact decide_eq_true (digit _)
    rw [hundredthsLiteral, List.filter_append, List.filter_append, whole, sign,
      List.filter_cons_of_neg (by simpa using point), last, List.nil_append]
  have value : digitsValue ((hundredthsLiteral negative hundredths).filter (IsDigit ·)) =
      hundredths := by
    have number := (isNumber_decimal (hundredths / 100)).denotes
    rw [digitsValue] at number
    rw [digits, digitsValue, List.foldl_append, number]
    simp only [List.foldl_cons, List.foldl_nil, digit_toNat (Nat.mod_lt _ (by decide : 0 < 10))]
    omega
  have sign : (hundredthsLiteral negative hundredths).head? = some 45 ↔ negative = true := by
    cases negative with
    | true => simp [hundredthsLiteral]
    | false =>
      cases first : decimal (hundredths / 100) with
      | nil => exact absurd first (decimal_ne_nil _)
      | cons c rest =>
        have : c ≠ 45 := by
          rintro rfl
          exact absurd (decimal_digits (hundredths / 100) 45 (first ▸ List.mem_cons_self))
            (by decide)
        simp [hundredthsLiteral, first, this]
  rw [strtodHundredths, value]
  simp only [sign]

end Telep
