import Telep.Server.TcpCommandServer

/-!
# Messages built from fields

`parse_message` takes apart what `|` joined: a line made of non-empty fields without separators
is parsed into exactly those fields when they are printable, fit in a frame and are not too
many, and rejected otherwise.
-/

namespace Telep

/-- `COMMAND|arg1|arg2|...` -/
def joinFields (fields : List Bytes) : Bytes := List.intercalate [fieldSeparator] fields

/-- A field of a message: not empty and without separator. -/
def IsField (field : Bytes) : Prop := field ≠ [] ∧ fieldSeparator ∉ field

instance (field : Bytes) : Decidable (IsField field) := inferInstanceAs (Decidable (_ ∧ _))

@[simp] theorem joinFields_singleton (field : Bytes) : joinFields [field] = field := by
  simp [joinFields, List.intercalate]

@[simp] theorem joinFields_cons_cons (field next : Bytes) (fields : List Bytes) :
    joinFields (field :: next :: fields) =
      field ++ fieldSeparator :: joinFields (next :: fields) := by
  simp [joinFields, List.intercalate, List.intersperse]

theorem joinFields_ne_nil {field : Bytes} (h : field ≠ []) (fields : List Bytes) :
    joinFields (field :: fields) ≠ [] := by
  cases fields with
  | nil => simpa using h
  | cons next fields => simp

/-- The scan copies bytes that are not separators. -/
theorem parseFields_scan (fields : List Bytes) {text : Bytes} (h : fieldSeparator ∉ text)
    (part rest : Bytes) :
    parseFields fields part (text ++ rest) = parseFields fields (part ++ text) rest := by
  induction text generalizing part with
  | nil => simp
  | cons c text ih =>
    rw [List.mem_cons, not_or] at h
    rw [List.cons_append, parseFields, if_neg (Ne.symm h.1), ih h.2, List.append_assoc,
      List.singleton_append]

/-- The scan of joined fields finds the fields when they are not too many. -/
theorem parseFields_join (closed : List Bytes) {field : Bytes} {fields : List Bytes}
    (valid : ∀ f ∈ field :: fields, IsField f) (room : closed.length ≤ maxArgs) :
    parseFields closed [] (joinFields (field :: fields)) =
      if closed.length + fields.length ≤ maxArgs then some (closed ++ field :: fields)
      else none := by
  induction fields generalizing closed field with
  | nil =>
    have scan := parseFields_scan closed (valid field List.mem_cons_self).2 [] []
    rw [List.append_nil] at scan
    simp [scan, parseFields, room]
  | cons next fields ih =>
    have field' := valid field List.mem_cons_self
    rw [joinFields_cons_cons, parseFields_scan closed field'.2, List.nil_append, parseFields,
      if_pos rfl]
    have rest : joinFields (next :: fields) ≠ [] :=
      joinFields_ne_nil (valid next (by simp)).1 fields
    by_cases full : closed.length = maxArgs
    · rw [if_pos (.inr (.inr full)), if_neg (by simp [full])]
    · rw [if_neg (by simp [field'.1, rest, full]),
        ih (closed ++ [field]) (fun f hf => valid f (List.mem_cons_of_mem _ hf)) (by
          rw [List.length_append, List.length_singleton]
          omega)]
      simp only [List.length_append, List.length_cons, List.length_nil, List.append_assoc,
        List.singleton_append]
      congr 1
      exact propext ⟨fun h => by omega, fun h => by omega⟩

/-- Parsing a line of joined fields. -/
theorem parseMessage_join {command : Bytes} {args : List Bytes}
    (valid : ∀ f ∈ command :: args, IsField f) :
    parseMessage (joinFields (command :: args)) =
      if Printable (joinFields (command :: args)) ∧
          (joinFields (command :: args)).length < maxLine ∧ args.length ≤ maxArgs then
        some ⟨command, args⟩
      else none := by
  have nonempty := joinFields_ne_nil (valid command List.mem_cons_self).1 args
  have chars : (∃ c ∈ joinFields (command :: args), c < 33 ∨ 126 < c) ↔
      ¬ Printable (joinFields (command :: args)) := by
    simp only [Printable, not_forall, exists_prop, not_and_or, UInt8.not_le]
  rw [parseMessage, parseFields_join [] valid (Nat.zero_le _)]
  simp only [nonempty, false_or, chars, List.length_nil, Nat.zero_add, List.nil_append]
  by_cases long : maxLine ≤ (joinFields (command :: args)).length
  · rw [if_pos long, if_neg fun h => absurd h.2.1 (not_lt.mpr long)]
  · rw [if_neg long]
    by_cases printable : Printable (joinFields (command :: args))
    · rw [if_neg (not_not.mpr printable)]
      by_cases many : args.length ≤ maxArgs
      · simp [many, printable, not_le.mp long]
      · simp [many]
    · rw [if_pos printable, if_neg fun h => printable h.1]

/-- What the scan returns, joined, is what it scanned. -/
theorem parseFields_eq_some {closed out : List Bytes} {part rest : Bytes}
    (h : parseFields closed part rest = some out) (nonempty : part ++ rest ≠ [])
    (clean : fieldSeparator ∉ part) (room : closed.length ≤ maxArgs) :
    ∃ fields, out = closed ++ fields ∧ fields ≠ [] ∧ part ++ rest = joinFields fields ∧
      (∀ f ∈ fields, IsField f) ∧ out.length ≤ maxArgs + 1 := by
  induction rest generalizing closed part with
  | nil =>
    obtain rfl : closed ++ [part] = out := Option.some.inj h
    rw [List.append_nil] at nonempty ⊢
    exact ⟨[part], rfl, by simp, by simp, by simpa using ⟨nonempty, clean⟩, by simpa using room⟩
  | cons c rest ih =>
    rw [parseFields] at h
    split at h
    · next separator =>
      split at h
      · cases h
      · next valid =>
        rw [not_or, not_or] at valid
        obtain ⟨fields, rfl, some, joined, fields_valid, few⟩ := ih h valid.2.1 (by simp) (by
          rw [List.length_append, List.length_singleton]
          have := valid.2.2
          omega)
        obtain ⟨next, fields, rfl⟩ := List.exists_cons_of_ne_nil some
        refine ⟨part :: next :: fields, by simp, by simp, ?_, ?_, few⟩
        · rw [joinFields_cons_cons, ← joined, separator, List.nil_append]
        · exact List.forall_mem_cons.mpr ⟨⟨valid.1, clean⟩, fields_valid⟩
    · next other =>
      obtain ⟨fields, rfl, some, joined, rest⟩ := ih h (by simp) (by
        simpa using ⟨clean, fun h => other h.symm⟩) room
      exact ⟨fields, rfl, some, by simpa using joined, rest⟩

/-- The lines that are messages, and the fields of each. -/
theorem parseMessage_eq_some {line command : Bytes} {args : List Bytes} :
    parseMessage line = some ⟨command, args⟩ ↔
      line = joinFields (command :: args) ∧ (∀ f ∈ command :: args, IsField f) ∧
        Printable line ∧ line.length < maxLine ∧ args.length ≤ maxArgs := by
  constructor
  · intro h
    unfold parseMessage at h
    split_ifs at h with size chars
    rw [not_or, not_le] at size
    cases scan : parseFields [] [] line with
    | none => simp [scan] at h
    | some out =>
      obtain ⟨fields, rfl, -, joined, valid, few⟩ :=
        parseFields_eq_some scan (by simpa using size.1) (by simp) (Nat.zero_le _)
      rw [List.nil_append] at joined
      rw [scan] at h
      cases out with
      | nil => cases h
      | cons command' args' =>
        obtain ⟨rfl, rfl⟩ := ParsedMessage.mk.inj (Option.some.inj h)
        refine ⟨joined, valid, fun c hc => ?_, size.2, by simpa using few⟩
        by_contra other
        refine chars ⟨c, hc, ?_⟩
        rwa [not_and_or, UInt8.not_le, UInt8.not_le] at other
  · rintro ⟨rfl, valid, printable, short, few⟩
    rw [parseMessage_join valid, if_pos ⟨printable, short, few⟩]

theorem printable_joinFields {fields : List Bytes} (h : ∀ f ∈ fields, Printable f) :
    Printable (joinFields fields) := printable_intercalate (by decide) h

/-! ## Identifiers and sessions as fields -/

theorem isNodeIdChar_printable {c : UInt8} (h : isNodeIdChar c = true) :
    (33 ≤ c ∧ c ≤ 126) ∧ c ≠ fieldSeparator := by
  have h := of_decide_eq_true h
  have sep : fieldSeparator = 124 := rfl
  rw [sep]
  simp only [IsDigit, UInt8.le_iff_toNat_le, ← UInt8.toNat_inj, ne_eq] at h ⊢
  simp only [UInt8.reduceToNat] at h ⊢
  omega

theorem nodeId_isField (id : NodeId) : IsField id.val ∧ Printable id.val := by
  have valid := id.property
  simp only [isValidNodeId, decide_eq_true_eq] at valid
  refine ⟨⟨fun h => valid.1 (by rw [h]; rfl), fun h => ?_⟩, fun c hc => ?_⟩
  · exact (isNodeIdChar_printable (valid.2.2 _ h)).2 rfl
  · exact (isNodeIdChar_printable (valid.2.2 c hc)).1

theorem session_isField (session : Session) : IsField session.val ∧ Printable session.val := by
  have valid := session.property
  simp only [isValidSession, decide_eq_true_eq] at valid
  have char (c : UInt8) (hc : c ∈ session.val) : isNodeIdChar c = true := by
    have := valid.2 c hc
    refine decide_eq_true ?_
    rcases this with digit | letter
    · exact .inl digit
    · refine .inr (.inr (.inl ⟨letter.1, UInt8.le_trans letter.2 (by decide)⟩))
  refine ⟨⟨fun h => ?_, fun h => ?_⟩, fun c hc => ?_⟩
  · simp [h] at valid
  · exact (isNodeIdChar_printable (char _ h)).2 rfl
  · exact (isNodeIdChar_printable (char c hc)).1

end Telep
