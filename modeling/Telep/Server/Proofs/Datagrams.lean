import Telep.Misc.Frames
import Telep.Server.Proofs.Bounds
import Telep.Server.Proofs.Messages

/-!
# The datagrams the server accepts

`IsTelemetry` is the format of a telemetry datagram as a grammar, with what each part stands for.
`wellFormedDatagram_iff` says that the receive loop, over all byte strings, takes exactly these
for well formed and reads from them exactly what they say.
-/

namespace Telep

/-! ## The format -/

/-- `strtod` reads the whole of a text that is not empty, without error, as the finite number
`value`. -/
structure ReadsCompletely (strtod : Bytes → StrtodResult) (text : Bytes) (value : ℚ) : Prop where
  nonempty : text ≠ []
  unread : (strtod text).unread = []
  noError : (strtod text).rangeError = false
  finite : (strtod text).value = some value

/-- What the value text of the variable `name` may be, and the value it stands for. -/
inductive IsValueText (strtod : Bytes → StrtodResult) (name text : Bytes) (value : ℚ) : Prop
  | ok (status : name = ascii "STATUS") (ok : text = ascii "OK") (one : value = 1)
  | fail (status : name = ascii "STATUS") (fail : text = ascii "FAIL") (zero : value = 0)
  | number (low high : ℚ) (range : valueRange name = some (low, high))
      (chars : ∀ c ∈ text, c ∈ ascii "0123456789+-.eE") (reads : ReadsCompletely strtod text value)
      (low_le : low ≤ value) (le_high : value ≤ high)

/-- `NAME=value` -/
def IsPair (strtod : Bytes → StrtodResult) (pair : Bytes) (m : Measurement) : Prop :=
  ∃ text, pair = m.name ++ equalsSign :: text ∧ IsValueText strtod m.name text m.value

/-- Three to five pairs with different names, joined by `;`. -/
structure IsMeasurements (strtod : Bytes → StrtodResult) (field : Bytes)
    (values : List Measurement) : Prop where
  pairs : ∃ pairs, field = List.intercalate [pairSeparator] pairs ∧
    List.Forall₂ (IsPair strtod) pairs values
  distinct : (values.map Measurement.name).Nodup
  three_le : 3 ≤ values.length
  le_five : values.length ≤ 5

/-- `[A-Za-z0-9_-]{1,15}` -/
structure IsIdentifier (id : Bytes) : Prop where
  one_le : 1 ≤ id.length
  le_fifteen : id.length ≤ 15
  chars : ∀ c ∈ id, (65 ≤ c ∧ c ≤ 90) ∨ (97 ≤ c ∧ c ≤ 122) ∨ (48 ≤ c ∧ c ≤ 57) ∨ c = 95 ∨ c = 45

/-- 32 lowercase hexadecimal digits. -/
structure IsSession (session : Bytes) : Prop where
  length : session.length = 32
  chars : ∀ c ∈ session, (48 ≤ c ∧ c ≤ 57) ∨ (97 ≤ c ∧ c ≤ 102)

/-- A string of decimal digits, not empty, that denotes `n`. -/
structure IsNumber (text : Bytes) (n : Nat) : Prop where
  nonempty : text ≠ []
  digits : ∀ c ∈ text, 48 ≤ c ∧ c ≤ 57
  denotes : digitsValue text = n

/-- `TELEMETRY|id|session|seq|p1;...;pk` and one line feed, in at most 1024 bytes. -/
structure IsTelemetry (strtod : Bytes → StrtodResult) (datagram : Bytes) (m : TelemetryMessage) :
    Prop where
  length_le : datagram.length ≤ 1024
  text : ∃ sequenceText field,
    datagram = ascii "TELEMETRY" ++ fieldSeparator :: (m.nodeId ++ fieldSeparator ::
      (m.session ++ fieldSeparator :: (sequenceText ++ fieldSeparator :: (field ++ [lineFeed])))) ∧
    IsNumber sequenceText m.sequence ∧ IsMeasurements strtod field m.values
  nodeId : IsIdentifier m.nodeId
  session : IsSession m.session
  sequence_le : m.sequence ≤ 65535

/-! ## The parts -/

theorem isValidNodeId_iff {id : Bytes} : isValidNodeId id = true ↔ IsIdentifier id := by
  unfold isValidNodeId
  rw [decide_eq_true_iff]
  have char (c : UInt8) : isNodeIdChar c = true ↔ (65 ≤ c ∧ c ≤ 90) ∨ (97 ≤ c ∧ c ≤ 122) ∨
      (48 ≤ c ∧ c ≤ 57) ∨ c = 95 ∨ c = 45 := by
    rw [isNodeIdChar, decide_eq_true_iff, IsDigit]
    tauto
  constructor
  · rintro ⟨nonempty, short, chars⟩
    exact ⟨Nat.one_le_iff_ne_zero.mpr nonempty, Nat.le_of_lt_succ short,
      fun c hc => (char c).mp (chars c hc)⟩
  · intro h
    exact ⟨Nat.one_le_iff_ne_zero.mp h.one_le, Nat.lt_succ_of_le h.le_fifteen,
      fun c hc => (char c).mpr (h.chars c hc)⟩

theorem isValidSession_iff {session : Bytes} :
    isValidSession session = true ↔ IsSession session := by
  unfold isValidSession
  rw [decide_eq_true_iff]
  exact ⟨fun h => ⟨h.1, h.2⟩, fun h => ⟨h.length, h.chars⟩⟩

theorem parseUint_iff {text : Bytes} {max n : Nat} (small : max ≤ longMax) :
    parseUint text max = some n ↔ IsNumber text n ∧ n ≤ max := by
  unfold parseUint
  constructor
  · intro h
    split_ifs at h with empty chars range
    obtain rfl := Option.some.inj h
    rw [not_or, not_lt, not_lt] at range
    refine ⟨⟨empty, fun c hc => ?_, rfl⟩, range.2⟩
    by_contra other
    exact chars ⟨c, hc, other⟩
  · rintro ⟨⟨nonempty, digits, rfl⟩, le⟩
    have chars : ¬ ∃ c ∈ text, ¬ IsDigit c := fun ⟨c, hc, other⟩ => other (digits c hc)
    rw [if_neg nonempty, if_neg chars,
      if_neg (by rw [not_or, not_lt, not_lt]; exact ⟨le.trans small, le⟩)]

theorem parseValue_iff {strtod : Bytes → StrtodResult} {name text : Bytes} (nonempty : text ≠ [])
    {value : ℚ} :
    parseValue strtod name text = some value ↔ IsValueText strtod name text value := by
  constructor
  · intro h
    unfold parseValue at h
    by_cases status : name = ascii "STATUS"
    · rw [if_pos status] at h
      split_ifs at h with ok fail
      · exact .ok status ok (Option.some.inj h).symm
      · exact .fail status fail (Option.some.inj h).symm
    · rw [if_neg status] at h
      cases hr : valueRange name with
      | none => simp [hr] at h
      | some range =>
        simp only [hr] at h
        split_ifs at h with chars unread
        rw [not_or, not_or, not_not, Bool.not_eq_true] at unread
        cases hv : (strtod text).value with
        | none => simp [hv] at h
        | some v =>
          simp only [hv] at h
          split_ifs at h with outside
          obtain rfl := Option.some.inj h
          rw [not_or, not_lt, not_lt] at outside
          refine .number range.1 range.2 hr (fun c hc => ?_)
            ⟨nonempty, unread.2.2, unread.1, hv⟩ outside.1 outside.2
          by_contra other
          exact chars ⟨c, hc, other⟩
  · intro h
    unfold parseValue
    cases h with
    | ok status ok one => rw [if_pos status, if_pos ok, one]
    | fail status fail zero =>
      rw [if_pos status, if_neg (by rw [fail]; decide), if_pos fail, zero]
    | number low high range chars reads low_le le_high =>
      have unranged : valueRange (ascii "STATUS") = none := by decide
      have other : name ≠ ascii "STATUS" := by
        rintro rfl
        rw [unranged] at range
        cases range
      have chars' : ¬ ∃ c ∈ text, c ∉ ascii "0123456789+-.eE" :=
        fun ⟨c, hc, outside⟩ => outside (chars c hc)
      rw [if_neg other, range]
      dsimp only
      rw [if_neg chars', if_neg, reads.finite]
      · dsimp only
        rw [if_neg (by rw [not_or, not_lt, not_lt]; exact ⟨low_le, le_high⟩)]
      · rw [reads.unread, reads.noError]
        simpa using nonempty.symm

/-! ## Pairs -/

theorem pair_eq {pair : Bytes} (h : equalsSign ∈ pair) :
    pair = pairName pair ++ equalsSign :: pairValueText pair := by
  rcases first_mark equalsSign pair with ⟨clean, -⟩ | ⟨rest, after, split⟩
  · exact absurd h clean
  · rw [pairName, pairValueText, after, List.drop_one, List.tail_cons]
    exact split

theorem pair_parts {name text : Bytes} (clean : equalsSign ∉ name) :
    pairName (name ++ equalsSign :: text) = name ∧
      pairValueText (name ++ equalsSign :: text) = text := by
  rw [pairName, pairValueText, takeWhile_frame clean, dropWhile_frame clean]
  exact ⟨rfl, rfl⟩

theorem IsValueText.name_mem {strtod : Bytes → StrtodResult} {name text : Bytes} {value : ℚ}
    (h : IsValueText strtod name text value) : name ∈ variableNames := by
  cases h with
  | ok status ok one => simp [variableNames, status]
  | fail status fail zero => simp [variableNames, status]
  | number low high range chars reads low_le le_high => exact valueRange_name range

theorem IsValueText.nonempty {strtod : Bytes → StrtodResult} {name text : Bytes} {value : ℚ}
    (h : IsValueText strtod name text value) : text ≠ [] := by
  cases h with
  | ok status ok one => rw [ok]; decide
  | fail status fail zero => rw [fail]; decide
  | number low high range chars reads low_le le_high => exact reads.nonempty

/-- A byte of a pair: printable, and no separator of pairs or fields. -/
def IsPairChar (c : UInt8) : Prop :=
  (33 ≤ c ∧ c ≤ 126) ∧ c ≠ pairSeparator ∧ c ≠ fieldSeparator

instance (c : UInt8) : Decidable (IsPairChar c) := inferInstanceAs (Decidable (_ ∧ _))

theorem IsPair.chars {strtod : Bytes → StrtodResult} {pair : Bytes} {m : Measurement}
    (h : IsPair strtod pair m) : ∀ c ∈ pair, IsPairChar c := by
  obtain ⟨text, rfl, value⟩ := h
  have names : ∀ name ∈ variableNames, ∀ c ∈ name, IsPairChar c := by decide
  have texts : ∀ c ∈ ascii "0123456789+-.eE", IsPairChar c := by decide
  intro c hc
  rcases List.mem_append.mp hc with hc | hc
  · exact names _ value.name_mem c hc
  · rcases List.mem_cons.mp hc with rfl | hc
    · decide
    · cases value with
      | ok status ok one => exact (show ∀ c ∈ ascii "OK", IsPairChar c by decide) c (ok ▸ hc)
      | fail status fail zero =>
        exact (show ∀ c ∈ ascii "FAIL", IsPairChar c by decide) c (fail ▸ hc)
      | number low high range chars reads low_le le_high => exact texts c (chars c hc)

/-- The pairs that the parser takes, and what it stores for each. -/
theorem isPair_iff {strtod : Bytes → StrtodResult} {pair : Bytes} {m : Measurement} :
    IsPair strtod pair m ↔
      equalsSign ∈ pair ∧ pairName pair ≠ [] ∧ pairValueText pair ≠ [] ∧ pairName pair = m.name ∧
        parseValue strtod (pairName pair) (pairValueText pair) = some m.value := by
  constructor
  · rintro ⟨text, rfl, value⟩
    have names : ∀ name ∈ variableNames, equalsSign ∉ name ∧ name ≠ [] := by decide
    obtain ⟨clean, named⟩ := names _ value.name_mem
    obtain ⟨name, valueText⟩ : pairName (m.name ++ equalsSign :: text) = m.name ∧
        pairValueText (m.name ++ equalsSign :: text) = text := pair_parts clean
    rw [name, valueText]
    exact ⟨by simp, named, value.nonempty, rfl, (parseValue_iff value.nonempty).mpr value⟩
  · rintro ⟨equals, -, nonempty, name, value⟩
    refine ⟨pairValueText pair, name ▸ pair_eq equals, ?_⟩
    rw [← name]
    exact (parseValue_iff nonempty).mp value

/-- The loop over the pairs appends what each stands for, while the names differ and there is
room. -/
theorem parsePairs_eq_some {strtod : Bytes → StrtodResult} {max : Nat} {out : List Measurement}
    {pairs : List Bytes} {values : List Measurement} (distinct : (out.map Measurement.name).Nodup)
    (room : out.length ≤ max) :
    parsePairs strtod max out pairs = some values ↔
      ∃ new, values = out ++ new ∧ List.Forall₂ (IsPair strtod) pairs new ∧
        (values.map Measurement.name).Nodup ∧ values.length ≤ max := by
  induction pairs generalizing out with
  | nil =>
    rw [parsePairs, Option.some.injEq]
    constructor
    · rintro rfl
      exact ⟨[], by simp, .nil, distinct, room⟩
    · rintro ⟨new, rfl, pairs, -, -⟩
      cases pairs
      simp
  | cons pair pairs ih =>
    have step (m : Measurement) (new : m.name ∉ out.map Measurement.name)
        (more : out.length + 1 ≤ max) :=
      have nodup : ((out ++ [m]).map Measurement.name).Nodup := by
        rw [List.map_append, List.nodup_append]
        refine ⟨distinct, by simp, ?_⟩
        intro a ha b hb same
        rw [List.map_singleton, List.mem_singleton] at hb
        exact new (hb ▸ same ▸ ha)
      ih nodup (by simpa using more)
    constructor
    · intro h
      rw [parsePairs] at h
      split_ifs at h with malformed repeated
      rw [not_or, not_or, not_or, not_not] at malformed
      obtain ⟨equals, name, text, full⟩ := malformed
      cases value : parseValue strtod (pairName pair) (pairValueText pair) with
      | none => simp [value] at h
      | some v =>
        rw [value] at h
        have new : pairName pair ∉ out.map Measurement.name := by
          intro known
          obtain ⟨m, hm, same⟩ := List.mem_map.mp known
          exact repeated ⟨m, hm, same⟩
        obtain ⟨more, rfl, rest⟩ := (step ⟨pairName pair, v⟩ new (by omega)).mp h
        refine ⟨⟨pairName pair, v⟩ :: more, by simp, .cons ?_ rest.1, rest.2⟩
        exact isPair_iff.mpr ⟨equals, name, text, rfl, value⟩
    · rintro ⟨new, rfl, all, nodup, few⟩
      cases all with
      | @cons _ m _ more first rest =>
        obtain ⟨equals, name, text, same, value⟩ := isPair_iff.mp first
        rw [List.map_append, List.map_cons, List.nodup_append] at nodup
        have fresh : m.name ∉ out.map Measurement.name := fun known =>
          nodup.2.2 _ known _ List.mem_cons_self rfl
        have room' : out.length + 1 ≤ max := by
          rw [List.length_append, List.length_cons] at few
          omega
        rw [parsePairs, if_neg, if_neg, value, same]
        · refine (step m fresh room').mpr ⟨more, by simp, rest, ?_, few⟩
          rw [List.map_append, List.map_cons, List.nodup_append]
          exact nodup
        · rintro ⟨n, hn, repeated⟩
          exact fresh (same ▸ repeated ▸ List.mem_map_of_mem hn)
        · simp only [equals, name, text, not_true_eq_false, false_or]
          omega

/-! ## Measurements and datagrams -/

theorem parseMeasurements_iff {strtod : Bytes → StrtodResult} {field : Bytes}
    {values : List Measurement} (short : field.length < maxLine) :
    parseMeasurements strtod field maxVars = some values ↔ IsMeasurements strtod field values := by
  have scan {out : List Measurement} (pairs : List Bytes) :
      parsePairs strtod maxVars [] pairs = some out ↔ _ :=
    parsePairs_eq_some List.nodup_nil (Nat.zero_le _)
  constructor
  · intro h
    have valid := parseMeasurements_valid h
    unfold parseMeasurements at h
    split_ifs at h with size
    cases parsed : parsePairs strtod maxVars [] (field.splitOn pairSeparator) with
    | none => simp [parsed] at h
    | some out =>
      simp only [parsed] at h
      split_ifs at h with three
      obtain rfl := Option.some.inj h
      obtain ⟨new, rfl, pairs, distinct, -⟩ := (scan _).mp parsed
      exact ⟨⟨_, (List.intercalate_splitOn pairSeparator).symm, pairs⟩, distinct, three,
        valid.length_le⟩
  · rintro ⟨⟨pairs, rfl, all⟩, distinct, three, five⟩
    have length := all.length_eq
    have split : (List.intercalate [pairSeparator] pairs).splitOn pairSeparator = pairs := by
      refine List.splitOn_intercalate pairSeparator (fun pair hp separator => ?_) ?_
      · obtain ⟨k, hk, rfl⟩ := List.mem_iff_getElem.mp hp
        exact ((all.get hk (by omega)).chars _ separator).2.1 rfl
      · rintro rfl
        rw [List.length_nil] at length
        omega
    have nonempty : List.intercalate [pairSeparator] pairs ≠ [] := by
      intro empty
      rw [empty] at split
      rw [← split] at length
      simp only [List.splitOn_nil, List.length_singleton] at length
      omega
    unfold parseMeasurements
    rw [if_neg (by rw [not_or, not_le]; exact ⟨nonempty, short⟩), split,
      (scan pairs).mpr ⟨values, rfl, all, distinct, five.trans (by decide)⟩]
    exact if_pos three

/-- The bytes of the measurements are printable and no field separators. -/
theorem IsMeasurements.isField {strtod : Bytes → StrtodResult} {field : Bytes}
    {values : List Measurement} (h : IsMeasurements strtod field values) :
    IsField field ∧ Printable field := by
  obtain ⟨⟨pairs, rfl, all⟩, -, three, -⟩ := h
  have joined (pairs : List Bytes) (values : List Measurement)
      (all : List.Forall₂ (IsPair strtod) pairs values) :
      ∀ c ∈ List.intercalate [pairSeparator] pairs,
        (33 ≤ c ∧ c ≤ 126) ∧ c ≠ fieldSeparator := by
    induction all with
    | nil => simp [List.intercalate]
    | @cons pair m pairs values first rest ih =>
      have pair' : ∀ c ∈ pair, (33 ≤ c ∧ c ≤ 126) ∧ c ≠ fieldSeparator :=
        fun c hc => ⟨(first.chars c hc).1, (first.chars c hc).2.2⟩
      cases rest with
      | nil => simpa [List.intercalate] using pair'
      | @cons next _ pairs _ _ _ =>
        rw [List.intercalate_cons_cons]
        intro c hc
        rw [List.append_assoc, List.mem_append, List.mem_append, List.mem_singleton] at hc
        rcases hc with hc | rfl | hc
        · exact pair' c hc
        · decide
        · exact ih c hc
  have chars := joined pairs values all
  refine ⟨⟨fun empty => ?_, fun separator => (chars _ separator).2 rfl⟩, fun c hc => (chars c hc).1⟩
  cases all with
  | nil => simp at three
  | @cons pair m pairs values first rest =>
    have some : pair ≠ [] := by
      obtain ⟨text, rfl, -⟩ := first
      simp
    cases rest with
    | nil => simp [List.intercalate, some] at empty
    | cons _ _ => simp [List.intercalate_cons_cons] at empty

theorem IsNumber.isField {text : Bytes} {n : Nat} (h : IsNumber text n) :
    IsField text ∧ Printable text :=
  ⟨⟨h.nonempty, fun separator => absurd (h.digits _ separator).2 (by decide)⟩,
    fun c hc => IsDigit.printable (h.digits c hc)⟩

/-- A frame is a text without terminators and the line feed after it. -/
theorem datagramText_eq_some {datagram text : Bytes} :
    datagramText datagram = some text ↔
      datagram = text ++ [lineFeed] ∧ datagram.length ≤ maxLine ∧ 0 ∉ text ∧ lineFeed ∉ text := by
  unfold datagramText
  constructor
  · intro h
    split_ifs at h with bad
    obtain rfl := Option.some.inj h
    simp only [not_or, not_lt, not_not] at bad
    obtain ⟨-, short, last, zero, inner⟩ := bad
    refine ⟨(List.dropLast_append_getLast? _ last).symm, short, fun h => ?_, inner⟩
    exact zero (List.dropLast_subset _ h)
  · rintro ⟨rfl, short, zero, inner⟩
    rw [if_neg, List.dropLast_concat]
    simp only [List.length_append, List.length_singleton, Nat.add_eq_zero_iff, Nat.one_ne_zero,
      and_false, false_or, List.getLast?_concat, not_true_eq_false, List.dropLast_concat, not_or,
      not_lt, List.mem_append, List.mem_singleton, ne_eq] at short ⊢
    exact ⟨short, ⟨zero, by decide⟩, inner⟩

theorem parseTelemetry_eq_some {strtod : Bytes → StrtodResult} {text : Bytes}
    {m : TelemetryMessage} :
    parseTelemetry strtod text = some m ↔
      ∃ sequenceText field,
        parseMessage text =
          some ⟨ascii "TELEMETRY", [m.nodeId, m.session, sequenceText, field]⟩ ∧
        isValidNodeId m.nodeId = true ∧ isValidSession m.session = true ∧
        parseUint sequenceText (sessionLimit - 1) = some m.sequence ∧
        parseMeasurements strtod field maxVars = some m.values := by
  unfold parseTelemetry
  constructor
  · intro h
    cases hp : parseMessage text with
    | none => simp [hp] at h
    | some message =>
      obtain ⟨command, args⟩ := message
      simp only [hp] at h
      split_ifs at h with other
      rw [ne_eq, not_not] at other
      subst other
      split at h
      · next nodeId session sequenceText field =>
        split_ifs at h with ids
        rw [not_or, not_not, not_not] at ids
        split at h
        · cases h
        · next sequence hs =>
          obtain ⟨values, hv, rfl⟩ := Option.map_eq_some_iff.mp h
          exact ⟨sequenceText, field, rfl, ids.1, ids.2, hs, hv⟩
      · cases h
  · rintro ⟨sequenceText, field, message, id, session, sequence, values⟩
    rw [message]
    simp only [ne_eq, not_true_eq_false, if_false, id, session, or_self, sequence, values,
      Option.map_some]

theorem wellFormedDatagram_iff {strtod : Bytes → StrtodResult} {datagram : Bytes}
    {m : TelemetryMessage} :
    wellFormedDatagram strtod datagram = some m ↔ IsTelemetry strtod datagram m := by
  have small : sessionLimit - 1 ≤ longMax := by decide
  unfold wellFormedDatagram
  rw [Option.bind_eq_some_iff]
  constructor
  · rintro ⟨text, frame, parsed⟩
    obtain ⟨rfl, short, -, -⟩ := datagramText_eq_some.mp frame
    obtain ⟨sequenceText, field, message, id, session, sequence, values⟩ :=
      parseTelemetry_eq_some.mp parsed
    obtain ⟨rfl, -, -, length, -⟩ := parseMessage_eq_some.mp message
    obtain ⟨number, le⟩ := (parseUint_iff small).mp sequence
    have field_short : field.length < maxLine := by
      simp only [joinFields_cons_cons, joinFields_singleton, List.length_append,
        List.length_cons] at length
      omega
    refine ⟨short, ⟨sequenceText, field, by simp, number,
      (parseMeasurements_iff field_short).mp values⟩, isValidNodeId_iff.mp id,
      isValidSession_iff.mp session, le⟩
  · rintro ⟨short, ⟨sequenceText, field, rfl, number, values⟩, id, session, le⟩
    have command : IsField (ascii "TELEMETRY") ∧ Printable (ascii "TELEMETRY") := by decide
    have fields : ∀ f ∈ [ascii "TELEMETRY", m.nodeId, m.session, sequenceText, field],
        IsField f ∧ Printable f := by
      intro f hf
      simp only [List.mem_cons, List.not_mem_nil, or_false] at hf
      rcases hf with rfl | rfl | rfl | rfl | rfl
      · exact command
      · exact nodeId_isField ⟨_, isValidNodeId_iff.mpr id⟩
      · exact session_isField ⟨_, isValidSession_iff.mpr session⟩
      · exact number.isField
      · exact values.isField
    have printable := printable_joinFields fun f hf => (fields f hf).2
    have text : ascii "TELEMETRY" ++ fieldSeparator :: (m.nodeId ++ fieldSeparator ::
          (m.session ++ fieldSeparator :: (sequenceText ++ fieldSeparator ::
            (field ++ [lineFeed])))) =
        joinFields [ascii "TELEMETRY", m.nodeId, m.session, sequenceText, field] ++
          [lineFeed] := by
      simp
    rw [text] at short ⊢
    refine ⟨_, datagramText_eq_some.mpr ⟨rfl, short, fun zero => ?_, printable.not_mem_lineFeed⟩,
      parseTelemetry_eq_some.mpr ⟨sequenceText, field, parseMessage_eq_some.mpr ⟨rfl,
        fun f hf => (fields f hf).1, printable, ?_, by simp [maxArgs]⟩, isValidNodeId_iff.mpr id,
        isValidSession_iff.mpr session, (parseUint_iff small).mpr ⟨number, le⟩,
        (parseMeasurements_iff ?_).mpr values⟩⟩
    · exact absurd (printable _ zero).1 (by decide)
    · rw [List.length_append, List.length_singleton] at short
      exact short
    · simp only [joinFields_cons_cons, joinFields_singleton, List.length_append,
        List.length_cons] at short
      have limit : maxLine = 1024 := rfl
      omega

/-- A well-formed datagram is handed to `registry_record_telemetry`. -/
theorem udpTelemetryServer_wellFormed {strtod : Bytes → StrtodResult} {datagram : Bytes}
    {m : TelemetryMessage} (h : wellFormedDatagram strtod datagram = some m) (r : Registry)
    (clock : Clock) :
    udpTelemetryServer strtod r clock datagram =
      ((registryRecordTelemetry r clock m.nodeId m.session m.sequence m.values).1.getD [],
        (registryRecordTelemetry r clock m.nodeId m.session m.sequence m.values).2) := by
  obtain ⟨text, frame, parsed⟩ := Option.bind_eq_some_iff.mp h
  simp only [udpTelemetryServer, frame, parsed]

/-- Any other datagram is counted. -/
theorem udpTelemetryServer_other {strtod : Bytes → StrtodResult} {datagram : Bytes}
    (h : wellFormedDatagram strtod datagram = none) (r : Registry) (clock : Clock) :
    udpTelemetryServer strtod r clock datagram = ([], registryInvalidDatagram r) := by
  unfold udpTelemetryServer
  cases frame : datagramText datagram with
  | none => rfl
  | some text =>
    rw [wellFormedDatagram, frame, Option.bind_some] at h
    simp only [h]

/-- For every byte string, the receive loop takes it for well formed exactly when it has the
format, and then hands to `registry_record_telemetry` what the text says; anything else is counted
as invalid. -/
theorem telemetry_format (strtod : Bytes → StrtodResult) (datagram : Bytes) :
    (∀ m, wellFormedDatagram strtod datagram = some m ↔ IsTelemetry strtod datagram m) ∧
    (∀ m, IsTelemetry strtod datagram m → ∀ r clock, udpTelemetryServer strtod r clock datagram =
      ((registryRecordTelemetry r clock m.nodeId m.session m.sequence m.values).1.getD [],
        (registryRecordTelemetry r clock m.nodeId m.session m.sequence m.values).2)) ∧
    ((∀ m, ¬ IsTelemetry strtod datagram m) → ∀ r clock,
      udpTelemetryServer strtod r clock datagram = ([], registryInvalidDatagram r)) := by
  refine ⟨fun m => wellFormedDatagram_iff, fun m format r clock => ?_, fun other r clock => ?_⟩
  · exact udpTelemetryServer_wellFormed (wellFormedDatagram_iff.mpr format) r clock
  · refine udpTelemetryServer_other (Option.eq_none_iff_forall_ne_some.mpr fun m some => ?_) r clock
    exact other m (wellFormedDatagram_iff.mp some)

end Telep
