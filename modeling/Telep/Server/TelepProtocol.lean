import Telep.Misc.Text
import Telep.Server.Config

/-!
# The wire format (`telep_protocol.c`)

`COMMAND|arg1|arg2|...`, one line per message; measurements travel in one field as
`NAME=value` pairs separated by `;`. A C string is the list of the bytes before its
terminator. `strtod` is a parameter of the measurement parser.
-/

namespace Telep

/-- The separator `|` between fields. -/
def fieldSeparator : UInt8 := 124

/-- The separator `;` between measurements. -/
def pairSeparator : UInt8 := 59

/-- The sign `=` between a name and its value. -/
def equalsSign : UInt8 := 61

/-- The codes of the reply `ERR|<code>|<text>`. -/
inductive ErrorCode where
  | badFormat
  | unknownCmd
  | unknownNode
  | tooLong
  | serverFull
  | idInUse
  deriving DecidableEq, Repr

def ErrorCode.code : ErrorCode → Nat
  | badFormat => 100
  | unknownCmd => 101
  | unknownNode => 102
  | tooLong => 103
  | serverFull => 104
  | idInUse => 105

def ErrorCode.text : ErrorCode → Bytes
  | badFormat => ascii "BAD_FORMAT"
  | unknownCmd => ascii "UNKNOWN_CMD"
  | unknownNode => ascii "UNKNOWN_NODE"
  | tooLong => ascii "TOO_LONG"
  | serverFull => ascii "SERVER_FULL"
  | idInUse => ascii "ID_IN_USE"

def buildErrorResponse (outSize : Nat) (e : ErrorCode) : Bytes :=
  snprintf outSize (ascii "ERR|" ++ decimal e.code ++ ascii "|" ++ e.text)

/-- One variable of a datagram; for `STATUS` the value is 1 for `OK` and 0 for `FAIL`. -/
structure Measurement where
  name : Bytes
  value : ℚ
  deriving DecidableEq

structure ParsedMessage where
  command : Bytes
  args : List Bytes
  deriving DecidableEq

/-! ## Field validators -/

/-- `LONG_MAX`, beyond which `strtol` sets `errno`. -/
def longMax : Nat := 2 ^ 63 - 1

/-- The number a string of decimal digits stands for. -/
def digitsValue (text : Bytes) : Nat := text.foldl (fun v c => 10 * v + (c.toNat - 48)) 0

instance (c : UInt8) : Decidable (IsDigit c) := inferInstanceAs (Decidable (48 ≤ c ∧ c ≤ 57))

def parseUint (text : Bytes) (max : Nat) : Option Nat :=
  if text = [] then none
  else if ∃ c ∈ text, ¬ IsDigit c then none
  else if longMax < digitsValue text ∨ max < digitsValue text then none
  else some (digitsValue text)

def isValidSession (text : Bytes) : Bool :=
  text.length = 32 ∧ ∀ c ∈ text, IsDigit c ∨ (97 ≤ c ∧ c ≤ 102)

/-- `isalnum` in the C locale, `_` or `-`. -/
def isNodeIdChar (c : UInt8) : Bool :=
  IsDigit c ∨ (65 ≤ c ∧ c ≤ 90) ∨ (97 ≤ c ∧ c ≤ 122) ∨ c = 95 ∨ c = 45

def isValidNodeId (nodeId : Bytes) : Bool :=
  nodeId.length ≠ 0 ∧ nodeId.length < maxNodeId ∧ ∀ c ∈ nodeId, isNodeIdChar c

/-- An identifier that `is_valid_node_id` accepts. -/
abbrev NodeId := { id : Bytes // isValidNodeId id = true }

/-- A session that `is_valid_session` accepts. -/
abbrev Session := { session : Bytes // isValidSession session = true }

/-! ## Messages -/

/-- The loop of `parse_message`, with the scan of `strchr` fused into it: `fields` are the
parts already closed by a separator, `part` the bytes of the one being scanned. At a separator
the number of closed parts is `arg_count`. -/
def parseFields (fields : List Bytes) (part : Bytes) : Bytes → Option (List Bytes)
  | [] => some (fields ++ [part])
  | c :: rest =>
      if c = fieldSeparator then
        if part = [] ∨ rest = [] ∨ fields.length = maxArgs then none
        else parseFields (fields ++ [part]) [] rest
      else parseFields fields (part ++ [c]) rest

def parseMessage (line : Bytes) : Option ParsedMessage :=
  if line = [] ∨ maxLine ≤ line.length then none
  else if ∃ c ∈ line, c < 33 ∨ 126 < c then none
  else
    match parseFields [] [] line with
    | some (command :: args) => some ⟨command, args⟩
    | _ => none

/-! ## Measurements -/

/-- What `strtod` reports: the number read (`none` for an infinity or a NaN), the text after
it, which is the whole text when there was no number, and whether `errno` was set. -/
structure StrtodResult where
  value : Option ℚ
  unread : Bytes
  rangeError : Bool

/-- The closed interval of valid values, for the variables that are numbers. -/
def valueRange (name : Bytes) : Option (ℚ × ℚ) :=
  if name = ascii "TEMP" then some (-100, 200)
  else if name = ascii "HUM" then some (0, 100)
  else if name = ascii "POWER" then some (0, 1000000)
  else if name = ascii "VIB" then some (0, 1000)
  else none

/-- The value of one pair, or `none` where the parser returns -1. -/
def parseValue (strtod : Bytes → StrtodResult) (name valueText : Bytes) : Option ℚ :=
  if name = ascii "STATUS" then
    if valueText = ascii "OK" then some 1
    else if valueText = ascii "FAIL" then some 0
    else none
  else
    match valueRange name with
    | none => none
    | some (low, high) =>
        if ∃ c ∈ valueText, c ∉ ascii "0123456789+-.eE" then none
        else
          let read := strtod valueText
          if read.rangeError ∨ read.unread = valueText ∨ read.unread ≠ [] then none
          else
            match read.value with
            | none => none
            | some value => if value < low ∨ high < value then none else some value

/-- The text before the first `=` of a pair. -/
def pairName (pair : Bytes) : Bytes := pair.takeWhile (· ≠ equalsSign)

/-- The text after the first `=` of a pair. -/
def pairValueText (pair : Bytes) : Bytes := (pair.dropWhile (· ≠ equalsSign)).drop 1

/-- The loop of `parse_measurements` over the `;`-separated pairs; `out` are the measurements
stored so far. -/
def parsePairs (strtod : Bytes → StrtodResult) (max : Nat) (out : List Measurement) :
    List Bytes → Option (List Measurement)
  | [] => some out
  | pair :: pairs =>
      if equalsSign ∉ pair ∨ pairName pair = [] ∨ pairValueText pair = [] ∨ out.length = max then
        none
      else if ∃ m ∈ out, m.name = pairName pair then none
      else
        match parseValue strtod (pairName pair) (pairValueText pair) with
        | none => none
        | some value => parsePairs strtod max (out ++ [⟨pairName pair, value⟩]) pairs

def parseMeasurements (strtod : Bytes → StrtodResult) (field : Bytes) (max : Nat) :
    Option (List Measurement) :=
  if field = [] ∨ maxLine ≤ field.length then none
  else
    match parsePairs strtod max [] (field.splitOn pairSeparator) with
    | some out => if 3 ≤ out.length then some out else none
    | none => none

/-! ## What the measurement parser lets through -/

/-- A measurement the parser can store: `STATUS` with 0 or 1, or a variable inside its
interval. -/
def ValidMeasurement (m : Measurement) : Prop :=
  (m.name = ascii "STATUS" ∧ (m.value = 0 ∨ m.value = 1)) ∨
    ∃ range, valueRange m.name = some range ∧ range.1 ≤ m.value ∧ m.value ≤ range.2

structure ValidMeasurements (values : List Measurement) : Prop where
  valid : ∀ m ∈ values, ValidMeasurement m
  distinct : (values.map Measurement.name).Nodup
  three_le : 3 ≤ values.length

/-- The measurements of a well-formed datagram. -/
abbrev MeasurementSet := { values : List Measurement // ValidMeasurements values }

theorem parseValue_valid {strtod : Bytes → StrtodResult} {name valueText : Bytes} {value : ℚ}
    (h : parseValue strtod name valueText = some value) : ValidMeasurement ⟨name, value⟩ := by
  unfold parseValue at h
  by_cases status : name = ascii "STATUS"
  · rw [if_pos status] at h
    by_cases ok : valueText = ascii "OK"
    · rw [if_pos ok] at h
      exact .inl ⟨status, .inr (Option.some.inj h).symm⟩
    · rw [if_neg ok] at h
      by_cases fail : valueText = ascii "FAIL"
      · rw [if_pos fail] at h
        exact .inl ⟨status, .inl (Option.some.inj h).symm⟩
      · rw [if_neg fail] at h
        cases h
  · rw [if_neg status] at h
    cases hr : valueRange name with
    | none => simp [hr] at h
    | some range =>
      cases hv : (strtod valueText).value with
      | none => simp [hr, hv] at h
      | some v =>
        have bounds : v = value ∧ range.1 ≤ v ∧ v ≤ range.2 := by
          simp only [hr, hv] at h
          split_ifs at h with chars unread outside
          rw [not_or, not_lt, not_lt] at outside
          exact ⟨Option.some.inj h, outside⟩
        obtain ⟨rfl, inside⟩ := bounds
        exact .inr ⟨range, hr, inside⟩

theorem parsePairs_valid {strtod : Bytes → StrtodResult} {max : Nat} {pairs : List Bytes}
    {out values : List Measurement} (valid : ∀ m ∈ out, ValidMeasurement m)
    (distinct : (out.map Measurement.name).Nodup)
    (h : parsePairs strtod max out pairs = some values) :
    (∀ m ∈ values, ValidMeasurement m) ∧ (values.map Measurement.name).Nodup := by
  induction pairs generalizing out with
  | nil =>
    obtain rfl : out = values := Option.some.inj h
    exact ⟨valid, distinct⟩
  | cons pair pairs ih =>
    rw [parsePairs] at h
    split_ifs at h with malformed repeated
    cases hv : parseValue strtod (pairName pair) (pairValueText pair) with
    | none =>
      rw [hv] at h
      cases h
    | some value =>
      rw [hv] at h
      refine ih (fun m hm => ?_) ?_ h
      · rcases List.mem_append.mp hm with hm | hm
        · exact valid m hm
        · rw [List.mem_singleton.mp hm]
          exact parseValue_valid hv
      · rw [List.map_append, List.nodup_append]
        refine ⟨distinct, by simp, ?_⟩
        intro a ha b hb hab
        obtain ⟨m, hm, rfl⟩ := List.mem_map.mp ha
        rw [List.map_singleton, List.mem_singleton] at hb
        exact repeated ⟨m, hm, hab.trans hb⟩

/-- Everything the parser accepts is a valid set of measurements. -/
theorem parseMeasurements_valid {strtod : Bytes → StrtodResult} {field : Bytes} {max : Nat}
    {values : List Measurement} (h : parseMeasurements strtod field max = some values) :
    ValidMeasurements values := by
  unfold parseMeasurements at h
  rw [ite_eq_iff] at h
  obtain ⟨-, h⟩ | ⟨-, h⟩ := h
  · cases h
  cases hp : parsePairs strtod max [] (field.splitOn pairSeparator) with
  | none => simp [hp] at h
  | some out =>
    simp only [hp] at h
    split_ifs at h with three
    obtain rfl : out = values := Option.some.inj h
    obtain ⟨valid, distinct⟩ := parsePairs_valid (by simp) (by simp) hp
    exact ⟨valid, distinct, three⟩

end Telep
