import Telep.Client.Proofs.Measurements
import Telep.Misc.Tokens
import Telep.Server.Proofs.AlertGap
import Telep.Server.Proofs.StoredMeasurements

/-!
# What is written is what is read

`encode_message` and `parse_message` are inverse to each other (`message_round_trip`). The text of
the stored measurements is read back by the server with rounded values and by the client with the
printed ones (`measurements_round_trip`).
-/

namespace Telep

/-! ## Messages -/

/-- The fields of a message that is read are the parts between its separators. -/
theorem splitOn_of_parseMessage {line : Bytes} {message : ParsedMessage}
    (read : parseMessage line = some message) :
    line.splitOn fieldSeparator = message.command :: message.args ∧
      joinFields (message.command :: message.args) = line := by
  obtain ⟨joined, valid, -⟩ := parseMessage_eq_some.mp read
  refine ⟨?_, joined.symm⟩
  rw [joined]
  exact List.splitOn_intercalate fieldSeparator (fun f hf => (valid f hf).2)
    (List.cons_ne_nil _ _)

/-- The lines that are messages. -/
theorem parseMessage_isSome {line : Bytes} :
    (parseMessage line).isSome = true ↔
      1 ≤ line.length ∧ line.length ≤ 1023 ∧ Printable line ∧
        (line.splitOn fieldSeparator).length ≤ 9 ∧
        ∀ part ∈ line.splitOn fieldSeparator, part ≠ [] := by
  constructor
  · intro some
    obtain ⟨⟨command, args⟩, read⟩ := Option.isSome_iff_exists.mp some
    obtain ⟨joined, valid, printable, short, few⟩ := parseMessage_eq_some.mp read
    have nonempty : line ≠ [] :=
    joined ▸ joinFields_ne_nil (valid command List.mem_cons_self).1 args
    rw [(splitOn_of_parseMessage read).1]
    exact ⟨List.length_pos_of_ne_nil nonempty, Nat.le_of_lt_succ short, printable,
      Nat.succ_le_succ few, fun part member => (valid part member).1⟩
  · rintro ⟨-, short, printable, few, nonempty⟩
    have joined : joinFields (line.splitOn fieldSeparator) = line :=
      List.intercalate_splitOn fieldSeparator
    have clean : ∀ part ∈ line.splitOn fieldSeparator, fieldSeparator ∉ part :=
      fun part member => not_mem_of_mem_splitOn member
    cases parts : line.splitOn fieldSeparator with
    | nil => exact absurd parts (List.splitOn_ne_nil fieldSeparator line)
    | cons command args =>
      rw [parts] at few nonempty joined clean
      refine Option.isSome_iff_exists.mpr ⟨⟨command, args⟩, parseMessage_eq_some.mpr
        ⟨joined.symm, fun f hf => ⟨nonempty f hf, clean f hf⟩, printable,
          Nat.lt_succ_of_le short, Nat.le_of_succ_le_succ few⟩⟩

/-- A message of fields without separators is encoded, and the line is parsed into its fields;
the lines that are parsed are the printable ones of at most 1023 bytes that consist of one to nine
parts, none of them empty, and their fields joined are the line again. -/
theorem message_round_trip :
    (∀ command fields, fields.length ≤ 8 →
      (∀ part ∈ command :: fields, IsField part ∧ Printable part) →
      (joinFields (command :: fields)).length ≤ 1023 →
      ∃ line, encodeMessage command fields = some (line ++ [lineFeed]) ∧
        parseMessage line = some ⟨command, fields⟩) ∧
    ∀ line : Bytes,
      ((parseMessage line).isSome = true ↔
        1 ≤ line.length ∧ line.length ≤ 1023 ∧ Printable line ∧
          (line.splitOn fieldSeparator).length ≤ 9 ∧
          ∀ part ∈ line.splitOn fieldSeparator, part ≠ []) ∧
      ∀ message, parseMessage line = some message →
        line.splitOn fieldSeparator = message.command :: message.args ∧
          joinFields (message.command :: message.args) = line := by
  constructor
  · intro command fields few valid short
    refine ⟨joinFields (command :: fields), encodeMessage_eq valid (Nat.succ_le_succ short), ?_⟩
    have printable := printable_joinFields fun f hf => (valid f hf).2
    exact parseMessage_eq_some.mpr ⟨rfl, fun f hf => (valid f hf).1, printable,
      Nat.lt_succ_of_le short, few⟩
  · intro line
    exact ⟨parseMessage_isSome, fun message read => splitOn_of_parseMessage read⟩

/-! ## Measurements -/

/-- What the server reads back of a measurement it prints. -/
def Measurement.rounded (m : Measurement) : Measurement :=
  if m.name = ascii "STATUS" then m else ⟨m.name, roundedHundredths m.value⟩

@[simp] theorem rounded_name (m : Measurement) : m.rounded.name = m.name := by
  unfold Measurement.rounded
  split <;> rfl

/-- A whole number of hundredths is printed as it is. -/
theorem roundedHundredths_hundredths (k : ℤ) : roundedHundredths (k / 100) = k / 100 := by
  obtain ⟨⟨j, whole⟩, near⟩ := roundedHundredths_near (k / 100)
  rw [whole, ← sub_div, abs_div, abs_of_pos (by norm_num : (0 : ℚ) < 100)] at near
  have close : |(j : ℚ) - k| ≤ 1 / 2 := by linarith
  have small : |j - k| < 1 := by
    have cast : ((|j - k| : ℤ) : ℚ) < 1 := by push_cast; linarith
    exact_mod_cast cast
  have same : j - k = 0 := Int.abs_lt_one_iff.mp small
  rw [whole, sub_eq_zero.mp same]

theorem rounded_rounded (m : Measurement) : m.rounded.rounded = m.rounded := by
  unfold Measurement.rounded
  by_cases status : m.name = ascii "STATUS"
  · simp [status]
  · obtain ⟨k, whole⟩ := (roundedHundredths_near m.value).1
    simp only [if_neg status, whole, roundedHundredths_hundredths]

theorem map_rounded_rounded (ms : List Measurement) :
    (ms.map Measurement.rounded).map Measurement.rounded = ms.map Measurement.rounded := by
  rw [List.map_map]
  exact List.map_congr_left fun m _ => rounded_rounded m

/-- A valid measurement is printed as a pair that stands for the rounded one. -/
theorem ValidMeasurement.isPair {strtod : Bytes → StrtodResult} (reads : ReadsHundredths strtod)
    {m : Measurement} (valid : ValidMeasurement m) :
    IsPair strtod (formatMeasurement m) m.rounded := by
  refine ⟨m.printed, by rw [formatMeasurement_eq, rounded_name], ?_⟩
  rw [rounded_name]
  unfold Measurement.printed Measurement.rounded
  rcases valid with ⟨status, zero | one⟩ | ⟨⟨low, high⟩, range, low_le, le_high⟩
  · rw [if_pos status, if_pos status, zero, if_neg (by simp)]
    exact .fail status rfl rfl
  · rw [if_pos status, if_pos status, one, if_pos (by norm_num)]
    exact .ok status rfl rfl
  · have unranged : valueRange (ascii "STATUS") = none := by decide
    have other : m.name ≠ ascii "STATUS" := by
      intro status
      rw [status, unranged] at range
      cases range
    rw [if_neg other, if_neg other]
    have inside : InRange m.name m.value := ⟨low, high, range, low_le, le_high⟩
    exact inside.isValueText reads

theorem IsPair.valid {strtod : Bytes → StrtodResult} {pair : Bytes} {m : Measurement}
    (h : IsPair strtod pair m) : ValidMeasurement m := by
  obtain ⟨text, -, value⟩ := h
  cases value with
  | ok status ok one => exact .inl ⟨status, .inr one⟩
  | fail status fail zero => exact .inl ⟨status, .inl zero⟩
  | number low high range chars reads low_le le_high => exact .inr ⟨_, range, low_le, le_high⟩

/-- A dictionary of different keys has an entry for each, in their order. -/
theorem dictUpdate_fresh {α : Type} {d e : List (Bytes × α)}
    (fresh : ((d ++ e).map Prod.fst).Nodup) : dictUpdate d e = d ++ e := by
  induction e generalizing d with
  | nil => exact (List.append_nil d).symm
  | cons entry e ih =>
    have new : entry.1 ∉ d.map Prod.fst := by
      rw [List.map_append, List.nodup_append] at fresh
      intro old
      exact fresh.2.2 _ old _ List.mem_cons_self rfl
    have step : dictUpdate d (entry :: e) = dictUpdate (d ++ [entry]) e := by
      rw [dictUpdate, List.foldl_cons, dictSet, if_neg new]
      rfl
    rw [step, ih (by rwa [List.append_assoc, List.singleton_append]), List.append_assoc,
      List.singleton_append]

theorem splitPair_formatMeasurement {m : Measurement} (valid : ValidMeasurement m) :
    splitPair (formatMeasurement m) = some (m.name, m.printed) := by
  have names : ∀ name ∈ variableNames, equalsSign ∉ name := by decide
  have parts : pairName (m.name ++ equalsSign :: m.printed) = m.name ∧
      pairValueText (m.name ++ equalsSign :: m.printed) = m.printed :=
    pair_parts (names m.name valid.name_mem)
  unfold pairName pairValueText at parts
  rw [formatMeasurement_eq, splitPair, if_pos (by simp), parts.1, parts.2]

theorem mapM_splitPair {ms : List Measurement} (valid : ∀ m ∈ ms, ValidMeasurement m) :
    (ms.map formatMeasurement).mapM splitPair = some (ms.map fun m => (m.name, m.printed)) := by
  induction ms with
  | nil => rfl
  | cons m ms ih =>
    have rest := ih fun m' member => valid m' (List.mem_cons_of_mem _ member)
    rw [List.map_cons, List.mapM_cons, splitPair_formatMeasurement (valid m List.mem_cons_self),
      rest]
    rfl

section Stored

variable {node : TelemetryNode} (valid : ValidMeasurements node.measurements)

include valid

/-- The text of a valid set is in the format of a datagram. -/
theorem ValidMeasurements.isMeasurements {strtod : Bytes → StrtodResult}
    (reads : ReadsHundredths strtod) :
    IsMeasurements strtod (formatMeasurements node maxLine)
      (node.measurements.map Measurement.rounded) where
  pairs := by
    refine ⟨_, formatMeasurements_eq valid.valid valid.length_le (by decide), ?_⟩
    rw [List.forall₂_map_left_iff, List.forall₂_map_right_iff, List.forall₂_same]
    exact fun m member => (valid.valid m member).isPair reads
  distinct := by
    rw [List.map_map]
    exact (List.map_congr_left fun m _ => rounded_name m) ▸ valid.distinct
  three_le := by
    rw [List.length_map]
    exact valid.three_le
  le_five := by
    rw [List.length_map]
    exact valid.length_le

/-- The server reads its own text. -/
theorem ValidMeasurements.parse_format {strtod : Bytes → StrtodResult}
    (reads : ReadsHundredths strtod) :
    parseMeasurements strtod (formatMeasurements node maxLine) maxVars =
      some (node.measurements.map Measurement.rounded) := by
  have short := formatMeasurements_length_le valid.valid valid.length_le maxLine
  exact (parseMeasurements_iff (short.trans_lt (by decide))).mpr (valid.isMeasurements reads)

/-- What is read back is a valid set again. -/
theorem ValidMeasurements.rounded :
    ValidMeasurements (node.measurements.map Measurement.rounded) where
  valid := by
    intro m member
    obtain ⟨m', member', rfl⟩ := List.mem_map.mp member
    exact ((valid.valid m' member').isPair strtodHundredths_reads).valid
  distinct := by
    rw [List.map_map]
    exact (List.map_congr_left fun m _ => rounded_name m) ▸ valid.distinct
  three_le := by
    rw [List.length_map]
    exact valid.three_le

/-- The client finds the entries of the text. -/
theorem ValidMeasurements.decode_format :
    decodeMeasurements (formatMeasurements node maxLine) =
      some (node.measurements.map fun m => (m.name, m.printed)) := by
  have pairs : node.measurements.map formatMeasurement ≠ [] := by
    intro none
    have length := congrArg List.length none
    have three := valid.three_le
    rw [List.length_map, List.length_nil] at length
    omega
  have clean : ∀ pair ∈ node.measurements.map formatMeasurement, pairSeparator ∉ pair := by
    intro pair member separator
    obtain ⟨m, stored, rfl⟩ := List.mem_map.mp member
    have chars := ((valid.valid m stored).isPair strtodHundredths_reads).chars
    exact (chars _ separator).2.1 rfl
  have split : (formatMeasurements node maxLine).splitOn pairSeparator =
      node.measurements.map formatMeasurement := by
    rw [formatMeasurements_eq valid.valid valid.length_le (by decide)]
    exact List.splitOn_intercalate pairSeparator clean pairs
  have equals : equalsSign ∈ formatMeasurements node maxLine := by
    rw [formatMeasurements_eq valid.valid valid.length_le (by decide)]
    obtain ⟨m, ms, stored⟩ : ∃ m ms, node.measurements = m :: ms :=
      List.exists_cons_of_ne_nil fun none => pairs (by rw [none]; rfl)
    rw [stored, List.map_cons, intercalate_cons_eq, formatMeasurement_eq]
    simp
  have distinct : ((([] : List (Bytes × Bytes)) ++
      node.measurements.map fun m => (m.name, m.printed)).map Prod.fst).Nodup := by
    rw [List.nil_append, List.map_map]
    exact valid.distinct
  rw [decodeMeasurements, if_neg (by
      rw [not_or, not_not]
      exact ⟨List.ne_nil_of_mem equals, equals⟩),
    split, mapM_splitPair valid.valid, Option.map_some, dictUpdate_fresh distinct, List.nil_append]

end Stored

/-- For a node that accepted telemetry, the text of `GET_LAST` is read by the server as the same
names in the same order, the status as it is and every other value rounded to hundredths and still
in its interval; printing and reading those again changes nothing, and the client reads one entry
for each measurement, with the value that was printed. -/
theorem measurements_round_trip {strtod : Bytes → StrtodResult} (reads : ReadsHundredths strtod)
    {strtod' : Bytes → StrtodResult} {startedAt bootId : Long} {s : ServerThreads}
    (reachable : (threadsMachine strtod' startedAt bootId).Reachable s) {node : TelemetryNode}
    (member : node ∈ registeredNodes s.registry.toRegistrySnapshot)
    (accepted : 0 < node.datagramsReceived) :
    let read := node.measurements.map fun m =>
      if m.name = ascii "STATUS" then m else ⟨m.name, roundedHundredths m.value⟩
    parseMeasurements strtod (formatMeasurements node maxLine) maxVars = some read ∧
      (∀ m ∈ read, ValidMeasurement m) ∧
      parseMeasurements strtod (formatMeasurements { node with measurements := read } maxLine)
        maxVars = some read ∧
      decodeMeasurements (formatMeasurements node maxLine) =
        some (node.measurements.map fun m => (m.name,
          if m.name = ascii "STATUS" then if m.value ≠ 0 then ascii "OK" else ascii "FAIL"
          else formatFixed2 m.value)) ∧
      (node.measurements.map Measurement.name).Nodup := by
  intro read
  have valid := ServerThreads.stored_reachable reachable member accepted
  have again : ValidMeasurements (TelemetryNode.measurements { node with measurements := read }) :=
    valid.rounded
  refine ⟨valid.parse_format reads, valid.rounded.valid, ?_, valid.decode_format, valid.distinct⟩
  exact (again.parse_format reads).trans (congrArg some (map_rounded_rounded node.measurements))

/-- A run with one node and one datagram. -/
def reportedOnce : ServerThreads :=
  (threadsMachine ServerThreads.strtodDigits ⟨7, by decide⟩ ⟨1, by decide⟩).exec
    (threadsInit ⟨7, by decide⟩ ⟨1, by decide⟩) ServerThreads.beforeSubscribe

theorem measurements_round_trip_sample :
    ∃ node ∈ registeredNodes reportedOnce.registry.toRegistrySnapshot,
      parseMeasurements strtodHundredths (formatMeasurements node maxLine) maxVars =
        some [⟨ascii "TEMP", 20⟩, ⟨ascii "HUM", 50⟩, ⟨ascii "STATUS", 0⟩] ∧
      decodeMeasurements (formatMeasurements node maxLine) =
        some [(ascii "TEMP", ascii "20.00"), (ascii "HUM", ascii "50.00"),
          (ascii "STATUS", ascii "FAIL")] := by
  have run : ((registeredNodes reportedOnce.registry.toRegistrySnapshot).map fun node =>
      (node.datagramsReceived, node.measurements)) =
        [(1, [⟨ascii "TEMP", 20⟩, ⟨ascii "HUM", 50⟩, ⟨ascii "STATUS", 0⟩])] := by
    decide +kernel
  obtain ⟨node, member, same⟩ := List.mem_map.mp (run ▸ List.mem_cons_self)
  obtain ⟨received, stored⟩ := Prod.mk.inj same
  obtain ⟨read, -, -, decoded, -⟩ := measurements_round_trip strtodHundredths_reads
    (show (threadsMachine ServerThreads.strtodDigits ⟨7, by decide⟩ ⟨1, by decide⟩).Reachable
      reportedOnce from ⟨ServerThreads.beforeSubscribe, rfl⟩) member
    (received ▸ Nat.one_pos)
  rw [stored] at read decoded
  exact ⟨node, member, read.trans (by decide +kernel), decoded.trans (by decide +kernel)⟩

end Telep
