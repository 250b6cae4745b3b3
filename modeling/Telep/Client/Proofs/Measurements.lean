import Telep.Client.Measurements
import Telep.Client.Proofs.HonestNode
import Telep.Server.Proofs.Hundredths

/-!
# What a node sends is what the server reads

The encoder of the node and the parser of the server agree: a spike and a clamped draw lie in the
interval of their variable, rounding does not leave it, and the message that carries them is
accepted with the id, the session and the sequence of the node and the rounded values.
-/

namespace Telep

universe u

/-! ## The table of intervals -/

/-- Both programs use the same table. -/
theorem ranges_eq_valueRange (key : Bytes) : ranges key = valueRange key := rfl

theorem ranges_ends {key : Bytes} {low high : ℚ} (h : ranges key = some (low, high)) :
    ∃ l u : Nat, low = -(l : ℚ) ∧ high = u ∧ l ≤ 1000000 ∧ u ≤ 1000000 := by
  unfold ranges at h
  split_ifs at h <;> cases h
  · exact ⟨100, 200, by norm_num, by norm_num, by norm_num, by norm_num⟩
  · exact ⟨0, 100, by norm_num, by norm_num, by norm_num, by norm_num⟩
  · exact ⟨0, 1000000, by norm_num, by norm_num, by norm_num, by norm_num⟩
  · exact ⟨0, 1000, by norm_num, by norm_num, by norm_num, by norm_num⟩

theorem ranges_mem {key : Bytes} {range : ℚ × ℚ} (h : ranges key = some range) :
    key ∈ simulatedVariables := by
  unfold ranges at h
  unfold simulatedVariables
  split_ifs at h <;> simp [*]

/-- A number inside the interval of its variable. -/
def InRange (key : Bytes) (value : ℚ) : Prop :=
  ∃ low high, ranges key = some (low, high) ∧ low ≤ value ∧ value ≤ high

theorem InRange.abs_value_le {key : Bytes} {value : ℚ} (h : InRange key value) :
    |value| ≤ 1000000 := by
  obtain ⟨low, high, range, low_le, le_high⟩ := h
  obtain ⟨l, u, rfl, rfl, small, small'⟩ := ranges_ends range
  have l_le : (l : ℚ) ≤ 1000000 := by exact_mod_cast small
  have u_le : (u : ℚ) ≤ 1000000 := by exact_mod_cast small'
  exact abs_le.mpr ⟨by linarith, by linarith⟩

/-- Rounding does not leave the interval, and the server reads the rounded number. -/
theorem InRange.isValueText {strtod : Bytes → StrtodResult} (reads : ReadsHundredths strtod)
    {key : Bytes} {value : ℚ} (h : InRange key value) :
    IsValueText strtod key (formatFixed2 value) (roundedHundredths value) := by
  have read := reads.formatFixed2 h.abs_value_le
  have nonempty : formatFixed2 value ≠ [] := by simp [formatFixed2]
  obtain ⟨low, high, range, low_le, le_high⟩ := h
  obtain ⟨l, u, rfl, rfl, -, -⟩ := ranges_ends range
  obtain ⟨low_le, le_high⟩ := roundedHundredths_mem low_le le_high
  refine .number _ _ (ranges_eq_valueRange key ▸ range) (fun c hc => ?_)
    ⟨nonempty, by rw [read], by rw [read], by rw [read]⟩ low_le le_high
  rw [formatFixed2_eq] at hc
  rcases hundredthsLiteral_chars _ _ c hc with rfl | rfl | digit
  · decide
  · decide
  · exact digit.mem_numberChars

/-! ## The measurements of a node -/

section Dictionaries

variable {α : Type u} {d e : List (Bytes × α)} {key : Bytes} {value : α}

theorem mem_dictSet {entry : Bytes × α} (h : entry ∈ dictSet d key value) :
    entry ∈ d ∨ entry = (key, value) := by
  unfold dictSet at h
  split at h
  · obtain ⟨old, member, rfl⟩ := List.mem_map.mp h
    split
    · exact .inr rfl
    · exact .inl member
  · simpa using h

theorem dictSet_keys (h : key ∈ d.map Prod.fst) :
    (dictSet d key value).map Prod.fst = d.map Prod.fst := by
  rw [dictSet, if_pos h, List.map_map]
  refine List.map_congr_left fun entry _ => ?_
  rw [Function.comp_apply]
  split
  · next same => exact same.symm
  · rfl

theorem mem_dictUpdate {entry : Bytes × α} (h : entry ∈ dictUpdate d e) :
    entry ∈ d ∨ entry ∈ e := by
  induction e generalizing d with
  | nil => exact .inl h
  | cons first e ih =>
    rcases ih h with old | new
    · rcases mem_dictSet old with old | rfl
      · exact .inl old
      · exact .inr List.mem_cons_self
    · exact .inr (List.mem_cons_of_mem _ new)

theorem dictUpdate_keys (h : ∀ entry ∈ e, entry.1 ∈ d.map Prod.fst) :
    (dictUpdate d e).map Prod.fst = d.map Prod.fst := by
  induction e generalizing d with
  | nil => rfl
  | cons first e ih =>
    have keys : (dictSet d first.1 first.2).map Prod.fst = d.map Prod.fst :=
      dictSet_keys (h first List.mem_cons_self)
    refine (ih fun entry member => ?_).trans keys
    rw [keys]
    exact h entry (List.mem_cons_of_mem _ member)

end Dictionaries

theorem parseSpike_inRange {float : Bytes → Option ℚ} {upper : Bytes → Bytes}
    {forced forced' : List (Bytes × ℚ)} {spec : Bytes}
    (h : parseSpike float upper forced spec = some forced')
    (before : ∀ e ∈ forced, InRange e.1 e.2) : ∀ e ∈ forced', InRange e.1 e.2 := by
  unfold parseSpike at h
  split at h
  · cases h
  · simp only [Option.bind_eq_bind, Option.bind_eq_some_iff] at h
    obtain ⟨value, -, ⟨low, high⟩, range, h⟩ := h
    split_ifs at h with inside
    cases h
    intro e he
    rcases mem_dictSet he with old | rfl
    · exact before e old
    · exact ⟨low, high, range, inside⟩

theorem parseSpikes_inRange {float : Bytes → Option ℚ} {upper : Bytes → Bytes}
    {forced forced' : List (Bytes × ℚ)} {specs : List Bytes}
    (h : specs.foldlM (parseSpike float upper) forced = some forced')
    (before : ∀ e ∈ forced, InRange e.1 e.2) : ∀ e ∈ forced', InRange e.1 e.2 := by
  induction specs generalizing forced with
  | nil =>
    obtain rfl := Option.some.inj h
    exact before
  | cons spec specs ih =>
    rw [List.foldlM_cons, Option.bind_eq_bind, Option.bind_eq_some_iff] at h
    obtain ⟨next, first, rest⟩ := h
    exact ih rest (parseSpike_inRange first before)

/-- What `parse_arguments` promises of the arguments it returns. -/
structure NodeConfig.Valid (config : NodeConfig) : Prop where
  id : isValidNodeId config.id = true
  session : isValidSession config.session = true
  one_le : 1 ≤ config.count
  count_le : config.count ≤ sessionLimit
  forced : ∀ e ∈ config.forced, InRange e.1 e.2

theorem matchesId_iff {text : Bytes} : matchesId text = true ↔ IsIdentifier text := by
  rw [matchesId, decide_eq_true_iff]
  exact ⟨fun h => ⟨h.1, h.2.1, h.2.2⟩, fun h => ⟨h.one_le, h.le_fifteen, h.chars⟩⟩

theorem matchesSession_iff {text : Bytes} : matchesSession text = true ↔ IsSession text := by
  rw [matchesSession, decide_eq_true_iff]
  exact ⟨fun h => ⟨h.1, h.2⟩, fun h => ⟨h.length, h.chars⟩⟩

theorem parseArguments_valid {float : Bytes → Option ℚ} {upper : Bytes → Bytes}
    {raw : RawArguments} {config : NodeConfig}
    (h : parseArguments float upper raw = some config) : config.Valid := by
  unfold parseArguments at h
  split_ifs at h with id session count
  · simp only [Option.bind_eq_bind, Option.bind_eq_some_iff, Option.pure_def,
      Option.some.injEq] at h
    obtain ⟨interval, -, dnsRefresh, -, drop, -, forced, spikes, rfl⟩ := h
    have positive : 0 ≤ raw.count := by omega
    exact
      { id := isValidNodeId_iff.mpr (matchesId_iff.mp id)
        session := isValidSession_iff.mpr (matchesSession_iff.mp session)
        one_le := by simp only; omega
        count_le := by simp only; omega
        forced := parseSpikes_inRange spikes (by simp) }
  · simp at h

/-- The node that `main` runs for the arguments. -/
structure NodeConfig.Runs (config : NodeConfig) (a : NodeArgs) : Prop where
  id : a.id.val = config.id
  session : a.session.val = config.session
  count : a.count = config.count
  dnsRefresh : a.dnsRefresh = config.dnsRefresh

/-- What a node measures of a variable. -/
def Measures : Bytes × Measured → Prop
  | (key, .number value) => InRange key value
  | (key, .text text) => key = ascii "STATUS" ∧ (text = ascii "OK" ∨ text = ascii "FAIL")

theorem clamp_inRange {key : Bytes} (known : key ∈ simulatedVariables) (drawn : ℚ) :
    InRange key (clamp key drawn) := by
  have ordered : ∀ key ∈ simulatedVariables, ∃ low high : ℚ,
      ranges key = some (low, high) ∧ low ≤ high := by
    intro key known
    simp only [simulatedVariables, List.mem_cons, List.not_mem_nil, or_false] at known
    rcases known with rfl | rfl | rfl | rfl
    · exact ⟨-100, 200, rfl, by norm_num⟩
    · exact ⟨0, 100, rfl, by norm_num⟩
    · exact ⟨0, 1000000, rfl, by norm_num⟩
    · exact ⟨0, 1000, rfl, by norm_num⟩
  obtain ⟨low, high, range, le⟩ := ordered key known
  refine ⟨low, high, range, ?_, ?_⟩ <;> rw [clamp, range]
  · exact le_min le (le_max_left low drawn)
  · exact min_le_left _ _

section Measurements

variable {draw : Bytes → ℚ} {forced : List (Bytes × ℚ)} {failStatus : Bool}

/-- A spike replaces the value of a variable and adds none. -/
theorem takeMeasurements_eq (draw : Bytes → ℚ) (failStatus : Bool)
    (valid : ∀ e ∈ forced, InRange e.1 e.2) :
    ∃ values : List (Bytes × ℚ), values.map Prod.fst = simulatedVariables ∧
      (∀ e ∈ values, InRange e.1 e.2) ∧
      takeMeasurements draw forced failStatus = values.map (fun e => (e.1, .number e.2)) ++
        [(ascii "STATUS", .text (if failStatus then ascii "FAIL" else ascii "OK"))] := by
  let drawn := simulatedVariables.map fun k => (k, clamp k (draw k))
  have keys : drawn.map Prod.fst = simulatedVariables := by
    rw [List.map_map]
    exact List.map_id _
  have names : (dictUpdate drawn forced).map Prod.fst = simulatedVariables := by
    rw [dictUpdate_keys fun e he => ?_, keys]
    obtain ⟨low, high, range, -⟩ := valid e he
    rw [keys]
    exact ranges_mem range
  refine ⟨dictUpdate drawn forced, names, fun e he => ?_, ?_⟩
  · rcases mem_dictUpdate he with he | he
    · obtain ⟨k, known, rfl⟩ := List.mem_map.mp he
      exact clamp_inRange known _
    · exact valid e he
  · have absent : ascii "STATUS" ∉ simulatedVariables := by decide
    rw [takeMeasurements, dictSet, if_neg]
    rw [List.map_map]
    exact names.symm ▸ absent

theorem takeMeasurements_measures (valid : ∀ e ∈ forced, InRange e.1 e.2) :
    ∀ e ∈ takeMeasurements draw forced failStatus, Measures e := by
  obtain ⟨values, -, inside, measured⟩ :=
    takeMeasurements_eq draw failStatus valid
  rw [measured]
  intro e he
  rcases List.mem_append.mp he with he | he
  · obtain ⟨value, hv, rfl⟩ := List.mem_map.mp he
    exact inside value hv
  · rw [List.mem_singleton.mp he]
    refine ⟨rfl, ?_⟩
    split
    · exact .inr rfl
    · exact .inl rfl

/-- `variableNames` in the order of the node. -/
theorem takeMeasurements_names (valid : ∀ e ∈ forced, InRange e.1 e.2) :
    (takeMeasurements draw forced failStatus).map Prod.fst =
      simulatedVariables ++ [ascii "STATUS"] := by
  obtain ⟨values, names, -, measured⟩ :=
    takeMeasurements_eq draw failStatus valid
  rw [measured, List.map_append, List.map_map, ← names]
  rfl

end Measurements

/-! ## The message -/

/-- What the server reads for a value of the node. -/
def Measured.received : Measured → ℚ
  | number value => roundedHundredths value
  | text value => if value = ascii "OK" then 1 else 0

/-- The measurements of the server for those of the node. -/
def received (measurements : List (Bytes × Measured)) : List Measurement :=
  measurements.map fun e => ⟨e.1, e.2.received⟩

theorem Measures.isPair {strtod : Bytes → StrtodResult} (reads : ReadsHundredths strtod)
    {e : Bytes × Measured} (h : Measures e) :
    IsPair strtod (e.1 ++ equalsSign :: e.2.encoded) ⟨e.1, e.2.received⟩ := by
  refine ⟨e.2.encoded, rfl, ?_⟩
  match e, h with
  | (key, .number value), inside => exact InRange.isValueText reads inside
  | (key, .text text), ⟨status, .inl ok⟩ => exact .ok status ok (by simp [Measured.received, ok])
  | (key, .text text), ⟨status, .inr fail⟩ =>
    have other : ascii "FAIL" ≠ ascii "OK" := by decide
    exact .fail status fail (by simp [Measured.received, fail, other])

theorem Measures.short {e : Bytes × Measured} (h : Measures e) : e.2.encoded.length ≤ 11 := by
  match e, h with
  | (key, .number value), inside => exact formatFixed2_short (InRange.abs_value_le inside)
  | (key, .text text), ⟨_, .inl ok⟩ => rw [Measured.encoded, ok]; decide
  | (key, .text text), ⟨_, .inr fail⟩ => rw [Measured.encoded, fail]; decide

section Message

variable {measurements : List (Bytes × Measured)}

theorem encodeMeasurements_isMeasurements {strtod : Bytes → StrtodResult}
    (reads : ReadsHundredths strtod) (measures : ∀ e ∈ measurements, Measures e)
    (names : measurements.map Prod.fst = simulatedVariables ++ [ascii "STATUS"]) :
    IsMeasurements strtod (encodeMeasurements measurements) (received measurements) where
  pairs := by
    refine ⟨_, rfl, ?_⟩
    rw [received, List.forall₂_map_left_iff, List.forall₂_map_right_iff, List.forall₂_same]
    exact fun e he => (measures e he).isPair reads
  distinct := by
    have same : (received measurements).map Measurement.name = measurements.map Prod.fst := by
      rw [received, List.map_map]
      rfl
    rw [same, names]
    decide
  three_le := by
    have length := congrArg List.length names
    rw [List.length_map] at length
    rw [received, List.length_map, length]
    decide
  le_five := by
    have length := congrArg List.length names
    rw [List.length_map] at length
    rw [received, List.length_map, length]
    decide

theorem encodeMeasurements_short (measures : ∀ e ∈ measurements, Measures e)
    (names : measurements.map Prod.fst = simulatedVariables ++ [ascii "STATUS"]) :
    (encodeMeasurements measurements).length ≤ 95 := by
  have length := congrArg List.length names
  rw [List.length_map] at length
  have keys : ∀ name ∈ simulatedVariables ++ [ascii "STATUS"], name.length ≤ 6 := by decide
  have each : ∀ part ∈ measurements.map fun e => e.1 ++ equalsSign :: e.2.encoded,
      part.length ≤ 18 := by
    intro part hp
    obtain ⟨e, he, rfl⟩ := List.mem_map.mp hp
    have key := keys e.1 (names ▸ List.mem_map_of_mem he)
    have value := (measures e he).short
    rw [List.length_append, List.length_cons]
    omega
  have bound := intercalate_length_le [pairSeparator] each
  rw [List.length_map, length] at bound
  exact bound

end Message

/-- A message of fields without separators that is short enough is sent as it is. -/
theorem encodeMessage_eq {command : Bytes} {fields : List Bytes}
    (valid : ∀ f ∈ command :: fields, IsField f ∧ Printable f)
    (short : (joinFields (command :: fields)).length + 1 ≤ maxLine) :
    encodeMessage command fields = some (joinFields (command :: fields) ++ [lineFeed]) := by
  have printable := printable_joinFields fun f hf => (valid f hf).2
  have parts : ¬ ∃ part ∈ command :: fields, part = [] ∨ ∃ c ∈ part, c ∈ forbiddenBytes := by
    rintro ⟨part, hp, empty | ⟨c, hc, forbidden⟩⟩
    · exact (valid part hp).1.1 empty
    · simp only [forbiddenBytes, List.mem_cons, List.not_mem_nil, or_false] at forbidden
      rcases forbidden with rfl | rfl | rfl | rfl
      · exact (valid part hp).1.2 hc
      · exact (valid part hp).2.not_mem_carriageReturn hc
      · exact (valid part hp).2.not_mem_lineFeed hc
      · exact absurd ((valid part hp).2 _ hc).1 (by decide)
  have plain : ¬ ∃ c ∈ joinFields (command :: fields), 128 ≤ c := by
    rintro ⟨c, hc, high⟩
    exact absurd (UInt8.le_trans high (printable c hc).2) (by decide)
  rw [encodeMessage, if_neg parts, if_neg (not_lt.mpr short), if_neg plain]

/-- The sequence of an attempt is one that the server takes. -/
theorem sequence_le {a : NodeArgs} {startedAt bootId : Int} {w : World}
    (reachable : (a.machine startedAt bootId).Reachable w) (point : w.point = .attempt) :
    w.counters.attempts ≤ 65535 := by
  have inv : w.Inv a := by
    obtain ⟨events, rfl⟩ := reachable
    exact (World.inv_init a startedAt bootId).exec startedAt bootId events
  have behind := inv.accounts.attempts_le
  have limit := inv.accounts.total_le
  have count : a.count ≤ 65536 := a.count_le
  simp only [point, Point.isFinal, Point.untotalled, Point.admitted, true_implies] at behind limit
  omega

/-- The datagram of valid parts is sent, and the server reads from it what the node put in. -/
theorem telemetry_delivered {strtod : Bytes → StrtodResult} (reads : ReadsHundredths strtod)
    (id : NodeId) (session : Session) {sequence : Nat} (sequence_le : sequence ≤ 65535)
    {measurements : List (Bytes × Measured)} (measures : ∀ e ∈ measurements, Measures e)
    (names : measurements.map Prod.fst = simulatedVariables ++ [ascii "STATUS"]) :
    ∃ datagram,
      encodeMessage (ascii "TELEMETRY")
        (telemetryFields id.val session.val sequence measurements) = some datagram ∧
      wellFormedDatagram strtod datagram =
        some ⟨id.val, session.val, sequence, received measurements⟩ := by
  have format := encodeMeasurements_isMeasurements reads measures names
  have number := isNumber_decimal sequence
  have isId := isValidNodeId_iff.mp id.property
  have isSession := isValidSession_iff.mp session.property
  have command : IsField (ascii "TELEMETRY") ∧ Printable (ascii "TELEMETRY") := by decide
  have valid : ∀ f ∈ ascii "TELEMETRY" :: telemetryFields id.val session.val sequence measurements,
      IsField f ∧ Printable f := by
    intro f hf
    simp only [telemetryFields, List.mem_cons, List.not_mem_nil, or_false] at hf
    rcases hf with rfl | rfl | rfl | rfl | rfl
    · exact command
    · exact nodeId_isField id
    · exact session_isField session
    · exact number.isField
    · exact format.isField
  have short : (joinFields (ascii "TELEMETRY" ::
      telemetryFields id.val session.val sequence measurements)).length + 1 ≤ maxLine := by
    have field := encodeMeasurements_short measures names
    have digits := decimal_length_le (n := sequence) (k := 5) (by decide) (by omega)
    have letters : (ascii "TELEMETRY").length = 9 := rfl
    have limit : maxLine = 1024 := rfl
    have idLength := isId.le_fifteen
    have sessionLength := isSession.length
    simp only [telemetryFields, joinFields_cons_cons, joinFields_singleton, List.length_append,
      List.length_cons]
    omega
  refine ⟨_, encodeMessage_eq valid short, wellFormedDatagram_iff.mpr
    { length_le := by rw [List.length_append, List.length_singleton]; exact short
      text := ⟨decimal sequence, _, by simp [telemetryFields], number, format⟩
      nodeId := isId
      session := isSession
      sequence_le := sequence_le }⟩

/-- Whatever the arguments that `parse_arguments` accepts, the attempt that the main loop is at and
the numbers drawn, the message is encoded and the server takes the datagram for well formed and
reads the id, the session and the sequence of the node, the five names and their values: the nearest
hundredth of a number, and the status. -/
theorem measurements_delivered {strtod : Bytes → StrtodResult} (reads : ReadsHundredths strtod)
    {float : Bytes → Option ℚ} {upper : Bytes → Bytes} {raw : RawArguments} {config : NodeConfig}
    (accepted : parseArguments float upper raw = some config) {a : NodeArgs}
    (runs : config.Runs a) {startedAt bootId : Int} {w : World}
    (reachable : (a.machine startedAt bootId).Reachable w) (point : w.point = .attempt)
    (draw : Bytes → ℚ) :
    let measurements := takeMeasurements draw config.forced config.failStatus
    (∃ datagram,
      encodeMessage (ascii "TELEMETRY")
        (telemetryFields config.id w.session.val w.counters.attempts measurements) =
          some datagram ∧
      wellFormedDatagram strtod datagram =
        some ⟨config.id, w.session.val, w.counters.attempts, received measurements⟩ ∧
      ∀ r clock, udpTelemetryServer strtod r clock datagram =
        let result := registryRecordTelemetry r clock config.id w.session.val w.counters.attempts
          (received measurements)
        (result.1.getD [], result.2)) ∧
    measurements.map Prod.fst =
      [ascii "TEMP", ascii "HUM", ascii "POWER", ascii "VIB", ascii "STATUS"] ∧
    (∀ key value, (key, .number value) ∈ measurements →
      ⟨key, roundedHundredths value⟩ ∈ received measurements ∧
      (∃ k : ℤ, roundedHundredths value = k / 100) ∧ |roundedHundredths value - value| ≤ 1 / 200) ∧
    ⟨ascii "STATUS", if config.failStatus then 0 else 1⟩ ∈ received measurements := by
  intro measurements
  have valid := parseArguments_valid accepted
  have names : measurements.map Prod.fst = simulatedVariables ++ [ascii "STATUS"] :=
    takeMeasurements_names valid.forced
  obtain ⟨datagram, encoded, parsed⟩ := telemetry_delivered reads a.id w.session
    (sequence_le reachable point) (takeMeasurements_measures valid.forced) names
  rw [runs.id] at encoded parsed
  refine ⟨⟨datagram, encoded, parsed, udpTelemetryServer_wellFormed parsed⟩, names,
    fun key value member => ⟨List.mem_map.mpr ⟨_, member, rfl⟩, roundedHundredths_near value⟩, ?_⟩
  obtain ⟨values, -, -, measured⟩ :=
    takeMeasurements_eq draw config.failStatus valid.forced
  refine List.mem_map.mpr ⟨(ascii "STATUS", .text _), by
    rw [show measurements = _ from measured]
    exact List.mem_append_right _ List.mem_cons_self, ?_⟩
  have other : ascii "FAIL" ≠ ascii "OK" := by decide
  cases config.failStatus <;> simp [Measured.received, other]

/-! ## One configuration -/

/-- `str.upper` on ASCII letters. -/
def upperAscii (text : Bytes) : Bytes := text.map fun c => if 97 ≤ c ∧ c ≤ 122 then c - 32 else c

/-- `float` on decimal digits. -/
def floatDigits (text : Bytes) : Option ℚ := (parseUint text longMax).map fun n => (n : ℚ)

/-- A node with one spike, given in lower case. -/
def spikedArguments : RawArguments where
  id := ascii "N"
  interval := some 2
  count := 3
  drop := some 0
  dnsRefresh := some 5
  session := sessionS.val
  spike := [ascii "temp=50"]
  failStatus := true

def spikedConfig : NodeConfig where
  id := ascii "N"
  interval := 2
  count := 3
  drop := 0
  dnsRefresh := 5
  session := sessionS.val
  forced := [(ascii "TEMP", 50)]
  failStatus := true

def spikedNode : NodeArgs where
  id := nodeN
  session := sessionS
  count := 3
  count_le := by decide
  dnsRefresh := 5
  omittedByDrop := fun _ => false
  own := fun _ => true
  own_session := rfl

/-- The node at its first attempt. -/
def spikedWorld : World :=
  (spikedNode.machine 0 7).exec (spikedNode.world 0 7)
    (.check 0 :: controlEvents sessionS 0 ++ [.read sessionS 0])

theorem measurements_delivered_sample :
    ∃ datagram,
      encodeMessage (ascii "TELEMETRY")
        (telemetryFields (ascii "N") spikedWorld.session.val spikedWorld.counters.attempts
          (takeMeasurements (fun _ => 1 / 3) [(ascii "TEMP", 50)] true)) = some datagram ∧
      wellFormedDatagram strtodHundredths datagram =
        some ⟨ascii "N", spikedWorld.session.val, spikedWorld.counters.attempts,
          received (takeMeasurements (fun _ => 1 / 3) [(ascii "TEMP", 50)] true)⟩ := by
  have accepted : parseArguments floatDigits upperAscii spikedArguments = some spikedConfig := by
    decide +kernel
  have reachable : (spikedNode.machine 0 7).Reachable spikedWorld := ⟨_, rfl⟩
  obtain ⟨datagram, encoded, parsed, -⟩ := (measurements_delivered strtodHundredths_reads accepted
    (a := spikedNode) ⟨rfl, rfl, rfl, rfl⟩ reachable (by decide +kernel) fun _ => 1 / 3).1
  exact ⟨datagram, encoded, parsed⟩

end Telep
