import Telep.Misc.Json
import Telep.Server.Proofs.AlertGap
import Telep.Server.Proofs.Datagrams
import Telep.Server.Proofs.ShownAlerts

/-!
# The JSON bodies

In every reachable state the bodies of `/status`, `/nodes` and `/alerts` fit in their buffer, every
field that `build_json` splits has an `=`, and the bodies are JSON texts with the pairs of the
replies of the command server (`json_bodies`).
-/

namespace Telep

/-! ## Texts that need no escapes -/

theorem IsJsonNumber.chars {text : Bytes} (number : IsJsonNumber text) :
    ∀ c ∈ text, c = 45 ∨ c = 46 ∨ IsDigit c := by
  obtain ⟨sign, whole, fraction, rfl, sign_eq, digits, fraction_eq⟩ := number
  intro c member
  rcases List.mem_append.mp member with member | member
  · rcases List.mem_append.mp member with member | member
    · rcases sign_eq with rfl | rfl
      · cases member
      · exact .inl (List.mem_singleton.mp member)
    · exact .inr (.inr (digits.digits c member))
  · rcases fraction_eq with rfl | ⟨digits, rfl, -, each⟩
    · cases member
    · rcases List.mem_cons.mp member with point | digit
      · exact .inr (.inl point)
      · exact .inr (.inr (each c digit))

theorem IsJsonNumber.plain {text : Bytes} (number : IsJsonNumber text) : IsPlain text := by
  intro c member
  rcases number.chars c member with rfl | rfl | digit
  · decide
  · decide
  · exact digit.plain

theorem isPlain_nodeId {id : Bytes} (valid : isValidNodeId id = true) : IsPlain id := by
  simp only [isValidNodeId, decide_eq_true_eq] at valid
  intro c member
  have char := of_decide_eq_true (valid.2.2 c member)
  rcases char with digit | ⟨low, high⟩ | ⟨low, high⟩ | rfl | rfl
  · exact digit.plain
  · exact plain_of_le (UInt8.le_trans (by decide) low) (UInt8.le_trans high (by decide))
  · exact plain_of_ge (UInt8.le_trans (by decide) low) (UInt8.le_trans high (by decide))
  · decide
  · decide

theorem isPlain_session {session : Bytes} (valid : isValidSession session = true) :
    IsPlain session ∧ session.length = 32 := by
  simp only [isValidSession, decide_eq_true_eq] at valid
  refine ⟨fun c member => ?_, valid.1⟩
  rcases valid.2 c member with digit | ⟨low, high⟩
  · exact digit.plain
  · exact plain_of_ge (UInt8.le_trans (by decide) low) (UInt8.le_trans high (by decide))

theorem isPlain_intercalate {separator : Bytes} {parts : List Bytes} (plain : IsPlain separator)
    (each : ∀ part ∈ parts, IsPlain part) : IsPlain (List.intercalate separator parts) := by
  cases parts with
  | nil => exact fun c member => absurd member List.not_mem_nil
  | cons part parts =>
    rw [intercalate_cons_eq]
    apply (each part List.mem_cons_self).append
    intro c member
    obtain ⟨next, listed, within⟩ := List.mem_flatMap.mp member
    exact plain.append (each next (List.mem_cons_of_mem _ listed)) c within

theorem isPlain_formatMeasurement {m : Measurement} (valid : ValidMeasurement m) :
    IsPlain (formatMeasurement m) := by
  have names : ∀ name ∈ variableNames, IsPlain name := by decide
  have name := names m.name valid.name_mem
  unfold formatMeasurement
  split
  · split
    · exact (name.append (by decide)).append (by decide)
    · exact (name.append (by decide)).append (by decide)
  · exact (name.append (by decide)).append (isJsonNumber_formatFixed2 _).plain

/-! ## The pairs of a text -/

/-- The pairs of a text of fields `key=value` joined by `;`. -/
def textPairs (text : Bytes) : List (Bytes × Bytes) :=
  (text.splitOn pairSeparator).map fun field => (pairName field, pairValueText field)

/-- What a counter is as a field of a text. -/
structure IsStat.Splits (part : Bytes) : Prop where
  sign : equalsSign ∈ part
  nonempty : part ≠ []
  clean : pairSeparator ∉ part
  key : IsPlain (pairName part)
  value : IsJsonNumber (pairValueText part)
  length : (pairName part).length + (pairValueText part).length < part.length

theorem IsStat.splits {part : Bytes} (stat : IsStat part) : IsStat.Splits part := by
  obtain ⟨key, z, known, -, rfl⟩ := stat
  have number := isJsonNumber_formatInt z
  have form : statField key (formatInt z) = ascii key ++ equalsSign :: formatInt z := by
    rw [statField, List.append_assoc]
    rfl
  have equals : equalsSign ∉ ascii key := fun member =>
    absurd (known.chars _ member).1 (by decide)
  obtain ⟨name, value⟩ : pairName (ascii key ++ equalsSign :: formatInt z) = ascii key ∧
      pairValueText (ascii key ++ equalsSign :: formatInt z) = formatInt z := pair_parts equals
  rw [form]
  constructor
  · exact List.mem_append_right _ List.mem_cons_self
  · exact List.append_ne_nil_of_right_ne_nil _ (List.cons_ne_nil _ _)
  · intro member
    rcases List.mem_append.mp member with within | within
    · exact absurd (known.chars _ within).1 (by decide)
    · rcases List.mem_cons.mp within with same | within
      · exact absurd same (by decide)
      · rcases number.chars _ within with same | same | digit
        · exact absurd same (by decide)
        · exact absurd same (by decide)
        · exact absurd digit.2 (by decide)
  · rw [name]
    intro c member
    obtain ⟨low, high⟩ := known.chars c member
    exact plain_of_ge (UInt8.le_trans (by decide) low) (UInt8.le_trans high (by decide))
  · rw [value]
    exact number
  · rw [name, value, List.length_append, List.length_cons]
    omega

/-- The member of a counter takes two bytes more. -/
theorem IsStat.member_short {part : Bytes} (stat : IsStat part) :
    (memberText (pairName part, pairValueText part)).length ≤ 41 := by
  have length := stat.splits.length
  have short := stat.fits.2
  have quote : (ascii "\"").length = 1 := rfl
  have colon : (ascii ":").length = 1 := rfl
  simp only [memberText, quoted, List.length_append]
  omega

/-- The pairs of counters joined by `;`. -/
theorem textPairs_stats {parts : List Bytes} (stats : ∀ part ∈ parts, IsStat part)
    (some : parts ≠ []) :
    textPairs (List.intercalate (ascii ";") parts) =
      parts.map fun part => (pairName part, pairValueText part) := by
  change textPairs (List.intercalate [pairSeparator] parts) = _
  rw [textPairs, List.splitOn_intercalate _ (fun part member => (stats part member).splits.clean)
    some]

theorem tokens_stats {parts : List Bytes} (stats : ∀ part ∈ parts, IsStat part) :
    tokens pairSeparator (List.intercalate (ascii ";") parts) = parts :=
  tokens_intercalate fun part member =>
    ⟨(stats part member).splits.nonempty, (stats part member).splits.clean⟩

/-- Counters as the members of an object. -/
theorem isJson_stats {parts : List Bytes} (stats : ∀ part ∈ parts, IsStat part)
    (some : parts ≠ []) :
    IsJson (objectText (textPairs (List.intercalate (ascii ";") parts))) := by
  rw [textPairs_stats stats some]
  apply IsJson.object
  · intro pair listed
    obtain ⟨part, member, rfl⟩ := List.mem_map.mp listed
    exact (stats part member).splits.key
  · intro pair listed
    obtain ⟨part, member, rfl⟩ := List.mem_map.mp listed
    exact .number _ (stats part member).splits.value

/-! ## Appending -/

/-- A text that fits is not cut. -/
theorem append_eq {bodySize : Nat} {body text : Bytes}
    (fits : body.length + text.length < bodySize) : append bodySize body text = body ++ text := by
  rw [append, if_neg (by omega), snprintf_of_length (by omega)]

theorem append_start {bodySize : Nat} {text : Bytes} (fits : text.length < bodySize) :
    append bodySize [] text = text :=
  append_eq (by simpa using fits)

/-- Items with a comma before each but the first one of a body. -/
def commaSeparated (first : Bool) (items : List Bytes) : Bytes :=
  if first then List.intercalate (ascii ",") items else items.flatMap (ascii "," ++ ·)

theorem commaSeparated_cons (first : Bool) (item : Bytes) (items : List Bytes) :
    commaSeparated first (item :: items) =
      ((if first then [] else ascii ",") ++ item) ++ commaSeparated false items := by
  cases first with
  | true => exact intercalate_cons_eq _ _ _
  | false => exact List.flatMap_cons

theorem commaSeparated_length_le (first : Bool) {items : List Bytes} {n : Nat}
    (each : ∀ item ∈ items, item.length ≤ n) :
    (commaSeparated first items).length ≤ items.length * (n + 1) := by
  induction items generalizing first with
  | nil => cases first <;> exact Nat.zero_le _
  | cons item items ih =>
    have rest := ih false fun i hi => each i (List.mem_cons_of_mem _ hi)
    have this := each item List.mem_cons_self
    have comma : (if first then [] else ascii ",").length ≤ 1 := by cases first <;> decide
    rw [commaSeparated_cons, List.length_append, List.length_append, List.length_cons,
      Nat.succ_mul]
    omega

section Loops

variable {bodySize : Nat} {body : Bytes}

/-- The loop over fields with an `=` appends the members of an object. -/
theorem appendFields_eq {fields : List Bytes} (signs : ∀ field ∈ fields, equalsSign ∈ field)
    (first : Bool)
    (fits : body.length + (commaSeparated first (fields.map fun field =>
      memberText (pairName field, pairValueText field))).length < bodySize) :
    appendFields bodySize body first fields =
      some (body ++ commaSeparated first (fields.map fun field =>
        memberText (pairName field, pairValueText field))) := by
  induction fields generalizing body first with
  | nil => cases first <;> simp [appendFields, commaSeparated]
  | cons field fields ih =>
    obtain ⟨sign, signs⟩ := List.forall_mem_cons.mp signs
    rw [List.map_cons, commaSeparated_cons, List.length_append] at fits
    rw [appendFields, splitField, if_pos sign]
    have text : ((if first then [] else ascii ",") ++ ascii "\"" ++ pairName field ++
        ascii "\":" ++ pairValueText field) = (if first then [] else ascii ",") ++
          memberText (pairName field, pairValueText field) := by
      have mark : ascii "\":" = ascii "\"" ++ ascii ":" := rfl
      simp only [memberText, quoted, mark, List.append_assoc]
    change appendFields bodySize (append bodySize body ((if first then [] else ascii ",") ++
      ascii "\"" ++ pairName field ++ ascii "\":" ++ pairValueText field)) false fields = _
    rw [text, append_eq (by omega), ih signs false (by rw [List.length_append]; omega),
      List.map_cons, commaSeparated_cons, List.append_assoc]

/-- The loop over the alerts appends their objects. -/
theorem appendAlerts_eq (alerts : List Alert) (first : Bool)
    (fits : body.length + (commaSeparated first (alerts.map alertObject)).length < bodySize) :
    appendAlerts bodySize body first alerts =
      body ++ commaSeparated first (alerts.map alertObject) := by
  induction alerts generalizing body first with
  | nil => cases first <;> simp [appendAlerts, commaSeparated]
  | cons alert alerts ih =>
    rw [List.map_cons, commaSeparated_cons, List.length_append] at fits
    rw [appendAlerts, append_eq (by omega), ih false (by rw [List.length_append]; omega),
      List.map_cons, commaSeparated_cons, List.append_assoc]

end Loops

/-! ## `/nodes` -/

/-- The object of a node. -/
def nodeObject (now : Int) (node : TelemetryNode) : Bytes :=
  objectText
    [(ascii "id", quoted node.nodeId),
      (ascii "active", if nodeIsActive node now then ascii "true" else ascii "false"),
      (ascii "last_seen", formatInt node.lastSeen),
      (ascii "measurements", quoted (formatMeasurements node maxLine)),
      (ascii "session", quoted node.session),
      (ascii "statistics", objectText (textPairs (formatNodeStats node maxLine)))]

/-- The object of a node up to the quotation mark before the brace that is taken back. -/
def nodeHead (now : Int) (node : TelemetryNode) : Bytes :=
  ascii "\x7b\"id\":\"" ++ node.nodeId ++ ascii "\",\"active\":" ++
    (if nodeIsActive node now then ascii "true" else ascii "false") ++ ascii ",\"last_seen\":" ++
    formatInt node.lastSeen ++ ascii ",\"measurements\":\"" ++ formatMeasurements node maxLine ++
    ascii "\""

theorem nodeObject_eq (now : Int) (node : TelemetryNode) :
    nodeObject now node = nodeHead now node ++ (ascii ",\"session\":\"" ++ node.session ++
      ascii "\",\"statistics\":\x7b" ++ commaSeparated true
        ((textPairs (formatNodeStats node maxLine)).map memberText) ++ ascii "\x7d\x7d") := by
  -- the literals of the source in terms of the marks of JSON
  have id : ascii "\x7b\"id\":\"" =
      ascii "\x7b" ++ quoted (ascii "id") ++ ascii ":" ++ ascii "\"" := rfl
  have active : ascii "\",\"active\":" =
      ascii "\"" ++ ascii "," ++ quoted (ascii "active") ++ ascii ":" := rfl
  have lastSeen : ascii ",\"last_seen\":" =
      ascii "," ++ quoted (ascii "last_seen") ++ ascii ":" := rfl
  have measurements : ascii ",\"measurements\":\"" =
      ascii "," ++ quoted (ascii "measurements") ++ ascii ":" ++ ascii "\"" := rfl
  have session : ascii ",\"session\":\"" =
      ascii "," ++ quoted (ascii "session") ++ ascii ":" ++ ascii "\"" := rfl
  have statistics : ascii "\",\"statistics\":\x7b" =
      ascii "\"" ++ ascii "," ++ quoted (ascii "statistics") ++ ascii ":" ++ ascii "\x7b" := rfl
  have braces : ascii "\x7d\x7d" = ascii "\x7d" ++ ascii "\x7d" := rfl
  rw [nodeObject, nodeHead, id, active, lastSeen, measurements, session, statistics, braces]
  simp only [objectText, commaSeparated, if_true, List.map_cons, List.map_nil, memberText, quoted,
    List.intercalate_cons_cons, List.intercalate_singleton, List.append_assoc]

/-- A node whose statistics are the texts of counters. -/
def PrintsStats (node : TelemetryNode) (parts : List Bytes) : Prop :=
  parts ≠ [] ∧ (∀ part ∈ parts, IsStat part) ∧
    formatNodeStats node maxLine = List.intercalate (ascii ";") parts

/-- What `build_json` appends for a node. -/
theorem appendNode_eq {bodySize : Nat} {body : Bytes} {now : Int} {node : TelemetryNode}
    {parts : List Bytes} (prints : PrintsStats node parts) (first : Bool)
    (fits : body.length + ((if first then [] else ascii ",") ++ nodeObject now node).length <
      bodySize) :
    appendNode bodySize now body first node =
      some (body ++ ((if first then [] else ascii ",") ++ nodeObject now node)) := by
  obtain ⟨some, stats, text⟩ := prints
  have members : commaSeparated true ((textPairs (formatNodeStats node maxLine)).map memberText) =
      commaSeparated true (parts.map fun part =>
        memberText (pairName part, pairValueText part)) := by
    rw [text, textPairs_stats stats some, List.map_map]
    rfl
  have start : (if first then [] else ascii ",") ++ ascii "\x7b\"id\":\"" ++ node.nodeId ++
      ascii "\",\"active\":" ++ (if nodeIsActive node now then ascii "true" else ascii "false") ++
      ascii ",\"last_seen\":" ++ formatInt node.lastSeen ++ ascii ",\"measurements\":\"" ++
      formatMeasurements node maxLine ++ ascii "\"\x7d" =
      (if first then [] else ascii ",") ++ nodeHead now node ++ [125] := by
    have brace : ascii "\"\x7d" = ascii "\"" ++ [125] := rfl
    simp only [nodeHead, brace, List.append_assoc]
  rw [nodeObject_eq, members] at fits ⊢
  unfold appendNode
  dsimp only
  rw [start, text, tokens_stats stats]
  generalize (if first then [] else ascii ",") = separator at fits ⊢
  generalize ascii ",\"session\":\"" ++ node.session ++ ascii "\",\"statistics\":\x7b" =
    session at fits ⊢
  generalize nodeHead now node = head at fits ⊢
  have braces : (ascii "\x7d\x7d").length = 2 := rfl
  simp only [List.length_append] at fits
  have opened : append bodySize body (separator ++ head ++ [125]) =
      body ++ (separator ++ head ++ [125]) := by
    apply append_eq
    rw [List.length_append, List.length_append, List.length_singleton]
    omega
  -- the brace is the last byte
  have brace : (body ++ (separator ++ head ++ [125])).getLast? = Option.some 125 := by simp
  have taken : (body ++ (separator ++ head ++ [125])).dropLast = body ++ (separator ++ head) := by
    rw [← List.append_assoc, List.dropLast_concat]
  rw [opened, if_pos brace, taken, append_eq (by simp only [List.length_append]; omega),
    appendFields_eq (fun part member => (stats part member).splits.sign) true
      (by simp only [List.length_append]; omega), Option.map_some,
    append_eq (by simp only [List.length_append]; omega)]
  simp only [List.append_assoc]

/-- The loop over the nodes appends their objects. -/
theorem appendNodes_eq {bodySize : Nat} {body : Bytes} {now : Int} {nodes : List TelemetryNode}
    (prints : ∀ node ∈ nodes, ∃ parts, PrintsStats node parts) (first : Bool)
    (fits : body.length + (commaSeparated first (nodes.map (nodeObject now))).length < bodySize) :
    appendNodes bodySize now body first nodes =
      some (body ++ commaSeparated first (nodes.map (nodeObject now))) := by
  induction nodes generalizing body first with
  | nil => cases first <;> simp [appendNodes, commaSeparated]
  | cons node nodes ih =>
    obtain ⟨⟨parts, this⟩, rest⟩ := List.forall_mem_cons.mp prints
    rw [List.map_cons, commaSeparated_cons, List.length_append] at fits
    rw [appendNodes, appendNode_eq this first (by omega), Option.bind_some,
      ih rest false (by rw [List.length_append]; omega), List.map_cons, commaSeparated_cons,
      List.append_assoc]

/-! ## The bodies of a reachable state -/

section State

variable {s : ServerState}

theorem ServerState.Shown.printsStats (h : s.Shown) {node : TelemetryNode}
    (member : node ∈ registeredNodes s.registry.toRegistrySnapshot) :
    ∃ parts, PrintsStats node parts ∧ parts.length = 10 ∧
      ∀ size, maxLine ≤ size → formatNodeStats node size = formatNodeStats node maxLine := by
  obtain ⟨parts, number, stats, text⟩ := nodeStats_parts h member
  have length := intercalate_length_le (ascii ";") fun part member => (stats part member).fits.2
  have separator : (ascii ";").length = 1 := rfl
  have limit : maxLine = 1024 := rfl
  rw [number, separator] at length
  have fits {size : Nat} (room : maxLine ≤ size) :
      formatNodeStats node size = List.intercalate (ascii ";") parts := by
    rw [text, snprintf_of_length (by omega)]
  refine ⟨parts, ⟨?_, stats, fits le_rfl⟩, number, fun size room => ?_⟩
  · rintro rfl
    cases number
  · rw [fits room, fits le_rfl]

/-- The object of a node is a JSON text, and short. -/
theorem ServerState.Shown.nodeObject_fits (h : s.Shown) {node : TelemetryNode}
    (member : node ∈ registeredNodes s.registry.toRegistrySnapshot) (now : Int) :
    IsJson (nodeObject now node) ∧ (nodeObject now node).length ≤ 700 := by
  obtain ⟨parts, ⟨some, stats, text⟩, number, -⟩ := h.printsStats member
  obtain ⟨i, used, rfl⟩ := mem_registeredNodes.mp member
  have valid : ∀ m ∈ (s.registry.nodes i).measurements, ValidMeasurement m :=
    (h.record i used).measurements
  have few := h.measurements i
  have id := h.wellFormed.nodeId_valid i used
  obtain ⟨session, session_length⟩ := isPlain_session (h.wellFormed.session_valid i used)
  have measured := formatMeasurements_length_le valid few maxLine
  constructor
  · have plain : IsPlain (formatMeasurements (s.registry.nodes i) maxLine) := by
      rw [formatMeasurements_eq valid few (by decide)]
      apply isPlain_intercalate (by decide)
      intro part listed
      obtain ⟨m, stored, rfl⟩ := List.mem_map.mp listed
      exact isPlain_formatMeasurement (valid m stored)
    apply IsJson.object
    · simp only [List.forall_mem_cons, List.not_mem_nil, false_implies, implies_true, and_true]
      decide
    · simp only [List.forall_mem_cons, List.not_mem_nil, false_implies, implies_true, and_true]
      exact ⟨.string _ (isPlain_nodeId id), isJson_flag _, .number _ (isJsonNumber_formatInt _),
        .string _ plain, .string _ session, text ▸ isJson_stats stats some⟩
  · have short := nodeId_length_lt id
    have seen : (formatInt (s.registry.nodes i).lastSeen).length ≤ 21 :=
      (isNumeral_formatInt (h.record i used).lastSeen.prints).short
    have members : (commaSeparated true ((textPairs
        (formatNodeStats (s.registry.nodes i) maxLine)).map memberText)).length ≤ 10 * 42 := by
      rw [text, textPairs_stats stats some]
      refine (commaSeparated_length_le true (n := 41) fun item listed => ?_).trans ?_
      · obtain ⟨pair, paired, rfl⟩ := List.mem_map.mp listed
        obtain ⟨part, stat, rfl⟩ := List.mem_map.mp paired
        exact (stats part stat).member_short
      · rw [List.length_map, List.length_map, number]
    have flag : (if nodeIsActive (s.registry.nodes i) now then ascii "true"
        else ascii "false").length ≤ 5 := by
      split <;> decide
    have limit : maxNodeId = 16 := rfl
    have head : (nodeHead now (s.registry.nodes i)).length ≤ 190 := by
      have lengths : (ascii "\x7b\"id\":\"").length = 7 ∧ (ascii "\",\"active\":").length = 11 ∧
          (ascii ",\"last_seen\":").length = 13 ∧ (ascii ",\"measurements\":\"").length = 17 ∧
          (ascii "\"").length = 1 := by decide
      obtain ⟨l1, l2, l3, l4, l5⟩ := lengths
      simp only [nodeHead, List.length_append, l1, l2, l3, l4, l5]
      omega
    have lengths : (ascii ",\"session\":\"").length = 12 ∧
        (ascii "\",\"statistics\":\x7b").length = 16 ∧ (ascii "\x7d\x7d").length = 2 := by decide
    obtain ⟨l1, l2, l3⟩ := lengths
    rw [nodeObject_eq]
    simp only [List.length_append, l1, l2, l3]
    omega

end State

/-! ## `/alerts` -/

theorem alertObject_eq (alert : Alert) :
    alertObject alert = objectText
      [(ascii "ts", formatInt alert.timestamp), (ascii "node", quoted alert.nodeId),
        (ascii "type", quoted alert.alertType), (ascii "value", formatFixed2 alert.value)] := by
  have ts : ascii "\x7b\"ts\":" = ascii "\x7b" ++ quoted (ascii "ts") ++ ascii ":" := rfl
  have node : ascii ",\"node\":\"" =
      ascii "," ++ quoted (ascii "node") ++ ascii ":" ++ ascii "\"" := rfl
  have type : ascii "\",\"type\":\"" =
      ascii "\"" ++ ascii "," ++ quoted (ascii "type") ++ ascii ":" ++ ascii "\"" := rfl
  have value : ascii "\",\"value\":" =
      ascii "\"" ++ ascii "," ++ quoted (ascii "value") ++ ascii ":" := rfl
  rw [alertObject, ts, node, type, value]
  simp only [objectText, List.map_cons, List.map_nil, memberText, quoted,
    List.intercalate_cons_cons, List.intercalate_singleton, List.append_assoc]

/-- The object of an alert is a JSON text, and short. -/
theorem alertObject_fits {alert : Alert} (shown : alert.Shown) (ranged : alert.Ranged) :
    IsJson (alertObject alert) ∧ (alertObject alert).length ≤ 100 := by
  have types : ∀ v ∈ variableNames, IsPlain (alertTypeOf v) ∧ (alertTypeOf v).length ≤ 11 := by
    decide
  obtain ⟨v, known, type⟩ := shown.alertType
  obtain ⟨plain, type_short⟩ := types v known
  rw [← type] at plain type_short
  constructor
  · rw [alertObject_eq]
    apply IsJson.object
    · simp only [List.forall_mem_cons, List.not_mem_nil, false_implies, implies_true, and_true]
      decide
    · simp only [List.forall_mem_cons, List.not_mem_nil, false_implies, implies_true, and_true]
      exact ⟨.number _ (isJsonNumber_formatInt _), .string _ (isPlain_nodeId shown.nodeId),
        .string _ plain, .number _ (isJsonNumber_formatFixed2 _)⟩
  · have short := nodeId_length_lt shown.nodeId
    have stamp := (isNumeral_formatInt ranged.timestamp.prints).short
    have value := formatFixed2_short ranged.value
    have limit : maxNodeId = 16 := rfl
    have lengths : (ascii "\x7b\"ts\":").length = 6 ∧ (ascii ",\"node\":\"").length = 9 ∧
        (ascii "\",\"type\":\"").length = 10 ∧ (ascii "\",\"value\":").length = 10 ∧
        (ascii "\x7d").length = 1 := by decide
    obtain ⟨l1, l2, l3, l4, l5⟩ := lengths
    simp only [alertObject, List.length_append, l1, l2, l3, l4, l5]
    omega

/-! ## The three bodies -/

/-- A text of pairs that its buffer does not cut, with an `=` in every token. -/
structure IsStatText (text : Nat → Bytes) : Prop where
  uncut : ∀ size, maxLine ≤ size → text size = text maxLine
  signs : ∀ field ∈ tokens pairSeparator (text maxLine), equalsSign ∈ field

/-- The body of a path: a JSON text that its buffer does not cut. -/
structure IsJsonBody (s : ServerState) (page : PageReadings) (path body : Bytes) : Prop where
  valid : IsJson body
  fits : body.length < httpBodySize
  written : ∀ bodySize, httpBodySize ≤ bodySize →
    buildJson bodySize path s.registry.toRegistrySnapshot page = some body

section State

variable {s : ServerState}

theorem statusBody (h : s.Shown) (readings : TimeReadings) (now : Int) (tcpOk udpOk : Bool) :
    IsStatText (formatSystemStatus s.registry.toRegistrySnapshot readings.val) ∧
      replyStatus s.registry readings.val =
        [ascii "OK|" ++ formatSystemStatus s.registry.toRegistrySnapshot readings.val maxLine] ∧
      IsJsonBody s ⟨now, readings.val, tcpOk, udpOk⟩ (ascii "/status")
        (objectText (textPairs (formatSystemStatus s.registry.toRegistrySnapshot readings.val
          maxLine))) := by
  obtain ⟨parts, number, stats, text⟩ := systemStatus_parts h readings
  have length := intercalate_length_le (ascii ";") fun part member => (stats part member).fits.2
  have separator : (ascii ";").length = 1 := rfl
  have limit : maxLine = 1024 := rfl
  have limit' : httpBodySize = 65536 := rfl
  have ok : (ascii "OK|").length = 3 := rfl
  rw [number, separator] at length
  have whole {size : Nat} (room : maxLine ≤ size) :
      snprintf size (List.intercalate (ascii ";") parts) = List.intercalate (ascii ";") parts :=
    snprintf_of_length (by omega)
  have some : parts ≠ [] := by
    rintro rfl
    cases number
  have body : objectText (textPairs (List.intercalate (ascii ";") parts)) = ascii "\x7b" ++
      commaSeparated true (parts.map fun part => memberText (pairName part, pairValueText part)) ++
        ascii "\x7d" := by
    rw [textPairs_stats stats some, objectText, List.map_map]
    rfl
  have braces : (ascii "\x7b").length = 1 ∧ (ascii "\x7d").length = 1 := by decide
  obtain ⟨open_one, close_one⟩ := braces
  have each : ∀ item ∈ parts.map fun part => memberText (pairName part, pairValueText part),
      item.length ≤ 41 := by
    intro item listed
    obtain ⟨part, stat, rfl⟩ := List.mem_map.mp listed
    exact (stats part stat).member_short
  have members := commaSeparated_length_le true each
  rw [List.length_map, number] at members
  refine ⟨⟨fun size room => ?_, ?_⟩, ?_, ?_, ?_, fun bodySize room => ?_⟩
  · rw [text, text, whole room, whole le_rfl]
  · rw [text, whole le_rfl]
    exact fun field listed => (stats field (tokens_stats stats ▸ listed)).splits.sign
  · rw [replyStatus, text, whole le_rfl, snprintf_of_length (by rw [List.length_append]; omega),
      sendTextLine_short (by rw [List.length_append]; omega)]
  · rw [text, whole le_rfl]
    exact isJson_stats stats some
  · rw [text, whole le_rfl, body, List.length_append, List.length_append]
    omega
  · rw [buildJson, if_pos rfl]
    dsimp only
    rw [text, whole le_rfl, tokens_stats stats, append_start (by omega),
      appendFields_eq (fun part member => (stats part member).splits.sign) true (by omega),
      Option.map_some, append_eq (by rw [List.length_append]; omega), body]

/-- The texts of a node are not cut, neither in `/nodes` nor in its row of `STATS`. -/
theorem nodeTexts (h : s.Shown) {node : TelemetryNode}
    (member : node ∈ registeredNodes s.registry.toRegistrySnapshot) :
    IsStatText (formatNodeStats node) ∧
      (∀ size, maxLine ≤ size → formatMeasurements node size = formatMeasurements node maxLine) ∧
      statsRow node = node.nodeId ++ ascii "|" ++ node.session ++ ascii "|" ++
        formatNodeStats node maxLine := by
  obtain ⟨parts, ⟨-, stats, text⟩, number, uncut⟩ := h.printsStats member
  obtain ⟨i, used, rfl⟩ := mem_registeredNodes.mp member
  have valid : ∀ m ∈ (s.registry.nodes i).measurements, ValidMeasurement m :=
    (h.record i used).measurements
  have few := h.measurements i
  have id := nodeId_length_lt (h.wellFormed.nodeId_valid i used)
  have session := (isPlain_session (h.wellFormed.session_valid i used)).2
  have length := intercalate_length_le (ascii ";") fun part member => (stats part member).fits.2
  have separator : (ascii ";").length = 1 := rfl
  have bar : (ascii "|").length = 1 := rfl
  have limit : maxLine = 1024 := rfl
  have limit' : maxNodeId = 16 := rfl
  rw [number, separator] at length
  refine ⟨⟨uncut, ?_⟩, fun size room => ?_, ?_⟩
  · rw [text, tokens_stats stats]
    exact fun field listed => (stats field listed).splits.sign
  · rw [formatMeasurements_eq valid few (by omega), formatMeasurements_eq valid few (by decide)]
  · rw [statsRow, text, List.take_of_length_le (by omega), snprintf_of_length]
    simp only [List.length_append]
    omega

theorem nodesBody (h : s.Shown) (page : PageReadings) :
    IsJsonBody s page (ascii "/nodes")
      (arrayText ((registeredNodes s.registry.toRegistrySnapshot).map (nodeObject page.now))) := by
  have nodes (node : TelemetryNode)
      (member : node ∈ registeredNodes s.registry.toRegistrySnapshot) :=
    h.nodeObject_fits member page.now
  have prints (node : TelemetryNode)
      (member : node ∈ registeredNodes s.registry.toRegistrySnapshot) :
      ∃ parts, PrintsStats node parts := by
    obtain ⟨parts, this, -⟩ := h.printsStats member
    exact ⟨parts, this⟩
  have few := registeredNodes_length_le s.registry.toRegistrySnapshot
  have each : ∀ item ∈ (registeredNodes s.registry.toRegistrySnapshot).map (nodeObject page.now),
      item.length ≤ 700 := by
    intro item listed
    obtain ⟨node, member, rfl⟩ := List.mem_map.mp listed
    exact (nodes node member).2
  have length := commaSeparated_length_le true each
  rw [List.length_map] at length
  have room := Nat.mul_le_mul_right 701 few
  have limit : httpBodySize = 65536 := rfl
  have limit' : maxNodes = 64 := rfl
  have brackets : (ascii "[").length = 1 ∧ (ascii "]").length = 1 := by decide
  obtain ⟨open_one, close_one⟩ := brackets
  constructor
  · apply IsJson.array
    intro item listed
    obtain ⟨node, member, rfl⟩ := List.mem_map.mp listed
    exact (nodes node member).1
  · change (ascii "[" ++ commaSeparated true _ ++ ascii "]").length < httpBodySize
    rw [List.length_append, List.length_append]
    omega
  · intro bodySize larger
    rw [buildJson, if_neg (by decide), if_pos rfl, append_start (by omega),
      appendNodes_eq prints true (by omega), Option.map_some,
      append_eq (by rw [List.length_append]; omega)]
    rfl

theorem alertsBody (h : s.Shown)
    (ranged : ∀ alert ∈ shownAlerts s.registry.toRegistrySnapshot, alert.Ranged)
    (page : PageReadings) :
    IsJsonBody s page (ascii "/alerts")
      (arrayText ((shownAlerts s.registry.toRegistrySnapshot).map alertObject)) := by
  have alerts (alert : Alert) (member : alert ∈ shownAlerts s.registry.toRegistrySnapshot) :=
    alertObject_fits (h.alerts alert member) (ranged alert member)
  have few : (shownAlerts s.registry.toRegistrySnapshot).length ≤ maxAlerts := by
    rw [shownAlerts, List.length_map, List.length_range]
    split <;> omega
  have each : ∀ item ∈ (shownAlerts s.registry.toRegistrySnapshot).map alertObject,
      item.length ≤ 100 := by
    intro item listed
    obtain ⟨alert, member, rfl⟩ := List.mem_map.mp listed
    exact (alerts alert member).2
  have length := commaSeparated_length_le true each
  rw [List.length_map] at length
  have room := Nat.mul_le_mul_right 101 few
  have limit : httpBodySize = 65536 := rfl
  have limit' : maxAlerts = 128 := rfl
  have brackets : (ascii "[").length = 1 ∧ (ascii "]").length = 1 := by decide
  obtain ⟨open_one, close_one⟩ := brackets
  constructor
  · apply IsJson.array
    intro item listed
    obtain ⟨alert, member, rfl⟩ := List.mem_map.mp listed
    exact (alerts alert member).1
  · change (ascii "[" ++ commaSeparated true _ ++ ascii "]").length < httpBodySize
    rw [List.length_append, List.length_append]
    omega
  · intro bodySize larger
    rw [buildJson, if_neg (by decide), if_neg (by decide),
      append_start (by omega),
      appendAlerts_eq _ true (by omega), append_eq (by rw [List.length_append]; omega)]
    rfl

end State

namespace ServerThreads

variable {strtod : Bytes → StrtodResult} {startedAt bootId : Long} {s : ServerThreads}

/-- In every reachable state the JSON bodies are not cut, no field lacks its `=`, and the bodies
show what the command server replies. -/
theorem json_bodies (h : (threadsMachine strtod startedAt bootId).Reachable s)
    (readings : TimeReadings) (now : Int) (tcpOk udpOk : Bool) :
    let snapshot := s.registry.toRegistrySnapshot
    let status := formatSystemStatus snapshot readings.val
    let nodes := registeredNodes snapshot
    let page : PageReadings := ⟨now, readings.val, tcpOk, udpOk⟩
    (IsStatText status ∧
        replyStatus s.registry readings.val = [ascii "OK|" ++ status maxLine] ∧
        IsJsonBody s.toServerState page (ascii "/status") (objectText (textPairs (status maxLine)))) ∧
      ((∀ node ∈ nodes, IsStatText (formatNodeStats node) ∧
            (∀ size, maxLine ≤ size →
              formatMeasurements node size = formatMeasurements node maxLine) ∧
            statsRow node = node.nodeId ++ ascii "|" ++ node.session ++ ascii "|" ++
              formatNodeStats node maxLine) ∧
          replyStats s.registry none =
            (ascii "OK|" ++ decimal nodes.length) :: (nodes.map statsRow ++ [ascii "END"]) ∧
          IsJsonBody s.toServerState page (ascii "/nodes")
            (arrayText (nodes.map (nodeObject now)))) ∧
      IsJsonBody s.toServerState page (ascii "/alerts")
        (arrayText ((shownAlerts snapshot).map alertObject)) := by
  have shown := shown_reachable h
  refine ⟨statusBody shown readings now tcpOk udpOk, ⟨fun node member => ?_, ?_, ?_⟩, ?_⟩
  · exact nodeTexts shown member
  · obtain ⟨fits, -, few⟩ := nodeRows_fit shown (List.Sublist.refl _) fun _ _ session =>
      statsRow_eq session
    have list := replyList_eq fits few
    rw [List.length_map] at list
    exact list
  · exact nodesBody shown _
  · refine alertsBody shown (fun alert member => ?_) _
    rw [shownAlerts_reachable h] at member
    exact (ringHolds_reachable h).2 alert (List.mem_of_mem_drop member)

/-- With one alert. -/
theorem json_bodies_sample :
    IsJsonBody ((threadsMachine strtodDigits ⟨7, by decide⟩ ⟨1, by decide⟩).exec
        (threadsInit ⟨7, by decide⟩ ⟨1, by decide⟩) beforeSubscribe).toServerState
      ⟨9, alarmedReadings.val, true, true⟩ (ascii "/alerts")
      (arrayText [alertObject ⟨9, ascii "N", ascii "STATUS_FAIL", 0⟩]) := by
  have shown : shownAlerts ((threadsMachine strtodDigits ⟨7, by decide⟩ ⟨1, by decide⟩).exec
      (threadsInit ⟨7, by decide⟩ ⟨1, by decide⟩) beforeSubscribe).registry.toRegistrySnapshot =
      [⟨9, ascii "N", ascii "STATUS_FAIL", 0⟩] := by
    decide +kernel
  have body := (json_bodies (show (threadsMachine strtodDigits ⟨7, by decide⟩
    ⟨1, by decide⟩).Reachable _ from ⟨beforeSubscribe, rfl⟩) alarmedReadings 9 true true).2.2
  exact congrArg (fun alerts => arrayText (alerts.map alertObject)) shown ▸ body

end ServerThreads

end Telep
