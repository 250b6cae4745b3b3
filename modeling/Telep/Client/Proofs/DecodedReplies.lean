import Telep.Client.Proofs.Requests
import Telep.Client.Proofs.RoundTrips
import Telep.Server.Proofs.Activity
import Telep.Server.Proofs.JsonBodies

/-!
# What a client reads in the replies

`decode_message` undoes what the server prints: the fields of a line are the texts that were put
between the separators, none of which contains one or is cut off. So the decoded reply to a query is
the data of the state that answered it, row by row (`queries_decoded`). Values are rationals,
without a negative zero; the clock, the health of the services and the number of slow subscribers
are readings of the reply.
-/

namespace Telep

/-! ## Texts without separators -/

theorem separator_formatInt (z : Int) : fieldSeparator ∉ formatInt z := by
  intro member
  rcases formatInt_chars z _ member with minus | digit
  · exact absurd minus (by decide)
  · exact absurd digit.2 (by decide)

theorem separator_decimal (n : Nat) : fieldSeparator ∉ decimal n := separator_formatInt (.ofNat n)

theorem separator_formatFixed2 (q : ℚ) : fieldSeparator ∉ formatFixed2 q := by
  intro member
  rcases (isJsonNumber_formatFixed2 q).chars _ member with minus | point | digit
  · exact absurd minus (by decide)
  · exact absurd point (by decide)
  · exact absurd digit.2 (by decide)

theorem separator_nodeId {id : Bytes} (valid : isValidNodeId id = true) : fieldSeparator ∉ id :=
  (nodeId_isField ⟨id, valid⟩).1.2

theorem separator_session {session : Bytes} (valid : isValidSession session = true) :
    fieldSeparator ∉ session := (session_isField ⟨session, valid⟩).1.2

theorem separator_intercalate {parts : List Bytes}
    (clean : ∀ part ∈ parts, fieldSeparator ∉ part) :
    fieldSeparator ∉ List.intercalate (ascii ";") parts := by
  cases parts with
  | nil => exact List.not_mem_nil
  | cons part parts =>
    rw [intercalate_cons_eq]
    obtain ⟨first, others⟩ := List.forall_mem_cons.mp clean
    intro member
    rcases List.mem_append.mp member with within | within
    · exact first within
    · obtain ⟨other, listed, within⟩ := List.mem_flatMap.mp within
      rcases List.mem_append.mp within with mark | within
      · exact absurd mark (by decide)
      · exact others other listed within

theorem IsStat.separator {part : Bytes} (stat : IsStat part) : fieldSeparator ∉ part := by
  obtain ⟨key, z, known, -, rfl⟩ := stat
  intro member
  rcases List.mem_append.mp member with within | within
  · rcases List.mem_append.mp within with within | within
    · exact absurd (known.chars _ within).2 (by decide)
    · exact absurd within (by decide)
  · exact separator_formatInt z within

theorem separator_measurements {node : TelemetryNode}
    (valid : ∀ m ∈ node.measurements, ValidMeasurement m) (few : node.measurements.length ≤ 5) :
    fieldSeparator ∉ formatMeasurements node maxLine := by
  rw [formatMeasurements_eq valid few (by decide)]
  refine separator_intercalate fun part member within => ?_
  obtain ⟨m, stored, rfl⟩ := List.mem_map.mp member
  exact (((valid m stored).isPair strtodHundredths_reads).chars _ within).2.2 rfl

/-! ## Lines -/

/-- The fields of a line come back. -/
theorem decodeMessage_joinFields {fields : List Bytes} (some : fields ≠ [])
    (each : ∀ field ∈ fields, Printable field ∧ fieldSeparator ∉ field) :
    decodeMessage (joinFields fields) = fields := by
  rw [decodeMessage_printable (printable_joinFields fun field member => (each field member).1),
    joinFields, List.splitOn_intercalate fieldSeparator (fun field member => (each field member).2)
      some]

/-- A line of fields that is not cut off. -/
theorem decodeMessage_snprintf {size : Nat} {text : Bytes} {fields : List Bytes}
    (joined : text = joinFields fields) (fits : text.length < size) (some : fields ≠ [])
    (each : ∀ field ∈ fields, Printable field ∧ fieldSeparator ∉ field) :
    decodeMessage (snprintf size text) = fields := by
  rw [snprintf_of_length fits, joined, decodeMessage_joinFields some each]

/-- The row of a node in `GET_NODES`, as it is read. -/
def shownNode (node : TelemetryNode) (now : Int) : List Bytes :=
  [node.nodeId, if nodeIsActive node now then ascii "ACTIVE" else ascii "INACTIVE",
    formatInt (if node.lastSeen ≠ 0 then now - node.lastSeen else -1)]

/-- The row of an alert in `GET_ALERTS`, as it is read. -/
def listedAlert (alert : Alert) : List Bytes :=
  [formatInt alert.timestamp, alert.nodeId, alert.alertType, formatFixed2 alert.value]

/-- The pushed line of an alert, as it is read. -/
def pushedAlert (alert : Alert) : List Bytes :=
  [ascii "ALERT", alert.nodeId, alert.alertType, formatFixed2 alert.value]

theorem decode_nodeRow {node : TelemetryNode} (valid : isValidNodeId node.nodeId = true)
    (seen : IsLong node.lastSeen) {now : Int} (timed : IsLong now) :
    decodeMessage (nodeRow node now) = shownNode node now := by
  have age : Prints (if node.lastSeen ≠ 0 then now - node.lastSeen else -1).natAbs := by
    have limit : longMax = 2 ^ 63 - 1 := rfl
    obtain ⟨low, high⟩ := seen
    obtain ⟨low', high'⟩ := timed
    unfold Prints
    split <;> omega
  have number := isNumeral_formatInt age
  have short := nodeId_length_lt valid
  have limit : maxLine = 1024 := rfl
  have limit' : maxNodeId = 16 := rfl
  have state : Printable (if nodeIsActive node now then ascii "ACTIVE" else ascii "INACTIVE") ∧
      fieldSeparator ∉ (if nodeIsActive node now then ascii "ACTIVE" else ascii "INACTIVE") ∧
      (if nodeIsActive node now then ascii "ACTIVE" else ascii "INACTIVE").length ≤ 8 := by
    split <;> decide
  have digits := number.short
  have bar : (ascii "|").length = 1 := rfl
  refine decodeMessage_snprintf ?_ ?_ (List.cons_ne_nil _ _) ?_
  · simp only [shownNode, joinFields_cons_cons, joinFields_singleton, List.append_assoc]
    rfl
  · simp only [List.length_append]
    omega
  · simp only [shownNode, List.forall_mem_cons, List.not_mem_nil, false_implies, implies_true,
      and_true]
    exact ⟨⟨nodeId_printable valid, separator_nodeId valid⟩, ⟨state.1, state.2.1⟩,
      number.printable, separator_formatInt _⟩

section Alerts

variable {alert : Alert} (shown : alert.Shown) (ranged : alert.Ranged)

include shown

theorem alertType_field : Printable alert.alertType ∧ fieldSeparator ∉ alert.alertType ∧
    alert.alertType.length ≤ 23 := by
  obtain ⟨v, known, type⟩ := shown.alertType
  have all : ∀ v ∈ variableNames, Printable (alertTypeOf v) ∧ fieldSeparator ∉ alertTypeOf v ∧
      (alertTypeOf v).length ≤ 23 := by decide
  exact type ▸ all v known

include ranged

theorem decode_alertRow : decodeMessage (alertRow alert) = listedAlert alert := by
  obtain ⟨type, type_clean, type_short⟩ := alertType_field shown
  have stamp := isNumeral_formatInt ranged.timestamp.prints
  have value := formatFixed2_short ranged.value
  have digits := stamp.short
  have short := nodeId_length_lt shown.nodeId
  have limit : maxLine = 1024 := rfl
  have limit' : maxNodeId = 16 := rfl
  have bar : (ascii "|").length = 1 := rfl
  refine decodeMessage_snprintf ?_ ?_ (List.cons_ne_nil _ _) ?_
  · simp only [listedAlert, joinFields_cons_cons, joinFields_singleton, List.append_assoc]
    rfl
  · simp only [List.length_append]
    omega
  · simp only [listedAlert, List.forall_mem_cons, List.not_mem_nil, false_implies, implies_true,
      and_true]
    exact ⟨⟨stamp.printable, separator_formatInt _⟩,
      ⟨nodeId_printable shown.nodeId, separator_nodeId shown.nodeId⟩, ⟨type, type_clean⟩,
      formatFixed2_printable _, separator_formatFixed2 _⟩

theorem decode_formatAlert : decodeMessage (formatAlert alert) = pushedAlert alert := by
  obtain ⟨type, type_clean, type_short⟩ := alertType_field shown
  have value := formatFixed2_short ranged.value
  have short := nodeId_length_lt shown.nodeId
  have limit : maxLine = 1024 := rfl
  have limit' : maxNodeId = 16 := rfl
  have bar : (ascii "|").length = 1 := rfl
  have start : (ascii "ALERT|").length = 6 := rfl
  refine decodeMessage_snprintf ?_ ?_ (List.cons_ne_nil _ _) ?_
  · simp only [pushedAlert, joinFields_cons_cons, joinFields_singleton, List.append_assoc]
    rfl
  · simp only [List.length_append]
    omega
  · simp only [pushedAlert, List.forall_mem_cons, List.not_mem_nil, false_implies, implies_true,
      and_true]
    exact ⟨by decide, ⟨nodeId_printable shown.nodeId, separator_nodeId shown.nodeId⟩,
      ⟨type, type_clean⟩, formatFixed2_printable _, separator_formatFixed2 _⟩

end Alerts

/-! ## Counters -/

/-- The counters of a node, as `STATS` shows them. -/
def nodeStats (n : TelemetryNode) : List (Bytes × Bytes) :=
  [(ascii "attempts", decimal n.attempts), (ascii "sent", decimal n.sent),
    (ascii "omitted", decimal n.omitted), (ascii "send_errors", decimal n.sendErrors),
    (ascii "unique", decimal n.datagramsReceived), (ascii "duplicates", decimal n.duplicates),
    (ascii "reordered", decimal n.reordered), (ascii "loss_estimated", decimal n.datagramsLost),
    (ascii "report_seen", decimal n.reportSeen.toNat),
    (ascii "final_report", decimal n.finalReport.toNat)]

/-- The counters of the server, as `GET_STATUS` shows them. -/
def systemStats (s : RegistrySnapshot) (readings : Readings) : List (Bytes × Bytes) :=
  [(ascii "boot_id", formatInt s.bootId),
    (ascii "uptime", formatInt (readings.clock 0 - s.startedAt)),
    (ascii "registered", decimal (countRegisteredNodes s)),
    (ascii "active", decimal (countActiveNodes s (readings.clock 1))),
    (ascii "tcp_ok", decimal readings.tcpOk.toNat), (ascii "udp_ok", decimal readings.udpOk.toNat),
    (ascii "udp_rx", decimal s.datagramsTotal), (ascii "udp_invalid", decimal s.datagramsInvalid),
    (ascii "udp_unknown", decimal s.datagramsUnknownNode),
    (ascii "attempts", decimal (sumNodes s TelemetryNode.attempts)),
    (ascii "sent", decimal (sumNodes s TelemetryNode.sent)),
    (ascii "omitted", decimal (sumNodes s TelemetryNode.omitted)),
    (ascii "send_errors", decimal (sumNodes s TelemetryNode.sendErrors)),
    (ascii "unique", decimal (sumNodes s TelemetryNode.datagramsReceived)),
    (ascii "duplicates", decimal (sumNodes s TelemetryNode.duplicates)),
    (ascii "reordered", decimal (sumNodes s TelemetryNode.reordered)),
    (ascii "loss_estimated", decimal (sumLostDatagrams s)),
    (ascii "reports", decimal (sumNodes s fun n => n.reportSeen.toNat)),
    (ascii "final_reports", decimal (sumNodes s fun n => n.finalReport.toNat)),
    (ascii "alerts", decimal s.totalAlerts),
    (ascii "slow_disconnected", decimal readings.dropped)]

/-- `key=value` -/
def entryText (entry : Bytes × Bytes) : Bytes := entry.1 ++ ascii "=" ++ entry.2

theorem formatNodeStats_eq (n : TelemetryNode) (size : Nat) :
    formatNodeStats n size =
      snprintf size (List.intercalate (ascii ";") ((nodeStats n).map entryText)) := rfl

theorem formatSystemStatus_eq (s : RegistrySnapshot) (readings : Readings) (size : Nat) :
    formatSystemStatus s readings size =
      snprintf size (List.intercalate (ascii ";") ((systemStats s readings).map entryText)) := rfl

/-- A counter and its number. -/
structure IsCounter (entry : Bytes × Bytes) : Prop where
  key : IsStatKey entry.1
  value : ∃ z, entry.2 = formatInt z

theorem isCounter_formatInt {key : Bytes} (known : IsStatKey key) (z : Int) :
    IsCounter (key, formatInt z) := ⟨known, z, rfl⟩

theorem isCounter_decimal {key : Bytes} (known : IsStatKey key) (n : Nat) :
    IsCounter (key, decimal n) := isCounter_formatInt known (.ofNat n)

theorem nodeStats_counters (n : TelemetryNode) : ∀ entry ∈ nodeStats n, IsCounter entry := by
  simp only [nodeStats, List.forall_mem_cons, List.not_mem_nil, false_implies, implies_true,
    and_true]
  exact ⟨isCounter_decimal (by decide) _, isCounter_decimal (by decide) _,
    isCounter_decimal (by decide) _, isCounter_decimal (by decide) _,
    isCounter_decimal (by decide) _, isCounter_decimal (by decide) _,
    isCounter_decimal (by decide) _, isCounter_decimal (by decide) _,
    isCounter_decimal (by decide) _, isCounter_decimal (by decide) _⟩

theorem systemStats_counters (s : RegistrySnapshot) (readings : Readings) :
    ∀ entry ∈ systemStats s readings, IsCounter entry := by
  simp only [systemStats, List.forall_mem_cons, List.not_mem_nil, false_implies, implies_true,
    and_true]
  exact ⟨isCounter_formatInt (by decide) _, isCounter_formatInt (by decide) _,
    isCounter_decimal (by decide) _, isCounter_decimal (by decide) _,
    isCounter_decimal (by decide) _, isCounter_decimal (by decide) _,
    isCounter_decimal (by decide) _, isCounter_decimal (by decide) _,
    isCounter_decimal (by decide) _, isCounter_decimal (by decide) _,
    isCounter_decimal (by decide) _, isCounter_decimal (by decide) _,
    isCounter_decimal (by decide) _, isCounter_decimal (by decide) _,
    isCounter_decimal (by decide) _, isCounter_decimal (by decide) _,
    isCounter_decimal (by decide) _, isCounter_decimal (by decide) _,
    isCounter_decimal (by decide) _, isCounter_decimal (by decide) _,
    isCounter_decimal (by decide) _⟩

section Counters

variable {entries : List (Bytes × Bytes)} (counters : ∀ entry ∈ entries, IsCounter entry)

theorem IsCounter.text_clean {entry : Bytes × Bytes} (counter : IsCounter entry) :
    pairSeparator ∉ entryText entry ∧ fieldSeparator ∉ entryText entry ∧
      equalsSign ∉ entry.1 := by
  obtain ⟨z, value⟩ := counter.value
  have number (mark : UInt8) (other : mark ≠ 45) (above : 57 < mark) : mark ∉ entry.2 := by
    rw [value]
    intro member
    rcases formatInt_chars z _ member with minus | digit
    · exact other minus
    · exact absurd digit.2 (UInt8.not_le.mpr above)
  have key (mark : UInt8) (out : mark < 95 ∨ 122 < mark) : mark ∉ entry.1 := by
    intro member
    obtain ⟨low, high⟩ := counter.key.chars _ member
    rcases out with below | above
    · exact absurd low (UInt8.not_le.mpr below)
    · exact absurd high (UInt8.not_le.mpr above)
  have text (mark : UInt8) (out : mark < 95 ∨ 122 < mark) (other : mark ≠ 45) (above : 57 < mark)
      (equals : mark ≠ 61) : mark ∉ entryText entry := by
    intro member
    rcases List.mem_append.mp member with within | within
    · rcases List.mem_append.mp within with within | within
      · exact key mark out within
      · exact equals (List.mem_singleton.mp within)
    · exact number mark other above within
  exact ⟨text _ (by decide) (by decide) (by decide) (by decide),
    text _ (by decide) (by decide) (by decide) (by decide), key _ (by decide)⟩

include counters

theorem mapM_entryText : (entries.map entryText).mapM splitPair = some entries := by
  induction entries with
  | nil => rfl
  | cons entry entries ih =>
    obtain ⟨first, others⟩ := List.forall_mem_cons.mp counters
    have pair : splitPair (entryText entry) = some entry := by
      have whole : entryText entry = entry.1 ++ equalsSign :: entry.2 := by
        rw [entryText, List.append_assoc]
        rfl
      have clean := first.text_clean.2.2
      rw [splitPair, whole, if_pos (by simp), takeWhile_frame clean, dropWhile_frame clean]
      rfl
    rw [List.map_cons, List.mapM_cons, pair, ih others]
    rfl

/-- The client finds the counters that were printed. -/
theorem decodeMeasurements_counters (some : entries ≠ []) (keys : (entries.map Prod.fst).Nodup) :
    decodeMeasurements (List.intercalate (ascii ";") (entries.map entryText)) =
      Option.some entries := by
  have split : (List.intercalate (ascii ";") (entries.map entryText)).splitOn pairSeparator =
      entries.map entryText := by
    refine List.splitOn_intercalate pairSeparator (fun part member => ?_)
      (by simpa using some)
    obtain ⟨entry, listed, rfl⟩ := List.mem_map.mp member
    exact (counters entry listed).text_clean.1
  have equals : equalsSign ∈ List.intercalate (ascii ";") (entries.map entryText) := by
    obtain ⟨entry, others, rfl⟩ := List.exists_cons_of_ne_nil some
    rw [List.map_cons, intercalate_cons_eq, entryText]
    simp [ascii, equalsSign]
  rw [decodeMeasurements, if_neg (by
      rw [not_or, not_not]
      exact ⟨List.ne_nil_of_mem equals, equals⟩),
    split, mapM_entryText counters, Option.map_some, dictUpdate_fresh (by simpa using keys),
    List.nil_append]

theorem separator_counters :
    fieldSeparator ∉ List.intercalate (ascii ";") (entries.map entryText) := by
  refine separator_intercalate fun part member => ?_
  obtain ⟨entry, listed, rfl⟩ := List.mem_map.mp member
  exact (counters entry listed).text_clean.2.1

end Counters

/-! ## Replies -/

/-- The counters as they are joined in a line. -/
def counterText (entries : List (Bytes × Bytes)) : Bytes :=
  List.intercalate (ascii ";") (entries.map entryText)

/-- The client finds the counters of the server. -/
theorem decode_systemStats (r : RegistrySnapshot) (readings : Readings) :
    decodeMeasurements (counterText (systemStats r readings)) = some (systemStats r readings) := by
  refine decodeMeasurements_counters (systemStats_counters _ _) (List.cons_ne_nil _ _) ?_
  simp only [systemStats, List.map_cons, List.map_nil]
  decide

/-- The answer to `GET_LAST`, as it is read. -/
def lastShown (node : TelemetryNode) : List Bytes :=
  if node.lastSeen = 0 then [ascii "OK", node.nodeId, ascii "0", ascii "NO_DATA"]
  else [ascii "OK", node.nodeId, formatInt node.lastSeen, formatMeasurements node maxLine]

/-- The answer to `GET_LAST` with any text, as it is read. -/
def lastReply (r : RegistrySnapshot) (id : Bytes) : List Bytes :=
  if isValidNodeId id then
    match snapshotFindNode r id with
    | none => [ascii "ERR", ascii "102", ascii "UNKNOWN_NODE"]
    | some node => lastShown node
  else [ascii "ERR", ascii "100", ascii "BAD_FORMAT"]

/-- The answer to `STATS` with any text, as it is read. -/
def statsReply (r : RegistrySnapshot) (id : Bytes) : List (List Bytes) :=
  if isValidNodeId id then
    match snapshotFindNode r id with
    | none => [[ascii "ERR", ascii "102", ascii "UNKNOWN_NODE"]]
    | some node => [[ascii "OK", ascii "1"],
        [node.nodeId, node.session, counterText (nodeStats node)]]
  else [[ascii "ERR", ascii "100", ascii "BAD_FORMAT"]]

/-- Texts that agree however they are cut. -/
theorem eq_of_snprintf {text text' : Bytes}
    (same : ∀ size, snprintf size text = snprintf size text') :
    text = text' := by
  have whole := same (text.length + text'.length + 1)
  rwa [snprintf_of_length (by omega), snprintf_of_length (by omega)] at whole

section State

variable {s : ServerState} {fd : ClientFd} {readings : TimeReadings}

theorem counterText_fits {entries : List (Bytes × Bytes)} {parts : List Bytes}
    (stats : ∀ part ∈ parts, IsStat part)
    (same : ∀ size, snprintf size (counterText entries) =
      snprintf size (List.intercalate (ascii ";") parts)) :
    Printable (counterText entries) ∧ (counterText entries).length ≤ parts.length * 40 := by
  rw [eq_of_snprintf same]
  have fits := fun part member => (stats part member).fits
  refine ⟨printable_intercalate (by decide) fun part member => (fits part member).1, ?_⟩
  exact (intercalate_length_le (ascii ";") fun part member => (fits part member).2)

/-- The counters of a node are not cut off. -/
theorem statsRow_text (h : s.Shown) {node : TelemetryNode}
    (member : node ∈ registeredNodes s.registry.toRegistrySnapshot) :
    Printable (counterText (nodeStats node)) ∧
      (formatNodeStats node maxLine).take 800 = counterText (nodeStats node) := by
  obtain ⟨parts, number, stats, text⟩ := nodeStats_parts h member
  obtain ⟨printable, short⟩ := counterText_fits stats
    fun size => (formatNodeStats_eq node size).symm.trans (text size)
  rw [number] at short
  have limit : maxLine = 1024 := rfl
  refine ⟨printable, ?_⟩
  rw [formatNodeStats_eq, ← counterText, snprintf_of_length (by omega),
    List.take_of_length_le (by omega)]

theorem decode_statsRow (h : s.Shown) {node : TelemetryNode}
    (member : node ∈ registeredNodes s.registry.toRegistrySnapshot) :
    decodeMessage (statsRow node) =
      [node.nodeId, node.session, counterText (nodeStats node)] := by
  obtain ⟨printable, text⟩ := statsRow_text h member
  obtain ⟨i, used, rfl⟩ := mem_registeredNodes.mp member
  have id := h.wellFormed.nodeId_valid i used
  have session := h.wellFormed.session_valid i used
  have short := nodeId_length_lt id
  have digits : (s.registry.nodes i).session.length = 32 := by
    have valid := session
    simp only [isValidSession, decide_eq_true_eq] at valid
    exact valid.1
  have few : (counterText (nodeStats (s.registry.nodes i))).length ≤ 800 := by
    rw [← text]
    exact List.length_take_le _ _
  have limit : maxLine = 1024 := rfl
  have limit' : maxNodeId = 16 := rfl
  have bar : (ascii "|").length = 1 := rfl
  rw [statsRow, text]
  refine decodeMessage_snprintf ?_ ?_ (List.cons_ne_nil _ _) ?_
  · simp only [joinFields_cons_cons, joinFields_singleton, List.append_assoc]
    rfl
  · simp only [List.length_append]
    omega
  · simp only [List.forall_mem_cons, List.not_mem_nil, false_implies, implies_true, and_true]
    exact ⟨⟨nodeId_printable id, separator_nodeId id⟩,
      ⟨session_printable session, separator_session session⟩, printable,
      separator_counters (nodeStats_counters _)⟩

/-- A list as it is read. -/
theorem shownLines_replyList {rows : List Bytes} (fits : ∀ row ∈ rows, IsReplyLine row)
    (noEnd : ascii "END" ∉ rows) (few : rows.length ≤ maxAlerts) :
    shownLines (replyList rows.length rows) =
      [ascii "OK", decimal rows.length] :: rows.map decodeMessage := by
  have header : decodeMessage (ascii "OK|" ++ decimal rows.length) =
      [ascii "OK", decimal rows.length] := by
    have joined : ascii "OK|" ++ decimal rows.length =
        joinFields [ascii "OK", decimal rows.length] := by
      rw [joinFields_cons_cons, joinFields_singleton]
      rfl
    rw [joined]
    refine decodeMessage_joinFields (List.cons_ne_nil _ _) ?_
    simp only [List.forall_mem_cons, List.not_mem_nil, false_implies, implies_true, and_true]
    exact ⟨by decide, decimal_printable _, separator_decimal _⟩
  have shown : ∀ row ∈ (ascii "OK|" ++ decimal rows.length) :: rows,
      (decide (row ≠ endOfList)) = true := by
    intro row member
    rw [decide_eq_true_eq]
    rintro rfl
    rcases List.mem_cons.mp member with same | listed
    · have begins : ascii "OK|" <+: endOfList := same ▸ List.prefix_append _ _
      exact absurd begins (by decide)
    · exact noEnd listed
  rw [replyList_eq fits few, ← List.cons_append, shownLines, List.takeWhile_append_of_pos shown,
    List.takeWhile_cons_of_neg (by simp [endOfList]), List.append_nil, List.map_cons, header]

/-- A reply of one line as it is read. -/
theorem shownLines_line {line : Bytes} {fields : List Bytes} (joined : line = joinFields fields)
    (short : line.length < maxLine) (several : 2 ≤ fields.length)
    (each : ∀ field ∈ fields, Printable field ∧ fieldSeparator ∉ field) :
    shownLines (sendTextLine line) = [fields] := by
  have decoded : decodeMessage line = fields := by
    rw [joined]
    refine decodeMessage_joinFields ?_ each
    rintro rfl
    cases several
  have other : line ≠ endOfList := by
    rintro rfl
    have one : (decodeMessage endOfList).length = 1 := by decide
    rw [decoded] at one
    omega
  rw [sendTextLine_short short, shownLines, List.takeWhile_cons_of_pos (by simpa using other),
    List.takeWhile_nil, List.map_singleton, decoded]

/-- A command of fields without separators reaches its handler. -/
theorem serveLine_fields {command : Bytes} {fields : List Bytes} (few : fields.length ≤ 8)
    (each : ∀ part ∈ command :: fields, IsField part ∧ Printable part)
    (short : (joinFields (command :: fields)).length ≤ 1023) :
    parseMessage (joinFields (command :: fields)) = some ⟨command, fields⟩ ∧
      serveLine s fd readings.val (lineOf (joinFields (command :: fields))) =
        handleCommand s fd readings.val (joinFields (command :: fields)) := by
  have printable := printable_joinFields fun part member => (each part member).2
  constructor
  · exact parseMessage_eq_some.mpr ⟨rfl, fun part member => (each part member).1, printable,
      Nat.lt_succ_of_le short, few⟩
  · have whole : withoutReturn (joinFields (command :: fields)) =
        joinFields (command :: fields) := by
      unfold withoutReturn
      rw [if_neg fun last => printable.not_mem_carriageReturn (List.mem_of_getLast? last)]
    have bytes : ∀ c ∈ joinFields (command :: fields), IsLineByte c := fun c member =>
      ⟨UInt8.le_trans (by decide) (printable c member).1, (printable c member).2⟩
    rw [lineOf_eq printable.not_mem_lineFeed, if_neg (not_lt.mpr short), whole, if_pos bytes]
    rfl

/-- The queries about one node. -/
def IsNodeQuery (command : Bytes) : Prop := command = ascii "GET_LAST" ∨ command = ascii "STATS"

/-- What a query about one node is answered with when its argument is an identifier. -/
def nodeReply (r : Registry) (command id : Bytes) : List Bytes :=
  if command = ascii "STATS" then replyStats r (some id) else replyLastMeasurement r id

/-- The handler looks at the identifier first. -/
theorem handleCommand_node {command line id : Bytes} (query : IsNodeQuery command)
    (parsed : parseMessage line = some ⟨command, [id]⟩) :
    (handleCommand s fd readings.val line).reply =
      if isValidNodeId id then nodeReply s.registry command id else replyError .badFormat := by
  have args : expectedArgs command 1 = some 1 := by
    rcases query with rfl | rfl <;> decide
  rw [handleCommand, parsed]
  simp only [List.length_cons, List.length_nil, Nat.zero_add, args]
  rw [if_neg (by decide)]
  unfold nodeReply
  rcases query with rfl | rfl
  · rw [if_neg (by decide), if_neg (by decide), if_neg (by decide), if_neg (by decide),
      if_neg (by decide), if_neg (by decide), if_neg (by decide), handleNodeCommand]
    by_cases valid : isValidNodeId id = true
    · rw [if_neg (not_not.mpr valid), if_neg (by decide), if_pos rfl, if_pos valid]
      rfl
    · rw [if_pos valid, if_neg valid, if_pos (.inr rfl)]
      rfl
  · rw [if_pos rfl]
    dsimp only [List.head?_cons]
    by_cases valid : isValidNodeId id = true
    · rw [if_pos valid, if_pos valid]
      rfl
    · rw [if_neg valid, if_neg valid]
      rfl

/-- A query about one node is answered from its argument, whatever its bytes are. -/
theorem serveLine_node {command id frame : Bytes} (query : IsNodeQuery command)
    (line : IsCommandLine command [id] frame) :
    (serveLine s fd readings.val (lineOf frame)).reply =
      if isValidNodeId id then nodeReply s.registry command id else replyError .badFormat := by
  have invalid (refused : (serveLine s fd readings.val (lineOf frame)).reply =
      replyError .badFormat) (other : isValidNodeId id = false) :
      (serveLine s fd readings.val (lineOf frame)).reply =
        if isValidNodeId id then nodeReply s.registry command id else replyError .badFormat := by
    rw [refused, other]
    rfl
  cases valid : isValidNodeId id with
  | true =>
    have parts : ∀ part ∈ command :: [id], IsField part ∧ Printable part := by
      simp only [List.forall_mem_cons, List.not_mem_nil, false_implies, implies_true, and_true]
      exact ⟨by rcases query with rfl | rfl <;> decide, nodeId_isField ⟨id, valid⟩⟩
    have short := line.short
    rw [line.joined] at short ⊢
    have few : [id].length ≤ 8 := by simp
    obtain ⟨parsed, serves⟩ := serveLine_fields few parts short
    rw [serves, handleCommand_node query parsed, valid]
  | false =>
    rw [← valid]
    refine invalid ?_ valid
    rcases line.lineOf with same | same
    · rw [same]
      show (handleCommand s fd readings.val frame).reply = _
      cases parsed : parseMessage frame with
      | none =>
        rw [handleCommand, parsed]
        rfl
      | some message =>
        have split := (splitOn_of_parseMessage parsed).1
        rw [line.joined, joinFields, List.splitOn_intercalate fieldSeparator
          (fun part member => (line.valid part member).2) (List.cons_ne_nil _ _)] at split
        obtain ⟨name, args⟩ := message
        obtain ⟨rfl, rfl⟩ := List.cons.inj split
        rw [handleCommand_node query parsed, valid]
        rfl
    · rw [same]
      rfl

section Queries

variable (h : s.Shown)

include h

theorem shown_nodeList : shownLines (replyNodeList s.registry readings.val) =
    [ascii "OK", decimal (registeredNodes s.registry.toRegistrySnapshot).length] ::
      (registeredNodes s.registry.toRegistrySnapshot).map
        fun node => shownNode node (readings.val.clock 0) := by
  obtain ⟨fits, noEnd, few⟩ := nodeRows_fit h
    (List.Sublist.refl (registeredNodes s.registry.toRegistrySnapshot))
    fun node _ _ => nodeRow_eq node (readings.val.clock 0)
  have list := shownLines_replyList fits noEnd few
  rw [List.length_map, List.map_map] at list
  refine list.trans (congrArg _ (List.map_congr_left fun node member => ?_))
  obtain ⟨i, used, rfl⟩ := mem_registeredNodes.mp member
  exact decode_nodeRow (h.wellFormed.nodeId_valid i used) (h.record i used).lastSeen
    (readings.property.1 0)

theorem shown_stats : shownLines (replyStats s.registry none) =
    [ascii "OK", decimal (registeredNodes s.registry.toRegistrySnapshot).length] ::
      (registeredNodes s.registry.toRegistrySnapshot).map
        fun node => [node.nodeId, node.session, counterText (nodeStats node)] := by
  obtain ⟨fits, noEnd, few⟩ := nodeRows_fit h
    (List.Sublist.refl (registeredNodes s.registry.toRegistrySnapshot))
    fun _ _ session => statsRow_eq session
  have list := shownLines_replyList fits noEnd few
  rw [List.length_map, List.map_map] at list
  exact list.trans (congrArg _ (List.map_congr_left fun node member => decode_statsRow h member))

/-- The counters of one node. -/
theorem shown_statsOf {id : Bytes} (valid : isValidNodeId id = true) :
    shownLines (replyStats s.registry (some id)) =
      statsReply s.registry.toRegistrySnapshot id := by
  rw [statsReply, if_pos valid, replyStats]
  cases found : snapshotFindNode s.registry.toRegistrySnapshot id with
  | none =>
    show shownLines (replyError .unknownNode) = _
    decide
  | some node =>
    have one := registeredNodes_filter h.wellFormed found
    obtain ⟨i, -, used, -, rfl⟩ := snapshotFindNode_eq_some found
    have member : s.registry.nodes i ∈ registeredNodes s.registry.toRegistrySnapshot :=
      mem_registeredNodes.mpr ⟨i, used, rfl⟩
    obtain ⟨fits, noEnd, few⟩ := nodeRows_fit h (one ▸ List.filter_sublist)
      fun _ _ session => statsRow_eq session
    have list := shownLines_replyList fits noEnd few
    dsimp only
    rw [one]
    refine list.trans ?_
    rw [List.map_singleton, List.map_singleton, decode_statsRow h member]
    rfl

theorem shown_alertList (ranged : ∀ alert ∈ shownAlerts s.registry.toRegistrySnapshot,
    alert.Ranged) : shownLines (replyAlertList s.registry) =
      [ascii "OK", decimal (shownAlerts s.registry.toRegistrySnapshot).length] ::
        (shownAlerts s.registry.toRegistrySnapshot).map listedAlert := by
  obtain ⟨fits, noEnd, few⟩ := alertRows_fit h
  have list := shownLines_replyList fits noEnd few
  rw [List.length_map, List.map_map] at list
  refine list.trans (congrArg _ (List.map_congr_left fun alert member => ?_))
  exact decode_alertRow (h.alerts alert member) (ranged alert member)

theorem shown_status : shownLines (replyStatus s.registry readings.val) =
    [[ascii "OK", counterText (systemStats s.registry.toRegistrySnapshot readings.val)]] := by
  obtain ⟨parts, number, stats, text⟩ := systemStatus_parts h readings
  obtain ⟨printable, short⟩ := counterText_fits stats
    fun size => (formatSystemStatus_eq _ readings.val size).symm.trans (text size)
  have limit : maxLine = 1024 := rfl
  have ok : (ascii "OK|").length = 3 := rfl
  have whole : formatSystemStatus s.registry.toRegistrySnapshot readings.val maxLine =
      counterText (systemStats s.registry.toRegistrySnapshot readings.val) := by
    rw [formatSystemStatus_eq, ← counterText, snprintf_of_length (by omega)]
  have joined :
      ascii "OK|" ++ counterText (systemStats s.registry.toRegistrySnapshot readings.val) =
        joinFields [ascii "OK",
          counterText (systemStats s.registry.toRegistrySnapshot readings.val)] := by
    rw [joinFields_cons_cons, joinFields_singleton]
    rfl
  rw [replyStatus, whole, snprintf_of_length (by rw [List.length_append]; omega)]
  refine shownLines_line joined (by rw [List.length_append]; omega) le_rfl ?_
  simp only [List.forall_mem_cons, List.not_mem_nil, false_implies, implies_true, and_true]
  exact ⟨by decide, printable, separator_counters (systemStats_counters _ _)⟩

theorem shown_last (id : Bytes) : shownLines (replyLastMeasurement s.registry id) =
    [match snapshotFindNode s.registry.toRegistrySnapshot id with
      | none => [ascii "ERR", ascii "102", ascii "UNKNOWN_NODE"]
      | some node => lastShown node] := by
  unfold replyLastMeasurement
  cases found : snapshotFindNode s.registry.toRegistrySnapshot id with
  | none => decide
  | some node =>
    obtain ⟨i, -, used, -, rfl⟩ := snapshotFindNode_eq_some found
    have valid := h.wellFormed.nodeId_valid i used
    have short := nodeId_length_lt valid
    have shown := h.record i used
    have few := h.measurements i
    have seen := isNumeral_formatInt (z := (s.registry.nodes i).lastSeen) shown.lastSeen.prints
    have digits := seen.short
    have text := formatMeasurements_length_le shown.measurements few maxLine
    have printable := (formatMeasurementsFrom_fits maxLine [] 0 [] shown.measurements
      (by decide) (by decide) (by decide)).1
    have clean := separator_measurements shown.measurements few
    simp only [Registry.record] at text printable clean
    have limit : maxLine = 1024 := rfl
    have limit' : maxNodeId = 16 := rfl
    have id_field := And.intro (nodeId_printable valid) (separator_nodeId valid)
    dsimp only
    unfold lastShown
    by_cases never : (s.registry.nodes i).lastSeen = 0
    · rw [if_pos never, if_pos never]
      have length : (ascii "OK|" ++ (s.registry.nodes i).nodeId ++ ascii "|0|NO_DATA").length <
          maxLine := by
        have : (ascii "|0|NO_DATA").length = 10 := rfl
        have : (ascii "OK|").length = 3 := rfl
        simp only [List.length_append]
        omega
      have joined : ascii "OK|" ++ (s.registry.nodes i).nodeId ++ ascii "|0|NO_DATA" =
          joinFields [ascii "OK", (s.registry.nodes i).nodeId, ascii "0", ascii "NO_DATA"] := by
        simp only [joinFields_cons_cons, joinFields_singleton, List.append_assoc]
        rfl
      rw [snprintf_of_length (by omega)]
      refine shownLines_line joined length (by simp) ?_
      simp only [List.forall_mem_cons, List.not_mem_nil, false_implies, implies_true, and_true]
      exact ⟨by decide, id_field, by decide, by decide⟩
    · rw [if_neg never, if_neg never]
      have length : (ascii "OK|" ++ (s.registry.nodes i).nodeId ++ ascii "|" ++
          formatInt (s.registry.nodes i).lastSeen ++ ascii "|" ++
            formatMeasurements (s.registry.nodes i) maxLine).length < maxLine := by
        have : (ascii "|").length = 1 := rfl
        have : (ascii "OK|").length = 3 := rfl
        simp only [List.length_append]
        omega
      have joined : ascii "OK|" ++ (s.registry.nodes i).nodeId ++ ascii "|" ++
          formatInt (s.registry.nodes i).lastSeen ++ ascii "|" ++
            formatMeasurements (s.registry.nodes i) maxLine =
          joinFields [ascii "OK", (s.registry.nodes i).nodeId,
            formatInt (s.registry.nodes i).lastSeen,
            formatMeasurements (s.registry.nodes i) maxLine] := by
        simp only [joinFields_cons_cons, joinFields_singleton, List.append_assoc]
        rfl
      rw [snprintf_of_length (by omega)]
      refine shownLines_line joined length (by simp) ?_
      simp only [List.forall_mem_cons, List.not_mem_nil, false_implies, implies_true, and_true]
      exact ⟨by decide, id_field, ⟨seen.printable, separator_formatInt _⟩, printable, clean⟩

/-- A registered node is found. -/
theorem find_registered {node : TelemetryNode}
    (member : node ∈ registeredNodes s.registry.toRegistrySnapshot) :
    snapshotFindNode s.registry.toRegistrySnapshot node.nodeId = some node := by
  obtain ⟨i, used, rfl⟩ := mem_registeredNodes.mp member
  cases found : snapshotFindNode s.registry.toRegistrySnapshot (s.registry.nodes i).nodeId with
  | none =>
    rw [snapshotFindNode, Option.map_eq_none_iff, List.find?_eq_none] at found
    exact absurd (by simp [used]) (found i (List.mem_finRange i))
  | some node =>
    have one := registeredNodes_filter h.wellFormed found
    have listed : s.registry.nodes i ∈ [node] := one ▸ List.mem_filter.mpr ⟨member, by simp⟩
    exact congrArg some (List.mem_singleton.mp listed).symm

/-- A `GET_LAST` with any text. -/
theorem shownLines_last {id frame : Bytes} (line : IsCommandLine (ascii "GET_LAST") [id] frame) :
    shownLines (serveLine s fd readings.val (lineOf frame)).reply =
      [lastReply s.registry.toRegistrySnapshot id] := by
  have other : ¬ ascii "GET_LAST" = ascii "STATS" := by decide
  rw [serveLine_node (.inl rfl) line, lastReply, nodeReply, if_neg other]
  split
  · exact shown_last h id
  · decide

/-- A `STATS` with any text. -/
theorem shownLines_stats {id frame : Bytes} (line : IsCommandLine (ascii "STATS") [id] frame) :
    shownLines (serveLine s fd readings.val (lineOf frame)).reply =
      statsReply s.registry.toRegistrySnapshot id := by
  rw [serveLine_node (.inr rfl) line, nodeReply, if_pos rfl]
  split
  · next valid => exact shown_statsOf h valid
  · next invalid =>
    rw [statsReply, if_neg invalid]
    decide

end Queries

end State

namespace ServerThreads

/-- A node with a last time has a valid set of measurements. -/
theorem measured_reachable {strtod : Bytes → StrtodResult} {startedAt bootId : Long}
    {s : ServerThreads} (reachable : (threadsMachine strtod startedAt bootId).Reachable s)
    {node : TelemetryNode} (member : node ∈ registeredNodes s.registry.toRegistrySnapshot)
    (seen : node.lastSeen ≠ 0) : ValidMeasurements node.measurements :=
  stored_reachable reachable member <|
    received_of_seen reachable (find_registered (shown_reachable reachable) member) seen

/-- In every reachable state the decoded reply to each query is the data of that state: the nodes
with their activity and age, the last 128 alerts that were raised, the counters of each node and of
the server, and for any argument that can be sent the counters of that node, what it measured last,
or the error. -/
theorem queries_decoded {strtod : Bytes → StrtodResult} {startedAt bootId : Long}
    {s : ServerThreads} (reachable : (threadsMachine strtod startedAt bootId).Reachable s)
    (fd : ClientFd) (readings : TimeReadings) :
    let r := s.registry.toRegistrySnapshot
    let answer := fun frame =>
      shownLines (serveLine s.toServerState fd readings.val (lineOf frame)).reply
    let last := s.raised.drop (s.raised.length - 128)
    answer (ascii "GET_NODES") = [ascii "OK", decimal (registeredNodes r).length] ::
        (registeredNodes r).map (fun node => shownNode node (readings.val.clock 0)) ∧
      answer (ascii "GET_ALERTS") =
        [ascii "OK", decimal last.length] :: last.map listedAlert ∧
      answer (ascii "STATS") = [ascii "OK", decimal (registeredNodes r).length] ::
        (registeredNodes r).map
          (fun node => [node.nodeId, node.session, counterText (nodeStats node)]) ∧
      (∀ id frame, IsCommandLine (ascii "STATS") [id] frame → answer frame = statsReply r id) ∧
      (∀ node, decodeMeasurements (counterText (nodeStats node)) = some (nodeStats node)) ∧
      answer (ascii "GET_STATUS") = [[ascii "OK", counterText (systemStats r readings.val)]] ∧
      decodeMeasurements (counterText (systemStats r readings.val)) =
        some (systemStats r readings.val) ∧
      (∀ id frame, IsCommandLine (ascii "GET_LAST") [id] frame →
        answer frame = [lastReply r id]) ∧
      ∀ node ∈ registeredNodes r, node.lastSeen ≠ 0 →
        decodeMeasurements (formatMeasurements node maxLine) =
          some (node.measurements.map fun m => (m.name, m.printed)) := by
  intro r answer last
  have shown := shown_reachable reachable
  obtain ⟨-, ranged⟩ := ringHolds_reachable reachable
  have alerts := shownAlerts_reachable reachable
  have listed : ∀ alert ∈ shownAlerts r, alert.Ranged := fun alert member =>
    ranged alert (List.mem_of_mem_drop (alerts ▸ member))
  refine ⟨shown_nodeList shown, ?_, shown_stats shown,
    fun id frame line => shownLines_stats shown line, fun node => ?_, shown_status shown,
    decode_systemStats _ _, fun id frame line => shownLines_last shown line,
    fun node member seen => ?_⟩
  · have list := shown_alertList shown listed
    rw [alerts] at list
    exact list
  · refine decodeMeasurements_counters (nodeStats_counters _) (List.cons_ne_nil _ _) ?_
    simp only [nodeStats, List.map_cons, List.map_nil]
    decide
  · exact (measured_reachable reachable member seen).decode_format

/-- After one alert. -/
theorem queries_decoded_sample :
    let M := threadsMachine strtodDigits ⟨7, by decide⟩ ⟨1, by decide⟩
    shownLines (serveLine (M.exec M.init beforeSubscribe).toServerState alarmedThread.fd
      alarmedReadings.val (lineOf (ascii "GET_ALERTS"))).reply =
      [[ascii "OK", ascii "1"], [ascii "9", ascii "N", ascii "STATUS_FAIL", ascii "0.00"]] := by
  intro M
  have raised :
      (M.exec M.init beforeSubscribe).raised = [⟨9, ascii "N", ascii "STATUS_FAIL", 0⟩] := by
    decide +kernel
  have answer := (queries_decoded (show M.Reachable _ from ⟨beforeSubscribe, rfl⟩)
    alarmedThread.fd alarmedReadings).2.1
  rw [raised] at answer
  exact answer.trans (by decide +kernel)

end ServerThreads

end Telep
