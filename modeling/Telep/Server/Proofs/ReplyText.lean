import Telep.Misc.Rounding
import Telep.Server.Proofs.Messages
import Telep.Server.Proofs.ShownData

/-!
# The shape of the replies

Every reply of a reachable state is one line, or a header, as many rows as it announces and `END`,
and every line fits in a frame, so `send_text_line` never discards one (`replyShape_serveLine`).
-/

namespace Telep

/-- A line that a client reads back as it was sent. -/
structure IsReplyLine (line : Bytes) : Prop where
  printable : Printable line
  short : line.length < maxLine

/-- One line, or a header, the rows it announces and `END`. -/
inductive ReplyShape : List Bytes → Prop
  | single (line : Bytes) (fits : IsReplyLine line)
      (starts : ascii "OK|" <+: line ∨ ascii "ERR|" <+: line) : ReplyShape [line]
  | list (rows : List Bytes) (fits : ∀ row ∈ rows, IsReplyLine row) (noEnd : ascii "END" ∉ rows)
      (few : rows.length ≤ maxAlerts) :
      ReplyShape ((ascii "OK|" ++ decimal rows.length) :: (rows ++ [ascii "END"]))

theorem sendTextLine_short {line : Bytes} (short : line.length < maxLine) :
    sendTextLine line = [line] := if_neg (not_le.mpr short)

/-! ## Parts of lines -/

theorem nodeId_printable {id : Bytes} (valid : isValidNodeId id = true) : Printable id :=
  (nodeId_isField ⟨id, valid⟩).2

theorem nodeId_length_lt {id : Bytes} (valid : isValidNodeId id = true) :
    id.length < maxNodeId := by
  simp only [isValidNodeId, decide_eq_true_eq] at valid
  exact valid.2.1

theorem session_printable {session : Bytes} (valid : isValidSession session = true) :
    Printable session := (session_isField ⟨session, valid⟩).2

theorem variableName_printable {name : Bytes} (known : name ∈ variableNames) :
    Printable name ∧ name.length ≤ 6 := by
  have all : ∀ name ∈ variableNames, Printable name ∧ name.length ≤ 6 := by decide
  exact all name known

theorem alertTypeOf_printable {v : Bytes} (known : v ∈ variableNames) :
    Printable (alertTypeOf v) := by
  have all : ∀ v ∈ variableNames, Printable (alertTypeOf v) := by decide
  exact all v known

/-- The text of a number of the source. -/
structure IsNumeral (text : Bytes) : Prop where
  printable : Printable text
  short : text.length ≤ 21

theorem Prints.numeral {n : Nat} (h : Prints n) : IsNumeral (decimal n) :=
  ⟨decimal_printable n, (decimal_length_le (by decide) h).trans (by decide)⟩

theorem isNumeral_formatInt {z : Int} (range : Prints z.natAbs) : IsNumeral (formatInt z) := by
  refine ⟨formatInt_printable z, ?_⟩
  cases z with
  | ofNat n => exact (Prints.numeral range).short
  | negSucc n => exact Nat.succ_le_succ (decimal_length_le (by decide) range)

theorem IsLong.prints {z : Int} (h : IsLong z) : Prints z.natAbs := by
  have limit : longMax = 2 ^ 63 - 1 := rfl
  obtain ⟨low, high⟩ := h
  unfold Prints
  omega

/-! ## Single lines -/

theorem replyShape_ok {text : Bytes} (printable : Printable text) (short : text.length < 1021) :
    ReplyShape (sendTextLine (ascii "OK|" ++ text)) := by
  have limit : maxLine = 1024 := rfl
  have fits : (ascii "OK|" ++ text).length < maxLine := by
    rw [List.length_append]
    have : (ascii "OK|").length = 3 := rfl
    omega
  rw [sendTextLine_short fits]
  exact .single _ ⟨Printable.append (by decide) printable, fits⟩ (.inl (List.prefix_append _ _))

theorem replyShape_error (code : ErrorCode) : ReplyShape (replyError code) := by
  have all : ∀ code, replyError code = [buildErrorResponse 64 code] ∧
      Printable (buildErrorResponse 64 code) ∧ (buildErrorResponse 64 code).length < maxLine ∧
      ascii "ERR|" <+: buildErrorResponse 64 code := by
    intro code
    cases code <;> decide
  obtain ⟨one, printable, short, starts⟩ := all code
  exact one ▸ .single _ ⟨printable, short⟩ (.inr starts)

/-- The keys of the counters. -/
def IsStatKey (key : Bytes) : Prop :=
  key ≠ [] ∧ key.length ≤ 17 ∧ ∀ c ∈ key, c = 95 ∨ (97 ≤ c ∧ c ≤ 122)

instance (key : Bytes) : Decidable (IsStatKey key) :=
  inferInstanceAs (Decidable (key ≠ [] ∧ key.length ≤ 17 ∧ ∀ c ∈ key, c = 95 ∨ (97 ≤ c ∧ c ≤ 122)))

/-- `key=number`, as the counters are printed. -/
def IsStat (part : Bytes) : Prop :=
  ∃ key z, IsStatKey (ascii key) ∧ Prints (Int.natAbs z) ∧ part = statField key (formatInt z)

theorem Prints.stat {n : Nat} (range : Prints n) {key : String} (known : IsStatKey (ascii key)) :
    IsStat (statField key (decimal n)) :=
  ⟨key, .ofNat n, known, range, rfl⟩

theorem IsStatKey.chars {key : Bytes} (known : IsStatKey key) : ∀ c ∈ key, 95 ≤ c ∧ c ≤ 122 := by
  intro c member
  rcases known.2.2 c member with rfl | ⟨low, high⟩
  · decide
  · exact ⟨UInt8.le_trans (by decide) low, high⟩

theorem IsStatKey.printable {key : Bytes} (known : IsStatKey key) : Printable key := by
  intro c member
  obtain ⟨low, high⟩ := known.chars c member
  exact ⟨UInt8.le_trans (by decide) low, UInt8.le_trans high (by decide)⟩

theorem IsStat.fits {part : Bytes} (stat : IsStat part) :
    Printable part ∧ part.length ≤ 39 := by
  obtain ⟨key, z, known, range, rfl⟩ := stat
  have number := isNumeral_formatInt range
  refine ⟨(known.printable.append (by decide)).append number.printable, ?_⟩
  have short := number.short
  have key_short := known.2.1
  have equals : (ascii "=").length = 1 := rfl
  rw [statField, List.length_append, List.length_append]
  omega

/-! ## Numbers -/

section State

variable {s : ServerState}

theorem registeredNodes_length_le (r : RegistrySnapshot) :
    (registeredNodes r).length ≤ maxNodes := by
  refine (List.length_filter_le _ _).trans ?_
  rw [List.length_map, List.length_finRange]

theorem countActiveNodes_le (r : RegistrySnapshot) (now : Int) :
    countActiveNodes r now ≤ maxNodes := by
  refine List.countP_le_length.trans ?_
  rw [List.length_map, List.length_finRange]

theorem sumNodes_le {r : RegistrySnapshot} {counter : TelemetryNode → Nat} {n : Nat}
    (each : ∀ node ∈ registeredNodes r, counter node ≤ n) : sumNodes r counter ≤ maxNodes * n := by
  refine (List.sum_le_card_nsmul _ n fun k hk => ?_).trans ?_
  · obtain ⟨node, member, rfl⟩ := List.mem_map.mp hk
    exact each node member
  · rw [List.length_map, smul_eq_mul]
    exact Nat.mul_le_mul_right n (registeredNodes_length_le r)

theorem mem_registeredNodes {r : RegistrySnapshot} {node : TelemetryNode} :
    node ∈ registeredNodes r ↔ ∃ i, (r.nodes i).inUse = true ∧ r.nodes i = node := by
  simp only [registeredNodes, List.mem_filter, List.mem_map, List.mem_finRange, true_and]
  constructor
  · rintro ⟨⟨i, rfl⟩, used⟩
    exact ⟨i, used, rfl⟩
  · rintro ⟨i, used, rfl⟩
    exact ⟨⟨i, rfl⟩, used⟩

/-- The counters of a session are bounded by its length. -/
structure TelemetryNode.Counted (n : TelemetryNode) : Prop where
  attempts : n.attempts ≤ sessionLimit
  sent : n.sent ≤ sessionLimit
  omitted : n.omitted ≤ sessionLimit
  sendErrors : n.sendErrors ≤ sessionLimit
  received : n.datagramsReceived ≤ sessionLimit
  reordered : n.reordered ≤ sessionLimit
  lost : n.datagramsLost ≤ sessionLimit

theorem overtakenFrom_le {α : Type} [LinearOrder α] (earlier xs : List α) :
    ArrivalLog.overtakenFrom earlier xs ≤ xs.length := by
  induction xs generalizing earlier with
  | nil => exact Nat.le_refl _
  | cons x xs ih =>
    have rest := ih (x :: earlier)
    rw [ArrivalLog.overtakenFrom, List.length_cons]
    split <;> omega

theorem Record.Tracks.counted {x : Record} {log : SessionLog} (h : x.Tracks log) :
    x.node.Counted := by
  have received := h.received_le
  have attempts := h.attempts_le
  have balanced := h.balanced
  have lost := h.lost
  have reordered : x.node.reordered ≤ log.length := by
    rw [h.reordered, ArrivalLog.overtaken]
    exact (overtakenFrom_le _ _).trans (List.length_map _).le
  rw [← h.received] at reordered
  exact ⟨attempts, by omega, by omega, by omega, received, by omega, by omega⟩

theorem ServerState.Shown.counted (h : s.Shown) {node : TelemetryNode}
    (member : node ∈ registeredNodes s.registry.toRegistrySnapshot) : node.Counted := by
  obtain ⟨i, used, rfl⟩ := mem_registeredNodes.mp member
  obtain ⟨log, tracks⟩ := h.tracks i used
  exact tracks.counted

theorem prints_of_le {n : Nat} (h : n ≤ maxNodes * sessionLimit) : Prints n :=
  h.trans_lt (by decide)

/-! ## `GET_STATUS` -/

theorem fields_fit {parts : List Bytes}
    (each : ∀ part ∈ parts, Printable part ∧ part.length ≤ 39) (few : parts.length ≤ 25) :
    Printable (snprintf maxLine (List.intercalate (ascii ";") parts)) ∧
      (snprintf maxLine (List.intercalate (ascii ";") parts)).length < 1021 := by
  have length := intercalate_length_le (ascii ";") fun part member => (each part member).2
  have separator : (ascii ";").length = 1 := rfl
  have bound : parts.length * (39 + (ascii ";").length) ≤ 25 * 40 :=
    Nat.mul_le_mul few (by omega)
  have limit : maxLine = 1024 := rfl
  rw [snprintf_of_length (by omega)]
  exact ⟨printable_intercalate (by decide) fun part member => (each part member).1, by omega⟩

/-- The fields of `GET_STATUS`, in a buffer of any size. -/
theorem systemStatus_parts (h : s.Shown) (readings : TimeReadings) :
    ∃ parts : List Bytes, parts.length = 21 ∧ (∀ part ∈ parts, IsStat part) ∧
      ∀ size, formatSystemStatus s.registry.toRegistrySnapshot readings.val size =
        snprintf size (List.intercalate (ascii ";") parts) := by
  have sum (counter : TelemetryNode → Nat)
      (each : ∀ node : TelemetryNode, node.Counted → counter node ≤ sessionLimit) :
      Prints (sumNodes s.registry.toRegistrySnapshot counter) :=
    prints_of_le (sumNodes_le fun node member => each node (h.counted member))
  have flag (b : Bool) : Prints b.toNat := prints_of_le (b.toNat_le.trans (by decide))
  have uptime : Prints (readings.val.clock 0 - s.registry.startedAt).natAbs := by
    have limit : longMax = 2 ^ 63 - 1 := rfl
    obtain ⟨low, high⟩ := readings.property.1 0
    obtain ⟨low', high'⟩ := h.startedAt
    unfold Prints
    omega
  have dropped : Prints readings.val.dropped := by
    have limit : longMax = 2 ^ 63 - 1 := rfl
    have le := readings.property.2
    unfold Prints
    omega
  have few {n : Nat} (le : n ≤ maxNodes) : Prints n := prints_of_le (le.trans (by decide))
  have registered : countRegisteredNodes s.registry.toRegistrySnapshot ≤ maxNodes :=
    registeredNodes_length_le _
  refine ⟨_, ?_, ?_, fun size => rfl⟩
  · rfl
  · simp only [List.forall_mem_cons, List.not_mem_nil, false_implies, implies_true, and_true]
    exact ⟨⟨_, _, by decide, h.bootId.prints, rfl⟩, ⟨_, _, by decide, uptime, rfl⟩,
      (few registered).stat (by decide), (few (countActiveNodes_le _ _)).stat (by decide),
      (flag _).stat (by decide), (flag _).stat (by decide), h.datagramsTotal.stat (by decide),
      h.datagramsInvalid.stat (by decide), h.datagramsUnknownNode.stat (by decide),
      (sum _ fun _ n => n.attempts).stat (by decide), (sum _ fun _ n => n.sent).stat (by decide),
      (sum _ fun _ n => n.omitted).stat (by decide),
      (sum _ fun _ n => n.sendErrors).stat (by decide),
      (sum _ fun _ n => n.received).stat (by decide), h.duplicates.stat (by decide),
      (sum _ fun _ n => n.reordered).stat (by decide), (sum _ fun _ n => n.lost).stat (by decide),
      (sum _ fun _ _ => (Bool.toNat_le _).trans (by decide)).stat (by decide),
      (sum _ fun _ _ => (Bool.toNat_le _).trans (by decide)).stat (by decide),
      h.totalAlerts.stat (by decide), dropped.stat (by decide)⟩

theorem counter_le_sumNodes {r : RegistrySnapshot} {node : TelemetryNode}
    (member : node ∈ registeredNodes r) (counter : TelemetryNode → Nat) :
    counter node ≤ sumNodes r counter :=
  List.single_le_sum (fun _ _ => Nat.zero_le _) _ (List.mem_map_of_mem member)

/-- The fields of `STATS` about a node, in a buffer of any size. -/
theorem nodeStats_parts (h : s.Shown) {node : TelemetryNode}
    (member : node ∈ registeredNodes s.registry.toRegistrySnapshot) :
    ∃ parts : List Bytes, parts.length = 10 ∧ (∀ part ∈ parts, IsStat part) ∧
      ∀ size, formatNodeStats node size = snprintf size (List.intercalate (ascii ";") parts) := by
  have counted := h.counted member
  have counter {n : Nat} (le : n ≤ sessionLimit) : Prints n :=
    prints_of_le (le.trans (Nat.le_mul_of_pos_left _ (by decide)))
  have flag (b : Bool) : Prints b.toNat := prints_of_le (b.toNat_le.trans (by decide))
  have duplicates : Prints node.duplicates :=
    (counter_le_sumNodes member TelemetryNode.duplicates).trans_lt h.duplicates
  refine ⟨_, ?_, ?_, fun size => rfl⟩
  · rfl
  · simp only [List.forall_mem_cons, List.not_mem_nil, false_implies, implies_true, and_true]
    exact ⟨(counter counted.attempts).stat (by decide), (counter counted.sent).stat (by decide),
      (counter counted.omitted).stat (by decide), (counter counted.sendErrors).stat (by decide),
      (counter counted.received).stat (by decide), duplicates.stat (by decide),
      (counter counted.reordered).stat (by decide), (counter counted.lost).stat (by decide),
      (flag _).stat (by decide), (flag _).stat (by decide)⟩

theorem replyShape_status (h : s.Shown) (readings : TimeReadings) :
    ReplyShape (replyStatus s.registry readings.val) := by
  obtain ⟨parts, number, stats, text⟩ := systemStatus_parts h readings
  obtain ⟨printable, length⟩ := fields_fit (fun part member => (stats part member).fits)
    (by omega : parts.length ≤ 25)
  have limit : maxLine = 1024 := rfl
  have ok : (ascii "OK|").length = 3 := rfl
  rw [replyStatus, text, snprintf_of_length (by rw [List.length_append]; omega)]
  exact replyShape_ok printable length

/-! ## `GET_LAST` -/

theorem ValidMeasurement.abs_value_le {m : Measurement} (h : ValidMeasurement m) :
    |m.value| ≤ 1000000 := by
  rcases h with ⟨-, zero | one⟩ | ⟨range, found, low, high⟩
  · rw [zero]
    norm_num
  · rw [one]
    norm_num
  · have ends : -1000000 ≤ range.1 ∧ range.2 ≤ 1000000 := by
      unfold valueRange at found
      split_ifs at found <;> obtain rfl := Option.some.inj found <;> norm_num
    exact abs_le.mpr ⟨ends.1.trans low, high.trans ends.2⟩

theorem formatMeasurement_fits {m : Measurement} (valid : ValidMeasurement m) :
    Printable (formatMeasurement m) ∧ (formatMeasurement m).length ≤ 18 := by
  obtain ⟨name, short⟩ := variableName_printable valid.name_mem
  unfold formatMeasurement
  split
  · next status =>
    rw [status]
    split <;> decide
  · have value := formatFixed2_short valid.abs_value_le
    have equals : (ascii "=").length = 1 := rfl
    refine ⟨(name.append (by decide)).append (formatFixed2_printable _), ?_⟩
    rw [List.length_append, List.length_append]
    omega

theorem formatMeasurementsFrom_fits (outSize : Nat) (out : Bytes) (written : Nat)
    (separator : Bytes) {ms : List Measurement} (valid : ∀ m ∈ ms, ValidMeasurement m)
    (hs : Printable separator) (one : separator.length ≤ 1) (hout : Printable out) :
    Printable (formatMeasurementsFrom outSize out written separator ms) ∧
      (formatMeasurementsFrom outSize out written separator ms).length ≤
        out.length + 19 * ms.length := by
  induction ms generalizing out written separator with
  | nil => exact ⟨hout, Nat.le_add_right _ _⟩
  | cons m ms ih =>
    obtain ⟨printable, short⟩ := formatMeasurement_fits (valid m List.mem_cons_self)
    have cut : (snprintf (outSize - written) (separator ++ formatMeasurement m)).length ≤ 19 := by
      refine (List.length_take_le' _ _).trans ?_
      rw [List.length_append]
      omega
    rw [formatMeasurementsFrom]
    split
    · obtain ⟨rest, length⟩ := ih (out ++ snprintf (outSize - written)
          (separator ++ formatMeasurement m)) (written + (separator ++ formatMeasurement m).length)
        (ascii ";") (fun m' h => valid m' (List.mem_cons_of_mem _ h)) (by decide) (by decide)
        (hout.append (hs.append printable).snprintf)
      refine ⟨rest, length.trans ?_⟩
      rw [List.length_append, List.length_cons]
      omega
    · exact ⟨hout, Nat.le_add_right _ _⟩

/-- The node that `GET_LAST` and `STATS` find. -/
theorem snapshotFindNode_eq_some {r : RegistrySnapshot} {id : Bytes} {node : TelemetryNode}
    (found : snapshotFindNode r id = some node) :
    ∃ i, findNode r id = some i ∧ (r.nodes i).inUse = true ∧ (r.nodes i).nodeId = id ∧
      r.nodes i = node := by
  obtain ⟨i, search, rfl⟩ := Option.map_eq_some_iff.mp found
  have search : findNode r id = some i := search
  obtain ⟨used, same⟩ := findNode_spec search
  exact ⟨i, search, used, same, rfl⟩

theorem replyShape_last (h : s.Shown) (id : Bytes) :
    ReplyShape (replyLastMeasurement s.registry id) := by
  unfold replyLastMeasurement
  cases found : snapshotFindNode s.registry.toRegistrySnapshot id with
  | none => exact replyShape_error _
  | some node =>
    obtain ⟨i, -, used, -, rfl⟩ := snapshotFindNode_eq_some found
    have valid := h.wellFormed.nodeId_valid i used
    have short := nodeId_length_lt valid
    have shown := h.record i used
    have seen := isNumeral_formatInt (z := (s.registry.nodes i).lastSeen) shown.lastSeen.prints
    obtain ⟨printable, length⟩ := formatMeasurementsFrom_fits maxLine [] 0 [] shown.measurements
      (by decide) (by decide) (by decide)
    have few := h.measurements i
    have number := seen.short
    have limit : maxLine = 1024 := rfl
    have limit' : maxNodeId = 16 := rfl
    have bar : (ascii "|").length = 1 := rfl
    dsimp only
    split
    · rw [List.append_assoc, snprintf_of_length]
      · exact replyShape_ok ((nodeId_printable valid).append (by decide)) (by
          rw [List.length_append]
          have : (ascii "|0|NO_DATA").length = 10 := rfl
          omega)
      · simp only [List.length_append]
        have : (ascii "|0|NO_DATA").length = 10 := rfl
        have : (ascii "OK|").length = 3 := rfl
        omega
    · have text : ((s.registry.nodes i).nodeId ++ (ascii "|" ++
          (formatInt (s.registry.nodes i).lastSeen ++ (ascii "|" ++
            formatMeasurements (s.registry.nodes i) maxLine)))).length < 1021 := by
        simp only [List.length_append, formatMeasurements]
        simp only [Registry.record, List.length_nil] at length
        omega
      rw [List.append_assoc, List.append_assoc, List.append_assoc, List.append_assoc,
        snprintf_of_length]
      · exact replyShape_ok ((nodeId_printable valid).append (Printable.append (by decide)
          (seen.printable.append (Printable.append (by decide) printable)))) text
      · rw [List.length_append]
        have : (ascii "OK|").length = 3 := rfl
        omega

/-! ## Lists -/

theorem isReplyLine_cut {text : Bytes} (printable : Printable text) :
    IsReplyLine (snprintf maxLine text) := ⟨printable.snprintf, snprintf_length_lt (by decide)⟩

/-- A list of rows that fit is sent as it is. -/
theorem replyList_eq {rows : List Bytes} (fits : ∀ row ∈ rows, IsReplyLine row)
    (few : rows.length ≤ maxAlerts) :
    replyList rows.length rows =
      (ascii "OK|" ++ decimal rows.length) :: (rows ++ [ascii "END"]) := by
  have limit : maxLine = 1024 := rfl
  have digits : (decimal rows.length).length ≤ 3 :=
    decimal_length_le (by decide) (few.trans_lt (by decide))
  have header : (ascii "OK|" ++ decimal rows.length).length < maxLine := by
    rw [List.length_append]
    have : (ascii "OK|").length = 3 := rfl
    omega
  have sent : rows.flatMap sendTextLine = rows := by
    clear few digits header
    induction rows with
    | nil => rfl
    | cons row rows ih =>
      rw [List.flatMap_cons, sendTextLine_short (fits row List.mem_cons_self).short,
        ih fun r hr => fits r (List.mem_cons_of_mem _ hr)]
      rfl
  rw [replyList, listHeader, snprintf_of_length header, sendTextLine_short header, sent]
  rfl

theorem replyShape_list {rows : List Bytes} (fits : ∀ row ∈ rows, IsReplyLine row)
    (noEnd : ascii "END" ∉ rows) (few : rows.length ≤ maxAlerts) :
    ReplyShape (replyList rows.length rows) :=
  replyList_eq fits few ▸ .list rows fits noEnd few

/-- A row that begins with a word and a bar is no `END`. -/
theorem ne_end_of_bar (word : Bytes) {row : Bytes} (begins : word ++ ascii "|" <+: row) :
    row ≠ ascii "END" := by
  rintro rfl
  have bar : (124 : UInt8) ∈ ascii "END" := begins.subset (List.mem_append_right _ (by decide))
  exact absurd bar (by decide)

/-- A row of a node. -/
theorem nodeRow_fits {id rest : Bytes} (valid : isValidNodeId id = true)
    (printable : Printable rest) :
    IsReplyLine (snprintf maxLine (id ++ ascii "|" ++ rest)) ∧
      snprintf maxLine (id ++ ascii "|" ++ rest) ≠ ascii "END" := by
  refine ⟨isReplyLine_cut (((nodeId_printable valid).append (by decide)).append printable),
    ne_end_of_bar id (prefix_snprintf (List.prefix_append _ _) ?_)⟩
  have short := nodeId_length_lt valid
  have limit : maxLine = 1024 := rfl
  have limit' : maxNodeId = 16 := rfl
  rw [List.length_append]
  have : (ascii "|").length = 1 := rfl
  omega

/-- The rows that print one node each. -/
theorem nodeRows_fit (h : s.Shown) {print : TelemetryNode → Bytes} {nodes : List TelemetryNode}
    (listed : nodes.Sublist (registeredNodes s.registry.toRegistrySnapshot))
    (prints : ∀ node : TelemetryNode, isValidNodeId node.nodeId = true →
      isValidSession node.session = true → ∃ rest, Printable rest ∧
        print node = snprintf maxLine (node.nodeId ++ ascii "|" ++ rest)) :
    (∀ row ∈ nodes.map print, IsReplyLine row) ∧ ascii "END" ∉ nodes.map print ∧
      (nodes.map print).length ≤ maxAlerts := by
  have rows : ∀ node ∈ nodes, IsReplyLine (print node) ∧ print node ≠ ascii "END" := by
    intro node member
    obtain ⟨i, used, rfl⟩ := mem_registeredNodes.mp (listed.subset member)
    have valid := h.wellFormed.nodeId_valid i used
    obtain ⟨rest, printable, row⟩ := prints _ valid (h.wellFormed.session_valid i used)
    exact row ▸ nodeRow_fits valid printable
  refine ⟨?_, ?_, ?_⟩
  · intro row member
    obtain ⟨node, listed, rfl⟩ := List.mem_map.mp member
    exact (rows node listed).1
  · intro member
    obtain ⟨node, listed, same⟩ := List.mem_map.mp member
    exact (rows node listed).2 same
  · rw [List.length_map]
    exact (listed.length_le.trans (registeredNodes_length_le _)).trans (by decide)

theorem replyShape_nodes (h : s.Shown) {print : TelemetryNode → Bytes}
    {nodes : List TelemetryNode}
    (listed : nodes.Sublist (registeredNodes s.registry.toRegistrySnapshot))
    (prints : ∀ node : TelemetryNode, isValidNodeId node.nodeId = true →
      isValidSession node.session = true → ∃ rest, Printable rest ∧
        print node = snprintf maxLine (node.nodeId ++ ascii "|" ++ rest)) :
    ReplyShape (replyList nodes.length (nodes.map print)) := by
  obtain ⟨fits, noEnd, few⟩ := nodeRows_fit h listed prints
  have shape := replyShape_list fits noEnd few
  rwa [List.length_map] at shape

theorem nodeRow_eq (node : TelemetryNode) (now : Int) :
    ∃ rest, Printable rest ∧
      nodeRow node now = snprintf maxLine (node.nodeId ++ ascii "|" ++ rest) := by
  refine ⟨(if nodeIsActive node now then ascii "ACTIVE" else ascii "INACTIVE") ++ (ascii "|" ++
    formatInt (if node.lastSeen ≠ 0 then now - node.lastSeen else -1)), ?_, by
      simp only [nodeRow, List.append_assoc]⟩
  refine Printable.append ?_ (Printable.append (by decide) (formatInt_printable _))
  split <;> decide

theorem statsRow_eq {node : TelemetryNode} (session : isValidSession node.session = true) :
    ∃ rest, Printable rest ∧ statsRow node = snprintf maxLine (node.nodeId ++ ascii "|" ++ rest) := by
  have field (key : String) (known : Printable (ascii key)) (n : Nat) :
      Printable (statField key (decimal n)) :=
    (known.append (by decide)).append (decimal_printable n)
  have stats : Printable (formatNodeStats node maxLine) := by
    refine Printable.snprintf (printable_intercalate (by decide) ?_)
    simp only [List.forall_mem_cons, List.not_mem_nil, false_implies, implies_true, and_true]
    exact ⟨field _ (by decide) _, field _ (by decide) _, field _ (by decide) _,
      field _ (by decide) _, field _ (by decide) _, field _ (by decide) _, field _ (by decide) _,
      field _ (by decide) _, field _ (by decide) _, field _ (by decide) _⟩
  unfold statsRow
  rw [List.append_assoc, List.append_assoc]
  exact ⟨_, (session_printable session).append (Printable.append (by decide) (stats.take 800)), rfl⟩

/-- A pushed line. -/
theorem formatAlert_printable {alert : Alert} (shown : alert.Shown) :
    Printable (formatAlert alert) := by
  obtain ⟨v, known, type⟩ := shown.alertType
  have bar : Printable (ascii "|") := by decide
  have start : Printable (ascii "ALERT|") := by decide
  have name := (start.append (nodeId_printable shown.nodeId)).append bar
  have kind := (name.append (type ▸ alertTypeOf_printable known)).append bar
  exact (kind.append (formatFixed2_printable alert.value)).snprintf

theorem alertRow_fits {alert : Alert} (shown : alert.Shown) :
    IsReplyLine (alertRow alert) ∧ alertRow alert ≠ ascii "END" := by
  obtain ⟨v, known, type⟩ := shown.alertType
  constructor
  · have bar : Printable (ascii "|") := by decide
    have start := (formatInt_printable alert.timestamp).append bar
    have name := (start.append (nodeId_printable shown.nodeId)).append bar
    have kind := (name.append (type ▸ alertTypeOf_printable known)).append bar
    exact isReplyLine_cut (kind.append (formatFixed2_printable alert.value))
  · -- the row begins with a digit or a sign
    intro same
    have first := formatInt_chars alert.timestamp
    cases text : formatInt alert.timestamp with
    | nil => exact formatInt_ne_nil _ text
    | cons c rest =>
      have head := congrArg List.head? same
      simp only [alertRow, text, List.cons_append, snprintf] at head
      have c_eq : c = 69 := Option.some.inj head
      rcases first c (text ▸ List.mem_cons_self) with minus | digit
      · exact absurd (c_eq.symm.trans minus) (by decide)
      · exact absurd (c_eq ▸ digit) (by decide)

/-- A node that is found is the only one with its identifier. -/
theorem registeredNodes_filter (wf : s.registry.WellFormed) {id : Bytes} {node : TelemetryNode}
    (found : snapshotFindNode s.registry.toRegistrySnapshot id = some node) :
    (registeredNodes s.registry.toRegistrySnapshot).filter (fun n => id = n.nodeId) = [node] := by
  obtain ⟨i, -, used, same, rfl⟩ := snapshotFindNode_eq_some found
  have slots : (List.finRange maxNodes).filter (fun j => (s.registry.nodes j).inUse &&
      decide (id = (s.registry.nodes j).nodeId)) = [i] := by
    refine List.perm_singleton.mp ((List.perm_ext_iff_of_nodup
      ((List.nodup_finRange maxNodes).filter _) (List.nodup_singleton i)).mpr fun j => ?_)
    simp only [List.mem_filter, List.mem_finRange, true_and, Bool.and_eq_true, decide_eq_true_eq,
      List.mem_singleton]
    constructor
    · rintro ⟨other, name⟩
      exact wf.distinct j i id (nodeKey_eq_some.mpr ⟨other, name.symm⟩)
        (nodeKey_eq_some.mpr ⟨used, same⟩)
    · rintro rfl
      exact ⟨used, same.symm⟩
  rw [registeredNodes, List.filter_filter, List.filter_map]
  rw [← List.map_singleton (f := s.registry.nodes), ← slots]
  congr 2
  funext j
  simp [Bool.and_comm]

theorem replyShape_stats (h : s.Shown) (id : Option Bytes) :
    ReplyShape (replyStats s.registry id) := by
  have rows (nodes : List TelemetryNode)
      (listed : nodes.Sublist (registeredNodes s.registry.toRegistrySnapshot)) :
      ReplyShape (replyList nodes.length (nodes.map statsRow)) :=
    replyShape_nodes h listed fun _ _ session => statsRow_eq session
  cases id with
  | none => exact rows _ (List.Sublist.refl _)
  | some id =>
    simp only [replyStats]
    cases found : snapshotFindNode s.registry.toRegistrySnapshot id with
    | none => exact replyShape_error _
    | some node =>
      dsimp only
      have one := rows [node] (registeredNodes_filter h.wellFormed found ▸ List.filter_sublist)
      rw [registeredNodes_filter h.wellFormed found]
      exact one

theorem replyShape_nodeList (h : s.Shown) (readings : Readings) :
    ReplyShape (replyNodeList s.registry readings) :=
  replyShape_nodes h (List.Sublist.refl _) fun node _ _ => nodeRow_eq node _

theorem alertRows_fit (h : s.Shown) :
    (∀ row ∈ (shownAlerts s.registry.toRegistrySnapshot).map alertRow, IsReplyLine row) ∧
      ascii "END" ∉ (shownAlerts s.registry.toRegistrySnapshot).map alertRow ∧
      ((shownAlerts s.registry.toRegistrySnapshot).map alertRow).length ≤ maxAlerts := by
  refine ⟨?_, ?_, ?_⟩
  · intro row member
    obtain ⟨alert, shown, rfl⟩ := List.mem_map.mp member
    exact (alertRow_fits (h.alerts alert shown)).1
  · intro member
    obtain ⟨alert, shown, same⟩ := List.mem_map.mp member
    exact (alertRow_fits (h.alerts alert shown)).2 same
  · rw [List.length_map, shownAlerts, List.length_map, List.length_range]
    split <;> omega

theorem replyShape_alertList (h : s.Shown) : ReplyShape (replyAlertList s.registry) := by
  obtain ⟨fits, noEnd, few⟩ := alertRows_fit h
  have shape := replyShape_list fits noEnd few
  rwa [List.length_map] at shape

/-! ## Every reply -/

theorem replyShape_calls (call : Option ErrorCode × Registry) {ok : Bytes}
    (answer : ReplyShape (sendTextLine ok)) : ReplyShape (s.calls call ok).reply := by
  unfold ServerState.calls
  cases call.1 with
  | none => exact answer
  | some code => exact replyShape_error code

theorem Handled.replyShape {fd : ClientFd} {readings : TimeReadings} {line : Bytes}
    {result : CommandResult} (handled : Handled s fd readings.val line result) (h : s.Shown) :
    ReplyShape result.reply := by
  have ok (text : Bytes) (fits : Printable text ∧ text.length < 1021) :
      ReplyShape (sendTextLine (ascii "OK|" ++ text)) := replyShape_ok fits.1 fits.2
  cases handled with
  | refused code => exact replyShape_error code
  | bye message => exact ok (ascii "BYE") (by decide)
  | status message => exact replyShape_status h readings
  | nodes message => exact replyShape_nodeList h readings.val
  | alerts message => exact replyShape_alertList h
  | stats message => exact replyShape_stats h none
  | statsOf id message => exact replyShape_stats h (some id.val)
  | last id message => exact replyShape_last h id.val
  | subscribe message =>
    dsimp only
    split
    · exact replyShape_error _
    · exact ok (ascii "SUBSCRIBED") (by decide)
  | hello id session message => exact replyShape_calls _ (ok (ascii "REGISTERED") (by decide))
  | report id session c final values message =>
    exact replyShape_calls _ (ok (ascii "REPORTED") (by decide))

/-- The answer to a line of any content has the shape of a reply. -/
theorem replyShape_serveLine (h : s.Shown) (fd : ClientFd) (readings : TimeReadings)
    (line : ReceivedLine) : ReplyShape (serveLine s fd readings.val line).reply := by
  cases line with
  | line text => exact (handleCommand_handled s fd readings.val text).replyShape h
  | overflow => exact replyShape_error .tooLong
  | invalid => exact replyShape_error .badFormat

end State

theorem ReplyShape.ne_nil {lines : List Bytes} (shape : ReplyShape lines) : lines ≠ [] := by
  cases shape <;> exact List.cons_ne_nil _ _

/-- Every line of a reply fits in a frame. -/
theorem ReplyShape.fits {lines : List Bytes} (shape : ReplyShape lines) :
    ∀ line ∈ lines, IsReplyLine line := by
  intro line member
  cases shape with
  | single _ fits starts => exact List.mem_singleton.mp member ▸ fits
  | list rows fits noEnd few =>
    rcases List.mem_cons.mp member with rfl | member
    · refine ⟨Printable.append (by decide) (decimal_printable _), ?_⟩
      have digits : (decimal rows.length).length ≤ 3 :=
        decimal_length_le (by decide) (few.trans_lt (by decide))
      have limit : maxLine = 1024 := rfl
      rw [List.length_append]
      have : (ascii "OK|").length = 3 := rfl
      omega
    · rcases List.mem_append.mp member with row | last
      · exact fits line row
      · exact List.mem_singleton.mp last ▸ ⟨by decide, by decide⟩

end Telep
