import Telep.Client.Proofs.RoundTrips
import Telep.Server.Proofs.Lines

/-!
# The replies to the commands of an operator

A reply is one line, or a list that the client recognises by the command and the header
(`isReplyTo_serveLine`). No line of it reads as an alert unless the command lists a node whose
identifier is `ALERT` (`not_alert_serveLine`).
-/

namespace Telep

/-- A reply as `request` tells it apart. -/
inductive IsReplyTo (command : Bytes) : List Bytes → Prop
  | single (line : Bytes) (fits : IsReplyLine line) (noEnd : line ≠ endOfList)
      (plain : ¬ (isListCommand command = true ∧
        (decodeMessage line).head? = some (ascii "OK"))) : IsReplyTo command [line]
  | list (header : Bytes) (rows : List Bytes) (fits : ∀ line ∈ header :: rows, IsReplyLine line)
      (noEnd : endOfList ∉ header :: rows) (known : isListCommand command = true)
      (ok : (decodeMessage header).head? = some (ascii "OK")) :
      IsReplyTo command (header :: (rows ++ [endOfList]))

/-! ## The first word of a line -/

theorem decodeMessage_printable {line : Bytes} (printable : Printable line) :
    decodeMessage line = line.splitOn fieldSeparator := by
  have whole : line.rdropWhile (fun c => c = carriageReturn ∨ c = lineFeed) = line := by
    rw [List.rdropWhile_eq_self_iff]
    intro nonempty
    have member := List.getLast_mem nonempty
    rw [decide_eq_true_eq, not_or]
    exact ⟨fun same => printable.not_mem_carriageReturn (same ▸ member),
      fun same => printable.not_mem_lineFeed (same ▸ member)⟩
  rw [decodeMessage, whole]

theorem decodeMessage_word {word line : Bytes} (printable : Printable line)
    (clean : fieldSeparator ∉ word) (begins : word ++ [fieldSeparator] <+: line) :
    (decodeMessage line).head? = some word := by
  obtain ⟨rest, rfl⟩ := begins
  rw [decodeMessage_printable printable, List.append_assoc,
    List.singleton_append, List.splitOn_append_cons_self_of_not_mem clean]
  rfl

/-- The beginning of a line decides whether it is an alert. -/
theorem isAlertLine_iff {line : Bytes} : isAlertLine line = true ↔ alertPrefix <+: line := by
  rw [isAlertLine, List.isPrefixOf_iff_prefix]

theorem not_isAlertLine_of_begins {line start : Bytes} (begins : start <+: line)
    (other : ¬ start <+: alertPrefix) (short : start.length ≤ alertPrefix.length) :
    isAlertLine line = false := by
  rw [← Bool.not_eq_true, isAlertLine_iff]
  intro alert
  exact other (List.prefix_of_prefix_length_le begins alert short)

/-- A row that begins with an identifier reads as an alert for one identifier only. -/
theorem eq_alert_of_isAlertLine {id rest : Bytes} (valid : isValidNodeId id = true)
    (alert : isAlertLine (snprintf maxLine (id ++ ascii "|" ++ rest)) = true) :
    id = ascii "ALERT" := by
  have begins : alertPrefix <+: id ++ ascii "|" ++ rest :=
    (isAlertLine_iff.mp alert).trans (List.take_prefix _ _)
  obtain ⟨more, same⟩ := begins
  have clean : fieldSeparator ∉ id := (nodeId_isField ⟨id, valid⟩).1.2
  have parts : ascii "ALERT" ++ fieldSeparator :: more = id ++ fieldSeparator :: rest := by
    have bar : ascii "|" = [fieldSeparator] := rfl
    have start : alertPrefix = ascii "ALERT" ++ [fieldSeparator] := rfl
    rw [start, bar, List.append_assoc, List.append_assoc] at same
    exact same
  exact (mark_inj (by decide) clean parts).1.symm

/-! ## One line or a list -/

theorem sendTextLine_length_le (text : Bytes) : (sendTextLine text).length ≤ 1 := by
  unfold sendTextLine
  split <;> simp

theorem mem_sendTextLine {line text : Bytes} (member : line ∈ sendTextLine text) : line = text := by
  unfold sendTextLine at member
  split at member
  · cases member
  · exact List.mem_singleton.mp member

theorem two_le_replyList (n : Nat) (rows : List Bytes) : 2 ≤ (replyList n rows).length := by
  have header : (listHeader n).length < maxLine := snprintf_length_lt (by decide)
  have last : (ascii "END").length < maxLine := by decide
  rw [replyList, sendTextLine_short header, sendTextLine_short last]
  simp only [List.length_append, List.length_singleton]
  omega

theorem replyError_eq (code : ErrorCode) :
    ∃ line, replyError code = [line] ∧ IsReplyLine line ∧ ascii "ERR|" <+: line := by
  cases code <;> exact ⟨_, rfl, ⟨by decide, by decide⟩, by decide⟩

variable {command : Bytes}

theorem isReplyTo_error (code : ErrorCode) : IsReplyTo command (replyError code) := by
  obtain ⟨line, same, fits, begins⟩ := replyError_eq code
  have word : (decodeMessage line).head? = some (ascii "ERR") :=
    decodeMessage_word fits.printable (by decide) begins
  rw [same]
  refine .single line fits ?_ ?_
  · rintro rfl
    exact absurd begins (by decide)
  · rintro ⟨-, ok⟩
    rw [word] at ok
    exact absurd (Option.some.inj ok) (by decide)

/-- A reply of one line, to a command that is never answered with a list. -/
theorem ReplyShape.single_to {lines : List Bytes} (shape : ReplyShape lines)
    (one : lines.length ≤ 1) (other : isListCommand command = false) :
    IsReplyTo command lines := by
  cases shape with
  | single line fits starts =>
    refine .single line fits ?_ fun list => ?_
    · rintro rfl
      exact absurd starts (by decide)
    · rw [other] at list
      exact Bool.false_ne_true list.1
  | list rows fits noEnd few =>
    simp only [List.length_cons, List.length_append, List.length_nil] at one
    omega

/-- A reply of several lines, to a command that can be answered with a list. -/
theorem ReplyShape.list_to {lines : List Bytes} (shape : ReplyShape lines)
    (several : 2 ≤ lines.length) (known : isListCommand command = true) :
    IsReplyTo command lines := by
  have all := shape.fits
  cases shape with
  | single line fits starts =>
    rw [List.length_singleton] at several
    omega
  | list rows fits noEnd few =>
    obtain ⟨header, -⟩ := List.forall_mem_cons.mp all
    have begins : ascii "OK|" <+: ascii "OK|" ++ decimal rows.length := List.prefix_append _ _
    refine .list _ rows (List.forall_mem_cons.mpr ⟨header, fits⟩) ?_ known
      (decodeMessage_word header.printable (by decide) begins)
    rw [List.mem_cons, not_or]
    refine ⟨fun same => ?_, noEnd⟩
    rw [← same] at begins
    exact absurd begins (by decide)

/-- A reply of one line is no alert. -/
theorem ReplyShape.not_alert {lines : List Bytes} (shape : ReplyShape lines)
    (one : lines.length ≤ 1) : ∀ line ∈ lines, isAlertLine line = false := by
  cases shape with
  | single line fits starts =>
    intro line' member
    rw [List.mem_singleton.mp member]
    rcases starts with ok | err
    · exact not_isAlertLine_of_begins ok (by decide) (by decide)
    · exact not_isAlertLine_of_begins err (by decide) (by decide)
  | list rows fits noEnd few =>
    simp only [List.length_cons, List.length_append, List.length_nil] at one
    omega

theorem not_alert_replyList {n : Nat} {rows : List Bytes}
    (all : ∀ row ∈ rows, isAlertLine row = false) :
    ∀ line ∈ replyList n rows, isAlertLine line = false := by
  intro line member
  rw [replyList, List.mem_append, List.mem_append] at member
  rcases member with (header | row) | last
  · rw [mem_sendTextLine header]
    have begins : ascii "OK|" <+: listHeader n :=
      prefix_snprintf (List.prefix_append _ _) (by decide)
    exact not_isAlertLine_of_begins begins (by decide) (by decide)
  · obtain ⟨row, listed, sent⟩ := List.mem_flatMap.mp row
    exact mem_sendTextLine sent ▸ all row listed
  · rw [mem_sendTextLine last]
    decide

theorem not_alert_alertRow (alert : Alert) : isAlertLine (alertRow alert) = false := by
  rw [← Bool.not_eq_true, isAlertLine_iff]
  intro begins
  have chars := formatInt_chars alert.timestamp
  cases text : formatInt alert.timestamp with
  | nil => exact formatInt_ne_nil _ text
  | cons c rest =>
    obtain ⟨more, same⟩ := begins.trans (List.take_prefix _ _)
    rw [text] at same
    have c_eq : 65 = c := (List.cons.inj same).1
    rcases chars c (text ▸ List.mem_cons_self) with minus | digit
    · exact absurd (c_eq.trans minus) (by decide)
    · exact absurd (c_eq ▸ digit) (by decide)

section Replies

variable {s : ServerState} {fd : ClientFd} {readings : TimeReadings} {line : Bytes}
  {result : CommandResult}

/-- The command lists a node whose identifier begins its row like an alert. -/
def ListsAlertNode (s : ServerState) (line : Bytes) : Prop :=
  (∃ node ∈ registeredNodes s.registry.toRegistrySnapshot, node.nodeId = ascii "ALERT") ∧
    (parseMessage line = some ⟨ascii "GET_NODES", []⟩ ∨
      parseMessage line = some ⟨ascii "STATS", []⟩ ∨
      parseMessage line = some ⟨ascii "STATS", [ascii "ALERT"]⟩)

/-- A row that reads as an alert is that of the node. -/
theorem exists_alertNode (h : s.Shown) {print : TelemetryNode → Bytes} {nodes : List TelemetryNode}
    (listed : nodes ⊆ registeredNodes s.registry.toRegistrySnapshot)
    (prints : ∀ node : TelemetryNode, isValidSession node.session = true → ∃ rest, Printable rest ∧
      print node = snprintf maxLine (node.nodeId ++ ascii "|" ++ rest))
    {row : Bytes} (member : row ∈ nodes.map print) (alert : isAlertLine row = true) :
    ∃ node ∈ nodes, node.nodeId = ascii "ALERT" := by
  obtain ⟨node, within, rfl⟩ := List.mem_map.mp member
  obtain ⟨i, used, rfl⟩ := mem_registeredNodes.mp (listed within)
  obtain ⟨rest, -, same⟩ := prints _ (h.wellFormed.session_valid i used)
  rw [same] at alert
  exact ⟨_, within, eq_alert_of_isAlertLine (h.wellFormed.nodeId_valid i used) alert⟩

theorem calls_length_le (call : Option ErrorCode × Registry) (ok : Bytes) :
    (s.calls call ok).reply.length ≤ 1 := by
  unfold ServerState.calls
  cases call.1 <;> exact sendTextLine_length_le _

/-- The answers to a message of the command: one line, or a list. -/
theorem Handled.kind (handled : Handled s fd readings.val line result) (h : s.Shown)
    (named : ∀ message, parseMessage line = some message → message.command = command) :
    (result.reply.length ≤ 1 ∧ isListCommand command = false) ∨
      (∃ code, result.reply = replyError code) ∨
      (isListCommand command = true ∧ ∃ n rows, result.reply = replyList n rows ∧
        (¬ ListsAlertNode s line → ∀ row ∈ rows, isAlertLine row = false)) := by
  have kind {name : Bytes} {args : List Bytes} {known : Bool}
      (message : parseMessage line = some ⟨name, args⟩) (is : isListCommand name = known) :
      isListCommand command = known := by
    rw [← named _ message]
    exact is
  cases handled with
  | refused code => exact .inr (.inl ⟨code, rfl⟩)
  | bye message =>
    exact .inl ⟨sendTextLine_length_le (ascii "OK|BYE"), kind message (by decide)⟩
  | status message => exact .inl ⟨sendTextLine_length_le _, kind message (by decide)⟩
  | nodes message =>
    refine .inr (.inr ⟨kind message (by decide), _, _, rfl, fun other row member => ?_⟩)
    rw [← Bool.not_eq_true]
    intro alert
    exact other ⟨exists_alertNode h (List.Subset.refl _) (fun node _ => nodeRow_eq node _) member
      alert, .inl message⟩
  | alerts message =>
    refine .inr (.inr ⟨kind message (by decide), _, _, rfl, fun _ row member => ?_⟩)
    obtain ⟨alert, -, rfl⟩ := List.mem_map.mp member
    exact not_alert_alertRow alert
  | stats message =>
    refine .inr (.inr ⟨kind message (by decide), _, _, rfl, fun other row member => ?_⟩)
    rw [← Bool.not_eq_true]
    intro alert
    exact other ⟨exists_alertNode h (List.Subset.refl _) (fun _ session => statsRow_eq session)
      member alert, .inr (.inl message)⟩
  | statsOf id message =>
    cases found : snapshotFindNode s.registry.toRegistrySnapshot id.val with
    | none => exact .inr (.inl ⟨_, by rw [ServerState.answers, replyStats, found]⟩)
    | some node =>
      refine .inr (.inr ⟨kind message (by decide), _, _, by
        rw [ServerState.answers, replyStats, found], fun other row member => ?_⟩)
      rw [← Bool.not_eq_true]
      intro alert
      obtain ⟨node, listed, named⟩ := exists_alertNode h List.filter_sublist.subset
        (fun _ session => statsRow_eq session) member alert
      obtain ⟨listed, same⟩ := List.mem_filter.mp listed
      rw [of_decide_eq_true same, named] at message
      exact other ⟨⟨node, listed, named⟩, .inr (.inr message)⟩
  | last id message =>
    refine .inl ⟨?_, kind message (by decide)⟩
    show (replyLastMeasurement s.registry id.val).length ≤ 1
    unfold replyLastMeasurement
    split <;> exact sendTextLine_length_le _
  | subscribe message =>
    refine .inl ⟨?_, kind message (by decide)⟩
    dsimp only
    split <;> exact sendTextLine_length_le _
  | hello id session message => exact .inl ⟨calls_length_le _ _, kind message (by decide)⟩
  | report id session c final values message =>
    exact .inl ⟨calls_length_le _ _, kind message (by decide)⟩

theorem Handled.isReplyTo (handled : Handled s fd readings.val line result) (h : s.Shown)
    (named : ∀ message, parseMessage line = some message → message.command = command) :
    IsReplyTo command result.reply := by
  have shape := handled.replyShape h
  rcases handled.kind h named with ⟨one, other⟩ | ⟨code, error⟩ | ⟨known, n, rows, list, -⟩
  · exact shape.single_to one other
  · exact error ▸ isReplyTo_error code
  · exact shape.list_to (list ▸ two_le_replyList n rows) known

theorem Handled.not_alert (handled : Handled s fd readings.val line result) (h : s.Shown)
    (other : ¬ ListsAlertNode s line) : ∀ l ∈ result.reply, isAlertLine l = false := by
  have shape := handled.replyShape h
  obtain ⟨command, named⟩ : ∃ command, ∀ message, parseMessage line = some message →
      message.command = command := by
    cases parseMessage line with
    | none => exact ⟨[], fun _ none => nomatch none⟩
    | some message => exact ⟨message.command, fun _ same => by rw [Option.some.inj same]⟩
  rcases handled.kind h named with ⟨one, -⟩ | ⟨code, error⟩ | ⟨-, n, rows, list, quiet⟩
  · exact shape.not_alert one
  · obtain ⟨text, single, -⟩ := replyError_eq code
    exact shape.not_alert (error ▸ single ▸ le_rfl)
  · exact list ▸ not_alert_replyList (quiet other)

end Replies

/-! ## The frame of a command -/

/-- The line of a command that is encoded. -/
structure IsCommandLine (command : Bytes) (fields : List Bytes) (frame : Bytes) : Prop where
  joined : frame = joinFields (command :: fields)
  valid : ∀ part ∈ command :: fields, IsField part
  short : frame.length ≤ 1023
  lineFeed : lineFeed ∉ frame
  carriageReturn : carriageReturn ∉ frame

theorem not_mem_joinFields {mark : UInt8} (other : mark ≠ fieldSeparator) {parts : List Bytes}
    (clean : ∀ part ∈ parts, mark ∉ part) : mark ∉ joinFields parts := by
  cases parts with
  | nil => exact List.not_mem_nil
  | cons part parts =>
    induction parts generalizing part with
    | nil => simpa using clean part List.mem_cons_self
    | cons next parts ih =>
      obtain ⟨this, others⟩ := List.forall_mem_cons.mp clean
      rw [joinFields_cons_cons, List.mem_append, List.mem_cons, not_or, not_or]
      exact ⟨this, other, ih next others⟩

theorem encodeMessage_line {command : Bytes} {fields : List Bytes} {bytes : Bytes}
    (encoded : encodeMessage command fields = some bytes) :
    ∃ frame, bytes = frame ++ [lineFeed] ∧ IsCommandLine command fields frame := by
  unfold encodeMessage at encoded
  split at encoded
  · cases encoded
  · next parts =>
    split at encoded
    · cases encoded
    · next short =>
      split at encoded
      · cases encoded
      · cases encoded
        have clean : ∀ part ∈ command :: fields, ∀ mark ∈ forbiddenBytes, mark ∉ part := by
          intro part member mark forbidden within
          exact parts ⟨part, member, .inr ⟨mark, within, forbidden⟩⟩
        refine ⟨_, rfl, rfl, fun part member => ⟨fun empty => ?_, ?_⟩, ?_, ?_, ?_⟩
        · exact parts ⟨part, member, .inl empty⟩
        · exact clean part member _ (by decide)
        · have limit : maxLine = 1024 := rfl
          omega
        · exact not_mem_joinFields (by decide) fun part member => clean part member _ (by decide)
        · exact not_mem_joinFields (by decide) fun part member => clean part member _ (by decide)

theorem isCommandLine_of_encoded {command : Bytes} {fields : List Bytes} {frame : Bytes}
    (encoded : encodeMessage command fields = some (frame ++ [lineFeed])) :
    IsCommandLine command fields frame := by
  obtain ⟨frame', same, line⟩ := encodeMessage_line encoded
  obtain rfl : frame = frame' := List.append_cancel_right same
  exact line

/-- What the server makes of the frame: the line, or a refusal. -/
theorem IsCommandLine.lineOf {command : Bytes} {fields : List Bytes} {frame : Bytes}
    (line : IsCommandLine command fields frame) :
    lineOf frame = .line frame ∨ lineOf frame = .invalid := by
  have whole : withoutReturn frame = frame := by
    unfold withoutReturn
    rw [if_neg fun last => line.carriageReturn (List.mem_of_getLast? last)]
  rw [lineOf_eq line.lineFeed, if_neg (not_lt.mpr line.short), whole]
  split
  · exact .inl rfl
  · exact .inr rfl

theorem IsCommandLine.named {command : Bytes} {fields : List Bytes} {frame : Bytes}
    (line : IsCommandLine command fields frame) {message : ParsedMessage}
    (parsed : parseMessage frame = some message) : message.command = command := by
  have parts := (splitOn_of_parseMessage parsed).1
  rw [line.joined, joinFields, List.splitOn_intercalate fieldSeparator
    (fun part member => (line.valid part member).2) (List.cons_ne_nil _ _)] at parts
  exact (List.cons.inj parts).1.symm

section Frames

variable {s : ServerState} (h : s.Shown) (fd : ClientFd) (readings : TimeReadings) {frame : Bytes}

include h

/-- The reply to a command is one that `request` reads to its end. -/
theorem isReplyTo_serveLine {command : Bytes} {fields : List Bytes}
    (line : IsCommandLine command fields frame) :
    IsReplyTo command (serveLine s fd readings.val (lineOf frame)).reply := by
  rcases line.lineOf with same | same
  · rw [same]
    exact (handleCommand_handled s fd readings.val frame).isReplyTo h fun _ => line.named
  · rw [same]
    exact isReplyTo_error .badFormat

/-- No line of a reply reads as an alert, unless the command lists the node. -/
theorem not_alert_serveLine {command : Bytes} {fields : List Bytes}
    (line : IsCommandLine command fields frame) (other : ¬ ListsAlertNode s frame) :
    ∀ l ∈ (serveLine s fd readings.val (lineOf frame)).reply, isAlertLine l = false := by
  rcases line.lineOf with same | same
  · rw [same]
    exact (handleCommand_handled s fd readings.val frame).not_alert h other
  · rw [same]
    obtain ⟨text, single, -⟩ := replyError_eq .badFormat
    exact (replyShape_error .badFormat).not_alert (single ▸ le_rfl)

end Frames

end Telep
