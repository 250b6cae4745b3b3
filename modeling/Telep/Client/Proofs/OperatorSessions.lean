import Telep.Client.OperatorSession
import Telep.Client.Proofs.Requests

/-!
# Replies and alerts apart

Nothing that the server wrote is lost or read twice (`Tracked`), and while every command is sent
when no reply is outstanding, the lines that were not read are alerts, around the reply to the
command under way (`InStep`). So every list that `request` returns is the reply to its command, and
the alerts are those that were pushed (`replies_apart`, `returned_in_step`).
-/

namespace Telep

/-! ## Streams that grow -/

namespace TelepConnection

variable {c c' : TelepConnection} {chunks left : List Bytes} {more : Bytes} {texts : List Bytes}

theorem Unread.write (unread : Unread c [] more texts) {lines : List Bytes}
    (fits : ∀ line ∈ lines, IsReplyLine line) :
    Unread c [] (more ++ frames lineFeed lines) (texts ++ lines) where
  stream := by
    have stream := unread.stream
    rw [List.flatten_nil, List.nil_append] at stream ⊢
    rw [frames_append, ← stream, List.append_assoc]
  lines := List.forall_mem_append.mpr ⟨unread.lines, fits⟩
  nonempty := List.not_mem_nil

/-- The chunks of a call come from the bytes that are on their way. -/
theorem Unread.receiving (unread : Unread c [] more texts) (nonempty : [] ∉ chunks)
    (first : chunks.flatten <+: more) :
    Unread c chunks (more.drop chunks.flatten.length) texts where
  stream := by
    rw [List.prefix_iff_eq_append.mp first]
    exact unread.stream
  lines := unread.lines
  nonempty := nonempty

theorem Unread.received (unread : Unread c' left more texts) :
    Unread c' [] (left.flatten ++ more) texts :=
  ⟨unread.stream, unread.lines, List.not_mem_nil⟩

end TelepConnection

namespace OperatorSession

variable {s : OperatorSession}

/-! ## The reply to a command -/

/-- The list is the reply that the server wrote for the command. -/
def Right (s : OperatorSession) (entry : Nat × List (List Bytes)) : Prop :=
  ∃ frame lines, s.asked[entry.1]? = some frame ∧ s.replies[entry.1]? = some (frame, lines) ∧
    entry.2 = shownLines lines

theorem getElem?_of_prefix {α : Type} {xs ys : List α} (begins : xs <+: ys) {i : Nat} {x : α}
    (found : xs[i]? = some x) : ys[i]? = some x := by
  obtain ⟨more, rfl⟩ := begins
  obtain ⟨within, -⟩ := List.getElem?_eq_some_iff.mp found
  rw [List.getElem?_append_left within, found]

/-- Later commands and replies change nothing. -/
theorem Right.later {s' : OperatorSession} {entry : Nat × List (List Bytes)} (right : s.Right entry)
    (asked : s.asked <+: s'.asked) (replies : s.replies <+: s'.replies) : s'.Right entry := by
  obtain ⟨frame, lines, sent, reply, list⟩ := right
  exact ⟨frame, lines, getElem?_of_prefix asked sent, getElem?_of_prefix replies reply, list⟩

/-! ## What is read and what is not -/

/-- What was read and what was not are the lines that were written, and nothing was lost. -/
structure Tracked (s : OperatorSession) (done left : List (Bytes × Bool)) : Prop where
  written : s.written = done ++ left
  marks : ∀ entry ∈ s.written, isAlertLine entry.1 = entry.2
  extracted : s.connection.extracted = done.map Prod.fst
  alerts : s.taken ++ s.connection.pendingAlerts =
    ((done.filter Prod.snd).map Prod.fst).map decodeMessage
  unread : s.connection.Unread [] s.inFlight (left.map Prod.fst)
  asked : s.replies.map Prod.fst ++ s.unanswered = s.asked
  commands : ∀ frame ∈ s.unanswered, ∃ command fields,
    encodeMessage command fields = some (frame ++ [lineFeed])

/-- Where the command under way is. -/
inductive Progress (s : OperatorSession) (left : List (Bytes × Bool)) : Prop
  | idle (asking : s.asking = none)
  | sent (command : Bytes) (fields : List Bytes) (frame : Bytes) (asking : s.asking = some command)
      (line : IsCommandLine command fields frame) (unanswered : s.unanswered = [frame])
      (alerts : ∀ entry ∈ left, entry.2 = true)
  | answered (command frame : Bytes) (lines : List Bytes) (before after : List (Bytes × Bool))
      (asking : s.asking = some command) (unanswered : s.unanswered = [])
      (kind : IsReplyTo command lines) (last : s.replies.getLast? = some (frame, lines))
      (split : left = before ++ (lines.map (fun line => (line, false)) ++ after))
      (alerts : ∀ entry ∈ before ++ after, entry.2 = true)

/-- A session whose commands were sent while no reply was outstanding. -/
structure InStep (s : OperatorSession) (done left : List (Bytes × Bool)) : Prop
    extends s.Tracked done left where
  progress : s.Progress left

theorem map_fst_marked (lines : List Bytes) :
    (lines.map fun line => (line, false)).map Prod.fst = lines := by
  rw [List.map_map]
  exact List.map_id lines

@[simp] theorem written_write (block : Block) :
    (s.write block).written = s.written ++ block.marked := by
  simp [written, write]

@[simp] theorem replies_push (line : Bytes) : (s.write (.alert line)).replies = s.replies := by
  simp [replies, write]

@[simp] theorem replies_answer (frame : Bytes) (lines : List Bytes) :
    (s.write (.reply frame lines)).replies = s.replies ++ [(frame, lines)] := by
  simp [replies, write]

section Steps

variable {done left : List (Bytes × Bool)}

theorem Tracked.isSettled_iff (h : s.Tracked done left) :
    s.isSettled = true ↔ s.unanswered = [] ∧ ∀ entry ∈ left, entry.2 = true := by
  have length : s.connection.extracted.length = done.length := by
    rw [h.extracted, List.length_map]
  rw [isSettled, decide_eq_true_eq, length, h.written, List.drop_left, List.all_eq_true]

theorem Tracked.mark (h : s.Tracked done left) {entry : Bytes × Bool} (member : entry ∈ left) :
    isAlertLine entry.1 = entry.2 :=
  h.marks entry (h.written ▸ List.mem_append_right _ member)

/-- The marks tell which of the lines that were not read are alerts. -/
theorem Tracked.isAlertLine (h : s.Tracked done left) {entries : List (Bytes × Bool)}
    (within : entries ⊆ left) (alerts : ∀ entry ∈ entries, entry.2 = true) :
    ∀ push ∈ entries.map Prod.fst, isAlertLine push = true := by
  intro push member
  obtain ⟨entry, listed, rfl⟩ := List.mem_map.mp member
  exact (h.mark (within listed)).trans (alerts entry listed)

theorem Tracked.filter_alerts (h : s.Tracked done left) {entries : List (Bytes × Bool)}
    (within : entries ⊆ left) : (entries.map Prod.fst).filter Telep.isAlertLine =
      (entries.filter Prod.snd).map Prod.fst := by
  rw [List.filter_map]
  refine congrArg (List.map Prod.fst) (List.filter_congr fun entry member => ?_)
  exact h.mark (within member)

/-- The server sends an alert. -/
theorem Tracked.push (h : s.Tracked done left) {line : Bytes} (fits : IsReplyLine line)
    (alert : Telep.isAlertLine line = true) :
    (s.write (.alert line)).Tracked done (left ++ [(line, true)]) where
  written := by rw [written_write, h.written, List.append_assoc]; rfl
  marks := by
    rw [written_write]
    exact List.forall_mem_append.mpr ⟨h.marks, List.forall_mem_singleton.mpr alert⟩
  extracted := h.extracted
  alerts := h.alerts
  unread := by
    rw [List.map_append]
    exact h.unread.write (List.forall_mem_singleton.mpr fits)
  asked := by
    rw [replies_push]
    exact h.asked
  commands := h.commands

theorem InStep.push (h : s.InStep done left) {line : Bytes} (fits : IsReplyLine line)
    (alert : Telep.isAlertLine line = true) :
    (s.write (.alert line)).InStep done (left ++ [(line, true)]) := by
  refine ⟨h.toTracked.push fits alert, ?_⟩
  have one : ∀ entry ∈ [(line, true)], entry.2 = true := List.forall_mem_singleton.mpr rfl
  cases h.progress with
  | idle asking => exact .idle asking
  | sent command fields frame asking line unanswered alerts =>
    exact .sent command fields frame asking line unanswered
      (List.forall_mem_append.mpr ⟨alerts, one⟩)
  | answered command frame lines before after asking unanswered kind last split alerts =>
    refine .answered command frame lines before (after ++ [(line, true)]) asking unanswered kind
      ((replies_push line).symm ▸ last) (by rw [split]; simp) ?_
    rw [← List.append_assoc]
    exact List.forall_mem_append.mpr ⟨alerts, one⟩

/-- The server writes the reply to the oldest command. -/
theorem Tracked.reply (h : s.Tracked done left) {frame : Bytes} {unanswered lines : List Bytes}
    (oldest : s.unanswered = frame :: unanswered) (shape : ReplyShape lines)
    (plain : ∀ line ∈ lines, Telep.isAlertLine line = false) :
    (({ s with unanswered := unanswered } : OperatorSession).write
      (.reply frame lines)).Tracked done (left ++ lines.map fun line => (line, false)) where
  written := by
    rw [written_write, ← List.append_assoc]
    exact congrArg (· ++ _) h.written
  marks := by
    rw [written_write]
    refine List.forall_mem_append.mpr ⟨h.marks, fun entry member => ?_⟩
    obtain ⟨line, listed, rfl⟩ := List.mem_map.mp member
    exact plain line listed
  extracted := h.extracted
  alerts := h.alerts
  unread := by
    rw [List.map_append, map_fst_marked]
    exact h.unread.write shape.fits
  asked := by
    have asked := h.asked
    rw [oldest] at asked
    rw [replies_answer, List.map_append, List.append_assoc]
    exact asked
  commands frame' member :=
    h.commands frame' (oldest ▸ List.mem_cons_of_mem _ member)

/-- The server answers the oldest command, if there is one. -/
theorem InStep.answer (h : s.InStep done left) {state : ServerState} (shown : state.Shown)
    (fd : ClientFd) (readings : TimeReadings)
    (apart : ∀ frame, s.unanswered.head? = some frame → ¬ ListsAlertNode state frame) :
    ∃ left', (s.answer state fd readings.val).InStep done left' := by
  cases oldest : s.unanswered with
  | nil =>
    rw [OperatorSession.answer, oldest]
    exact ⟨left, h⟩
  | cons frame unanswered =>
    obtain ⟨_, _, encoded⟩ := h.commands frame (oldest ▸ List.mem_cons_self)
    have plain := not_alert_serveLine shown fd readings (isCommandLine_of_encoded encoded)
      (apart frame (by rw [oldest]; rfl))
    have tracked := h.reply oldest (replyShape_serveLine shown fd readings (lineOf frame)) plain
    rw [OperatorSession.answer, oldest]
    refine ⟨_, tracked, ?_⟩
    cases h.progress with
    | idle asking => exact .idle asking
    | answered _ _ _ _ _ _ none => exact absurd (none.symm.trans oldest) (by simp)
    | sent command fields frame' asking line one alerts =>
      obtain ⟨rfl, rfl⟩ := List.cons.inj (one.symm.trans oldest)
      refine .answered command frame' _ left [] asking rfl
        (isReplyTo_serveLine shown fd readings line) ?_ (by rw [List.append_nil]) ?_
      · rw [replies_answer, List.getLast?_concat]
      · rwa [List.append_nil]

/-- A command is sent while no reply is outstanding. -/
theorem InStep.send (h : s.InStep done left) (command : Bytes) (fields : List Bytes)
    (settled : s.asking = none → (encodeMessage command fields).isSome → s.isSettled = true) :
    (s.send command fields).InStep done left := by
  unfold OperatorSession.send
  split
  · next bytes asking encoded =>
    obtain ⟨unanswered, alerts⟩ := h.isSettled_iff.mp
      (settled asking (Option.isSome_of_eq_some encoded))
    obtain ⟨frame, rfl, line⟩ := encodeMessage_line encoded
    rw [List.dropLast_concat]
    refine ⟨⟨h.written, h.marks, h.extracted, h.alerts, h.unread, ?_, ?_⟩, ?_⟩
    · rw [← h.asked, List.append_assoc]
      rfl
    · intro frame' member
      rcases List.mem_append.mp member with old | new
      · exact h.commands frame' old
      · exact ⟨command, fields, List.mem_singleton.mp new ▸ encoded⟩
    · exact .sent command fields frame rfl line (by rw [unanswered]; rfl) alerts
  · exact h

/-- A reply that was written is the one to the last command. -/
theorem Tracked.right (h : s.Tracked done left) (unanswered : s.unanswered = []) {frame : Bytes}
    {lines : List Bytes} (last : s.replies.getLast? = some (frame, lines)) :
    s.Right (s.asked.length - 1, shownLines lines) := by
  have asked := h.asked
  rw [unanswered, List.append_nil] at asked
  have length : s.asked.length = s.replies.length := by rw [← asked, List.length_map]
  rw [List.getLast?_eq_getElem?] at last
  refine ⟨frame, lines, ?_, length ▸ last, rfl⟩
  rw [length, ← asked, List.getElem?_map, last, Option.map_some]

/-- The client takes some of the lines and keeps the alerts among them. -/
theorem Tracked.receives (h : s.Tracked done left) {c : TelepConnection}
    {chunks rest read texts : List Bytes} {taken : List (List Bytes)}
    (split : left.map Prod.fst = read ++ texts)
    (unread : c.Unread rest (s.inFlight.drop chunks.flatten.length) texts)
    (extracted : c.extracted = s.connection.extracted ++ read)
    (alerts : taken ++ c.pendingAlerts = s.taken ++ (s.connection.pendingAlerts ++
      (read.filter Telep.isAlertLine).map decodeMessage)) :
    ∃ entries left', left = entries ++ left' ∧ read = entries.map Prod.fst ∧
      ∀ asking failed returned, ({ s.received c chunks rest with
        asking := asking, failed := failed, returned := returned,
        taken := taken } : OperatorSession).Tracked (done ++ entries) left' := by
  obtain ⟨entries, left', rfl, rfl, rfl⟩ := List.map_eq_append_iff.mp split
  refine ⟨entries, left', rfl, rfl, fun asking failed returned =>
    ⟨?_, h.marks, ?_, ?_, unread.received, h.asked, h.commands⟩⟩
  · rw [List.append_assoc]
    exact h.written
  · rw [List.map_append, ← h.extracted]
    exact extracted
  · refine alerts.trans ?_
    rw [List.filter_append, List.map_append, List.map_append, ← h.alerts, List.append_assoc,
      h.filter_alerts (List.subset_append_left _ _)]

section Calls

variable {chunks : List Bytes} (can : s.canReceive chunks = true)

include can

theorem Tracked.receiving (h : s.Tracked done left) :
    s.connection.Unread chunks (s.inFlight.drop chunks.flatten.length) (left.map Prod.fst) := by
  rw [canReceive, decide_eq_true_eq] at can
  exact h.unread.receiving can.1 can.2

/-- A request that does not get its reply. -/
theorem InStep.read_fails (h : s.InStep done left) {command : Bytes}
    (asking : s.asking = some command) {failure : ReadFailure}
    (fails : (s.connection.request command chunks).1 = .error failure) :
    (s.read chunks).failed = true ∧ (s.read chunks).returned = s.returned ∧
      ∃ done' left', (s.read chunks).InStep done' left' := by
  have unread := h.receiving can
  rcases request : s.connection.request command chunks with ⟨result, c, rest⟩
  rw [request] at fails
  subst fails
  obtain ⟨read, texts, split, consumes, rest_unread⟩ :=
    TelepConnection.request_takes unread request
  obtain ⟨-, -, -, same⟩ := unread.consumes consumes
  have extracted := consumes.extracted
  have pending := consumes.pending
  rw [same] at extracted pending
  obtain ⟨entries, left', -, -, tracked⟩ := h.receives split rest_unread extracted
    (congrArg (s.taken ++ ·) pending)
  have outcome : s.read chunks =
      { s.received c chunks rest with asking := none, failed := true } := by
    simp only [OperatorSession.read, asking, if_pos can, request]
  rw [outcome]
  exact ⟨rfl, rfl, _, _, tracked none true s.returned, .idle rfl⟩

/-- The rest of `request`: the reply, or the deadline. -/
theorem InStep.read (h : s.InStep done left) {command : Bytes} (asking : s.asking = some command) :
    (∃ done' left', (s.read chunks).InStep done' left') ∧
      (((s.read chunks).failed = true ∧ (s.read chunks).returned = s.returned ∧
          (s.connection.request command chunks).1 = .error .timeout) ∨
        ∃ entry, (s.read chunks).failed = s.failed ∧ (s.read chunks).isSettled = true ∧
          (s.read chunks).returned = s.returned ++ [entry] ∧ s.Right entry) := by
  have unread := h.receiving can
  rcases request : s.connection.request command chunks with ⟨result, c, rest⟩
  cases h.progress with
  | idle asking' => exact absurd (asking'.symm.trans asking) (Option.some_ne_none _).symm
  | sent _ fields frame _ line unanswered alerts =>
    obtain rfl := TelepConnection.request_waits unread
      (h.isAlertLine (List.Subset.refl _) alerts) request
    obtain ⟨failed, returned, tracked⟩ := h.read_fails can asking (congrArg Prod.fst request)
    exact ⟨tracked, .inl ⟨failed, returned, rfl⟩⟩
  | answered command' frame lines before after asking' unanswered kind last split alerts =>
    obtain rfl : command = command' := Option.some.inj (asking.symm.trans asking')
    obtain ⟨before_alerts, after_alerts⟩ := List.forall_mem_append.mp alerts
    have texts : left.map Prod.fst = before.map Prod.fst ++ (lines ++ after.map Prod.fst) := by
      rw [split, List.map_append, List.map_append, map_fst_marked]
    have before_left : before ⊆ left := split ▸ List.subset_append_left _ _
    have plain : ∀ line ∈ lines, Telep.isAlertLine line = false := by
      intro line member
      have listed : (line, false) ∈ left := by
        rw [split]
        exact List.mem_append_right _ (List.mem_append_left _ (List.mem_map_of_mem member))
      exact h.mark listed
    have whole := unread
    rw [texts] at whole
    rcases TelepConnection.request_reply whole (h.isAlertLine before_left before_alerts) kind plain
      request with ⟨rfl, consumes, rest_unread⟩ | ⟨rfl, -⟩
    · obtain ⟨-, -, -, same⟩ := whole.consumes consumes
      have extracted := consumes.extracted
      have pending := consumes.pending
      rw [same] at extracted pending
      obtain ⟨entries, left', rfl, taken, tracked⟩ := h.receives
        (by rw [texts, List.append_assoc]) rest_unread extracted (congrArg (s.taken ++ ·) pending)
      obtain rfl : left' = after := by
        rw [← List.append_assoc] at split
        refine (List.append_inj' split ?_).2
        have length := congrArg List.length texts
        have length' := congrArg List.length taken
        simp only [List.length_map, List.length_append] at length length'
        omega
      have outcome : s.read chunks = { s.received c chunks rest with
          asking := none
          returned := s.returned ++ [(s.asked.length - 1, shownLines lines)] } := by
        simp only [OperatorSession.read, asking, if_pos can, request]
      have tracked := tracked none s.failed (s.returned ++ [(s.asked.length - 1, shownLines lines)])
      rw [outcome]
      refine ⟨⟨_, _, tracked, .idle rfl⟩, .inr ⟨_, rfl, ?_, rfl, h.right unanswered last⟩⟩
      exact tracked.isSettled_iff.mpr ⟨unanswered, after_alerts⟩
    · obtain ⟨failed, returned, tracked⟩ := h.read_fails can asking (congrArg Prod.fst request)
      exact ⟨tracked, .inl ⟨failed, returned, rfl⟩⟩

/-- `take_alerts` between two requests: it fails only at the line of an outstanding reply. -/
theorem InStep.take (h : s.InStep done left) (idle : s.asking = none) :
    (∃ done' left', (s.take chunks).InStep done' left') ∧
      (s.isSettled = true → (s.take chunks).failed = s.failed ∧
        (s.take chunks).isSettled = true) := by
  have unread := h.receiving can
  rcases takes : s.connection.takeAlerts chunks with ⟨result, c, rest⟩
  obtain ⟨read, texts, split, rest_unread, extracted, outcome⟩ :=
    TelepConnection.takeAlerts_takes unread takes
  rcases outcome with ⟨rfl, emptied⟩ | ⟨rfl, ⟨text, member, other⟩, pending⟩
  · have given : s.taken ++ (s.connection.pendingAlerts ++
        (read.filter Telep.isAlertLine).map decodeMessage) ++ c.pendingAlerts =
        s.taken ++ (s.connection.pendingAlerts ++
          (read.filter Telep.isAlertLine).map decodeMessage) := by
      rw [emptied, List.append_nil]
    obtain ⟨entries, left', rfl, -, tracked⟩ := h.receives split rest_unread extracted given
    have tracked := tracked s.asking s.failed s.returned
    have outcome : s.take chunks = { s.received c chunks rest with
        taken := s.taken ++ (s.connection.pendingAlerts ++
          (read.filter Telep.isAlertLine).map decodeMessage) } := by
      simp only [OperatorSession.take, idle, can, and_self, if_true, takes]
    rw [outcome]
    refine ⟨⟨_, _, tracked, .idle idle⟩, fun settled => ⟨rfl, tracked.isSettled_iff.mpr ?_⟩⟩
    obtain ⟨unanswered, alerts⟩ := h.isSettled_iff.mp settled
    exact ⟨unanswered, fun entry member => alerts entry (List.mem_append_right _ member)⟩
  · obtain ⟨entries, left', rfl, rfl, tracked⟩ := h.receives split rest_unread extracted
      (congrArg (s.taken ++ ·) pending)
    have outcome : s.take chunks = { s.received c chunks rest with failed := true } := by
      simp only [OperatorSession.take, idle, can, and_self, if_true, takes]
    rw [outcome]
    refine ⟨⟨_, _, tracked s.asking true s.returned, .idle idle⟩, fun settled => ?_⟩
    obtain ⟨-, alerts⟩ := h.isSettled_iff.mp settled
    have alert := h.isAlertLine (List.subset_append_left entries left')
      (fun entry member => alerts entry (List.mem_append_left _ member)) text member
    exact absurd (other.symm.trans alert) Bool.false_ne_true

end Calls

end Steps

/-! ## Runs -/

/-- What holds in a run whose commands are sent while no reply is outstanding. -/
structure Kept (s : OperatorSession) : Prop where
  right : ∀ entry ∈ s.returned, s.Right entry
  inStep : ∃ done left, s.InStep done left
  calm : s.failed = false → s.asking = none → s.isSettled = true

theorem answer_fields (state : ServerState) (fd : ClientFd) (readings : Readings) :
    let s' := s.answer state fd readings
    s'.asked = s.asked ∧ s'.asking = s.asking ∧ s'.failed = s.failed ∧ s'.returned = s.returned ∧
      s.replies <+: s'.replies := by
  unfold answer
  split
  · exact ⟨rfl, rfl, rfl, rfl, List.prefix_rfl⟩
  · refine ⟨rfl, rfl, rfl, rfl, ?_⟩
    rw [replies_answer]
    exact List.prefix_append _ _

theorem send_fields (command : Bytes) (fields : List Bytes) :
    let s' := s.send command fields
    s.asked <+: s'.asked ∧ s'.failed = s.failed ∧ s'.returned = s.returned ∧
      s'.replies = s.replies := by
  unfold send
  split
  · exact ⟨List.prefix_append _ _, rfl, rfl, rfl⟩
  · exact ⟨List.prefix_rfl, rfl, rfl, rfl⟩

theorem read_fields (chunks : List Bytes) :
    (s.read chunks).asked = s.asked ∧ (s.read chunks).replies = s.replies := by
  unfold OperatorSession.read
  split
  · exact ⟨rfl, rfl⟩
  · split
    · split <;> exact ⟨rfl, rfl⟩
    · exact ⟨rfl, rfl⟩

theorem take_fields (chunks : List Bytes) :
    (s.take chunks).asked = s.asked ∧ (s.take chunks).replies = s.replies ∧
      (s.take chunks).asking = s.asking ∧ (s.take chunks).returned = s.returned ∧
      (s.failed = true → (s.take chunks).failed = true) := by
  unfold OperatorSession.take
  split
  · split
    · exact ⟨rfl, rfl, rfl, rfl, id⟩
    · exact ⟨rfl, rfl, rfl, rfl, fun _ => rfl⟩
  · exact ⟨rfl, rfl, rfl, rfl, id⟩

/-- What was returned stays right. -/
theorem Kept.right_later (h : s.Kept) {s' : OperatorSession} (asked : s.asked <+: s'.asked)
    (replies : s.replies <+: s'.replies) (returned : s'.returned = s.returned) :
    ∀ entry ∈ s'.returned, s'.Right entry := by
  intro entry member
  exact (h.right entry (returned ▸ member)).later asked replies

section Events

variable {strtod : Bytes → StrtodResult} {startedAt bootId : Long}

/-- The server does not list a node whose row reads as an alert. -/
def AnswersApart (s : OperatorSession) : SessionEvent strtod startedAt bootId → Prop
  | .answer state _ => ∀ frame, s.unanswered.head? = some frame →
      ¬ ListsAlertNode state.val.toServerState frame
  | _ => True

/-- No command is sent while a reply is outstanding. -/
def SendsInStep (s : OperatorSession) : SessionEvent strtod startedAt bootId → Prop
  | .send command fields =>
      s.asking = none → (encodeMessage command fields).isSome → s.isSettled = true
  | _ => True

/-- The reply arrives before the deadline. -/
def ReadsInTime (s : OperatorSession) : SessionEvent strtod startedAt bootId → Prop
  | .read chunks => ∀ command, s.asking = some command → s.canReceive chunks = true →
      (s.connection.request command chunks).1 ≠ .error .timeout
  | _ => True

theorem formatAlert_isAlertLine (alert : Alert) : isAlertLine (formatAlert alert) = true := by
  rw [isAlertLine_iff]
  refine prefix_snprintf ?_ (by decide)
  simp only [List.append_assoc]
  exact List.prefix_append _ _

theorem raisedAlert_fits (alert : RaisedAlert strtod startedAt bootId) :
    IsReplyLine (formatAlert alert.val) := by
  obtain ⟨alert, state, reachable, raised⟩ := alert
  exact ⟨formatAlert_printable (ServerThreads.raised_shown reachable alert raised),
    snprintf_length_lt (by decide)⟩

variable {fd : ClientFd}

/-- As long as no call failed, no reply is outstanding when a command is sent. -/
theorem Kept.sendsInStep (h : s.Kept) {event : SessionEvent strtod startedAt bootId}
    (fine : ∀ command fields, event = .send command fields → s.failed = false) :
    s.SendsInStep event := by
  cases event with
  | send command fields => exact fun idle _ => h.calm (fine command fields rfl) idle
  | _ => trivial

/-- One event. -/
theorem Kept.next (h : s.Kept) {event : SessionEvent strtod startedAt bootId}
    (apart : s.AnswersApart event) (sends : s.SendsInStep event) :
    (s.next strtod startedAt bootId fd event).Kept := by
  obtain ⟨done, left, inStep⟩ := h.inStep
  cases event with
  | push alert =>
    have alert_line := formatAlert_isAlertLine alert.val
    have inStep' := inStep.push (raisedAlert_fits alert) alert_line
    refine ⟨h.right_later List.prefix_rfl ?_ rfl, ⟨done, _, inStep'⟩, fun fine idle => ?_⟩
    · show s.replies <+: (s.write _).replies
      rw [replies_push]
    · obtain ⟨unanswered, alerts⟩ := inStep.isSettled_iff.mp (h.calm fine idle)
      refine inStep'.isSettled_iff.mpr ⟨unanswered, List.forall_mem_append.mpr ⟨alerts, ?_⟩⟩
      exact List.forall_mem_singleton.mpr rfl
  | answer state readings =>
    obtain ⟨asked, asking, failed, returned, replies⟩ :=
      s.answer_fields state.val.toServerState fd readings.val
    have shown := ServerThreads.shown_reachable state.property
    refine ⟨h.right_later (asked ▸ List.prefix_rfl) replies returned,
      ⟨done, inStep.answer shown fd readings apart⟩, fun fine idle => ?_⟩
    have settled := h.calm (failed.symm.trans fine) (asking.symm.trans idle)
    have same : s.answer state.val.toServerState fd readings.val = s := by
      rw [OperatorSession.answer, (inStep.isSettled_iff.mp settled).1]
    show (s.answer state.val.toServerState fd readings.val).isSettled = true
    rwa [same]
  | send command fields =>
    obtain ⟨asked, failed, returned, replies⟩ := s.send_fields command fields
    refine ⟨h.right_later asked (replies ▸ List.prefix_rfl) returned,
      ⟨done, left, inStep.send command fields sends⟩, fun fine idle => ?_⟩
    have quiet : (s.send command fields).asking = none := idle
    have same : s.send command fields = s := by
      unfold OperatorSession.send at quiet ⊢
      split at quiet
      · cases quiet
      · rfl
    show (s.send command fields).isSettled = true
    rw [same] at quiet ⊢
    exact h.calm (failed.symm.trans fine) quiet
  | read chunks =>
    show (s.read chunks).Kept
    obtain ⟨asked, replies⟩ := s.read_fields chunks
    cases asking : s.asking with
    | none =>
      rw [OperatorSession.read, asking]
      exact h
    | some command =>
      by_cases can : s.canReceive chunks = true
      · obtain ⟨inStep', outcome⟩ := inStep.read can asking
        rcases outcome with ⟨bad, returned, -⟩ | ⟨entry, same, settled, returned, right⟩
        · exact ⟨h.right_later (asked ▸ List.prefix_rfl) (replies ▸ List.prefix_rfl) returned,
            inStep', fun fine => absurd (bad.symm.trans fine) Bool.true_eq_false.mp⟩
        · refine ⟨fun entry' member => ?_, inStep', fun _ _ => settled⟩
          rw [returned, List.mem_append, List.mem_singleton] at member
          have right' : s.Right entry' := by
            rcases member with old | rfl
            · exact h.right entry' old
            · exact right
          exact right'.later (asked ▸ List.prefix_rfl) (replies ▸ List.prefix_rfl)
      · rw [OperatorSession.read, asking]
        dsimp only
        rw [if_neg can]
        exact h
  | take chunks =>
    show (s.take chunks).Kept
    obtain ⟨asked, replies, asking, returned, failed⟩ := s.take_fields chunks
    by_cases both : s.asking = none ∧ s.canReceive chunks = true
    · obtain ⟨inStep', settled'⟩ := inStep.take both.2 both.1
      refine ⟨h.right_later (asked ▸ List.prefix_rfl) (replies ▸ List.prefix_rfl) returned,
        inStep', fun fine' _ => ?_⟩
      have fine : s.failed = false := by
        rw [← Bool.not_eq_true]
        intro bad
        exact absurd ((failed bad).symm.trans fine') Bool.true_eq_false.mp
      exact (settled' (h.calm fine both.1)).2
    · rw [OperatorSession.take, if_neg both]
      exact h

theorem kept_init : (operatorMachine strtod startedAt bootId fd).init.Kept where
  right := List.forall_mem_nil _
  inStep := ⟨[], [], ⟨rfl, List.forall_mem_nil _, rfl, rfl,
    ⟨rfl, List.forall_mem_nil _, List.not_mem_nil⟩, rfl, List.forall_mem_nil _⟩, .idle rfl⟩
  calm _ _ := rfl

/-- In a run in which the replies arrive in time no call fails. -/
theorem Kept.in_time (h : s.Kept) (fine : s.failed = false)
    {event : SessionEvent strtod startedAt bootId} (inTime : s.ReadsInTime event) :
    (s.next strtod startedAt bootId fd event).failed = false := by
  obtain ⟨done, left, inStep⟩ := h.inStep
  cases event with
  | push alert => exact fine
  | answer state readings =>
    exact (s.answer_fields state.val.toServerState fd readings.val).2.2.1.trans fine
  | send command fields => exact (s.send_fields command fields).2.1.trans fine
  | read chunks =>
    show (s.read chunks).failed = false
    cases asking : s.asking with
    | none => rwa [OperatorSession.read, asking]
    | some command =>
      by_cases can : s.canReceive chunks = true
      · rcases (inStep.read can asking).2 with ⟨-, -, timeout⟩ | ⟨-, same, -⟩
        · exact absurd timeout (inTime command asking can)
        · exact same.trans fine
      · rw [OperatorSession.read, asking]
        dsimp only
        rwa [if_neg can]
  | take chunks =>
    show (s.take chunks).failed = false
    by_cases both : s.asking = none ∧ s.canReceive chunks = true
    · exact ((inStep.take both.2 both.1).2 (h.calm fine both.1)).1.trans fine
    · rwa [OperatorSession.take, if_neg both]

theorem Tracked.pushesRead_eq {done left : List (Bytes × Bool)} (h : s.Tracked done left) :
    s.pushesRead = (done.filter Prod.snd).map Prod.fst := by
  have length : s.connection.extracted.length = done.length := by
    rw [h.extracted, List.length_map]
  rw [pushesRead, length, h.written, List.take_left]

/-- In every run in which no command lists a node `ALERT` and no command is sent while a reply is
outstanding, every list that `request` returns is the reply that the server wrote for that
command. -/
theorem returned_in_step {events : List (SessionEvent strtod startedAt bootId)}
    (along : (operatorMachine strtod startedAt bootId fd).Along
      (fun s event => s.AnswersApart event ∧ s.SendsInStep event)
      (operatorMachine strtod startedAt bootId fd).init events) :
    let s := (operatorMachine strtod startedAt bootId fd).exec
      (operatorMachine strtod startedAt bootId fd).init events
    ∀ entry ∈ s.returned, s.Right entry := by
  have kept := along.exec_preserves (Q := Kept) (fun s event h fine => h.next fine.1 fine.2)
    kept_init
  exact kept.right

/-- In every run in which no command lists a node `ALERT` and every reply arrives in time, no call
fails, every list that `request` returns is the reply that the server wrote for that command, and
the alerts that `take_alerts` returned and those that are pending are the alerts that were read. -/
theorem replies_apart {events : List (SessionEvent strtod startedAt bootId)}
    (along : (operatorMachine strtod startedAt bootId fd).Along
      (fun s event => s.AnswersApart event ∧ s.ReadsInTime event)
      (operatorMachine strtod startedAt bootId fd).init events) :
    let s := (operatorMachine strtod startedAt bootId fd).exec
      (operatorMachine strtod startedAt bootId fd).init events
    s.failed = false ∧ (∀ entry ∈ s.returned, s.Right entry) ∧
      s.connection.extracted <+: s.written.map Prod.fst ∧
      s.taken ++ s.connection.pendingAlerts = s.pushesRead.map decodeMessage := by
  intro s
  obtain ⟨kept, fine⟩ : s.Kept ∧ s.failed = false := by
    refine along.exec_preserves (Q := fun s => s.Kept ∧ s.failed = false) ?_ ⟨kept_init, rfl⟩
    rintro s event ⟨kept, fine⟩ ⟨apart, inTime⟩
    exact ⟨kept.next apart (kept.sendsInStep fun _ _ _ => fine), kept.in_time fine inTime⟩
  obtain ⟨done, left, inStep⟩ := kept.inStep
  refine ⟨fine, kept.right, ?_, ?_⟩
  · rw [inStep.extracted, inStep.written, List.map_append]
    exact List.prefix_append _ _
  · rw [inStep.pushesRead_eq, inStep.alerts]

/-- A call that returns has its reply in time. -/
theorem readsInTime_of_fine {chunks : List Bytes} (fine : (s.read chunks).failed = false) :
    s.ReadsInTime (.read chunks : SessionEvent strtod startedAt bootId) := by
  intro command asking can timeout
  rcases request : s.connection.request command chunks with ⟨result, c, left⟩
  rw [request] at timeout
  subst timeout
  simp only [OperatorSession.read, asking, if_pos can, request, Bool.true_eq_false] at fine

/-- Without nodes no command lists one. -/
theorem not_listsAlertNode {state : ServerState} (none : registeredNodes
    state.registry.toRegistrySnapshot = []) (frame : Bytes) : ¬ ListsAlertNode state frame := by
  rintro ⟨⟨node, member, -⟩, -⟩
  rw [none] at member
  cases member

end Events

/-! ## Runs in which a reply is mixed up -/

/-- A list that is not the one of the reply with its number. -/
theorem not_right {n : Nat} {list : List (List Bytes)}
    (other : s.replies[n]?.map (fun reply => shownLines reply.2) ≠ some list) :
    ¬ s.Right (n, list) := by
  rintro ⟨frame, lines, -, reply, same⟩
  rw [reply, Option.map_some] at other
  exact other (congrArg some same.symm)

open ServerThreads in
/-- A node registers itself as `ALERT`. -/
def alertNodeEvents : List ThreadEvent :=
  [.accept alarmedThread.fd, .arrive 0 (frames lineFeed [ascii "HELLO|ALERT|" ++ sessionS.val]),
    .owner 0 .start, .owner 0 .drain, .owner 0 (.receive alarmedReadings)]

open ServerThreads in
/-- The row of the node is taken for an alert. -/
theorem alert_node_row_lost :
    let M := threadsMachine strtodDigits ⟨7, by decide⟩ ⟨1, by decide⟩
    let server : ReachableServer strtodDigits ⟨7, by decide⟩ ⟨1, by decide⟩ :=
      ⟨M.exec M.init alertNodeEvents, alertNodeEvents, rfl⟩
    let operator := operatorMachine strtodDigits ⟨7, by decide⟩ ⟨1, by decide⟩ alarmedThread.fd
    let reply := [ascii "OK|1", ascii "ALERT|INACTIVE|-1", ascii "END"]
    let s := operator.exec operator.init [.send (ascii "GET_NODES") [],
      .answer server alarmedReadings, .read [frames lineFeed reply]]
    s.failed = false ∧ s.replies = [(ascii "GET_NODES", reply)] ∧
      s.returned = [(0, [[ascii "OK", ascii "1"]])] ∧
      s.connection.pendingAlerts = [[ascii "ALERT", ascii "INACTIVE", ascii "-1"]] ∧
      s.pushesRead = [] ∧ ¬ ∀ entry ∈ s.returned, s.Right entry := by
  intro M server operator reply s
  have run : s.failed = false ∧ s.replies = [(ascii "GET_NODES", reply)] ∧
      s.returned = [(0, [[ascii "OK", ascii "1"]])] ∧
      s.connection.pendingAlerts = [[ascii "ALERT", ascii "INACTIVE", ascii "-1"]] ∧
      s.pushesRead = [] := by
    decide +kernel
  obtain ⟨fine, replies, returned, pending, read⟩ := run
  refine ⟨fine, replies, returned, pending, read, fun all => ?_⟩
  rw [returned, List.forall_mem_singleton] at all
  refine not_right ?_ all
  rw [replies]
  decide +kernel

open ServerThreads in
/-- After a timeout the next command gets the reply to the one before. -/
theorem stale_reply_returned :
    let M := threadsMachine strtodDigits ⟨7, by decide⟩ ⟨1, by decide⟩
    let server : ReachableServer strtodDigits ⟨7, by decide⟩ ⟨1, by decide⟩ := ⟨M.init, [], rfl⟩
    let operator := operatorMachine strtodDigits ⟨7, by decide⟩ ⟨1, by decide⟩ alarmedThread.fd
    let s := operator.exec operator.init [.send (ascii "GET_LAST") [ascii "N"], .read [], .take [],
      .send (ascii "GET_STATUS") [], .answer server alarmedReadings, .answer server alarmedReadings,
      .read [frames lineFeed [ascii "ERR|102|UNKNOWN_NODE"]]]
    s.asked = [ascii "GET_LAST|N", ascii "GET_STATUS"] ∧
      s.returned = [(1, [[ascii "ERR", ascii "102", ascii "UNKNOWN_NODE"]])] ∧
      ¬ ∀ entry ∈ s.returned, s.Right entry := by
  intro M server operator s
  have run : s.asked = [ascii "GET_LAST|N", ascii "GET_STATUS"] ∧
      s.returned = [(1, [[ascii "ERR", ascii "102", ascii "UNKNOWN_NODE"]])] ∧
      s.replies[1]?.map (fun reply => shownLines reply.2) ≠
        some [[ascii "ERR", ascii "102", ascii "UNKNOWN_NODE"]] := by
    decide +kernel
  obtain ⟨asked, returned, other⟩ := run
  refine ⟨asked, returned, fun all => ?_⟩
  rw [returned, List.forall_mem_singleton] at all
  exact not_right other all

/-! ## Runs in which nothing is mixed up -/

open ServerThreads in
/-- An alert arrives in front of a list with a row. -/
theorem replies_apart_sample :
    let M := threadsMachine strtodDigits ⟨7, by decide⟩ ⟨1, by decide⟩
    let server : ReachableServer strtodDigits ⟨7, by decide⟩ ⟨1, by decide⟩ :=
      ⟨M.exec M.init beforeSubscribe, beforeSubscribe, rfl⟩
    let alert : RaisedAlert strtodDigits ⟨7, by decide⟩ ⟨1, by decide⟩ :=
      ⟨⟨9, ascii "N", ascii "STATUS_FAIL", 0⟩, server.val, server.property, by decide +kernel⟩
    let operator := operatorMachine strtodDigits ⟨7, by decide⟩ ⟨1, by decide⟩ alarmedThread.fd
    let s := operator.exec operator.init [.send (ascii "GET_NODES") [], .push alert,
      .answer server alarmedReadings,
      .read [ascii "ALERT|N|STATUS_", ascii "FAIL|0.00\nOK|1\nN|ACT", ascii "IVE|0\nEND\n"],
      .take []]
    s.returned = [(0, [[ascii "OK", ascii "1"], [ascii "N", ascii "ACTIVE", ascii "0"]])] ∧
      s.taken = [[ascii "ALERT", ascii "N", ascii "STATUS_FAIL", ascii "0.00"]] ∧
      (∀ entry ∈ s.returned, s.Right entry) ∧
      s.taken ++ s.connection.pendingAlerts = s.pushesRead.map decodeMessage := by
  intro M server alert operator s
  have run : s.returned =
        [(0, [[ascii "OK", ascii "1"], [ascii "N", ascii "ACTIVE", ascii "0"]])] ∧
      s.taken = [[ascii "ALERT", ascii "N", ascii "STATUS_FAIL", ascii "0.00"]] := by
    decide +kernel
  have apart (frame : Bytes) : ¬ ListsAlertNode server.val.toServerState frame := by
    rintro ⟨listed, -⟩
    revert listed
    decide +kernel
  obtain ⟨-, right, -, alerts⟩ := replies_apart
    (show operator.Along (fun s event => s.AnswersApart event ∧ s.ReadsInTime event) operator.init
      [.send (ascii "GET_NODES") [], .push alert, .answer server alarmedReadings,
        .read [ascii "ALERT|N|STATUS_", ascii "FAIL|0.00\nOK|1\nN|ACT", ascii "IVE|0\nEND\n"],
        .take []] from
    ⟨⟨trivial, trivial⟩, ⟨trivial, trivial⟩, ⟨fun frame _ => apart frame, trivial⟩,
      ⟨trivial, readsInTime_of_fine (by decide +kernel)⟩, ⟨trivial, trivial⟩, trivial⟩)
  exact ⟨run.1, run.2, right, alerts⟩

open ServerThreads in
/-- A command runs out of time, its reply makes `take_alerts` fail, and the next command gets its
own reply. -/
theorem returned_in_step_sample :
    let M := threadsMachine strtodDigits ⟨7, by decide⟩ ⟨1, by decide⟩
    let server : ReachableServer strtodDigits ⟨7, by decide⟩ ⟨1, by decide⟩ := ⟨M.init, [], rfl⟩
    let operator := operatorMachine strtodDigits ⟨7, by decide⟩ ⟨1, by decide⟩ alarmedThread.fd
    let late := frames lineFeed [ascii "ERR|102|UNKNOWN_NODE"]
    let list := frames lineFeed [ascii "OK|0", ascii "END"]
    let s := operator.exec operator.init [.send (ascii "GET_LAST") [ascii "N"], .read [],
      .answer server alarmedReadings, .take [late], .send (ascii "GET_NODES") [],
      .answer server alarmedReadings, .read [list]]
    s.failed = true ∧ s.returned = [(1, [[ascii "OK", ascii "0"]])] ∧
      ∀ entry ∈ s.returned, s.Right entry := by
  intro M server operator late list s
  have run : s.failed = true ∧ s.returned = [(1, [[ascii "OK", ascii "0"]])] := by decide +kernel
  have apart : ∀ frame, ¬ ListsAlertNode server.val.toServerState frame :=
    not_listsAlertNode (by decide +kernel)
  have right := returned_in_step
    (show operator.Along (fun s event => s.AnswersApart event ∧ s.SendsInStep event) operator.init
      [.send (ascii "GET_LAST") [ascii "N"], .read [], .answer server alarmedReadings,
        .take [late], .send (ascii "GET_NODES") [], .answer server alarmedReadings,
        .read [list]] from
    ⟨⟨trivial, fun _ _ => by decide +kernel⟩, ⟨trivial, trivial⟩,
      ⟨fun frame _ => apart frame, trivial⟩, ⟨trivial, trivial⟩,
      ⟨trivial, fun _ _ => by decide +kernel⟩, ⟨fun frame _ => apart frame, trivial⟩,
      ⟨trivial, trivial⟩, trivial⟩)
  exact ⟨run.1, run.2, right⟩

end OperatorSession

end Telep
