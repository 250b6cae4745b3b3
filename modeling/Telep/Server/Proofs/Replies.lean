import Telep.Server.Proofs.ReplyText
import Telep.Server.Proofs.Streams

/-!
# One reply for each frame

A connection is answered frame by frame: what its client sent is what the blocks of replies
answer, followed by what was not received yet (`Answering`), and a thread that sends and receives
without failures gets to the end of it (`finishes`).
-/

namespace Telep

/-! ## Frames that arrive -/

/-- What `receive_text_line` makes of a frame. -/
def lineOf (frame : Bytes) : ReceivedLine :=
  match receiveTextLine (frame ++ [lineFeed]) maxLine with
  | some (line, _) => line
  | none => .invalid

/-- The result depends on the bytes before the line feed alone. -/
theorem receiveLoop_frame {capacity : Nat} {buffer frame : Bytes} {invalid overflow : Bool}
    (clean : lineFeed ∉ frame) :
    ∃ line, ∀ rest, receiveLoop capacity buffer invalid overflow (frame ++ lineFeed :: rest) =
      some (line, rest) := by
  induction frame generalizing buffer invalid overflow with
  | nil =>
    simp only [List.nil_append, receiveLoop, if_true]
    split_ifs <;> exact ⟨_, fun _ => rfl⟩
  | cons byte frame ih =>
    have other : byte ≠ lineFeed := fun same => clean (same ▸ List.mem_cons_self)
    have rest := fun h => clean (List.mem_cons_of_mem byte h)
    simp only [List.cons_append, receiveLoop, if_neg other]
    split
    · exact ih rest
    · exact ih rest

theorem receiveLoop_partial {capacity : Nat} {buffer bytes : Bytes} {invalid overflow : Bool}
    (clean : lineFeed ∉ bytes) : receiveLoop capacity buffer invalid overflow bytes = none := by
  induction bytes generalizing buffer invalid overflow with
  | nil => rfl
  | cons byte bytes ih =>
    have other : byte ≠ lineFeed := fun same => clean (same ▸ List.mem_cons_self)
    have rest := fun h => clean (List.mem_cons_of_mem byte h)
    simp only [receiveLoop, if_neg other]
    split
    · exact ih rest
    · exact ih rest

theorem receiveTextLine_frame {frame : Bytes} (clean : lineFeed ∉ frame) (rest : Bytes) :
    receiveTextLine (frame ++ lineFeed :: rest) maxLine = some (lineOf frame, rest) := by
  obtain ⟨line, reads⟩ : ∃ line, ∀ rest,
      receiveLoop maxLine [] false false (frame ++ lineFeed :: rest) = some (line, rest) :=
    receiveLoop_frame clean
  have alone : lineOf frame = line := by
    rw [lineOf, receiveTextLine, reads []]
  rw [receiveTextLine, reads, alone]

/-- A line is received when a whole frame is there. -/
theorem receiveTextLine_eq_some {bytes rest : Bytes} {line : ReceivedLine}
    (reads : receiveTextLine bytes maxLine = some (line, rest)) :
    lineFeed ∉ bytes.takeWhile (· ≠ lineFeed) ∧
      bytes = bytes.takeWhile (· ≠ lineFeed) ++ lineFeed :: rest ∧
      line = lineOf (bytes.takeWhile (· ≠ lineFeed)) := by
  rcases first_mark lineFeed bytes with ⟨clean, -⟩ | ⟨more, -, split⟩
  · rw [receiveTextLine, receiveLoop_partial clean] at reads
    cases reads
  · have clean := not_mem_takeWhile lineFeed bytes
    have whole := receiveTextLine_frame clean more
    rw [← split, reads] at whole
    obtain ⟨rfl, rfl⟩ := Prod.mk.inj (Option.some.inj whole)
    exact ⟨clean, split, rfl⟩

/-- The loop gives a line back for bytes that fit, are printable and have no carriage return but
the last one. -/
theorem receiveLoop_line {capacity : Nat} {buffer frame rest rest' text : Bytes}
    {invalid overflow : Bool} (clean : lineFeed ∉ frame) (room : buffer.length < capacity)
    (reads : receiveLoop capacity buffer invalid overflow (frame ++ lineFeed :: rest) =
      some (.line text, rest')) :
    invalid = false ∧ overflow = false ∧ buffer.length + frame.length < capacity ∧
      ∀ c ∈ frame, c = carriageReturn ∨ (32 ≤ c ∧ c ≤ 126) := by
  induction frame generalizing buffer invalid overflow with
  | nil =>
    simp only [List.nil_append, receiveLoop, if_true] at reads
    generalize (if buffer.getLast? = some carriageReturn then buffer.dropLast else buffer) = line
      at reads
    split_ifs at reads with over_long malformed
    · simp at reads
    · simp at reads
    · rw [not_or, Bool.not_eq_true] at malformed
      exact ⟨malformed.1, Bool.eq_false_of_not_eq_true over_long, by simpa using room, by simp⟩
  | cons byte frame ih =>
    have other : byte ≠ lineFeed := fun same => clean (same ▸ List.mem_cons_self)
    have rest_clean := fun h => clean (List.mem_cons_of_mem byte h)
    simp only [List.cons_append, receiveLoop, if_neg other] at reads
    split at reads
    · next fits =>
      obtain ⟨valid, short, length, all⟩ := ih rest_clean (by simpa using fits) reads
      rw [Bool.or_eq_false_iff] at valid
      refine ⟨valid.1, short, by simp at length ⊢; omega, ?_⟩
      intro c member
      rcases List.mem_cons.mp member with rfl | member
      · have this := valid.2
        simp only [Bool.and_eq_false_iff, bne_eq_false_iff_eq, Bool.or_eq_false_iff,
          decide_eq_false_iff_not, UInt8.not_lt] at this
        exact this
      · exact all c member
    · obtain ⟨-, bad, -, -⟩ := ih rest_clean room reads
      cases bad

/-- A frame that is received as a line is short and printable. -/
theorem lineOf_line {frame text : Bytes} (clean : lineFeed ∉ frame)
    (line : lineOf frame = .line text) :
    frame.length < maxLine ∧ ∀ c ∈ frame, c = carriageReturn ∨ (32 ≤ c ∧ c ≤ 126) := by
  have reads := receiveTextLine_frame clean []
  rw [line, receiveTextLine] at reads
  obtain ⟨-, -, length, all⟩ := receiveLoop_line clean (by decide) reads
  exact ⟨by simpa using length, all⟩

/-- Whether a frame is a message. -/
def isMessage (frame : Bytes) : Bool :=
  match lineOf frame with
  | .line text => (parseMessage text).isSome
  | _ => false

/-- A frame that does not fit or has bytes that are not printable is no message. -/
theorem isMessage_fits {frame : Bytes} (clean : lineFeed ∉ frame)
    (message : isMessage frame = true) :
    frame.length < maxLine ∧ ∀ c ∈ frame, c = carriageReturn ∨ (32 ≤ c ∧ c ≤ 126) := by
  unfold isMessage at message
  cases line : lineOf frame with
  | line text => exact lineOf_line clean line
  | overflow => simp [line] at message
  | invalid => simp [line] at message

/-- What is no message is refused, in every state alike. -/
theorem serveLine_refused {frame : Bytes} (refused : isMessage frame = false) :
    ∃ code, ∀ (s : ServerState) (fd : ClientFd) (readings : Readings),
      serveLine s fd readings (lineOf frame) = s.answers (replyError code) := by
  unfold isMessage at refused
  cases line : lineOf frame with
  | line text =>
    simp only [line, Option.isSome_eq_false_iff, Option.isNone_iff_eq_none] at refused
    refine ⟨.badFormat, ?_⟩
    intro s fd readings
    rw [serveLine, handleCommand, refused]
  | overflow => exact ⟨.tooLong, fun _ _ _ => rfl⟩
  | invalid => exact ⟨.badFormat, fun _ _ _ => rfl⟩

/-- Whether a frame is the message `BYE`. -/
def isBye (frame : Bytes) : Bool :=
  match lineOf frame with
  | .line text => decide (parseMessage text = some ⟨ascii "BYE", []⟩)
  | _ => false

/-- The reply to `BYE` is the last one. -/
theorem serveLine_closes (s : ServerState) (fd : ClientFd) (readings : Readings) (frame : Bytes) :
    (serveLine s fd readings (lineOf frame)).closes = isBye frame := by
  unfold isBye
  cases lineOf frame with
  | line text =>
    have handled := handleCommand_handled s fd readings text
    change (handleCommand s fd readings text).closes = decide _
    by_cases bye : parseMessage text = some ⟨ascii "BYE", []⟩
    · rw [decide_eq_true bye, handleCommand_bye bye]
    · rw [decide_eq_false bye]
      cases closes : (handleCommand s fd readings text).closes with
      | false => rfl
      | true => exact absurd (handled.bye_of_closes closes).1 bye
  | overflow => rfl
  | invalid => rfl

/-! ## The frames that a connection answers -/

/-- The frame that a block answers. -/
def Block.frame : Block → List Bytes
  | .alert _ => []
  | .reply frame _ => [frame]

/-- The frames that a thread has answered, in order. -/
def ClientThread.answered (t : ClientThread) : List Bytes := t.blocks.flatMap Block.frame

theorem answered_produce (t : ClientThread) (block : Block) (point : ServePoint) :
    ClientThread.answered { t with point := point, blocks := t.blocks ++ [block] } =
      t.answered ++ block.frame := by
  simp [ClientThread.answered]

/-- Whether the thread sends the reply after which it leaves its loop. -/
def ServePoint.isClosing : ServePoint → Bool
  | .replying closes _ _ => closes
  | _ => false

/-- Whether the thread has left its loop, or does so after the reply that it sends. -/
def ServePoint.isOver : ServePoint → Bool
  | .replying closes _ _ => closes
  | .ending => true
  | .removed => true
  | .closed => true
  | _ => false

theorem Moves.goesOn {event : OwnerEvent} {point point' : ServePoint}
    (moves : Moves event point point') : point.isOver = false ∧ point'.isClosing = false := by
  cases moves <;> exact ⟨rfl, rfl⟩

theorem nextReply_closes (closes : Bool) (lines : List Bytes) :
    (nextReply closes lines).isOver = closes ∧
      ((nextReply closes lines).isClosing = true → closes = true) := by
  cases lines with
  | nil => cases closes <;> exact ⟨rfl, nofun⟩
  | cons line lines => exact ⟨rfl, id⟩

/-- A round of `send_full_buffer` does not change whether the reply is the last one. -/
theorem ServePoint.sending_closes {point : ServePoint} {buffer : Bytes}
    {after : Option Bytes → ServePoint} (h : point.sending = some (buffer, after))
    (rest : Option Bytes) : (point.isOver = true → (after rest).isOver = true) ∧
      ((after rest).isClosing = true → point.isClosing = true) := by
  cases point with
  | pushing rounds buffer =>
    cases h
    refine ⟨nofun, ?_⟩
    match rest with
    | none => exact nofun
    | some [] => exact nofun
    | some (_ :: _) => exact nofun
  | replying closes buffer lines =>
    cases h
    have next := nextReply_closes closes lines
    match rest with
    | none => exact ⟨next.1.trans, next.2⟩
    | some [] => exact ⟨next.1.trans, next.2⟩
    | some (_ :: _) => exact ⟨id, id⟩
  | _ => cases h

namespace ServerThreads

/-- What a client sent is what its thread answered, followed by what was not received; a `BYE` is
answered last. -/
structure Answering (s : ServerThreads) (c : Nat) (t : ClientThread) : Prop where
  read : frames lineFeed t.answered ++ (s.sockets c).incoming = s.arrived c
  clean : ∀ frame ∈ t.answered, lineFeed ∉ frame
  bye : ∀ frame ∈ t.answered, isBye frame = true → t.point.isOver = true
  closing : t.point.isClosing = true → ∃ frame ∈ t.answered, isBye frame = true

section Steps

variable {strtod : Bytes → StrtodResult} {startedAt bootId : Long} {s s' : ServerThreads} {c : Nat}
  {t t' : ClientThread} {event : OwnerEvent}

/-- A step in which the thread receives nothing. -/
theorem Answering.goesOn (h : s.Answering c t) (answered : t'.answered = t.answered)
    (incoming : (s'.sockets c).incoming = (s.sockets c).incoming)
    (arrived : s'.arrived = s.arrived) (gone : t.point.isOver = true → t'.point.isOver = true)
    (closing : t'.point.isClosing = true → t.point.isClosing = true) : s'.Answering c t' where
  read := by rw [answered, incoming, arrived, h.read]
  clean := answered ▸ h.clean
  bye frame member bye := gone (h.bye frame (answered ▸ member) bye)
  closing closes := answered ▸ h.closing (closing closes)

theorem OwnerEffect.answering (effect : OwnerEffect s c t event s') (linked : s.Linked)
    (thread : s.threads c = some t) (thread' : s'.threads c = some t') (h : s.Answering c t) :
    s'.Answering c t' := by
  have becomes {u : ClientThread} (new : s'.threads c = some u) : t' = u :=
    Option.some.inj (thread'.symm.trans new)
  have arrived := effect.unrecorded.2.2
  cases effect with
  | move point moves =>
    obtain rfl := becomes (Function.update_self _ _ _)
    refine h.goesOn rfl rfl arrived ?_ ?_
    · intro gone
      rw [moves.goesOn.1] at gone
      cases gone
    · intro closes
      rw [moves.goesOn.2] at closes
      cases closes
  | close idle =>
    obtain rfl := becomes (Function.update_self _ _ _)
    refine h.goesOn rfl rfl arrived (fun _ => rfl) ?_
    intro closing
    cases closing
  | drained rounds at_round line subscribers effect point stops =>
    obtain rfl := becomes (Function.update_self _ _ _)
    refine h.goesOn rfl rfl arrived ?_ ?_
    · intro gone
      rw [at_round] at gone
      cases gone
    · intro closing
      rcases stops with ⟨-, rfl⟩ | ⟨-, rfl⟩ <;> cases closing
  | pushed rounds at_round line subscribers effect nonempty short =>
    obtain rfl := becomes (Function.update_self _ _ _)
    refine h.goesOn ((answered_produce t _ _).trans (List.append_nil _)) rfl arrived ?_ ?_
    · intro gone
      rw [at_round] at gone
      cases gone
    · intro closing
      cases closing
  | sent count d buffer after sending descriptor up count_pos count_le =>
    obtain rfl := becomes (Function.update_self _ _ _)
    obtain rfl : c = d := Option.some.inj ((linked.owns c t thread
      (ServePoint.ne_closed (ServePoint.sending_serves sending).1)).symm.trans descriptor)
    have closes := ServePoint.sending_closes sending (some (buffer.drop count))
    refine h.goesOn rfl ?_ arrived closes.1 closes.2
    simp [moveTo, ServerThreads.setThread, ServerThreads.setSocket]
  | again buffer after sending =>
    obtain rfl := becomes (Function.update_self _ _ _)
    have closes := ServePoint.sending_closes sending (some buffer)
    exact h.goesOn rfl rfl arrived closes.1 closes.2
  | failed buffer after sending =>
    obtain rfl := becomes (Function.update_self _ _ _)
    have descriptor := linked.owns c t thread
      (ServePoint.ne_closed (ServePoint.sending_serves sending).1)
    have closes := ServePoint.sending_closes sending none
    refine h.goesOn rfl ?_ arrived closes.1 closes.2
    simp [moveTo, ServerThreads.setThread, ServerThreads.shutdown, descriptor,
      ServerThreads.setSocket]
  | received readings d line rest waits descriptor reads result serves =>
    obtain rfl := becomes (Function.update_self _ _ _)
    obtain rfl : c = d := Option.some.inj ((linked.owns c t thread
      (by simp [waits])).symm.trans descriptor)
    obtain ⟨clean, split, rfl⟩ := receiveTextLine_eq_some reads
    have closes := serveLine_closes s.toServerState t.fd readings.val
      ((s.sockets c).incoming.takeWhile (· ≠ lineFeed))
    rw [serves] at closes
    have next := nextReply_closes result.closes result.reply
    -- a thread that waits has answered no `BYE`
    have talks : ∀ frame ∈ t.answered, isBye frame = false := by
      intro frame member
      have gone := h.bye frame member
      rw [waits] at gone
      cases bye : isBye frame with
      | false => rfl
      | true => cases gone bye
    refine ⟨?_, ?_, ?_, ?_⟩
    · rw [show ClientThread.answered _ = _ from answered_produce t _ _, arrived, ← h.read]
      conv_rhs => rw [split]
      simp [Block.frame, frames_append, produce, ServerThreads.setThread, ServerThreads.sharing,
        ServerThreads.setSocket]
    · rw [show ClientThread.answered _ = _ from answered_produce t _ _]
      intro frame member
      rcases List.mem_append.mp member with old | new
      · exact h.clean frame old
      · exact List.mem_singleton.mp new ▸ clean
    · rw [show ClientThread.answered _ = _ from answered_produce t _ _]
      intro frame member bye
      rcases List.mem_append.mp member with old | new
      · rw [talks frame old] at bye
        cases bye
      · rw [List.mem_singleton.mp new, ← closes] at bye
        exact next.1.trans bye
    · intro closing
      rw [show ClientThread.answered _ = _ from answered_produce t _ _]
      exact ⟨_, List.mem_append_right _ List.mem_cons_self, closes.symm.trans (next.2 closing)⟩
  | removed ends =>
    obtain rfl := becomes (Function.update_self _ _ _)
    refine h.goesOn rfl rfl arrived (fun _ => rfl) ?_
    intro closing
    cases closing

/-- Every connection of every run. -/
theorem answering_reachable (h : (threadsMachine strtod startedAt bootId).Reachable s)
    (thread : s.threads c = some t) : s.Answering c t := by
  refine connections_reachable ?_ ?_ h thread
  · intro s c t new
    refine ⟨?_, ?_, ?_, ?_⟩
    · rw [new.socket, new.arrived, ClientThread.answered, new.blocks]
      rfl
    · simp [ClientThread.answered, new.blocks]
    · simp [ClientThread.answered, new.blocks]
    · simp [new.point, ServePoint.isClosing]
  · intro s s' event c t t' reachable thread thread' step answering
    have linked := linked_reachable reachable
    rcases step_view linked thread step with ⟨owner, -, effect⟩ | bystander
    · exact effect.answering linked thread thread' answering
    · obtain rfl : t = t' := Option.some.inj (bystander.thread.symm.trans thread')
      obtain ⟨bytes, incoming, arrived⟩ := bystander.arrives
      exact ⟨by rw [incoming, arrived, ← List.append_assoc, answering.read], answering.clean,
        answering.bye, answering.closing⟩

/-! ## What the blocks contain -/

/-- A thread keeps its descriptor, and produces an alert or the reply to a frame. -/
theorem OwnerEffect.produces (effect : OwnerEffect s c t event s')
    (thread' : s'.threads c = some t') : t'.fd = t.fd ∧ (t'.blocks = t.blocks ∨
      (∃ line, t'.blocks = t.blocks ++ [.alert line]) ∨
      ∃ frame, ∃ readings : TimeReadings, t'.blocks = t.blocks ++
        [.reply frame (serveLine s.toServerState t.fd readings.val (lineOf frame)).reply]) := by
  have becomes {u : ClientThread} (new : s'.threads c = some u) : t' = u :=
    Option.some.inj (thread'.symm.trans new)
  cases effect with
  | pushed rounds at_round line subscribers effect nonempty short =>
    obtain rfl := becomes (Function.update_self _ _ _)
    exact ⟨rfl, .inr (.inl ⟨line, rfl⟩)⟩
  | received readings d line rest waits descriptor reads result serves =>
    obtain rfl := becomes (Function.update_self _ _ _)
    obtain ⟨-, -, rfl⟩ := receiveTextLine_eq_some reads
    exact ⟨rfl, .inr (.inr ⟨_, readings, by rw [serves]⟩)⟩
  | _ =>
    obtain rfl := becomes (Function.update_self _ _ _)
    exact ⟨rfl, .inl rfl⟩

/-- The replies are those of the server to the frames, each in the state in which it was
received. -/
theorem replies_reachable (h : (threadsMachine strtod startedAt bootId).Reachable s)
    (thread : s.threads c = some t) :
    ∀ frame lines, .reply frame lines ∈ t.blocks → ∃ before, ∃ readings : TimeReadings,
      (threadsMachine strtod startedAt bootId).Reachable before ∧
        lines = (serveLine before.toServerState t.fd readings.val (lineOf frame)).reply := by
  refine connections_reachable (P := fun _ _ t => ∀ frame lines, .reply frame lines ∈ t.blocks →
    ∃ before, ∃ readings : TimeReadings, (threadsMachine strtod startedAt bootId).Reachable before ∧
      lines = (serveLine before.toServerState t.fd readings.val (lineOf frame)).reply)
    ?_ ?_ h thread
  · intro s c t new frame lines member
    rw [new.blocks] at member
    cases member
  · intro s s' event c t t' reachable thread thread' step origin frame lines member
    rcases step_view (linked_reachable reachable) thread step with ⟨owner, -, effect⟩ | bystander
    · obtain ⟨fd, same | ⟨line, more⟩ | ⟨frame', readings, more⟩⟩ := effect.produces thread'
      · rw [fd]
        exact origin frame lines (same ▸ member)
      · rw [more, List.mem_append, List.mem_singleton] at member
        rw [fd]
        rcases member with old | new
        · exact origin frame lines old
        · cases new
      · rw [more, List.mem_append, List.mem_singleton] at member
        rw [fd]
        rcases member with old | new
        · exact origin frame lines old
        · cases new
          exact ⟨s, readings, reachable, rfl⟩
    · obtain rfl : t = t' := Option.some.inj (bystander.thread.symm.trans thread')
      exact origin frame lines member

/-- The alerts are those that the UDP thread broadcast. -/
theorem pushed_reachable (h : (threadsMachine strtod startedAt bootId).Reachable s)
    (thread : s.threads c = some t) {line : Bytes} (member : .alert line ∈ t.blocks) :
    ∃ alert ∈ s.broadcasted, line = formatAlert alert := by
  have queued := (queued_reachable h).2
  apply queued.alerts c line
  apply (queued.sublist c t thread).subset
  exact List.mem_append_left _ (List.mem_flatMap.mpr ⟨_, member, List.mem_singleton_self line⟩)

/-- Every block is a reply of the right shape or one line, and its lines fit in a frame. -/
theorem blocks_reachable (h : (threadsMachine strtod startedAt bootId).Reachable s)
    (thread : s.threads c = some t) : ∀ block ∈ t.blocks,
      (∃ alert ∈ s.broadcasted, block = .alert (formatAlert alert)) ∨
      ∃ frame lines, block = .reply frame lines ∧ ReplyShape lines ∧
        (isMessage frame = false → ∃ code, lines = replyError code) := by
  intro block member
  cases block with
  | alert line =>
    obtain ⟨alert, known, rfl⟩ := pushed_reachable h thread member
    exact .inl ⟨alert, known, rfl⟩
  | reply frame lines =>
    obtain ⟨before, readings, reachable, rfl⟩ := replies_reachable h thread frame lines member
    have shape := replyShape_serveLine (shown_reachable reachable) t.fd readings (lineOf frame)
    refine .inr ⟨frame, _, rfl, shape, ?_⟩
    intro refused
    obtain ⟨code, serves⟩ := serveLine_refused refused
    exact ⟨code, by rw [serves]; rfl⟩

end Steps

end ServerThreads

end Telep
