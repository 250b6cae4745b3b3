import Telep.Server.Proofs.AlertGap
import Telep.Server.Proofs.Replies

/-!
# The threads answer

A thread that waits for a frame, or has something to send on a connection that is up, has a next
step that succeeds (`advances`), and a run of such steps answers all that its client sent
(`finishes`).
-/

namespace Telep

/-- Whether a call of the thread succeeds. -/
def OwnerEvent.Succeeds : OwnerEvent → Prop
  | .send outcome => outcome ≠ .failed
  | .refuse => False
  | .hangUp => False
  | _ => True

/-- Whether the thread is in its loop, or not yet. -/
def ServePoint.isTalking : ServePoint → Bool
  | .ending => false
  | .removed => false
  | .closed => false
  | _ => true

/-- The steps that are left at most before the thread waits. -/
def ServePoint.rank : ServePoint → Nat
  | .accepted => 2 * queueSize + 2
  | .draining rounds => 2 * rounds + 1
  | .pushing rounds _ => 2 * rounds + 2
  | .replying _ _ lines => 2 * queueSize + 3 + lines.length
  | _ => 0

/-- Where the thread goes from a point: on in its loop, or out of it after a closing reply. -/
def ServePoint.GoesTo (point point' : ServePoint) : Prop :=
  point'.isTalking = true ∨ (point' = .ending ∧ point.isClosing = true)

theorem nextReply_goesTo (closes : Bool) (rest : Bytes) (lines : List Bytes) :
    (nextReply closes lines).rank < (ServePoint.replying closes rest lines).rank ∧
      (ServePoint.replying closes rest lines).GoesTo (nextReply closes lines) := by
  cases lines with
  | nil =>
    cases closes with
    | false => exact ⟨by simp [nextReply, ServePoint.rank], .inl rfl⟩
    | true => exact ⟨by simp [nextReply, ServePoint.rank], .inr ⟨rfl, rfl⟩⟩
  | cons line lines => exact ⟨by simp [nextReply, ServePoint.rank], .inl rfl⟩

/-- The point after the last round of `send_full_buffer`. -/
theorem ServePoint.sending_goesTo {point : ServePoint} {buffer : Bytes}
    {after : Option Bytes → ServePoint} (h : point.sending = some (buffer, after)) :
    (after (some [])).rank < point.rank ∧ point.GoesTo (after (some [])) := by
  cases point with
  | pushing rounds buffer =>
    cases h
    exact ⟨Nat.lt_succ_self _, .inl rfl⟩
  | replying closes buffer lines =>
    cases h
    exact nextReply_goesTo closes buffer lines
  | _ => cases h

namespace ServerThreads

/-- The thread makes a step in which it receives nothing. -/
structure Advance (s s' : ServerThreads) (c : Nat) (t t' : ClientThread) : Prop where
  thread : s'.threads c = some t'
  answered : t'.answered = t.answered
  incoming : (s'.sockets c).incoming = (s.sockets c).incoming
  up : (s'.sockets c).isShut = (s.sockets c).isShut
  rank : t'.point.rank < t.point.rank
  goesTo : t.point.GoesTo t'.point

section Steps

variable {strtod : Bytes → StrtodResult} {startedAt bootId : Long} {s s' : ServerThreads} {c : Nat}
  {t t' : ClientThread} {event : OwnerEvent}

/-- The threads of the connections count nothing that a long run can exhaust. -/
theorem OwnerEffect.countersFit (effect : OwnerEffect s c t event s')
    (wf : s.registry.WellFormed) : s'.countersFit = s.countersFit := by
  have same {state : ServerState} (counts : state.registry.counts = s.registry.counts)
      (dropped : state.subscribers.dropped = s.subscribers.dropped) :
      (decide (state.registry.datagramsTotal ≤ longMax ∧ state.registry.datagramsInvalid ≤ longMax ∧
        state.subscribers.dropped ≤ longMax)) = s.countersFit := by
    obtain ⟨total, -, invalid⟩ := (Counts.mk.injEq _ _ _ _ _ _).mp counts
    rw [total, invalid, dropped]
    rfl
  cases effect with
  | drained rounds at_round line subscribers effect point stops =>
    exact same rfl (by cases effect <;> rfl)
  | pushed rounds at_round line subscribers effect nonempty short =>
    exact same rfl (by cases effect <;> rfl)
  | failed buffer after sending =>
    simp only [ServerThreads.countersFit, moveTo, setThread, shutdown_state]
  | received readings d line rest waits descriptor reads result serves =>
    subst serves
    have counts : (serveLine s.toServerState t.fd readings line).state.registry.counts =
        s.registry.counts := by
      rcases serveLine_registry s.toServerState t.fd readings line with same | ⟨id, session, call⟩ |
        ⟨id, session, values, final, call⟩
      · rw [same]
      · rw [call]
        exact (register_effect wf _ _).counts
      · rw [call]
        exact (report_effect _ _ _ _ _ _ _ _).counts
    have dropped : (serveLine s.toServerState t.fd readings line).state.subscribers.dropped =
        s.subscribers.dropped := by
      rcases serveLine_subscribers s.toServerState t.fd readings line with same | same
      · rw [same]
      · rw [same]
        exact (Subscribers.add_effect _ t.fd.property).dropped
    exact same counts dropped
  | _ => rfl

/-! ## One step -/

theorem step_owner (thread : s.threads c = some t) :
    s.step strtod (.owner c event) = s.ownerStep c t event := by
  simp only [ServerThreads.step, thread, Option.bind_some]

/-- The line that `subscribers_drain` takes from the queue of a thread fits in a frame. -/
theorem drainSection_short (linked : s.Linked) (queued : s.Queued) (thread : s.threads c = some t)
    (serves : t.point.serves = true) :
    (drainSection s.subscribers t.fd.val).1.length < maxLine := by
  have effect := Subscribers.drain_effect s.subscribers t.fd.val
  cases queue : s.subscribers.queueOf t.fd.val with
  | none =>
    rw [(drain_none effect t.fd.property queue).2]
    decide
  | some lines =>
    rcases (effect.queueOf linked.sound t.fd.property).1 lines queue with
      ⟨-, empty, -⟩ | ⟨rest, rfl, -⟩
    · rw [empty]
      decide
    · have sublist := queued.sublist c t thread
      rw [subscription_serves serves, queue, Option.getD_some] at sublist
      obtain ⟨alert, -, line⟩ := queued.alerts c _
        (sublist.subset (List.mem_append_right _ List.mem_cons_self))
      rw [line]
      exact formatAlert_short alert

/-- The thread moves on without touching its connection. -/
theorem Advance.move {point : ServePoint} (threads : s'.threads c = some { t with point := point })
    (socket : s'.sockets c = s.sockets c) (rank : point.rank < t.point.rank)
    (goesTo : t.point.GoesTo point) : s.Advance s' c t { t with point := point } :=
  ⟨threads, rfl, by rw [socket], by rw [socket], rank, goesTo⟩

/-- A thread that does not wait for a frame has a step that succeeds. -/
theorem advances (linked : s.Linked) (queued : s.Queued) (thread : s.threads c = some t)
    (up : (s.sockets c).isShut = false) (talks : t.point.isTalking = true)
    (moving : t.point ≠ .waiting) :
    ∃ owner s' t', owner.Succeeds ∧ s.ownerStep c t owner = some s' ∧ s.Advance s' c t t' := by
  have sends {buffer : Bytes} {after : Option Bytes → ServePoint}
      (sending : t.point.sending = some (buffer, after)) :
      ∃ owner s' t', owner.Succeeds ∧ s.ownerStep c t owner = some s' ∧ s.Advance s' c t t' := by
    obtain ⟨rank, goesTo⟩ := ServePoint.sending_goesTo sending
    have descriptor := linked.owns c t thread
      (ServePoint.ne_closed (ServePoint.sending_serves sending).1)
    by_cases empty : buffer = []
    · subst empty
      refine ⟨.send .again, s.moveTo c t (after (some [])), _, ?_, ?_,
        .move (Function.update_self _ _ _) rfl rank goesTo⟩
      · intro failed
        cases failed
      · simp [ownerStep, sending, sendRound]
    · refine ⟨.send (.taken buffer.length), (s.setSocket c { s.sockets c with
          wire := (s.sockets c).wire ++ buffer }).moveTo c t (after (some [])),
        { t with point := after (some []) }, ?_, ?_, ?_⟩
      · intro failed
        cases failed
      · have pos := List.length_pos_iff.mpr empty
        simp [ownerStep, sending, sendRound, descriptor, up, pos]
      · refine ⟨Function.update_self _ _ _, rfl, ?_, ?_, rank, goesTo⟩ <;>
          simp [moveTo, setThread, setSocket]
  cases point : t.point with
  | accepted =>
    refine ⟨.start, s.moveTo c t (.draining queueSize), _, trivial, if_pos point,
      .move (Function.update_self _ _ _) rfl ?_ (.inl rfl)⟩
    rw [point]
    exact Nat.lt_succ_self _
  | draining rounds =>
    cases rounds with
    | zero =>
      refine ⟨.drain, s.moveTo c t .waiting, _, trivial, ?_,
        .move (Function.update_self _ _ _) rfl ?_ (.inl rfl)⟩
      · simp only [ownerStep, point]
      · rw [point]
        exact Nat.zero_lt_one
    | succ rounds =>
      have short := drainSection_short linked queued thread (by rw [point]; rfl)
      have step : s.ownerStep c t .drain = some (s.drainRound c t rounds) := by
        simp only [ownerStep, point]
      refine ⟨.drain, s.drainRound c t rounds, ?_⟩
      unfold drainRound at step ⊢
      generalize drainSection s.subscribers t.fd.val = result at short step ⊢
      obtain ⟨line, subscribers⟩ := result
      dsimp only at short step ⊢
      by_cases empty : line = []
      · rw [if_pos empty] at step ⊢
        refine ⟨_, trivial, step, .move (Function.update_self _ _ _) rfl ?_ (.inl rfl)⟩
        rw [point]
        exact Nat.succ_pos _
      · rw [if_neg empty, if_neg (not_le.mpr short)] at step ⊢
        refine ⟨_, trivial, step, Function.update_self _ _ _,
          (answered_produce t _ _).trans (List.append_nil _), rfl, rfl, ?_, .inl rfl⟩
        rw [point]
        simp only [ServePoint.rank]
        omega
  | pushing rounds rest => exact sends (by rw [point]; rfl)
  | waiting => exact absurd point moving
  | replying closes rest lines => exact sends (by rw [point]; rfl)
  | ending =>
    rw [point] at talks
    cases talks
  | removed =>
    rw [point] at talks
    cases talks
  | closed =>
    rw [point] at talks
    cases talks

/-! ## Runs -/

/-- A run of steps of the thread of `c` that succeed. -/
def Serves (c : Nat) (events : List ThreadEvent) : Prop :=
  ∀ event ∈ events, ∃ owner, event = .owner c owner ∧ owner.Succeeds

theorem Serves.cons {events : List ThreadEvent} (succeeds : event.Succeeds)
    (serves : Serves c events) : Serves c (.owner c event :: events) := by
  intro other member
  rcases List.mem_cons.mp member with rfl | member
  · exact ⟨event, rfl, succeeds⟩
  · exact serves other member

theorem Serves.append {events more : List ThreadEvent} (first : Serves c events)
    (then_more : Serves c more) : Serves c (events ++ more) := by
  intro event member
  rcases List.mem_append.mp member with old | new
  · exact first event old
  · exact then_more event new

/-- A step of a thread in a reachable state is a step of the machine. -/
theorem exec_owner (reachable : (threadsMachine strtod startedAt bootId).Reachable s)
    (thread : s.threads c = some t) (step : s.ownerStep c t event = some s') :
    (threadsMachine strtod startedAt bootId).exec s [.owner c event] = s' := by
  have fits := countersFit_reachable reachable
  rw [← (ownerStep_effect step).countersFit (shown_reachable reachable).wellFormed] at fits
  exact next_eq ((step_owner thread).trans step) fits

/-- The thread gets to the point where it waits for a frame, or leaves its loop after a `BYE`. -/
theorem settles (n : Nat) :
    ∀ s t, (threadsMachine strtod startedAt bootId).Reachable s → s.threads c = some t →
      (s.sockets c).isShut = false → t.point.isTalking = true → t.point.rank = n →
      ∃ events s' t', Serves c events ∧
        (threadsMachine strtod startedAt bootId).exec s events = s' ∧ s'.threads c = some t' ∧
        t'.answered = t.answered ∧ (s'.sockets c).incoming = (s.sockets c).incoming ∧
        (s'.sockets c).isShut = false ∧ (t'.point = .waiting ∨
          (t'.point = .ending ∧ ∃ frame ∈ t.answered, isBye frame = true)) := by
  induction n using Nat.strong_induction_on with
  | h n ih =>
    intro s t reachable thread up talks rank
    by_cases waits : t.point = .waiting
    · exact ⟨[], s, t, nofun, rfl, thread, rfl, rfl, up, .inl waits⟩
    obtain ⟨linked, queued⟩ := queued_reachable reachable
    obtain ⟨owner, s₁, t₁, succeeds, step, advance⟩ := advances linked queued thread up talks waits
    have run := exec_owner reachable thread step
    have reaches : (threadsMachine strtod startedAt bootId).Reachable s₁ :=
      run ▸ reachable.exec [.owner c owner]
    have up₁ : (s₁.sockets c).isShut = false := advance.up.trans up
    rcases advance.goesTo with talks₁ | ⟨ends, closing⟩
    · obtain ⟨events, s₂, t₂, serves, run₂, thread₂, answered, incoming, up₂, done⟩ :=
        ih t₁.point.rank (rank ▸ advance.rank) s₁ t₁ reaches advance.thread up₁ talks₁ rfl
      refine ⟨.owner c owner :: events, s₂, t₂, serves.cons succeeds, ?_, thread₂,
        answered.trans advance.answered, incoming.trans advance.incoming, up₂, ?_⟩
      · rw [← List.singleton_append, Machine.exec_append, run, run₂]
      · rw [advance.answered] at done
        exact done
    · refine ⟨[.owner c owner], s₁, t₁, Serves.cons succeeds nofun, run, advance.thread,
        advance.answered, advance.incoming, up₁, .inr ⟨ends, ?_⟩⟩
      exact (answering_reachable reachable thread).closing closing

/-- A thread that waits receives the next frame, if one is there, and goes on to answer it. -/
theorem receives (linked : s.Linked) (shown : s.toServerState.Shown)
    (thread : s.threads c = some t) (waits : t.point = .waiting)
    {frame rest : Bytes} (clean : lineFeed ∉ frame)
    (incoming : (s.sockets c).incoming = frame ++ lineFeed :: rest) (readings : TimeReadings) :
    ∃ s' t', s.ownerStep c t (.receive readings) = some s' ∧ s'.threads c = some t' ∧
      t'.answered = t.answered ++ [frame] ∧ (s'.sockets c).incoming = rest ∧
      (s'.sockets c).isShut = (s.sockets c).isShut ∧ t'.point.isTalking = true := by
  have descriptor := linked.owns c t thread (by simp [waits])
  have reads := receiveTextLine_frame clean rest
  have first := takeWhile_frame clean rest
  have nonempty := (replyShape_serveLine shown t.fd readings (lineOf frame)).ne_nil
  obtain ⟨result, serves⟩ : ∃ result,
      serveLine s.toServerState t.fd readings.val (lineOf frame) = result := ⟨_, rfl⟩
  rw [serves] at nonempty
  refine ⟨((s.setSocket c { s.sockets c with incoming := rest }).sharing c result.state).produce c t
      (.reply frame result.reply) (nextReply result.closes result.reply), _, ?_,
    Function.update_self _ _ _, answered_produce t (.reply frame result.reply) _, ?_, ?_, ?_⟩
  · simp only [ownerStep, waits, if_true, descriptor, Option.bind_some, receiveLine, incoming,
      reads, first, serves]
  · simp [produce, setThread, sharing, setSocket]
  · simp [produce, setThread, sharing, setSocket]
  · cases reply : result.reply with
    | nil => exact absurd reply nonempty
    | cons line lines => rfl

/-- The thread answers all the frames that are there, up to a `BYE`. -/
theorem finishes (left : List Bytes) {tail : Bytes} (clean : ∀ frame ∈ left, lineFeed ∉ frame)
    (readings : TimeReadings) :
    ∀ s t, (threadsMachine strtod startedAt bootId).Reachable s → s.threads c = some t →
      (s.sockets c).isShut = false → t.point.isTalking = true →
      (s.sockets c).incoming = frames lineFeed left ++ tail →
      (∀ frame ∈ (t.answered ++ left).dropLast, isBye frame = false) →
      ∃ events t', Serves c events ∧
        ((threadsMachine strtod startedAt bootId).exec s events).threads c = some t' ∧
        t'.answered = t.answered ++ left ∧ t'.point.unsent = [] := by
  induction left with
  | nil =>
    intro s t reachable thread up talks incoming early
    obtain ⟨events, s', t', serves, run, thread', answered, -, -, done⟩ :=
      settles _ s t reachable thread up talks rfl
    refine ⟨events, t', serves, run ▸ thread', by rw [answered, List.append_nil], ?_⟩
    rcases done with waits | ⟨ends, -⟩
    · rw [waits]; rfl
    · rw [ends]; rfl
  | cons frame left ih =>
    intro s t reachable thread up talks incoming early
    obtain ⟨events, s₁, t₁, serves, run, thread₁, answered, incoming₁, up₁, done⟩ :=
      settles _ s t reachable thread up talks rfl
    have reaches : (threadsMachine strtod startedAt bootId).Reachable s₁ :=
      run ▸ reachable.exec events
    rcases done with waits | ⟨-, other, member, bye⟩
    · rw [incoming, frames_cons, List.append_assoc, List.cons_append] at incoming₁
      obtain ⟨s₂, t₂, step, thread₂, answered₂, incoming₂, up₂, talks₂⟩ :=
        receives (linked_reachable reaches) (shown_reachable reaches) thread₁ waits
          (clean frame List.mem_cons_self) incoming₁ readings
      have run₂ := exec_owner reaches thread₁ step
      have all : t₂.answered ++ left = t.answered ++ frame :: left := by
        rw [answered₂, answered, List.append_assoc, List.singleton_append]
      obtain ⟨more, t₃, serves₃, thread₃, answered₃, unsent⟩ :=
        ih (fun f member => clean f (List.mem_cons_of_mem _ member)) s₂ t₂
          (run₂ ▸ reaches.exec [.owner c (.receive readings)]) thread₂ (up₂.trans up₁) talks₂
          incoming₂ (all ▸ early)
      refine ⟨events ++ .owner c (.receive readings) :: more, t₃,
        serves.append (serves₃.cons trivial), ?_, answered₃.trans all, unsent⟩
      rw [Machine.exec_append, run, ← List.singleton_append, Machine.exec_append, run₂]
      exact thread₃
    · -- a frame after the `BYE` would make the `BYE` an early one
      have early := early other (by
        rw [List.dropLast_append_of_ne_nil (List.cons_ne_nil _ _)]
        exact List.mem_append_left _ member)
      rw [early] at bye
      cases bye

/-- What the client of a connection gets for the frames `fs` that it sent, when no send fails. -/
structure OneBlockEach (strtod : Bytes → StrtodResult) (startedAt bootId : Long)
    (s : ServerThreads) (c : Nat) (t : ClientThread) (fs : List Bytes) : Prop where
  /-- The stream is the lines of the blocks, one block after the other. -/
  stream : (s.sockets c).wire ++ t.point.unsent = frames lineFeed (t.blocks.flatMap Block.lines)
  /-- The replies are those to the frames, one each and in order. -/
  order : t.answered <+: fs
  replies : ∀ frame lines, .reply frame lines ∈ t.blocks → ReplyShape lines ∧
    ∃ before, ∃ readings : TimeReadings, (threadsMachine strtod startedAt bootId).Reachable before ∧
      lines = (serveLine before.toServerState t.fd readings.val (lineOf frame)).reply
  /-- The other blocks are the alerts that were broadcast. -/
  alerts : ∀ line, .alert line ∈ t.blocks → ∃ alert ∈ s.broadcasted, line = formatAlert alert
  short : ∀ block ∈ t.blocks, ∀ line ∈ block.lines, line.length < maxLine
  /-- A thread that waits for more, or has answered a `BYE`, has answered every frame. -/
  complete : (t.point = .waiting ∧ lineFeed ∉ (s.sockets c).incoming) ∨
    (∃ frame ∈ t.answered, isBye frame = true) → t.answered = fs
  /-- While the connection is up, the thread gets there. -/
  progress : t.point.isTalking = true → (s.sockets c).isShut = false →
    ∃ events t', Serves c events ∧
      ((threadsMachine strtod startedAt bootId).exec s events).threads c = some t' ∧
      t'.answered = fs ∧
      (((threadsMachine strtod startedAt bootId).exec s events).sockets c).wire =
        frames lineFeed (t'.blocks.flatMap Block.lines)

/-- A frame that does not fit, or is no message, costs one line, and nothing else changes. -/
structure Refuses (frame : Bytes) : Prop where
  long : lineFeed ∉ frame → maxLine ≤ frame.length → isMessage frame = false
  answer : isMessage frame = false → ∃ code line, ascii "ERR|" <+: line ∧
    replyError code = [line] ∧ ∀ (s : ServerState) (fd : ClientFd) (readings : Readings),
      serveLine s fd readings (lineOf frame) = s.answers [line]

theorem refuses (frame : Bytes) : Refuses frame where
  long clean long := by
    cases message : isMessage frame with
    | false => rfl
    | true => exact absurd (isMessage_fits clean message).1 (not_lt.mpr long)
  answer refused := by
    obtain ⟨code, serves⟩ := serveLine_refused refused
    have one : replyError code = [buildErrorResponse 64 code] ∧
        ascii "ERR|" <+: buildErrorResponse 64 code := by
      cases code <;> decide
    exact ⟨code, _, one.2, one.1, fun s fd readings => one.1 ▸ serves s fd readings⟩

/-- The frames up to a `BYE` are answered with one block each. -/
theorem one_block_each (strtod : Bytes → StrtodResult) (startedAt bootId : Long)
    (events : List ThreadEvent) (c : Nat) (t : ClientThread) (fs : List Bytes) (rest : Bytes)
    (clean : ∀ frame ∈ fs, lineFeed ∉ frame) (last : lineFeed ∉ rest)
    (early : ∀ frame ∈ fs.dropLast, isBye frame = false)
    (succeed : ∀ event ∈ events, event ≠ .owner c (.send .failed)) :
    let s := (threadsMachine strtod startedAt bootId).exec (threadsInit startedAt bootId) events
    s.threads c = some t → s.arrived c = frames lineFeed fs ++ rest →
      OneBlockEach strtod startedAt bootId s c t fs ∧ ∀ frame, Refuses frame := by
  intro s thread sent
  have reachable : (threadsMachine strtod startedAt bootId).Reachable s := ⟨events, rfl⟩
  have answering := answering_reachable reachable thread
  obtain ⟨left, all, incoming⟩ :=
    frames_common answering.clean clean last (answering.read.trans sent)
  subst all
  refine ⟨⟨whole_run c events succeed thread, List.prefix_append _ _, ?_, ?_, ?_, ?_, ?_⟩, refuses⟩
  · intro frame lines member
    obtain ⟨before, readings, reaches, rfl⟩ := replies_reachable reachable thread frame lines member
    exact ⟨replyShape_serveLine (shown_reachable reaches) t.fd readings _, before, readings,
      reaches, rfl⟩
  · intro line member
    exact pushed_reachable reachable thread member
  · intro block member line listed
    cases block with
    | alert pushed =>
      obtain ⟨alert, -, rfl⟩ := pushed_reachable reachable thread member
      rw [List.mem_singleton.mp listed]
      exact formatAlert_short alert
    | reply frame lines =>
      obtain ⟨before, readings, reaches, rfl⟩ :=
        replies_reachable reachable thread frame lines member
      have shape := replyShape_serveLine (shown_reachable reaches) t.fd readings (lineOf frame)
      exact (shape.fits line listed).short
  · rintro (⟨-, none⟩ | ⟨frame, member, bye⟩)
    · have empty : left = [] := by
        cases left with
        | nil => rfl
        | cons frame left => simp [incoming] at none
      rw [empty, List.append_nil]
    · by_contra more
      have nonempty : left ≠ [] := fun empty => more (by rw [empty, List.append_nil])
      have early := early frame (by
        rw [List.dropLast_append_of_ne_nil nonempty]
        exact List.mem_append_left _ member)
      rw [early] at bye
      cases bye
  · intro talks up
    obtain ⟨more, t', serves, thread', answered, unsent⟩ :=
      finishes left (fun frame member => clean frame (List.mem_append_right _ member))
        ⟨⟨fun _ => 0, true, true, 0⟩, fun _ => (by decide : IsLong 0), Nat.zero_le _⟩ s t
        reachable thread up talks incoming early
    refine ⟨more, t', serves, thread', answered, ?_⟩
    have joined : (threadsMachine strtod startedAt bootId).exec s more =
        (threadsMachine strtod startedAt bootId).exec (threadsInit startedAt bootId)
          (events ++ more) := (Machine.exec_append _ _ _ _).symm
    rw [joined] at thread' ⊢
    have succeed' : ∀ event ∈ events ++ more, event ≠ .owner c (.send .failed) := by
      intro event member
      rcases List.mem_append.mp member with old | new
      · exact succeed event old
      · rintro rfl
        obtain ⟨owner, same, succeeds⟩ := serves _ new
        cases same
        exact succeeds rfl
    have whole := whole_run c (events ++ more) succeed' thread'
    unfold Whole at whole
    rwa [unsent, List.append_nil] at whole

end Steps

/-! A frame with a control byte, then `BYE`. -/

def byeFrames : List Bytes := [[7], ascii "BYE"]

def byeEvents : List ThreadEvent :=
  [.accept alarmedThread.fd, .arrive 0 (frames lineFeed byeFrames), .owner 0 .start,
    .owner 0 .drain, .owner 0 (.receive alarmedReadings), .owner 0 (.send (.taken 3)),
    .owner 0 (.send .again), .owner 0 (.send (.taken 16)), .owner 0 .drain,
    .owner 0 (.receive alarmedReadings)]

def byeThread : ClientThread where
  fd := alarmedThread.fd
  point := .replying true (frameOf (ascii "OK|BYE")) []
  blocks := [.reply [7] [ascii "ERR|100|BAD_FORMAT"], .reply (ascii "BYE") [ascii "OK|BYE"]]

theorem one_block_each_sample :
    let s := (threadsMachine strtodDigits ⟨7, by decide⟩ ⟨1, by decide⟩).exec
      (threadsInit ⟨7, by decide⟩ ⟨1, by decide⟩) byeEvents
    s.threads 0 = some byeThread ∧
      OneBlockEach strtodDigits ⟨7, by decide⟩ ⟨1, by decide⟩ s 0 byeThread byeFrames := by
  intro s
  have run : s.threads 0 = some byeThread ∧ s.arrived 0 = frames lineFeed byeFrames ++ [] := by
    decide +kernel
  refine ⟨run.1, (one_block_each strtodDigits ⟨7, by decide⟩ ⟨1, by decide⟩ byeEvents 0 byeThread
    byeFrames [] (by decide) (by decide) (by decide +kernel) ?_ run.1 run.2).1⟩
  simp [byeEvents]

end ServerThreads

end Telep
