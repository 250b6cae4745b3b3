import Telep.Client.OperatorLink
import Telep.Client.Proofs.OperatorSessions
import Telep.Misc.Simulation

/-!
# The session of an operator is what the threads of the server do

The server and the operator of one of its connections, in any interleaving, are simulated by
`operatorMachine` (`link_refines`): its blocks are those of the thread of the connection, its
answers are computed in the state in which the thread receives the frame, and what is on its way is
what the client did not receive.
-/

namespace Telep

/-! ## Chunks that a call does not receive -/

namespace TelepConnection

variable {c c' : TelepConnection} {chunks left : List Bytes}

theorem readLoop_left {rounds : Nat} {result : Except ReadFailure Bytes}
    (reads : c.readLoop chunks rounds = (result, c', left)) : left <:+ chunks := by
  induction rounds generalizing c chunks with
  | zero =>
    cases reads
    exact List.suffix_rfl
  | succ rounds ih =>
    rw [readLoop] at reads
    split at reads
    · split at reads
      · exact ih reads
      · cases reads
        exact List.suffix_rfl
    · cases reads
      exact List.suffix_rfl
    · cases reads
      exact List.suffix_rfl
    · split at reads
      · cases reads
        exact List.suffix_rfl
      · split at reads
        · cases reads
          exact List.suffix_cons _ _
        · exact (ih reads).trans (List.suffix_cons _ _)

theorem readRows_left {rounds : Nat} {response : List (List Bytes)}
    {result : Except ReadFailure (List (List Bytes))}
    (reads : c.readRows chunks response rounds = (result, c', left)) : left <:+ chunks := by
  induction rounds generalizing c chunks response with
  | zero =>
    cases reads
    exact List.suffix_rfl
  | succ rounds ih =>
    rw [readRows] at reads
    rcases line : c.readLine chunks with ⟨first, c₁, chunks₁⟩
    rw [line] at reads
    have first_left := readLoop_left line
    cases first with
    | error failure =>
      cases reads
      exact first_left
    | ok text =>
      dsimp only at reads
      split at reads
      · cases reads
        exact first_left
      · exact (ih reads).trans first_left

theorem request_left {command : Bytes} {result : Except ReadFailure (List (List Bytes))}
    (reads : c.request command chunks = (result, c', left)) : left <:+ chunks := by
  rw [request] at reads
  rcases line : c.readLine chunks with ⟨first, c₁, chunks₁⟩
  rw [line] at reads
  have first_left := readLoop_left line
  cases first with
  | error failure =>
    cases reads
    exact first_left
  | ok text =>
    dsimp only at reads
    split at reads
    · exact (readRows_left reads).trans first_left
    · cases reads
      exact first_left

theorem takeLoop_left {rounds : Nat} {result : Option ReadFailure}
    (takes : c.takeLoop chunks rounds = (result, c', left)) : left <:+ chunks := by
  induction rounds generalizing c chunks with
  | zero =>
    cases takes
    exact List.suffix_rfl
  | succ rounds ih =>
    rw [takeLoop] at takes
    split at takes
    · split at takes
      · exact ih takes
      · cases takes
        exact List.suffix_rfl
    · cases takes
      exact List.suffix_rfl
    · cases takes
      exact List.suffix_rfl
    · split at takes
      · cases takes
        exact List.suffix_rfl
      · split at takes
        · cases takes
          exact List.suffix_cons _ _
        · exact (ih takes).trans (List.suffix_cons _ _)

theorem takeAlerts_left {result : Except ReadFailure (List (List Bytes))}
    (takes : c.takeAlerts chunks = (result, c', left)) : left <:+ chunks := by
  rw [takeAlerts] at takes
  rcases loop : c.takeLoop chunks 256 with ⟨failure, c₁, chunks₁⟩
  rw [loop] at takes
  have taken := takeLoop_left loop
  cases failure <;> cases takes <;> exact taken

end TelepConnection

/-- What a call leaves of a stream that begins with its chunks. -/
theorem left_append_drop {stream : Bytes} {chunks left : List Bytes}
    (first : chunks.flatten <+: stream) (rest : left <:+ chunks) :
    left.flatten ++ stream.drop chunks.flatten.length =
      stream.drop (chunks.flatten.length - left.flatten.length) := by
  obtain ⟨taken, rfl⟩ := rest
  obtain ⟨more, rfl⟩ := first
  rw [List.drop_left, List.flatten_append, List.length_append, Nat.add_sub_cancel,
    List.append_assoc, List.drop_left]

/-! ## What passes on a connection -/

namespace ServerThreads

/-- What a step of its owner takes from a connection and adds to the owner's blocks. -/
inductive Exchanges (s s' : ServerThreads) (c : Nat) (t t' : ClientThread) : OwnerEvent → Prop
  | quiet {event : OwnerEvent} (blocks : t'.blocks = t.blocks)
      (incoming : (s'.sockets c).incoming = (s.sockets c).incoming) : Exchanges s s' c t t' event
  | push {event : OwnerEvent} (line : Bytes) (blocks : t'.blocks = t.blocks ++ [.alert line])
      (incoming : (s'.sockets c).incoming = (s.sockets c).incoming) : Exchanges s s' c t t' event
  | answer (readings : TimeReadings) (frame rest : Bytes) (clean : lineFeed ∉ frame)
      (blocks : t'.blocks = t.blocks ++
        [.reply frame (serveLine s.toServerState t.fd readings.val (lineOf frame)).reply])
      (before : (s.sockets c).incoming = frame ++ lineFeed :: rest)
      (incoming : (s'.sockets c).incoming = rest) : Exchanges s s' c t t' (.receive readings)

section Steps

variable {s s' : ServerThreads} {c : Nat} {t t' : ClientThread} {event : OwnerEvent}

theorem OwnerEffect.exchanges (effect : OwnerEffect s c t event s') (linked : s.Linked)
    (thread : s.threads c = some t) (thread' : s'.threads c = some t') :
    (s.sockets c).wire <+: (s'.sockets c).wire ∧ Exchanges s s' c t t' event := by
  have becomes {u : ClientThread} (new : s'.threads c = some u) : t' = u :=
    Option.some.inj (thread'.symm.trans new)
  cases effect with
  | pushed rounds at_round line subscribers effect nonempty short =>
    obtain rfl := becomes (Function.update_self _ _ _)
    exact ⟨List.prefix_rfl, .push line rfl rfl⟩
  | sent count d buffer after sending descriptor up count_pos count_le =>
    obtain rfl := becomes (Function.update_self _ _ _)
    obtain rfl : c = d := Option.some.inj ((linked.owns c t thread
      (ServePoint.ne_closed (ServePoint.sending_serves sending).1)).symm.trans descriptor)
    constructor
    · simp [moveTo, ServerThreads.setThread, ServerThreads.setSocket]
    · exact .quiet rfl (by simp [moveTo, ServerThreads.setThread, ServerThreads.setSocket])
  | failed buffer after sending =>
    obtain rfl := becomes (Function.update_self _ _ _)
    have descriptor := linked.owns c t thread
      (ServePoint.ne_closed (ServePoint.sending_serves sending).1)
    constructor
    · simp [moveTo, ServerThreads.setThread, ServerThreads.shutdown, descriptor,
        ServerThreads.setSocket]
    · exact .quiet rfl (by simp [moveTo, ServerThreads.setThread, ServerThreads.shutdown,
        descriptor, ServerThreads.setSocket])
  | received readings d line rest waits descriptor reads result serves =>
    obtain rfl := becomes (Function.update_self _ _ _)
    obtain rfl : c = d := Option.some.inj ((linked.owns c t thread
      (by simp [waits])).symm.trans descriptor)
    obtain ⟨clean, whole, rfl⟩ := receiveTextLine_eq_some reads
    subst serves
    constructor
    · simp [produce, ServerThreads.setThread, ServerThreads.sharing, ServerThreads.setSocket]
    · exact .answer readings _ rest clean rfl whole (by
        simp [produce, ServerThreads.setThread, ServerThreads.sharing, ServerThreads.setSocket])
  | _ =>
    obtain rfl := becomes (Function.update_self _ _ _)
    exact ⟨List.prefix_rfl, .quiet rfl rfl⟩

/-- Only its client sends bytes on a connection. -/
theorem arrived_step {strtod : Bytes → StrtodResult} {event : ThreadEvent} (linked : s.Linked)
    (thread : s.threads c = some t) (step : s.step strtod event = some s')
    (other : event.arrivesAt c = false) : s'.arrived c = s.arrived c := by
  cases event with
  | accept fd =>
    simp only [ServerThreads.step, accept, Option.ite_none_right_eq_some, Option.some.injEq] at step
    obtain ⟨-, rfl⟩ := step
    refine Function.update_of_ne ?_ _ _
    rintro rfl
    rw [linked.fresh _ le_rfl] at thread
    cases thread
  | arrive d bytes =>
    simp only [ServerThreads.step, Option.ite_none_right_eq_some, Option.some.injEq] at step
    obtain ⟨-, rfl⟩ := step
    exact Function.update_of_ne (Ne.symm (of_decide_eq_false other)) _ _
  | owner d event =>
    obtain ⟨u, -, step⟩ := Option.bind_eq_some_iff.mp step
    exact congrFun (ownerStep_effect step).unrecorded.2.2 c
  | datagram clock bytes =>
    simp only [ServerThreads.step, Option.ite_none_right_eq_some, Option.some.injEq] at step
    obtain ⟨-, rfl⟩ := step
    rfl
  | broadcast =>
    obtain ⟨alert, newAlerts, -, rfl⟩ := broadcast_eq_some step
    rfl

/-- Nothing happens on a connection that was not accepted. -/
theorem unborn_step {strtod : Bytes → StrtodResult} {event : ThreadEvent} (linked : s.Linked)
    (unborn : s.threads c = none) (unborn' : s'.threads c = none)
    (step : s.step strtod event = some s') : s'.sockets c = s.sockets c := by
  have stands {fd d : Nat} (descriptor : s.descriptors fd = some d) : c ≠ d := by
    rintro rfl
    obtain ⟨u, accepted, -⟩ := linked.owned fd c descriptor
    rw [unborn] at accepted
    cases accepted
  cases event with
  | accept fd =>
    simp only [ServerThreads.step, accept, Option.ite_none_right_eq_some, Option.some.injEq] at step
    obtain ⟨-, rfl⟩ := step
    refine Function.update_of_ne ?_ _ _
    rintro rfl
    have new : Function.update s.threads s.accepted (some ⟨fd, .accepted, []⟩) s.accepted = none :=
      unborn'
    rw [Function.update_self] at new
    cases new
  | arrive d bytes =>
    simp only [ServerThreads.step, Option.ite_none_right_eq_some, Option.some.injEq] at step
    obtain ⟨accepted, rfl⟩ := step
    refine Function.update_of_ne ?_ _ _
    rintro rfl
    rw [unborn] at accepted
    cases accepted
  | owner d event =>
    obtain ⟨u, stepped, step⟩ := Option.bind_eq_some_iff.mp step
    refine ((ownerStep_effect step).others linked stepped ?_).2
    rintro rfl
    rw [unborn] at stepped
    cases stepped
  | datagram clock bytes =>
    simp only [ServerThreads.step, Option.ite_none_right_eq_some, Option.some.injEq] at step
    obtain ⟨-, rfl⟩ := step
    rfl
  | broadcast =>
    obtain ⟨alert, newAlerts, -, rfl⟩ := broadcast_eq_some step
    refine if_neg fun any => ?_
    obtain ⟨fd, -, descriptor⟩ := List.any_eq_true.mp any
    exact stands (of_decide_eq_true descriptor) rfl

/-- A step is taken, or nothing happens. -/
theorem next_cases (s : ServerThreads) (strtod : Bytes → StrtodResult) (event : ThreadEvent) :
    s.next strtod event = s ∨ s.step strtod event = some (s.next strtod event) := by
  unfold next
  split
  · next s' happens =>
    split
    · exact .inr happens
    · exact .inl rfl
  · exact .inl rfl

/-- A connection keeps its thread, and the thread its descriptor. -/
theorem fd_next {strtod : Bytes → StrtodResult} {event : ThreadEvent} (linked : s.Linked)
    (thread : s.threads c = some t) :
    ∃ t', (s.next strtod event).threads c = some t' ∧ t'.fd = t.fd := by
  refine preserves_next (P := fun s' => ∃ t', s'.threads c = some t' ∧ t'.fd = t.fd)
    ⟨t, thread, rfl⟩ fun s' step => ?_
  obtain ⟨t', thread', -⟩ := delivers_step linked thread step
  rcases step_view linked thread step with ⟨owner, -, effect⟩ | bystander
  · exact ⟨t', thread', (effect.produces thread').1⟩
  · exact ⟨t, bystander.thread, rfl⟩

end Steps

end ServerThreads

/-! ## The simulation -/

namespace OperatorLink

variable {strtod : Bytes → StrtodResult} {startedAt bootId : Long} {l l' : OperatorLink} {c : Nat}
  {o : OperatorSession}

/-- The blocks that the server produced for the connection. -/
def blocks (l : OperatorLink) (c : Nat) : List Block :=
  ((l.server.threads c).map ClientThread.blocks).getD []

/-- The lines of the blocks. -/
def lines (l : OperatorLink) (c : Nat) : List Bytes := (l.blocks c).flatMap Block.lines

/-- The session that a state of the linked machines shows. What was lost by a shutdown counts as on
its way: it is never received. -/
structure Refines (c : Nat) (l : OperatorLink) (o : OperatorSession) : Prop where
  connection : o.connection = l.connection
  asking : o.asking = l.asking
  failed : o.failed = l.failed
  asked : o.asked = l.asked
  returned : o.returned = l.returned
  taken : o.taken = l.taken
  blocks : o.blocks = l.blocks c
  inFlight : o.inFlight = (frames lineFeed (l.lines c)).drop l.received
  within : l.received ≤ (l.server.sockets c).wire.length
  unanswered : frames lineFeed o.unanswered = (l.server.sockets c).incoming ++ l.outgoing
  clean : ∀ frame ∈ o.unanswered, lineFeed ∉ frame
  unborn : l.server.threads c = none → l.server.sockets c = ⟨[], [], false⟩

theorem blocks_eq {t : ClientThread} (thread : l.server.threads c = some t) :
    l.blocks c = t.blocks := by
  rw [blocks, thread]
  rfl

/-- What can be received is the beginning of what is on its way. -/
theorem Refines.ready (h : Refines c l o)
    (reachable : (threadsMachine strtod startedAt bootId).Reachable l.server) :
    l.ready c <+: o.inFlight := by
  rw [h.inFlight, OperatorLink.ready]
  cases thread : l.server.threads c with
  | none =>
    rw [h.unborn thread, List.drop_nil]
    exact List.nil_prefix
  | some t =>
    obtain ⟨more, whole⟩ := (ServerThreads.streamed_reachable reachable thread).begun
    have lines : l.lines c = t.lines := by
      rw [OperatorLink.lines, blocks_eq thread, ClientThread.lines]
    rw [lines, ← whole, List.drop_append_of_le_length h.within]
    exact List.prefix_append _ _

theorem Refines.canReceive (h : Refines c l o)
    (reachable : (threadsMachine strtod startedAt bootId).Reachable l.server)
    {chunks : List Bytes} (can : l.canReceive c chunks = true) :
    o.canReceive chunks = true := by
  rw [OperatorLink.canReceive, decide_eq_true_eq] at can
  rw [OperatorSession.canReceive, decide_eq_true_eq]
  exact ⟨can.1, can.2.trans (h.ready reachable)⟩

/-- A call moves the bytes that it receives on both sides. -/
theorem Refines.afterCall (h : Refines c l o)
    (reachable : (threadsMachine strtod startedAt bootId).Reachable l.server)
    {chunks left : List Bytes} (can : l.canReceive c chunks = true) (rest : left <:+ chunks)
    (connection : TelepConnection) :
    Refines c (l.afterCall connection chunks left) (o.received connection chunks left) where
  connection := rfl
  asking := h.asking
  failed := h.failed
  asked := h.asked
  returned := h.returned
  taken := h.taken
  blocks := h.blocks
  inFlight := by
    rw [OperatorLink.canReceive, decide_eq_true_eq] at can
    have first := can.2.trans (h.ready reachable)
    rw [OperatorSession.received, OperatorLink.afterCall]
    dsimp only
    rw [left_append_drop first rest, h.inFlight, List.drop_drop]
    rfl
  within := by
    rw [OperatorLink.canReceive, decide_eq_true_eq] at can
    have fits := can.2.length_le
    have within := h.within
    rw [OperatorLink.ready, List.length_drop] at fits
    rw [OperatorLink.afterCall]
    dsimp only
    omega
  unanswered := h.unanswered
  clean := h.clean
  unborn := h.unborn

/-- The event of the session that an event of the linked machines is. -/
inductive Seen (c : Nat) (l : OperatorLink) :
    LinkEvent → SessionEvent strtod startedAt bootId → Prop
  | push (event : ThreadEvent) (alert : RaisedAlert strtod startedAt bootId) :
      Seen c l (.server event) (.push alert)
  | answer (state : ReachableServer strtod startedAt bootId) (same : state.val = l.server)
      (readings : TimeReadings) (frame rest : Bytes) (clean : lineFeed ∉ frame)
      (incoming : (l.server.sockets c).incoming = frame ++ lineFeed :: rest) :
      Seen c l (.server (.owner c (.receive readings))) (.answer state readings)
  | send (command : Bytes) (fields : List Bytes) :
      Seen c l (.send command fields) (.send command fields)
  | read (chunks : List Bytes) : Seen c l (.read chunks) (.read chunks)
  | take (chunks : List Bytes) : Seen c l (.take chunks) (.take chunks)

/-- The oldest frame that was not answered. -/
theorem Refines.oldest (h : Refines c l o) {frame rest : Bytes} (clean : lineFeed ∉ frame)
    (incoming : (l.server.sockets c).incoming = frame ++ lineFeed :: rest) :
    ∃ unanswered, o.unanswered = frame :: unanswered ∧
      frames lineFeed unanswered = rest ++ l.outgoing := by
  have stream := h.unanswered
  rw [incoming] at stream
  cases unanswered : o.unanswered with
  | nil =>
    rw [unanswered, frames_nil, List.append_assoc] at stream
    exact absurd stream.symm (List.append_ne_nil_of_right_ne_nil _ (List.cons_ne_nil _ _))
  | cons first others =>
    have first_clean := h.clean first (unanswered ▸ List.mem_cons_self)
    rw [unanswered, frames_cons, List.append_assoc, List.cons_append] at stream
    obtain ⟨rfl, same⟩ := mark_inj first_clean clean stream
    exact ⟨others, rfl, same⟩

/-- The client has received no more than the server produced. -/
theorem Refines.received_le (h : Refines c l o)
    (reachable : (threadsMachine strtod startedAt bootId).Reachable l.server) :
    l.received ≤ (frames lineFeed (l.lines c)).length := by
  refine h.within.trans ?_
  cases thread : l.server.threads c with
  | none =>
    rw [h.unborn thread]
    exact Nat.zero_le _
  | some t =>
    rw [lines, blocks_eq thread]
    exact (ServerThreads.streamed_reachable reachable thread).begun.length_le

/-- A step that produces nothing for the connection and takes nothing from it. -/
theorem Refines.quiet (h : Refines c l o) {s' : ServerThreads}
    (same : OperatorLink.blocks { l with server := s' } c = l.blocks c)
    (wire : (l.server.sockets c).wire <+: (s'.sockets c).wire)
    (incoming : (s'.sockets c).incoming = (l.server.sockets c).incoming)
    (born : s'.threads c = none → s'.sockets c = ⟨[], [], false⟩) :
    Refines c { l with server := s' } o where
  connection := h.connection
  asking := h.asking
  failed := h.failed
  asked := h.asked
  returned := h.returned
  taken := h.taken
  blocks := h.blocks.trans same.symm
  inFlight := by
    rw [h.inFlight, lines, lines, same]
  within := h.within.trans wire.length_le
  unanswered := h.unanswered.trans (incoming ▸ rfl)
  clean := h.clean
  unborn := born

/-- A step that produces a block for the connection. -/
theorem Refines.produces (h : Refines c l o)
    (reachable : (threadsMachine strtod startedAt bootId).Reachable l.server)
    {s' : ServerThreads} {t' : ClientThread} (thread' : s'.threads c = some t') {block : Block}
    (more : t'.blocks = l.blocks c ++ [block])
    (wire : (l.server.sockets c).wire <+: (s'.sockets c).wire) {unanswered : List Bytes}
    (left : frames lineFeed unanswered = (s'.sockets c).incoming ++ l.outgoing)
    (clean : ∀ frame ∈ unanswered, lineFeed ∉ frame) :
    Refines c { l with server := s' }
      (({ o with unanswered := unanswered } : OperatorSession).write block) where
  connection := h.connection
  asking := h.asking
  failed := h.failed
  asked := h.asked
  returned := h.returned
  taken := h.taken
  blocks := by
    have blocks' : OperatorLink.blocks { l with server := s' } c = t'.blocks := blocks_eq thread'
    rw [blocks', more, ← h.blocks]
    rfl
  inFlight := by
    have lines' : OperatorLink.lines { l with server := s' } c = l.lines c ++ block.lines := by
      have blocks' : OperatorLink.blocks { l with server := s' } c = t'.blocks := blocks_eq thread'
      rw [lines, blocks', more, List.flatMap_append, List.flatMap_singleton, lines]
    show o.inFlight ++ frames lineFeed block.lines = _
    rw [h.inFlight, lines', frames_append,
      List.drop_append_of_le_length (h.received_le reachable)]
  within := h.within.trans wire.length_le
  unanswered := left
  clean := clean
  unborn none := absurd (thread'.symm.trans none) (Option.some_ne_none _)

/-- A step of the server or of another client. -/
theorem Refines.serverStep (h : Refines c l o)
    (reachable : (threadsMachine strtod startedAt bootId).Reachable l.server)
    {fd : ClientFd} (owned : ∀ t, l.server.threads c = some t → t.fd = fd) {event : ThreadEvent}
    (other : event.arrivesAt c = false) {s' : ServerThreads}
    (step : l.server.step strtod event = some s')
    (reachable' : (threadsMachine strtod startedAt bootId).Reachable s') :
    Refines c { l with server := s' } o ∨
      ∃ k : SessionEvent strtod startedAt bootId, Seen c l (.server event) k ∧
        Refines c { l with server := s' } (o.next strtod startedAt bootId fd k) := by
  have linked := ServerThreads.linked_reachable reachable
  cases thread : l.server.threads c with
  | none =>
    left
    have before := h.unborn thread
    cases thread' : s'.threads c with
    | none =>
      have same := ServerThreads.unborn_step linked thread thread' step
      exact h.quiet (by simp [OperatorLink.blocks, thread, thread']) (by rw [same]) (by rw [same])
        fun _ => same.trans before
    | some t' =>
      have new := ServerThreads.born linked thread step thread'
      refine h.quiet ?_ (by rw [before]; exact List.nil_prefix) (by rw [before, new.socket])
        fun none => absurd (thread'.symm.trans none) (Option.some_ne_none _)
      simp [OperatorLink.blocks, thread, thread', new.blocks]
  | some t =>
    obtain ⟨t', thread', -⟩ := ServerThreads.delivers_step linked thread step
    have born : s'.threads c = none → s'.sockets c = ⟨[], [], false⟩ :=
      fun none => absurd (thread'.symm.trans none) (Option.some_ne_none _)
    have blocks' : OperatorLink.blocks { l with server := s' } c = t'.blocks := blocks_eq thread'
    rcases ServerThreads.step_view linked thread step with ⟨owner, rfl, effect⟩ | bystander
    · obtain ⟨wire, exchanges⟩ := effect.exchanges linked thread thread'
      cases exchanges with
      | quiet same incoming =>
        exact .inl (h.quiet (by rw [blocks', same, blocks_eq thread]) wire incoming born)
      | push line more incoming =>
        have member : Block.alert line ∈ t'.blocks := more ▸ List.mem_concat_self
        obtain ⟨alert, known, rfl⟩ := ServerThreads.pushed_reachable reachable' thread' member
        refine .inr ⟨.push ⟨alert, s', reachable', List.mem_append_left _ known⟩, .push _ _, ?_⟩
        exact h.produces reachable thread' (blocks_eq thread ▸ more) wire
          (h.unanswered.trans (incoming ▸ rfl)) h.clean
      | answer readings frame rest clean more before incoming =>
        obtain ⟨unanswered, split, left⟩ := h.oldest clean before
        refine .inr ⟨.answer ⟨l.server, reachable⟩ readings,
          .answer _ rfl readings frame rest clean before, ?_⟩
        rw [← owned t thread, OperatorSession.next, OperatorSession.answer, split]
        refine h.produces reachable thread' (blocks_eq thread ▸ more) wire (incoming ▸ left) ?_
        exact fun later member => h.clean later (split ▸ List.mem_cons_of_mem _ member)
    · left
      obtain ⟨bytes, incoming, arrived⟩ := bystander.arrives
      have nothing : bytes = [] := by
        have same := ServerThreads.arrived_step linked thread step other
        rw [arrived] at same
        exact List.append_cancel_left (same.trans (List.append_nil _).symm)
      rw [nothing, List.append_nil] at incoming
      obtain rfl : t = t' := Option.some.inj (bystander.thread.symm.trans thread')
      exact h.quiet (by rw [blocks', blocks_eq thread]) (by rw [bystander.wire]) incoming born

/-- Bytes of the client reach the server. -/
theorem Refines.deliver (h : Refines c l o)
    (reachable : (threadsMachine strtod startedAt bootId).Reachable l.server) (count : Nat) :
    Refines c (l.deliver c strtod count) o := by
  unfold OperatorLink.deliver
  split
  · next accepted =>
    obtain ⟨t, thread⟩ := Option.isSome_iff_exists.mp accepted
    have fits := ServerThreads.countersFit_reachable reachable
    have arrives : l.server.next strtod (.arrive c (l.outgoing.take count)) = _ :=
      ServerThreads.next_eq (if_pos accepted) fits
    rw [arrives]
    have socket (socket : Socket) : Function.update l.server.sockets c socket c = socket :=
      Function.update_self _ _ _
    refine ⟨h.connection, h.asking, h.failed, h.asked, h.returned, h.taken, h.blocks, h.inFlight,
      ?_, ?_, h.clean, fun none => absurd (thread.symm.trans none) (Option.some_ne_none _)⟩
    · simp only [ServerThreads.setSocket, socket]
      exact h.within
    · simp only [ServerThreads.setSocket, socket]
      rw [h.unanswered, List.append_assoc, List.take_append_drop]
  · exact h

theorem Refines.send (h : Refines c l o) (command : Bytes) (fields : List Bytes) :
    Refines c (l.send command fields) (o.send command fields) := by
  unfold OperatorLink.send OperatorSession.send
  rw [h.asking]
  cases asking : l.asking with
  | some _ => exact h
  | none =>
    cases encoded : encodeMessage command fields with
    | none => exact h
    | some bytes =>
      obtain ⟨frame, rfl, line⟩ := encodeMessage_line encoded
      dsimp only
      rw [List.dropLast_concat]
      refine ⟨h.connection, rfl, h.failed, ?_, h.returned, h.taken, h.blocks, h.inFlight,
        h.within, ?_, ?_, h.unborn⟩
      · exact congrArg (· ++ [frame]) h.asked
      · show frames lineFeed (o.unanswered ++ [frame]) = _
        rw [frames_append, h.unanswered, List.append_assoc]
        simp
      · exact List.forall_mem_append.mpr ⟨h.clean, List.forall_mem_singleton.mpr line.lineFeed⟩

theorem Refines.read (h : Refines c l o)
    (reachable : (threadsMachine strtod startedAt bootId).Reachable l.server)
    {chunks : List Bytes} (can : l.canReceive c chunks = true) :
    Refines c (l.read c chunks) (o.read chunks) := by
  have can' := h.canReceive reachable can
  unfold OperatorLink.read OperatorSession.read
  rw [h.asking, h.connection]
  cases asking : l.asking with
  | none => exact h
  | some command =>
    dsimp only
    rw [if_pos can, if_pos can']
    rcases request : l.connection.request command chunks with ⟨result, connection, left⟩
    have after := h.afterCall reachable can (TelepConnection.request_left request) connection
    cases result with
    | error failure =>
      exact ⟨after.connection, rfl, rfl, after.asked, after.returned, after.taken, after.blocks,
        after.inFlight, after.within, after.unanswered, after.clean, after.unborn⟩
    | ok list =>
      refine ⟨after.connection, rfl, after.failed, after.asked, ?_, after.taken, after.blocks,
        after.inFlight, after.within, after.unanswered, after.clean, after.unborn⟩
      show o.returned ++ [(o.asked.length - 1, list)] = _
      rw [h.returned, h.asked]

theorem Refines.take (h : Refines c l o)
    (reachable : (threadsMachine strtod startedAt bootId).Reachable l.server)
    {chunks : List Bytes} (can : l.canReceive c chunks = true) :
    Refines c (l.take c chunks) (o.take chunks) := by
  unfold OperatorLink.take OperatorSession.take
  rw [h.asking, can, h.canReceive reachable can, h.connection]
  split
  · rcases takes : l.connection.takeAlerts chunks with ⟨result, connection, left⟩
    have after := h.afterCall reachable can (TelepConnection.takeAlerts_left takes) connection
    cases result with
    | error failure =>
      exact ⟨after.connection, after.asking, rfl, after.asked, after.returned, after.taken,
        after.blocks, after.inFlight, after.within, after.unanswered, after.clean, after.unborn⟩
    | ok alerts =>
      exact ⟨after.connection, after.asking, after.failed, after.asked, after.returned,
        congrArg (· ++ alerts) after.taken, after.blocks, after.inFlight, after.within,
        after.unanswered, after.clean, after.unborn⟩
  · exact h

/-- The thread of the connection has the descriptor. -/
def Owned (c : Nat) (fd : ClientFd) (l : OperatorLink) : Prop :=
  ∀ t, l.server.threads c = some t → t.fd = fd

/-- One event of the linked machines is one of the session, or none. -/
theorem Refines.next (h : Refines c l o)
    (reachable : (threadsMachine strtod startedAt bootId).Reachable l.server)
    {fd : ClientFd} (owned : Owned c fd l) (event : LinkEvent) :
    Refines c (l.next c strtod event) o ∨
      ∃ k : SessionEvent strtod startedAt bootId, Seen c l event k ∧
        Refines c (l.next c strtod event) (o.next strtod startedAt bootId fd k) := by
  cases event with
  | server event =>
    unfold OperatorLink.next
    dsimp only
    split
    · exact .inl h
    · next other =>
      have reachable' : (threadsMachine strtod startedAt bootId).Reachable
        (l.server.next strtod event) := reachable.exec [event]
      rcases l.server.next_cases strtod event with same | step
      · rw [same]
        exact .inl h
      · exact h.serverStep reachable owned (Bool.eq_false_of_not_eq_true other) step reachable'
  | deliver count => exact .inl (h.deliver reachable count)
  | send command fields => exact .inr ⟨_, .send command fields, h.send command fields⟩
  | read chunks =>
    by_cases can : l.canReceive c chunks = true
    · exact .inr ⟨_, .read chunks, h.read reachable can⟩
    · left
      show Refines c (l.read c chunks) o
      unfold OperatorLink.read
      split
      · exact h
      · rw [if_neg can]
        exact h
  | take chunks =>
    by_cases can : l.canReceive c chunks = true
    · exact .inr ⟨_, .take chunks, h.take reachable can⟩
    · left
      show Refines c (l.take c chunks) o
      unfold OperatorLink.take
      rw [if_neg fun both => can both.2]
      exact h

/-! ## Runs -/

/-- The server is changed by its own steps only. -/
theorem server_next (l : OperatorLink) (c : Nat) (strtod : Bytes → StrtodResult)
    (event : LinkEvent) : (l.next c strtod event).server = l.server ∨
      ∃ step, (l.next c strtod event).server = l.server.next strtod step := by
  cases event with
  | server event =>
    unfold OperatorLink.next
    dsimp only
    split
    · exact .inl rfl
    · exact .inr ⟨event, rfl⟩
  | deliver count =>
    show (l.deliver c strtod count).server = l.server ∨
      ∃ step, (l.deliver c strtod count).server = l.server.next strtod step
    unfold OperatorLink.deliver
    split
    · exact .inr ⟨_, rfl⟩
    · exact .inl rfl
  | send command fields =>
    left
    show (l.send command fields).server = _
    unfold OperatorLink.send
    split <;> rfl
  | read chunks =>
    left
    show (l.read c chunks).server = _
    unfold OperatorLink.read
    split
    · rfl
    · split
      · split <;> rfl
      · rfl
  | take chunks =>
    left
    show (l.take c chunks).server = _
    unfold OperatorLink.take
    split
    · split <;> rfl
    · rfl

theorem reachable_next
    (reachable : (threadsMachine strtod startedAt bootId).Reachable l.server)
    (event : LinkEvent) :
    (threadsMachine strtod startedAt bootId).Reachable (l.next c strtod event).server := by
  rcases l.server_next c strtod event with same | ⟨step, same⟩
  · exact same ▸ reachable
  · exact same ▸ reachable.exec [step]

theorem reachable_exec
    (reachable : (threadsMachine strtod startedAt bootId).Reachable l.server)
    (events : List LinkEvent) : (threadsMachine strtod startedAt bootId).Reachable
      ((linkMachine strtod startedAt bootId c).exec l events).server :=
  Machine.exec_preserves (M := linkMachine strtod startedAt bootId c)
    (P := fun l => (threadsMachine strtod startedAt bootId).Reachable l.server)
    (fun _ event reachable => reachable_next reachable event) reachable events

/-- The descriptor of the connection was its descriptor before. -/
theorem owned_before (reachable : (threadsMachine strtod startedAt bootId).Reachable l.server)
    {fd : ClientFd} {event : LinkEvent} (owned : Owned c fd (l.next c strtod event)) :
    Owned c fd l := by
  intro t thread
  rcases l.server_next c strtod event with same | ⟨step, same⟩
  · exact owned t (same ▸ thread)
  · have linked := ServerThreads.linked_reachable reachable
    obtain ⟨t', thread', same_fd⟩ : ∃ t', (l.server.next strtod step).threads c = some t' ∧
      t'.fd = t.fd := ServerThreads.fd_next linked thread
    exact same_fd ▸ owned t' (same ▸ thread')

/-- A run in which the connection has the descriptor at the end has it in every state. -/
theorem along_owned (reachable : (threadsMachine strtod startedAt bootId).Reachable l.server)
    {fd : ClientFd} {events : List LinkEvent}
    (owned : Owned c fd ((linkMachine strtod startedAt bootId c).exec l events)) :
    Owned c fd l ∧
      (linkMachine strtod startedAt bootId c).Along (fun l _ => Owned c fd l) l events := by
  induction events generalizing l with
  | nil => exact ⟨owned, trivial⟩
  | cons event events ih =>
    obtain ⟨next, along⟩ := ih (reachable_next reachable event) owned
    have here := owned_before reachable next
    exact ⟨here, here, along⟩

/-- There is one descriptor that the connection has, if it was accepted. -/
theorem exists_owned (l : OperatorLink) (c : Nat) : ∃ fd, Owned c fd l := by
  cases thread : l.server.threads c with
  | none => exact ⟨⟨1, Nat.one_ne_zero⟩, fun t some => absurd (thread.symm.trans some) (by simp)⟩
  | some t => exact ⟨t.fd, fun t' some => congrArg _ (Option.some.inj (some.symm.trans thread))⟩

theorem refines_init :
    Refines c (linkMachine strtod startedAt bootId c).init
      ⟨.fresh, [], [], none, false, [], [], [], []⟩ :=
  ⟨rfl, rfl, rfl, rfl, rfl, rfl, rfl, rfl, Nat.zero_le _, rfl, List.forall_mem_nil _, fun _ => rfl⟩

/-- The server and the operator of one of its connections, up to the end of the stream and as long
as every `sendall` succeeds, go through nothing but a session. -/
theorem link_refines (strtod : Bytes → StrtodResult) (startedAt bootId : Long) (c : Nat)
    (events : List LinkEvent) :
    let M := linkMachine strtod startedAt bootId c
    let l := M.exec M.init events
    ∃ fd, Owned c fd l ∧ ∃ steps,
      Refines c l ((operatorMachine strtod startedAt bootId fd).exec
        (operatorMachine strtod startedAt bootId fd).init steps) := by
  intro M l
  obtain ⟨fd, owned⟩ := exists_owned l c
  obtain ⟨-, along⟩ := along_owned (Machine.Reachable.init _) owned
  refine ⟨fd, owned, ?_⟩
  let A := operatorMachine strtod startedAt bootId fd
  let R : OperatorLink → OperatorSession → Prop := fun l o =>
    (threadsMachine strtod startedAt bootId).Reachable l.server ∧ Refines c l o
  have step : ∀ l event o, R l o → Owned c fd l →
      ∃ ks, Machine.Matched A (fun _ _ => True) R o (M.step l event).2 ks := by
    rintro l event o ⟨reachable, refines⟩ owned
    have reachable' := reachable_next (c := c) reachable event
    rcases refines.next reachable owned event with same | ⟨step, -, moved⟩
    · exact ⟨[], .stutter ⟨reachable', same⟩⟩
    · exact ⟨[step], .one trivial ⟨reachable', moved⟩⟩
  obtain ⟨steps, matched⟩ := along.simulated step ⟨Machine.Reachable.init _, refines_init⟩
  exact ⟨steps, matched.related.2⟩

end OperatorLink

end Telep
