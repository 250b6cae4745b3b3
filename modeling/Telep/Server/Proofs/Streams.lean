import Telep.Server.Proofs.PushedAlerts

/-!
# The stream of a connection

What `send` took of a connection, followed by what its owner has begun to send, are the frames of
the owner's blocks; after a shutdown the stream ends where it was, and what the owner goes on to
produce is lost.
-/

namespace Telep

/-- The lines of a thread, in the order in which it produced them. -/
def ClientThread.lines (t : ClientThread) : List Bytes := t.blocks.flatMap Block.lines

theorem nextReply_unsent (closes : Bool) (lines : List Bytes) :
    (nextReply closes lines).unsent = frames lineFeed lines := by
  cases lines with
  | nil => cases closes <;> rfl
  | cons line lines => simp [nextReply, ServePoint.unsent, frameOf]

/-- What a round of `send_full_buffer` leaves of its buffer, before what follows the buffer. -/
theorem ServePoint.sending_unsent {point : ServePoint} {buffer : Bytes}
    {after : Option Bytes → ServePoint} (h : point.sending = some (buffer, after)) :
    ∃ rest, point.unsent = buffer ++ rest ∧ ∀ left, (after (some left)).unsent = left ++ rest := by
  cases point with
  | pushing rounds buffer =>
    cases h
    refine ⟨[], (List.append_nil _).symm, fun left => ?_⟩
    cases left with
    | nil => rfl
    | cons byte left => exact (List.append_nil _).symm
  | replying closes buffer lines =>
    cases h
    refine ⟨frames lineFeed lines, rfl, fun left => ?_⟩
    cases left with
    | nil => exact nextReply_unsent closes lines
    | cons byte left => rfl
  | _ => cases h

theorem Moves.unsent {event : OwnerEvent} {point point' : ServePoint}
    (moves : Moves event point point') : point.unsent = [] ∧ point'.unsent = [] := by
  cases moves <;> exact ⟨rfl, rfl⟩

namespace ServerThreads

/-- The stream of a connection. -/
structure Streamed (s : ServerThreads) (c : Nat) (t : ClientThread) : Prop where
  whole : (s.sockets c).isShut = false →
    (s.sockets c).wire ++ t.point.unsent = frames lineFeed t.lines
  begun : (s.sockets c).wire <+: frames lineFeed t.lines

section Steps

variable {strtod : Bytes → StrtodResult} {startedAt bootId : Long} {s s' : ServerThreads} {c : Nat}
  {t t' : ClientThread} {event : OwnerEvent}

/-- Everything that the thread produced was taken by `send` or is about to be. -/
def Whole (s : ServerThreads) (c : Nat) (t : ClientThread) : Prop :=
  (s.sockets c).wire ++ t.point.unsent = frames lineFeed t.lines

/-- A stream whose parts are all there begins as it should. -/
theorem Streamed.of_whole (whole : s.Whole c t) : s.Streamed c t := ⟨fun _ => whole, ⟨_, whole⟩⟩

/-- The thread goes on where it sends nothing, or begins to send the lines of a block. -/
theorem Whole.goesOn (whole : s.Whole c t) (wire : (s'.sockets c).wire = (s.sockets c).wire)
    (lines : List Bytes) (idle : t.point.unsent = [])
    (begins : t'.point.unsent = frames lineFeed lines) (produced : t'.lines = t.lines ++ lines) :
    s'.Whole c t' := by
  unfold Whole at whole ⊢
  rw [idle, List.append_nil] at whole
  rw [wire, whole, begins, produced, frames_append]

theorem lines_produce (block : Block) (point : ServePoint) :
    ClientThread.lines { t with point := point, blocks := t.blocks ++ [block] } =
      t.lines ++ block.lines := by
  simp [ClientThread.lines]

/-- The blocks of a thread only grow. -/
theorem OwnerEffect.lines_prefix (effect : OwnerEffect s c t event s')
    (thread' : s'.threads c = some t') : t.lines <+: t'.lines := by
  have becomes {u : ClientThread} (new : s'.threads c = some u) : t' = u :=
    Option.some.inj (thread'.symm.trans new)
  cases effect with
  | pushed rounds at_round line subscribers effect nonempty short =>
    obtain rfl := becomes (Function.update_self _ _ _)
    exact ⟨_, (lines_produce (.alert line) _).symm⟩
  | received readings d line rest waits descriptor reads result serves =>
    obtain rfl := becomes (Function.update_self _ _ _)
    exact ⟨_, (lines_produce (.reply _ result.reply) _).symm⟩
  | _ =>
    obtain rfl := becomes (Function.update_self _ _ _)
    exact List.prefix_refl _

/-- Only a failed send loses bytes. -/
theorem OwnerEffect.whole (effect : OwnerEffect s c t event s') (linked : s.Linked)
    (thread : s.threads c = some t) (thread' : s'.threads c = some t')
    (succeeds : event ≠ .send .failed) (whole : s.Whole c t) : s'.Whole c t' := by
  have becomes {u : ClientThread} (new : s'.threads c = some u) : t' = u :=
    Option.some.inj (thread'.symm.trans new)
  cases effect with
  | move point moves =>
    obtain rfl := becomes (Function.update_self _ _ _)
    exact whole.goesOn rfl [] moves.unsent.1 moves.unsent.2 (List.append_nil _).symm
  | close idle =>
    obtain rfl := becomes (Function.update_self _ _ _)
    have unsent : t.point.unsent = [] := by
      rcases idle with ⟨-, point⟩ | ⟨-, point⟩ <;> rw [point] <;> rfl
    exact whole.goesOn rfl [] unsent rfl (List.append_nil _).symm
  | drained rounds at_round line subscribers effect point stops =>
    obtain rfl := becomes (Function.update_self _ _ _)
    have unsent : point.unsent = [] := by rcases stops with ⟨-, rfl⟩ | ⟨-, rfl⟩ <;> rfl
    exact whole.goesOn rfl [] (by rw [at_round]; rfl) unsent (List.append_nil _).symm
  | pushed rounds at_round line subscribers effect nonempty short =>
    obtain rfl := becomes (Function.update_self _ _ _)
    exact whole.goesOn rfl [line] (by rw [at_round]; rfl)
      (by simp [ServePoint.unsent, frameOf]) (lines_produce (.alert line) _)
  | sent count d buffer after sending descriptor up count_pos count_le =>
    obtain rfl := becomes (Function.update_self _ _ _)
    obtain rfl : c = d := Option.some.inj ((linked.owns c t thread
      (ServePoint.ne_closed (ServePoint.sending_serves sending).1)).symm.trans descriptor)
    obtain ⟨rest, unsent, left⟩ := ServePoint.sending_unsent sending
    unfold Whole at whole ⊢
    simp only [moveTo, ServerThreads.setThread, ServerThreads.setSocket, Function.update_self, left]
    rw [unsent, ← List.take_append_drop count buffer, List.append_assoc] at whole
    rw [List.append_assoc]
    exact whole
  | again buffer after sending =>
    obtain rfl := becomes (Function.update_self _ _ _)
    obtain ⟨rest, unsent, left⟩ := ServePoint.sending_unsent sending
    unfold Whole at whole ⊢
    rw [left, ← unsent]
    exact whole
  | failed buffer after sending => exact absurd rfl succeeds
  | received readings d line rest waits descriptor reads result serves =>
    obtain rfl := becomes (Function.update_self _ _ _)
    obtain rfl : c = d := Option.some.inj ((linked.owns c t thread
      (by simp [waits])).symm.trans descriptor)
    apply whole.goesOn _ result.reply (by rw [waits]; rfl) (nextReply_unsent _ _)
      (lines_produce (.reply _ result.reply) _)
    simp [produce, ServerThreads.setThread, ServerThreads.sharing, ServerThreads.setSocket]
  | removed ends =>
    obtain rfl := becomes (Function.update_self _ _ _)
    exact whole.goesOn rfl [] (by rw [ends]; rfl) rfl (List.append_nil _).symm

/-- A failed send shuts the connection down. -/
theorem OwnerEffect.failed_shuts (effect : OwnerEffect s c t (.send .failed) s') (linked : s.Linked)
    (thread : s.threads c = some t) :
    (s'.sockets c).isShut = true ∧ (s'.sockets c).wire = (s.sockets c).wire := by
  cases effect with
  | failed buffer after sending =>
    have descriptor := linked.owns c t thread
      (ServePoint.ne_closed (ServePoint.sending_serves sending).1)
    simp [moveTo, ServerThreads.setThread, ServerThreads.shutdown, descriptor,
      ServerThreads.setSocket]
  | move point moves => cases moves
  | close idle => rcases idle with ⟨other, -⟩ | ⟨other, -⟩ <;> cases other

theorem OwnerEffect.streamed (effect : OwnerEffect s c t event s') (linked : s.Linked)
    (thread : s.threads c = some t) (thread' : s'.threads c = some t') (h : s.Streamed c t) :
    s'.Streamed c t' := by
  have same (wire : (s'.sockets c).wire = (s.sockets c).wire)
      (shut : (s'.sockets c).isShut = true) : s'.Streamed c t' := by
    obtain ⟨more, lines⟩ := effect.lines_prefix thread'
    refine ⟨fun up => absurd (shut.symm.trans up) Bool.true_eq_false.mp, ?_⟩
    rw [wire, ← lines, frames_append]
    exact h.begun.trans (List.prefix_append _ _)
  cases up : (s.sockets c).isShut with
  | true =>
    obtain ⟨shut, wire⟩ := effect.shut c up
    exact same wire shut
  | false =>
    by_cases succeeds : event = .send .failed
    · subst succeeds
      obtain ⟨shut, wire⟩ := effect.failed_shuts linked thread
      exact same wire shut
    · exact .of_whole (effect.whole linked thread thread' succeeds (h.whole up))

/-- The other threads add nothing to the stream. -/
theorem Bystander.whole (bystander : s.Bystander s' c t) (whole : s.Whole c t) : s'.Whole c t := by
  unfold Whole
  rw [bystander.wire]
  exact whole

theorem Streamed.step {event : ThreadEvent} (h : s.Streamed c t) (linked : s.Linked)
    (thread : s.threads c = some t) (thread' : s'.threads c = some t')
    (step : s.step strtod event = some s') : s'.Streamed c t' := by
  rcases step_view linked thread step with ⟨owner, -, effect⟩ | bystander
  · exact effect.streamed linked thread thread' h
  · obtain rfl : t = t' := Option.some.inj (bystander.thread.symm.trans thread')
    refine ⟨?_, bystander.wire ▸ h.begun⟩
    intro up
    apply bystander.whole
    apply h.whole
    simpa using mt bystander.shut (by simp [up])

theorem Newborn.whole (new : s.Newborn c t) : s.Whole c t := by
  unfold Whole
  rw [new.socket, new.point, ClientThread.lines, new.blocks]
  rfl

/-- Every connection of every run. -/
theorem streamed_reachable (h : (threadsMachine strtod startedAt bootId).Reachable s)
    (thread : s.threads c = some t) : s.Streamed c t :=
  connections_reachable (fun _ _ _ new => .of_whole new.whole)
    (fun _ _ _ _ _ _ reachable thread thread' step streamed =>
      streamed.step (linked_reachable reachable) thread thread' step) h thread

/-- A connection on which no send fails gets everything that its thread produces. -/
theorem whole_run (c : Nat) (events : List ThreadEvent)
    (succeed : ∀ event ∈ events, event ≠ .owner c (.send .failed)) {t : ClientThread}
    (thread : ((threadsMachine strtod startedAt bootId).exec (threadsInit startedAt bootId)
      events).threads c = some t) :
    ((threadsMachine strtod startedAt bootId).exec (threadsInit startedAt bootId)
      events).Whole c t := by
  refine connections_run (fun event => event ≠ .owner c (.send .failed))
    (P := fun s d t => d = c → s.Whole d t) ?_ ?_ events succeed c t thread rfl
  · intro s d t new _
    exact new.whole
  · intro s s' event d t t' reachable succeeds before after step whole same
    subst same
    have linked := linked_reachable reachable
    rcases step_view linked before step with ⟨owner, rfl, effect⟩ | bystander
    · apply effect.whole linked before after _ (whole rfl)
      rintro rfl
      exact succeeds rfl
    · obtain rfl : t = t' := Option.some.inj (bystander.thread.symm.trans after)
      exact bystander.whole (whole rfl)

/-- The stream of a connection that is shut down ends there. -/
theorem shut_exec (linked : s.Linked) (thread : s.threads c = some t)
    (shut : (s.sockets c).isShut = true) (events : List ThreadEvent) :
    ((((threadsMachine strtod startedAt bootId).exec s events)).sockets c).wire =
      (s.sockets c).wire := by
  refine (Machine.exec_preserves (M := threadsMachine strtod startedAt bootId)
    (P := fun s' => s'.Linked ∧ (∃ t, s'.threads c = some t) ∧ (s'.sockets c).isShut = true ∧
      (s'.sockets c).wire = (s.sockets c).wire) (fun s₁ event all => ?_)
    ⟨linked, ⟨t, thread⟩, shut, rfl⟩ events).2.2.2
  refine preserves_next (P := fun s' => s'.Linked ∧ (∃ t, s'.threads c = some t) ∧
    (s'.sockets c).isShut = true ∧ (s'.sockets c).wire = (s.sockets c).wire) all fun s₂ step => ?_
  obtain ⟨linked, ⟨t, thread⟩, shut, wire⟩ := all
  obtain ⟨t', thread', -⟩ := delivers_step linked thread step
  obtain ⟨shut', wire'⟩ := shut_step linked thread shut step
  exact ⟨linked.step step, ⟨t', thread'⟩, shut', wire'.trans wire⟩

end Steps

end ServerThreads

end Telep
