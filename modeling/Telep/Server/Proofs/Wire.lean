import Telep.Server.Proofs.Progress

/-!
# What a connection carries

A client receives the beginning of a stream of whole frames, one block of its thread after the
other, and nothing after a send has failed. Alerts reach only the connection that they were queued
for, although descriptors are used again as soon as they are closed.
-/

namespace Telep

namespace ServerThreads

section Runs

variable {strtod : Bytes → StrtodResult} {startedAt bootId : Long} {s s' : ServerThreads} {c : Nat}
  {t t' : ClientThread}

/-- A thread goes on producing after what it has produced. -/
theorem lines_exec (linked : s.Linked) (thread : s.threads c = some t)
    (events : List ThreadEvent) :
    ∃ t', ((threadsMachine strtod startedAt bootId).exec s events).threads c = some t' ∧
      t.lines <+: t'.lines := by
  refine (Machine.exec_preserves (M := threadsMachine strtod startedAt bootId)
    (P := fun s' => s'.Linked ∧ ∃ t', s'.threads c = some t' ∧ t.lines <+: t'.lines) ?_
    ⟨linked, t, thread, List.prefix_refl _⟩ events).2
  intro s₁ event all
  apply preserves_next (P := fun s' => s'.Linked ∧ ∃ t', s'.threads c = some t' ∧
    t.lines <+: t'.lines) all
  intro s₂ step
  obtain ⟨linked, t₁, thread, grown⟩ := all
  obtain ⟨t₂, thread', -⟩ := delivers_step linked thread step
  refine ⟨linked.step step, t₂, thread', ?_⟩
  rcases step_view linked thread step with ⟨owner, -, effect⟩ | bystander
  · exact grown.trans (effect.lines_prefix thread')
  · obtain rfl : t₁ = t₂ := Option.some.inj (bystander.thread.symm.trans thread')
    exact grown

/-- After a send has failed the stream of the connection ends where it was. -/
theorem failed_send_exec (linked : s.Linked) (fits : s.countersFit = true)
    (thread : s.threads c = some t) (sends : t.point.sending ≠ none) (events : List ThreadEvent) :
    (((threadsMachine strtod startedAt bootId).exec
      (s.next strtod (.owner c (.send .failed))) events).sockets c).wire = (s.sockets c).wire := by
  obtain ⟨⟨buffer, after⟩, sending⟩ := Option.ne_none_iff_exists'.mp sends
  have step : s.step strtod (.owner c (.send .failed)) =
      some ((s.shutdown t.fd.val).moveTo c t (after none)) := by
    simp only [ServerThreads.step, thread, Option.bind_some, ownerStep, sending, sendRound,
      Option.map_some]
  have fits' : ((s.shutdown t.fd.val).moveTo c t (after none)).countersFit = true := by
    simpa only [countersFit, moveTo, setThread, shutdown_state] using fits
  have effect : OwnerEffect s c t (.send .failed) ((s.shutdown t.fd.val).moveTo c t (after none)) :=
    .failed buffer after sending
  obtain ⟨shut, wire⟩ := effect.failed_shuts linked thread
  rw [next_eq step fits', ← wire]
  exact shut_exec (linked.step step) (Function.update_self _ _ _) shut events

/-- What the client of a connection receives. -/
structure StreamOfFrames (s : ServerThreads) (c : Nat) (t : ClientThread) : Prop where
  /-- The beginning of the frames of the blocks. -/
  begun : (s.sockets c).wire <+: frames lineFeed (t.blocks.flatMap Block.lines)
  /-- Nothing is missing but what the thread is about to send, unless the connection is shut. -/
  whole : (s.sockets c).isShut = false →
    (s.sockets c).wire ++ t.point.unsent = frames lineFeed (t.blocks.flatMap Block.lines)
  /-- A block is one alert or the whole reply to a frame. -/
  blocks : ∀ block ∈ t.blocks, (∃ alert ∈ s.broadcasted, block = .alert (formatAlert alert)) ∨
    ∃ frame lines, block = .reply frame lines ∧ ReplyShape lines
  /-- The line feeds are the ends of the frames. -/
  marks : ∀ block ∈ t.blocks, ∀ line ∈ block.lines, lineFeed ∉ line

/-- The stream of a connection, and what a failed send does to it. -/
theorem stream_of_frames (strtod : Bytes → StrtodResult) (startedAt bootId : Long)
    (s : ServerThreads) (reachable : (threadsMachine strtod startedAt bootId).Reachable s)
    (c : Nat) (t : ClientThread) (thread : s.threads c = some t) :
    s.StreamOfFrames c t ∧
      (∀ events, ∃ t', ((threadsMachine strtod startedAt bootId).exec s events).threads c = some t' ∧
        t.blocks.flatMap Block.lines <+: t'.blocks.flatMap Block.lines) ∧
      (t.point.sending ≠ none → ∀ events, (((threadsMachine strtod startedAt bootId).exec
        (s.next strtod (.owner c (.send .failed))) events).sockets c).wire =
          (s.sockets c).wire) := by
  have linked := linked_reachable reachable
  have streamed := streamed_reachable reachable thread
  have blocks := blocks_reachable reachable thread
  refine ⟨⟨streamed.begun, streamed.whole, ?_, ?_⟩, lines_exec linked thread,
    failed_send_exec linked (countersFit_reachable reachable) thread⟩
  · intro block member
    rcases blocks block member with pushed | ⟨frame, lines, reply, shape, -⟩
    · exact .inl pushed
    · exact .inr ⟨frame, lines, reply, shape⟩
  · intro block member line listed
    rcases blocks block member with ⟨alert, known, rfl⟩ | ⟨frame, lines, rfl, shape, -⟩
    · have shown := raised_shown reachable alert (List.mem_append_left _ known)
      rw [List.mem_singleton.mp listed]
      exact (formatAlert_printable shown).not_mem_lineFeed
    · exact (shape.fits line listed).printable.not_mem_lineFeed

/-! A part of the reply to `BYE` is sent, and then a send fails. -/

def cutEvents : List ThreadEvent := byeEvents ++ [.owner 0 (.send (.taken 4))]

def cutThread : ClientThread := { byeThread with point := .replying true (ascii "YE" ++ [10]) [] }

theorem stream_of_frames_sample :
    ∃ s, (threadsMachine strtodDigits ⟨7, by decide⟩ ⟨1, by decide⟩).exec
        (threadsInit ⟨7, by decide⟩ ⟨1, by decide⟩) cutEvents = s ∧
      (s.sockets 0).wire = frames lineFeed [ascii "ERR|100|BAD_FORMAT"] ++ ascii "OK|B" ∧
      s.StreamOfFrames 0 cutThread ∧
      ∀ events, (((threadsMachine strtodDigits ⟨7, by decide⟩ ⟨1, by decide⟩).exec
        (s.next strtodDigits (.owner 0 (.send .failed))) events).sockets 0).wire =
          (s.sockets 0).wire := by
  have run : ((threadsMachine strtodDigits ⟨7, by decide⟩ ⟨1, by decide⟩).exec
        (threadsInit ⟨7, by decide⟩ ⟨1, by decide⟩) cutEvents).threads 0 = some cutThread ∧
      (((threadsMachine strtodDigits ⟨7, by decide⟩ ⟨1, by decide⟩).exec
        (threadsInit ⟨7, by decide⟩ ⟨1, by decide⟩) cutEvents).sockets 0).wire =
          frames lineFeed [ascii "ERR|100|BAD_FORMAT"] ++ ascii "OK|B" := by
    decide +kernel
  generalize reached : (threadsMachine strtodDigits ⟨7, by decide⟩ ⟨1, by decide⟩).exec
    (threadsInit ⟨7, by decide⟩ ⟨1, by decide⟩) cutEvents = s at run
  obtain ⟨stream, -, failed⟩ := stream_of_frames strtodDigits ⟨7, by decide⟩ ⟨1, by decide⟩ s
    ⟨cutEvents, reached⟩ 0 cutThread run.1
  exact ⟨s, rfl, run.2, stream, failed (Option.some_ne_none _)⟩

/-! ## Descriptors that are used again -/

/-- A descriptor in a slot is that of an open connection, and its thread added it. -/
def SlotsOwned (s : ServerThreads) : Prop :=
  ∀ i, (s.subscribers.slots i).fd ≠ 0 → ∃ c t, s.addedBy i = some c ∧ s.threads c = some t ∧
    t.fd.val = (s.subscribers.slots i).fd ∧ t.point.serves = true ∧
    s.descriptors (s.subscribers.slots i).fd = some c

theorem slotsOwned_reachable (reachable : (threadsMachine strtod startedAt bootId).Reachable s) :
    s.SlotsOwned := by
  have linked := linked_reachable reachable
  intro i used
  obtain ⟨c, t, added, thread, fd, serves⟩ := linked.added i used
  have open_fd := linked.owns c t thread (ServePoint.ne_closed serves)
  exact ⟨c, t, added, thread, fd, serves, fd ▸ open_fd⟩

/-- A descriptor that a broadcast shuts down is open, and its connection has the slot. -/
theorem broadcast_open (owned : s.SlotsOwned) (alert : Alert) {fd : Nat}
    (member : fd ∈ (subscribersBroadcast s.subscribers alert).1) :
    ∃ i c t, (s.subscribers.slots i).fd = fd ∧ s.addedBy i = some c ∧ s.threads c = some t ∧
      t.fd.val = fd ∧ s.descriptors fd = some c := by
  simp only [subscribersBroadcast, List.mem_map, List.mem_filter] at member
  obtain ⟨i, ⟨-, full⟩, rfl⟩ := member
  simp only [Subscriber.isCut, decide_eq_true_eq] at full
  obtain ⟨c, t, added, thread, fd, -, open_fd⟩ := owned i full.1
  exact ⟨i, c, t, rfl, added, thread, fd, open_fd⟩

/-- A connection that a broadcast shuts down has the slot. -/
theorem broadcast_cuts (owned : s.SlotsOwned) (step : s.broadcast = some s') {d : Nat}
    (before : (s.sockets d).isShut = false) (after : (s'.sockets d).isShut = true) :
    ∃ i, (s.subscribers.slots i).fd ≠ 0 ∧ s.addedBy i = some d := by
  obtain ⟨alert, newAlerts, -, rfl⟩ := broadcast_eq_some step
  dsimp only at after
  split at after
  · next cut =>
    obtain ⟨fd, member, descriptor⟩ := List.any_eq_true.mp cut
    obtain ⟨i, c, t, slot, added, -, fd_eq, open_fd⟩ := broadcast_open owned alert member
    obtain rfl : c = d := Option.some.inj (open_fd.symm.trans (of_decide_eq_true descriptor))
    refine ⟨i, ?_, added⟩
    rw [slot, ← fd_eq]
    exact t.fd.property
  · rw [before] at after
    cases after

/-- What the descriptors in the slots stand for, and whom the alerts reach. -/
structure DescriptorsOwned (s : ServerThreads) : Prop where
  slots : s.SlotsOwned
  /-- A broadcast shuts down no closed descriptor. -/
  opened : ∀ alert, ∀ fd ∈ (subscribersBroadcast s.subscribers alert).1,
    ∃ i c t, (s.subscribers.slots i).fd = fd ∧ s.addedBy i = some c ∧ s.threads c = some t ∧
      t.fd.val = fd ∧ s.descriptors fd = some c
  /-- A broadcast shuts down no connection that did not add a slot. -/
  cuts : ∀ s', s.broadcast = some s' → ∀ d, (s.sockets d).isShut = false →
    (s'.sockets d).isShut = true →
      ∃ i, (s.subscribers.slots i).fd ≠ 0 ∧ s.addedBy i = some d
  /-- A broadcast queues its line for the connection that added the slot. -/
  queues : ∀ d, ∀ i ∈ s.queueingSlots d, s.addedBy i = some d
  /-- A connection is sent only alerts that were queued for it. -/
  pushed : ∀ c t, s.threads c = some t →
    (pushedLines t.blocks).Sublist (s.queuedFor c) ∧
      (s.sockets c).wire <+: frames lineFeed (t.blocks.flatMap Block.lines)
  /-- `shutdown` on the descriptor of a thread that has not closed it is on its connection. -/
  owns : ∀ c t, s.threads c = some t → t.point ≠ .closed → s.descriptors t.fd.val = some c

/-- No interleaving lets a slot outlive its connection. -/
theorem descriptors_owned (strtod : Bytes → StrtodResult) (startedAt bootId : Long)
    (events : List ThreadEvent) :
    ((threadsMachine strtod startedAt bootId).exec (threadsInit startedAt bootId)
      events).DescriptorsOwned := by
  generalize reached : (threadsMachine strtod startedAt bootId).exec
    (threadsInit startedAt bootId) events = s
  have reachable : (threadsMachine strtod startedAt bootId).Reachable s := ⟨events, reached⟩
  obtain ⟨linked, queued⟩ := queued_reachable reachable
  have owned := slotsOwned_reachable reachable
  refine ⟨owned, fun alert fd => broadcast_open owned alert,
    fun s' step d => broadcast_cuts owned step, ?_, ?_, linked.owns⟩
  · intro d i member
    simp only [queueingSlots, List.mem_filter, decide_eq_true_eq] at member
    obtain ⟨c, t, added, -, -, -, open_fd⟩ := owned i member.2.1
    rw [member.2.2.2] at open_fd
    exact open_fd ▸ added
  · intro c t thread
    have sublist := queued.sublist c t thread
    exact ⟨(List.sublist_append_left _ _).trans sublist,
      (streamed_reachable reachable thread).begun⟩

end Runs

end ServerThreads

end Telep
