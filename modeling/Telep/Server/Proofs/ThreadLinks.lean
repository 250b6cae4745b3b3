import Telep.Misc.Frames
import Telep.Server.Proofs.Commands
import Telep.Server.Proofs.Subscriptions
import Telep.Server.ServerThreads

/-!
# Descriptors, connections and their threads

`OwnerEffect` says once what a step of a connection's thread can do. `Linked` is the invariant that
excludes a use after close: while a thread has not closed its descriptor, the descriptor stands for
its connection, and a descriptor in a slot is that of a thread between its start and
`subscribers_remove`.
-/

namespace Telep

/-- The points between the start of the thread and `subscribers_remove`. -/
def ServePoint.serves : ServePoint → Bool
  | .accepted => false
  | .removed => false
  | .closed => false
  | _ => true

/-- The bytes that the thread has begun to send and `send` has not taken. -/
def ServePoint.unsent : ServePoint → Bytes
  | .pushing _ rest => rest
  | .replying _ rest lines => rest ++ frames lineFeed lines
  | _ => []

theorem ServePoint.ne_closed {point : ServePoint} (h : point.serves = true) :
    point ≠ .closed := by
  rintro rfl
  cases h

theorem nextReply_serves (closes : Bool) (lines : List Bytes) :
    (nextReply closes lines).serves = true := by
  cases lines with
  | nil => cases closes <;> rfl
  | cons line lines => rfl

/-- A thread that sends serves, and so it does after a round. -/
theorem ServePoint.sending_serves {point : ServePoint} {buffer : Bytes}
    {after : Option Bytes → ServePoint} (h : point.sending = some (buffer, after)) :
    point.serves = true ∧ ∀ rest, (after rest).serves = true := by
  cases point with
  | pushing rounds rest =>
    cases h
    refine ⟨rfl, fun rest => ?_⟩
    match rest with
    | none => rfl
    | some [] => rfl
    | some (_ :: _) => rfl
  | replying closes rest lines =>
    cases h
    refine ⟨rfl, fun rest => ?_⟩
    match rest with
    | none => exact nextReply_serves closes lines
    | some [] => exact nextReply_serves closes lines
    | some (_ :: _) => rfl
  | _ => cases h

/-- The steps that concern no one else. -/
inductive Moves : OwnerEvent → ServePoint → ServePoint → Prop
  | start : Moves .start .accepted (.draining queueSize)
  | drained : Moves .drain (.draining 0) .waiting
  | idle : Moves .idle .waiting (.draining queueSize)
  | hangUp : Moves .hangUp .waiting .ending

theorem Moves.serves {event : OwnerEvent} {point point' : ServePoint}
    (moves : Moves event point point') : point ≠ .closed ∧ point'.serves = true := by
  cases moves <;> simp [ServePoint.serves]

namespace ServerThreads

/-- What a step of the thread of a connection does. -/
inductive OwnerEffect (s : ServerThreads) (c : Nat) (t : ClientThread) :
    OwnerEvent → ServerThreads → Prop
  | move {event : OwnerEvent} (point : ServePoint) (moves : Moves event t.point point) :
      OwnerEffect s c t event (s.moveTo c t point)
  | close {event : OwnerEvent}
      (idle : (event = .refuse ∧ t.point = .accepted) ∨ (event = .close ∧ t.point = .removed)) :
      OwnerEffect s c t event (s.closeFd c t)
  | drained (rounds : Nat) (at_round : t.point = .draining (rounds + 1)) (line : Bytes)
      (subscribers : Subscribers)
      (effect : Subscribers.DrainEffect s.subscribers t.fd.val line subscribers)
      (point : ServePoint)
      (stops : (line = [] ∧ point = .waiting) ∨ (maxLine ≤ line.length ∧ point = .ending)) :
      OwnerEffect s c t .drain
        (moveTo { s with subscribers := subscribers } c t point)
  | pushed (rounds : Nat) (at_round : t.point = .draining (rounds + 1)) (line : Bytes)
      (subscribers : Subscribers)
      (effect : Subscribers.DrainEffect s.subscribers t.fd.val line subscribers)
      (nonempty : line ≠ []) (short : line.length < maxLine) :
      OwnerEffect s c t .drain
        (produce { s with subscribers := subscribers } c t (.alert line)
          (.pushing rounds (frameOf line)))
  | sent (count d : Nat) (buffer : Bytes) (after : Option Bytes → ServePoint)
      (sending : t.point.sending = some (buffer, after))
      (descriptor : s.descriptors t.fd.val = some d) (up : (s.sockets d).isShut = false)
      (count_pos : 0 < count) (count_le : count ≤ buffer.length) :
      OwnerEffect s c t (.send (.taken count))
        ((s.setSocket d { s.sockets d with wire := (s.sockets d).wire ++ buffer.take count }).moveTo
          c t (after (some (buffer.drop count))))
  | again (buffer : Bytes) (after : Option Bytes → ServePoint)
      (sending : t.point.sending = some (buffer, after)) :
      OwnerEffect s c t (.send .again) (s.moveTo c t (after (some buffer)))
  | failed (buffer : Bytes) (after : Option Bytes → ServePoint)
      (sending : t.point.sending = some (buffer, after)) :
      OwnerEffect s c t (.send .failed) ((s.shutdown t.fd.val).moveTo c t (after none))
  | received (readings : TimeReadings) (d : Nat) (line : ReceivedLine) (rest : Bytes)
      (waits : t.point = .waiting) (descriptor : s.descriptors t.fd.val = some d)
      (reads : receiveTextLine (s.sockets d).incoming maxLine = some (line, rest))
      (result : CommandResult)
      (serves : serveLine s.toServerState t.fd readings.val line = result) :
      OwnerEffect s c t (.receive readings)
        (((s.setSocket d { s.sockets d with incoming := rest }).sharing c result.state).produce c t
          (.reply ((s.sockets d).incoming.takeWhile (· ≠ lineFeed)) result.reply)
          (nextReply result.closes result.reply))
  | removed (ends : t.point = .ending) :
      OwnerEffect s c t .remove
        { s.moveTo c t .removed with subscribers := subscribersRemove s.subscribers t.fd.val }

theorem ownerStep_effect {s s' : ServerThreads} {c : Nat} {t : ClientThread} {event : OwnerEvent}
    (h : s.ownerStep c t event = some s') : OwnerEffect s c t event s' := by
  cases event with
  | start =>
    simp only [ownerStep, Option.ite_none_right_eq_some, Option.some.injEq] at h
    obtain ⟨point, rfl⟩ := h
    exact .move _ (point ▸ .start)
  | refuse =>
    simp only [ownerStep, Option.ite_none_right_eq_some, Option.some.injEq] at h
    obtain ⟨point, rfl⟩ := h
    exact .close (.inl ⟨rfl, point⟩)
  | drain =>
    simp only [ownerStep] at h
    split at h
    · next point =>
      obtain rfl := Option.some.inj h
      exact .move _ (point ▸ .drained)
    · next rounds point =>
      obtain rfl := Option.some.inj h
      have effect := Subscribers.drain_effect s.subscribers t.fd.val
      unfold drainRound
      dsimp only
      split_ifs with empty long
      · exact .drained rounds point _ _ effect _ (.inl ⟨empty, rfl⟩)
      · exact .drained rounds point _ _ effect _ (.inr ⟨long, rfl⟩)
      · exact .pushed rounds point _ _ effect empty (not_le.mp long)
    · cases h
  | send outcome =>
    simp only [ownerStep] at h
    cases sending : t.point.sending with
    | none => simp [sending] at h
    | some pair =>
      obtain ⟨buffer, after⟩ := pair
      simp only [sending, Option.map_eq_some_iff] at h
      obtain ⟨⟨rest, s₁⟩, round, rfl⟩ := h
      cases outcome with
      | taken count =>
        simp only [sendRound] at round
        cases descriptor : s.descriptors t.fd.val with
        | none => simp [descriptor] at round
        | some d =>
          simp only [descriptor, Option.ite_none_right_eq_some, Option.some.injEq,
            Prod.mk.injEq] at round
          obtain ⟨⟨up, pos, le⟩, rfl, rfl⟩ := round
          exact .sent count d buffer after sending descriptor up pos le
      | again =>
        obtain ⟨rfl, rfl⟩ := Prod.mk.inj (Option.some.inj round)
        exact .again buffer after sending
      | failed =>
        obtain ⟨rfl, rfl⟩ := Prod.mk.inj (Option.some.inj round)
        exact .failed buffer after sending
  | idle =>
    simp only [ownerStep, Option.ite_none_right_eq_some, Option.some.injEq] at h
    obtain ⟨point, rfl⟩ := h
    exact .move _ (point ▸ .idle)
  | receive readings =>
    simp only [ownerStep, Option.ite_none_right_eq_some, Option.bind_eq_some_iff] at h
    obtain ⟨point, d, descriptor, h⟩ := h
    unfold receiveLine at h
    cases reads : receiveTextLine (s.sockets d).incoming maxLine with
    | none => simp [reads] at h
    | some pair =>
      obtain ⟨line, rest⟩ := pair
      simp only [reads, Option.some.injEq] at h
      subst h
      exact .received readings d line rest point descriptor reads _ rfl
  | hangUp =>
    simp only [ownerStep, Option.ite_none_right_eq_some, Option.some.injEq] at h
    obtain ⟨point, rfl⟩ := h
    exact .move _ (point ▸ .hangUp)
  | remove =>
    simp only [ownerStep, Option.ite_none_right_eq_some, Option.some.injEq] at h
    obtain ⟨point, rfl⟩ := h
    exact .removed point
  | close =>
    simp only [ownerStep, Option.ite_none_right_eq_some, Option.some.injEq] at h
    obtain ⟨point, rfl⟩ := h
    exact .close (.inr ⟨rfl, point⟩)

/-! ## The invariant -/

/-- Threads, descriptors and slots agree. -/
structure Linked (s : ServerThreads) : Prop where
  fresh : ∀ c, s.accepted ≤ c → s.threads c = none
  owns : ∀ c t, s.threads c = some t → t.point ≠ .closed → s.descriptors t.fd.val = some c
  owned : ∀ fd c, s.descriptors fd = some c →
    ∃ t, s.threads c = some t ∧ t.fd.val = fd ∧ t.point ≠ .closed
  sound : s.subscribers.Sound
  added : ∀ i, (s.subscribers.slots i).fd ≠ 0 →
    ∃ c t, s.addedBy i = some c ∧ s.threads c = some t ∧
      t.fd.val = (s.subscribers.slots i).fd ∧ t.point.serves = true

section Steps

variable {s s' : ServerThreads} {c : Nat} {t t' : ClientThread}

/-- A thread keeps its descriptor, and serves if it has a slot. -/
theorem Linked.setThread (h : s.Linked) (thread : s.threads c = some t) (fd : t'.fd = t.fd)
    (alive : t.point ≠ .closed) (alive' : t'.point ≠ .closed)
    (serves : (∃ i, (s.subscribers.slots i).fd = t.fd.val) → t'.point.serves = true) :
    (s.setThread c t').Linked where
  fresh d le := by
    have other : d ≠ c := by
      rintro rfl
      rw [h.fresh d le] at thread
      cases thread
    exact (Function.update_of_ne other _ _).trans (h.fresh d le)
  owns d u hu hp := by
    by_cases same : d = c
    · subst same
      obtain rfl : t' = u := by simpa [ServerThreads.setThread] using hu
      exact fd ▸ h.owns d t thread alive
    · exact h.owns d u ((Function.update_of_ne same _ _).symm.trans hu) hp
  owned fd' d hd := by
    obtain ⟨u, hu, hfd, hp⟩ := h.owned fd' d hd
    by_cases same : d = c
    · subst same
      obtain rfl : t = u := Option.some.inj (thread.symm.trans hu)
      exact ⟨t', Function.update_self _ _ _, fd ▸ hfd, alive'⟩
    · exact ⟨u, (Function.update_of_ne same _ _).trans hu, hfd, hp⟩
  sound := h.sound
  added i used := by
    obtain ⟨d, u, by_d, hu, hfd, hs⟩ := h.added i used
    by_cases same : d = c
    · subst same
      obtain rfl : t = u := Option.some.inj (thread.symm.trans hu)
      exact ⟨d, t', by_d, Function.update_self _ _ _, fd ▸ hfd, serves ⟨i, hfd.symm⟩⟩
    · exact ⟨d, u, by_d, (Function.update_of_ne same _ _).trans hu, hfd, hs⟩

/-- Slots that keep their descriptor or become free. -/
theorem Linked.slotsKept (h : s.Linked) {subscribers : Subscribers} (sound : subscribers.Sound)
    (kept : ∀ i, (subscribers.slots i).fd ≠ 0 →
      (subscribers.slots i).fd = (s.subscribers.slots i).fd) :
    Linked { s with subscribers := subscribers } where
  fresh := h.fresh
  owns := h.owns
  owned := h.owned
  sound := sound
  added i used := by
    have same := kept i used
    change (subscribers.slots i).fd ≠ 0 at used
    rw [same] at used
    obtain ⟨d, u, by_d, hu, hfd, hs⟩ := h.added i used
    exact ⟨d, u, by_d, hu, hfd.trans same.symm, hs⟩

/-- A descriptor that a thread has not closed is its own. -/
theorem Linked.fd_inj (h : s.Linked) {d : Nat} {u : ClientThread} (thread : s.threads c = some t)
    (alive : t.point ≠ .closed) (other : s.threads d = some u) (alive' : u.point ≠ .closed)
    (same : u.fd.val = t.fd.val) : d = c := by
  have of_c := h.owns c t thread alive
  have of_d := h.owns d u other alive'
  rw [same] at of_d
  exact Option.some.inj (of_d.symm.trans of_c)

/-- A thread that does not serve has no slot. -/
theorem Linked.not_added (h : s.Linked) (thread : s.threads c = some t) (alive : t.point ≠ .closed)
    (idle : t.point.serves = false) (i : Fin maxSubscribers) :
    (s.subscribers.slots i).fd ≠ t.fd.val := by
  intro same
  obtain ⟨d, u, -, hu, hfd, hs⟩ := h.added i (same ▸ t.fd.property)
  obtain rfl := h.fd_inj thread alive hu (ServePoint.ne_closed hs) (hfd.trans same)
  obtain rfl : t = u := Option.some.inj (thread.symm.trans hu)
  rw [idle] at hs
  cases hs

theorem Linked.closeFd (h : s.Linked) (thread : s.threads c = some t) (alive : t.point ≠ .closed)
    (idle : t.point.serves = false) : (s.closeFd c t).Linked where
  fresh d le := by
    have other : d ≠ c := by
      rintro rfl
      rw [h.fresh d le] at thread
      cases thread
    exact (Function.update_of_ne other _ _).trans (h.fresh d le)
  owns d u hu hp := by
    by_cases same : d = c
    · subst same
      obtain rfl : ({ t with point := .closed } : ClientThread) = u := by
        simpa [ServerThreads.closeFd, moveTo, ServerThreads.setThread] using hu
      exact absurd rfl hp
    · have hu' : s.threads d = some u := (Function.update_of_ne same _ _).symm.trans hu
      have other : u.fd.val ≠ t.fd.val := fun fd => same (h.fd_inj thread alive hu' hp fd)
      exact (Function.update_of_ne other _ _).trans (h.owns d u hu' hp)
  owned fd d hd := by
    by_cases same : fd = t.fd.val
    · simp [ServerThreads.closeFd, same] at hd
    · have hd' : s.descriptors fd = some d := (Function.update_of_ne same _ _).symm.trans hd
      obtain ⟨u, hu, hfd, hp⟩ := h.owned fd d hd'
      have other : d ≠ c := by
        rintro rfl
        obtain rfl : t = u := Option.some.inj (thread.symm.trans hu)
        exact same hfd.symm
      exact ⟨u, (Function.update_of_ne other _ _).trans hu, hfd, hp⟩
  sound := h.sound
  added i used := by
    obtain ⟨d, u, by_d, hu, hfd, hs⟩ := h.added i used
    have other : d ≠ c := by
      rintro rfl
      obtain rfl : t = u := Option.some.inj (thread.symm.trans hu)
      rw [idle] at hs
      cases hs
    exact ⟨d, u, by_d, (Function.update_of_ne other _ _).trans hu, hfd, hs⟩

theorem serveLine_subscribers (state : ServerState) (fd : ClientFd) (readings : Readings)
    (line : ReceivedLine) :
    (serveLine state fd readings line).state.subscribers = state.subscribers ∨
      (serveLine state fd readings line).state.subscribers =
        (subscribersAdd state.subscribers fd.val).2 := by
  cases line with
  | line text => exact (handleCommand_handled state fd readings text).subscribers
  | overflow => exact .inl rfl
  | invalid => exact .inl rfl

/-- The section of `subscribers_add`: a new slot is that of the thread. -/
theorem Linked.sharing (h : s.Linked) (thread : s.threads c = some t)
    (serves : t.point.serves = true) {state : ServerState}
    (section_effect : state.subscribers = s.subscribers ∨
      state.subscribers = (subscribersAdd s.subscribers t.fd.val).2) :
    (s.sharing c state).Linked := by
  have effect := Subscribers.add_effect s.subscribers t.fd.property
  have sound : state.subscribers.Sound := by
    rcases section_effect with same | same
    · exact same ▸ h.sound
    · exact same ▸ effect.sound h.sound t.fd.property
  have slots (i : Fin maxSubscribers) :
      (state.subscribers.slots i).fd = (s.subscribers.slots i).fd ∨
        (state.subscribers.slots i).fd = t.fd.val := by
    rcases section_effect with same | same
    · exact .inl (by rw [same])
    · rw [same]
      generalize (subscribersAdd s.subscribers t.fd.val).1 = result at effect
      generalize (subscribersAdd s.subscribers t.fd.val).2 = subscribers at effect ⊢
      cases effect with
      | known held => exact .inl rfl
      | full unknown full => exact .inl rfl
      | added j unknown free =>
        by_cases same : i = j
        · subst same
          rw [Subscribers.setSlot_self]
          exact .inr rfl
        · rw [Subscribers.setSlot_ne same]
          exact .inl rfl
  refine ⟨h.fresh, h.owns, h.owned, sound, fun i used => ?_⟩
  change (state.subscribers.slots i).fd ≠ 0 at used
  simp only [ServerThreads.sharing]
  by_cases same : (state.subscribers.slots i).fd = (s.subscribers.slots i).fd
  · rw [if_pos same]
    rw [same] at used ⊢
    exact h.added i used
  · rw [if_neg same]
    exact ⟨c, t, rfl, thread, ((slots i).resolve_left same).symm, serves⟩

theorem drain_kept {subscribers : Subscribers} {fd : Nat} {line : Bytes}
    (effect : Subscribers.DrainEffect s.subscribers fd line subscribers) (i : Fin maxSubscribers) :
    (subscribers.slots i).fd = (s.subscribers.slots i).fd := by
  cases effect with
  | empty none => rfl
  | line j held nonempty =>
    by_cases same : i = j
    · subst same
      rw [Subscribers.setSlot_self]
    · rw [Subscribers.setSlot_ne same]

/-- The contents of the connections do not matter. -/
theorem Linked.setSocket (h : s.Linked) (d : Nat) (socket : Socket) :
    (s.setSocket d socket).Linked := ⟨h.fresh, h.owns, h.owned, h.sound, h.added⟩

theorem Linked.shutdown (h : s.Linked) (fd : Nat) : (s.shutdown fd).Linked := by
  unfold ServerThreads.shutdown
  split
  · exact h.setSocket _ _
  · exact h

@[simp] theorem shutdown_threads (fd : Nat) : (s.shutdown fd).threads = s.threads := by
  unfold shutdown
  split <;> rfl

@[simp] theorem shutdown_state (fd : Nat) :
    (s.shutdown fd).toServerState = s.toServerState := by
  unfold shutdown
  split <;> rfl

/-- `subscribers_remove` frees the slot of the thread before it stops serving. -/
theorem Linked.removed (h : s.Linked) (thread : s.threads c = some t) (ends : t.point = .ending) :
    Linked { s.moveTo c t .removed with
      subscribers := subscribersRemove s.subscribers t.fd.val } := by
  have slots : Linked { s with subscribers := subscribersRemove s.subscribers t.fd.val } := by
    apply h.slotsKept (Subscribers.sound_remove h.sound)
    intro i used
    simp only [subscribersRemove] at used ⊢
    split at used
    · exact absurd rfl used
    · next other => rw [if_neg other]
  change (ServerThreads.setThread
    { s with subscribers := subscribersRemove s.subscribers t.fd.val } c
    { t with point := .removed }).Linked
  refine slots.setThread thread rfl (by simp [ends]) (by simp) ?_
  rintro ⟨i, same⟩
  simp only [subscribersRemove] at same
  split at same
  · exact absurd same.symm t.fd.property
  · next other => exact absurd same other

/-- A step of a thread leaves the other threads and connections alone. -/
theorem OwnerEffect.others {event : OwnerEvent} (effect : OwnerEffect s c t event s')
    (h : s.Linked) (thread : s.threads c = some t) {d : Nat} (other : d ≠ c) :
    s'.threads d = s.threads d ∧ s'.sockets d = s.sockets d := by
  have keep (t' : ClientThread) : Function.update s.threads c (some t') d = s.threads d :=
    Function.update_of_ne other _ _
  have own {e : Nat} (alive : t.point ≠ .closed) (descriptor : s.descriptors t.fd.val = some e) :
      d ≠ e := by
    rw [h.owns c t thread alive] at descriptor
    exact Option.some.inj descriptor ▸ other
  cases effect with
  | sent count e buffer after sending descriptor up count_pos count_le =>
    have alive := ServePoint.ne_closed (ServePoint.sending_serves sending).1
    exact ⟨keep _, Function.update_of_ne (own alive descriptor) _ _⟩
  | failed buffer after sending =>
    have alive := ServePoint.ne_closed (ServePoint.sending_serves sending).1
    have descriptor := h.owns c t thread alive
    simp only [moveTo, setThread, shutdown, descriptor]
    exact ⟨keep _, Function.update_of_ne other _ _⟩
  | received readings e line rest waits descriptor reads result serves =>
    exact ⟨keep _, Function.update_of_ne (own (by simp [waits]) descriptor) _ _⟩
  | _ => exact ⟨keep _, rfl⟩

theorem OwnerEffect.linked {event : OwnerEvent} (effect : OwnerEffect s c t event s')
    (h : s.Linked) (thread : s.threads c = some t) : s'.Linked := by
  cases effect with
  | move point moves =>
    obtain ⟨alive, serves⟩ := moves.serves
    exact h.setThread thread rfl alive (ServePoint.ne_closed serves) fun _ => serves
  | close idle =>
    rcases idle with ⟨-, point⟩ | ⟨-, point⟩ <;>
      exact h.closeFd thread (by simp [point]) (by simp [point, ServePoint.serves])
  | drained rounds at_round line subscribers effect point stops =>
    have slots := h.slotsKept (effect.sound h.sound) fun i _ => drain_kept effect i
    refine slots.setThread thread rfl (by simp [at_round]) ?_ fun _ => ?_ <;>
      rcases stops with ⟨-, rfl⟩ | ⟨-, rfl⟩ <;> simp [ServePoint.serves]
  | pushed rounds at_round line subscribers effect nonempty short =>
    have slots := h.slotsKept (effect.sound h.sound) fun i _ => drain_kept effect i
    exact slots.setThread thread rfl (by simp [at_round]) (by simp) fun _ => rfl
  | sent count d buffer after sending descriptor up count_pos count_le =>
    obtain ⟨serves, after_serves⟩ := ServePoint.sending_serves sending
    exact (h.setSocket _ _).setThread thread rfl (ServePoint.ne_closed serves)
      (ServePoint.ne_closed (after_serves _)) fun _ => after_serves _
  | again buffer after sending =>
    obtain ⟨serves, after_serves⟩ := ServePoint.sending_serves sending
    exact h.setThread thread rfl (ServePoint.ne_closed serves)
      (ServePoint.ne_closed (after_serves _)) fun _ => after_serves _
  | failed buffer after sending =>
    obtain ⟨serves, after_serves⟩ := ServePoint.sending_serves sending
    exact (h.shutdown _).setThread ((congrFun (shutdown_threads _) c).trans thread) rfl
      (ServePoint.ne_closed serves) (ServePoint.ne_closed (after_serves _)) fun _ => after_serves _
  | received readings d line rest waits descriptor reads result serves =>
    have serves' : t.point.serves = true := by rw [waits]; rfl
    have shared : ((s.setSocket d { s.sockets d with incoming := rest }).sharing c
        result.state).Linked :=
      (h.setSocket d { s.sockets d with incoming := rest }).sharing thread serves'
        (serves ▸ serveLine_subscribers s.toServerState t.fd readings line)
    exact shared.setThread thread rfl (ServePoint.ne_closed serves')
      (ServePoint.ne_closed (nextReply_serves _ _)) fun _ => nextReply_serves _ _
  | removed ends => exact h.removed thread ends

/-- A new connection gets a descriptor that no thread and no slot has. -/
theorem Linked.accept {fd : ClientFd} (h : s.Linked) (step : s.accept fd = some s') :
    s'.Linked := by
  simp only [ServerThreads.accept, Option.ite_none_right_eq_some, Option.some.injEq] at step
  obtain ⟨free, rfl⟩ := step
  have old (d : Nat) {u : ClientThread} (hu : s.threads d = some u) : d ≠ s.accepted := by
    rintro rfl
    rw [h.fresh _ le_rfl] at hu
    cases hu
  refine ⟨fun d le => ?_, fun d u hu hp => ?_, fun fd' d hd => ?_, h.sound, fun i used => ?_⟩
  · have le : s.accepted + 1 ≤ d := le
    exact (Function.update_of_ne (by omega) _ _).trans (h.fresh d (by omega))
  · by_cases same : d = s.accepted
    · subst same
      obtain rfl : (⟨fd, .accepted, []⟩ : ClientThread) = u := by simpa using hu
      exact Function.update_self _ _ _
    · have hu' : s.threads d = some u := (Function.update_of_ne same _ _).symm.trans hu
      have other : u.fd.val ≠ fd.val := fun eq => by
        have := h.owns d u hu' hp
        rw [eq, free] at this
        cases this
      exact (Function.update_of_ne other _ _).trans (h.owns d u hu' hp)
  · by_cases same : fd' = fd.val
    · subst same
      obtain rfl : s.accepted = d := by simpa using hd
      exact ⟨_, Function.update_self _ _ _, rfl, by simp⟩
    · obtain ⟨u, hu, hfd, hp⟩ := h.owned fd' d ((Function.update_of_ne same _ _).symm.trans hd)
      exact ⟨u, (Function.update_of_ne (old d hu) _ _).trans hu, hfd, hp⟩
  · obtain ⟨d, u, by_d, hu, hfd, hs⟩ := h.added i used
    exact ⟨d, u, by_d, (Function.update_of_ne (old d hu) _ _).trans hu, hfd, hs⟩

theorem broadcast_slot (subscribers : Subscribers) (alert : Alert) (i : Fin maxSubscribers)
    (used : ((subscribersBroadcast subscribers alert).2.slots i).fd ≠ 0) :
    ((subscribersBroadcast subscribers alert).2.slots i).fd = (subscribers.slots i).fd := by
  have kept := Subscribers.broadcast_kept (s := subscribers) alert i _
    (subscriberKey_eq_some.mpr ⟨rfl, used⟩)
  exact (subscriberKey_eq_some.mp kept).1.symm

/-- The broadcast of the next alert. -/
theorem broadcast_eq_some (step : s.broadcast = some s') :
    ∃ alert newAlerts, s.newAlerts = alert :: newAlerts ∧
      s' = { s with
        subscribers := (subscribersBroadcast s.subscribers alert).2
        newAlerts := newAlerts
        broadcasted := s.broadcasted ++ [alert]
        sockets := fun d =>
          if (subscribersBroadcast s.subscribers alert).1.any fun fd => s.descriptors fd = some d
          then { s.sockets d with isShut := true } else s.sockets d
        queuedFor := fun d =>
          s.queuedFor d ++ (s.queueingSlots d).map fun _ => formatAlert alert } := by
  unfold broadcast at step
  cases next : s.newAlerts with
  | nil => simp [next] at step
  | cons alert newAlerts =>
    simp only [next, Option.some.injEq] at step
    exact ⟨alert, newAlerts, rfl, step.symm⟩

theorem Linked.broadcast (h : s.Linked) (step : s.broadcast = some s') : s'.Linked := by
  obtain ⟨alert, newAlerts, -, rfl⟩ := broadcast_eq_some step
  have slots := h.slotsKept (Subscribers.sound_broadcast h.sound alert)
    (broadcast_slot s.subscribers alert)
  exact ⟨slots.fresh, slots.owns, slots.owned, slots.sound, slots.added⟩

theorem Linked.step {strtod : Bytes → StrtodResult} {event : ThreadEvent} (h : s.Linked)
    (step : s.step strtod event = some s') : s'.Linked := by
  cases event with
  | accept fd => exact h.accept step
  | arrive d bytes =>
    simp only [ServerThreads.step, Option.ite_none_right_eq_some, Option.some.injEq] at step
    obtain ⟨-, rfl⟩ := step
    exact ⟨h.fresh, h.owns, h.owned, h.sound, h.added⟩
  | owner d event =>
    obtain ⟨u, thread, step⟩ := Option.bind_eq_some_iff.mp step
    exact (ownerStep_effect step).linked h thread
  | datagram clock bytes =>
    simp only [ServerThreads.step, Option.ite_none_right_eq_some, Option.some.injEq] at step
    obtain ⟨-, rfl⟩ := step
    exact ⟨h.fresh, h.owns, h.owned, h.sound, h.added⟩
  | broadcast => exact h.broadcast step

/-! ## Connections that are shut down -/

/-- A connection that is shut down stays so, and `send` takes nothing on it. -/
theorem OwnerEffect.shut {event : OwnerEvent} (effect : OwnerEffect s c t event s') (d : Nat)
    (shut : (s.sockets d).isShut = true) :
    (s'.sockets d).isShut = true ∧ (s'.sockets d).wire = (s.sockets d).wire := by
  have update {e : Nat} {socket : Socket} (isShut : e = d → socket.isShut = true)
      (wire : e = d → socket.wire = (s.sockets d).wire) :
      (Function.update s.sockets e socket d).isShut = true ∧
        (Function.update s.sockets e socket d).wire = (s.sockets d).wire := by
    by_cases same : e = d
    · subst same
      rw [Function.update_self]
      exact ⟨isShut rfl, wire rfl⟩
    · rw [Function.update_of_ne (Ne.symm same)]
      exact ⟨shut, rfl⟩
  cases effect with
  | sent count e buffer after sending descriptor up count_pos count_le =>
    have other : e ≠ d := by
      rintro rfl
      rw [shut] at up
      cases up
    exact update (fun same => absurd same other) fun same => absurd same other
  | failed buffer after sending =>
    simp only [moveTo, setThread, shutdown]
    split
    · exact update (fun _ => rfl) fun same => by rw [same]
    · exact ⟨shut, rfl⟩
  | received readings e line rest waits descriptor reads result serves =>
    exact update (fun same => by rw [same]; exact shut) fun same => by rw [same]
  | _ => exact ⟨shut, rfl⟩

/-- Owners neither broadcast nor send bytes to the server. -/
theorem OwnerEffect.unrecorded {event : OwnerEvent} (effect : OwnerEffect s c t event s') :
    s'.broadcasted = s.broadcasted ∧ s'.queuedFor = s.queuedFor ∧ s'.arrived = s.arrived := by
  cases effect with
  | failed buffer after sending =>
    simp only [moveTo, setThread, shutdown]
    split <;> exact ⟨rfl, rfl, rfl⟩
  | _ => exact ⟨rfl, rfl, rfl⟩

/-- What a step of someone else does to a connection and its thread. -/
structure Bystander (s s' : ServerThreads) (c : Nat) (t : ClientThread) : Prop where
  thread : s'.threads c = some t
  wire : (s'.sockets c).wire = (s.sockets c).wire
  shut : (s.sockets c).isShut = true → (s'.sockets c).isShut = true
  arrives : ∃ bytes, (s'.sockets c).incoming = (s.sockets c).incoming ++ bytes ∧
    s'.arrived c = s.arrived c ++ bytes

/-- Nothing changed for the connection. -/
theorem Bystander.same (thread : s'.threads c = some t) (socket : s'.sockets c = s.sockets c)
    (arrived : s'.arrived c = s.arrived c) : s.Bystander s' c t where
  thread := thread
  wire := by rw [socket]
  shut shut := by rw [socket]; exact shut
  arrives := ⟨[], by rw [socket, List.append_nil], by rw [arrived, List.append_nil]⟩

/-- A step is one of the connection's thread or one of someone else. -/
theorem step_view {strtod : Bytes → StrtodResult} {event : ThreadEvent} (h : s.Linked)
    (thread : s.threads c = some t) (step : s.step strtod event = some s') :
    (∃ owner, event = .owner c owner ∧ OwnerEffect s c t owner s') ∨ s.Bystander s' c t := by
  cases event with
  | accept fd =>
    simp only [ServerThreads.step, ServerThreads.accept, Option.ite_none_right_eq_some,
      Option.some.injEq] at step
    obtain ⟨-, rfl⟩ := step
    have old : c ≠ s.accepted := by
      rintro rfl
      rw [h.fresh _ le_rfl] at thread
      cases thread
    exact .inr (.same ((Function.update_of_ne old _ _).trans thread)
      (Function.update_of_ne old _ _) (Function.update_of_ne old _ _))
  | arrive d bytes =>
    simp only [ServerThreads.step, Option.ite_none_right_eq_some, Option.some.injEq] at step
    obtain ⟨-, rfl⟩ := step
    by_cases same : c = d
    · subst same
      refine .inr ⟨thread, ?_, ?_, bytes, ?_, ?_⟩ <;> simp [ServerThreads.setSocket]
    · exact .inr (.same thread (Function.update_of_ne same _ _) (Function.update_of_ne same _ _))
  | owner d event =>
    obtain ⟨u, stepped, step⟩ := Option.bind_eq_some_iff.mp step
    have effect := ownerStep_effect step
    by_cases same : c = d
    · subst same
      obtain rfl : t = u := Option.some.inj (thread.symm.trans stepped)
      exact .inl ⟨event, rfl, effect⟩
    · obtain ⟨kept, socket⟩ := effect.others h stepped same
      exact .inr (.same (kept.trans thread) socket (congrFun effect.unrecorded.2.2 c))
  | datagram clock bytes =>
    simp only [ServerThreads.step, Option.ite_none_right_eq_some, Option.some.injEq] at step
    obtain ⟨-, rfl⟩ := step
    exact .inr (.same thread rfl rfl)
  | broadcast =>
    obtain ⟨alert, newAlerts, -, rfl⟩ := broadcast_eq_some step
    refine .inr ⟨thread, ?_, fun shut => ?_, [], ?_, (List.append_nil _).symm⟩ <;>
      dsimp only <;> split <;> simp_all

theorem shut_step {strtod : Bytes → StrtodResult} {event : ThreadEvent} (h : s.Linked)
    (thread : s.threads c = some t) (shut : (s.sockets c).isShut = true)
    (step : s.step strtod event = some s') :
    (s'.sockets c).isShut = true ∧ (s'.sockets c).wire = (s.sockets c).wire := by
  rcases step_view h thread step with ⟨owner, -, effect⟩ | bystander
  · exact effect.shut c shut
  · exact ⟨bystander.shut shut, bystander.wire⟩

end Steps

theorem linked_init (startedAt bootId : Long) : (threadsInit startedAt bootId).Linked where
  fresh _ _ := rfl
  owns c t h := by cases h
  owned fd c h := by cases h
  sound := sound_init
  added i used := absurd rfl used

section Runs

variable {strtod : Bytes → StrtodResult} {startedAt bootId : Long} {s s' : ServerThreads}
  {event : ThreadEvent}

/-- What a step preserves where it can happen, it preserves. -/
theorem preserves_next {P : ServerThreads → Prop} (h : P s)
    (step : ∀ s', s.step strtod event = some s' → P s') : P (s.next strtod event) := by
  unfold next
  split
  · next s' happens =>
    split
    · exact step s' happens
    · exact h
  · exact h

theorem next_eq (step : s.step strtod event = some s') (fits : s'.countersFit = true) :
    s.next strtod event = s' := by
  rw [next, step]
  exact if_pos fits

theorem countersFit_reachable (h : (threadsMachine strtod startedAt bootId).Reachable s) :
    s.countersFit = true := by
  refine h.invariant (P := fun s => s.countersFit = true) rfl fun s event fits => ?_
  change (s.next strtod event).countersFit = true
  unfold next
  split
  · split
    · next fits' => exact fits'
    · exact fits
  · exact fits

theorem linked_exec (h : s.Linked) (events : List ThreadEvent) :
    ((threadsMachine strtod startedAt bootId).exec s events).Linked :=
  Machine.exec_preserves (M := threadsMachine strtod startedAt bootId) (P := Linked)
    (fun _ _ h => preserves_next h fun _ step => h.step step) h events

theorem linked_reachable (h : (threadsMachine strtod startedAt bootId).Reachable s) :
    s.Linked := by
  obtain ⟨events, rfl⟩ := h
  exact linked_exec (linked_init startedAt bootId) events

end Runs

end ServerThreads

end Telep
