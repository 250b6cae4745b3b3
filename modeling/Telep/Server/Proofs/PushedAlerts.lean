import Telep.Server.Proofs.Connections

/-!
# The alerts of a connection

`Delivers` says once what a step, of whatever thread, does to the subscription of one connection.
From it follow that a connection is sent only lines that were queued for it, and that a subscriber
misses no alert.
-/

namespace Telep

open Subscribers

/-- The alert of a block. -/
def Block.pushed : Block → List Bytes
  | .alert line => [line]
  | .reply _ _ => []

/-- The alerts among the blocks of a thread, in order. -/
def pushedLines (blocks : List Block) : List Bytes := blocks.flatMap Block.pushed

theorem pushedLines_concat (blocks : List Block) (block : Block) :
    pushedLines (blocks ++ [block]) = pushedLines blocks ++ block.pushed := by
  simp [pushedLines]

theorem pushedLines_reply (blocks : List Block) (frame : Bytes) (lines : List Bytes) :
    pushedLines (blocks ++ [.reply frame lines]) = pushedLines blocks :=
  (pushedLines_concat _ _).trans (List.append_nil _)

namespace ServerThreads

/-- The lines queued for a thread that has subscribed. -/
def subscription (s : ServerThreads) (t : ClientThread) : Option (List Bytes) :=
  if t.point.serves then s.subscribers.queueOf t.fd.val else none

/-- The subscription of a connection is over. -/
def Ended (s : ServerThreads) (c : Nat) (t : ClientThread) : Prop :=
  (s.sockets c).isShut = true ∨ t.point = .removed ∨ t.point = .closed

/-- What a step does to the subscription of the connection `c`. -/
inductive Delivers (s s' : ServerThreads) (c : Nat) (t t' : ClientThread) : Prop
  | same (pushed : pushedLines t'.blocks = pushedLines t.blocks)
      (queue : s'.subscription t' = s.subscription t)
      (quiet : s.subscription t = none ∨ s'.broadcasted = s.broadcasted)
  | subscribed (pushed : pushedLines t'.blocks = pushedLines t.blocks)
      (before : s.subscription t = none) (queue : s'.subscription t' = some [])
  | drained (line : Bytes) (rest : List Bytes)
      (pushed : pushedLines t'.blocks = pushedLines t.blocks ++ [line])
      (before : s.subscription t = some (line :: rest)) (queue : s'.subscription t' = some rest)
      (quiet : s'.broadcasted = s.broadcasted)
  | dropped (line : Bytes) (rest : List Bytes) (bad : line = [] ∨ maxLine ≤ line.length)
      (pushed : pushedLines t'.blocks = pushedLines t.blocks)
      (before : s.subscription t = some (line :: rest)) (queue : s'.subscription t' = some rest)
  | queued (alert : Alert) (lines : List Bytes)
      (pushed : pushedLines t'.blocks = pushedLines t.blocks)
      (before : s.subscription t = some lines)
      (queue : s'.subscription t' = some (lines ++ [formatAlert alert]))
      (next : s'.broadcasted = s.broadcasted ++ [alert])
      (recorded : (s.queuedFor c ++ [formatAlert alert]).Sublist (s'.queuedFor c))
  | ended (pushed : pushedLines t'.blocks = pushedLines t.blocks)
      (queue : s'.subscription t' = none) (gone : s'.Ended c t')

section Steps

variable {s s' : ServerThreads} {c d : Nat} {t u : ClientThread} {event : OwnerEvent}

theorem subscription_idle (idle : t.point.serves = false) : s.subscription t = none := by
  simp [subscription, idle]

theorem subscription_serves (serves : t.point.serves = true) :
    s.subscription t = s.subscribers.queueOf t.fd.val := by
  simp [subscription, serves]

/-- The thread of another connection. -/
theorem OwnerEffect.delivers_other (effect : OwnerEffect s d u event s') (h : s.Linked)
    (thread : s.threads c = some t) (stepped : s.threads d = some u) (other : c ≠ d) :
    s'.subscription t = s.subscription t := by
  have alive : ∀ serves : t.point.serves = true, u.point ≠ .closed → t.fd.val ≠ u.fd.val :=
    fun serves alive same =>
      other (h.fd_inj stepped alive thread (ServePoint.ne_closed serves) same)
  have queues (subscribers : Subscribers) (up : u.point ≠ .closed)
      (same : t.fd.val ≠ u.fd.val →
        subscribers.queueOf t.fd.val = s.subscribers.queueOf t.fd.val) :
      (if t.point.serves then subscribers.queueOf t.fd.val else none) = s.subscription t := by
    unfold subscription
    split
    · next serves => exact same (alive serves up)
    · rfl
  cases effect with
  | drained rounds at_round line subscribers effect point stops =>
    exact queues subscribers (by simp [at_round]) ((effect.queueOf h.sound u.fd.property).2 _)
  | pushed rounds at_round line subscribers effect nonempty short =>
    exact queues subscribers (by simp [at_round]) ((effect.queueOf h.sound u.fd.property).2 _)
  | failed buffer after sending =>
    simp only [subscription, moveTo, setThread, shutdown_state]
  | received readings e line rest waits descriptor reads result serves =>
    refine queues result.state.subscribers (by simp [waits]) fun differ => ?_
    rcases serveLine_subscribers s.toServerState u.fd readings line with same | same
    · rw [← serves, same]
    · rw [← serves, same,
        (add_effect s.subscribers u.fd.property).queueOf h.sound u.fd.property t.fd.val,
        if_neg fun h => differ h.1]
  | removed ends =>
    refine queues (subscribersRemove s.subscribers u.fd.val) (by simp [ends]) fun differ => ?_
    rw [queueOf_remove h.sound, if_neg differ]
  | _ => rfl

theorem drain_none {subscribers subscribers' : Subscribers} {fd : Nat} {line : Bytes}
    (effect : DrainEffect subscribers fd line subscribers') (nonzero : fd ≠ 0)
    (unknown : subscribers.queueOf fd = none) : subscribers'.queueOf fd = none ∧ line = [] := by
  cases effect with
  | empty none => exact ⟨unknown, rfl⟩
  | line i held nonempty =>
    exact absurd (subscriberKey_eq_some.mpr ⟨held, nonzero⟩) (queueOf_eq_none.mp unknown i)

theorem subscription_moved (point : ServePoint) (serves : point.serves = t.point.serves) :
    s.subscription { t with point := point } = s.subscription t := by
  simp [subscription, serves]

/-- The thread of the connection itself. -/
theorem OwnerEffect.delivers (effect : OwnerEffect s c t event s') (h : s.Linked)
    (thread : s.threads c = some t) :
    ∃ t', s'.threads c = some t' ∧ s.Delivers s' c t t' := by
  have quiet := effect.unrecorded.1
  cases effect with
  | move point moves =>
    refine ⟨_, Function.update_self _ _ _, .same rfl ?_ (.inr rfl)⟩
    by_cases serves : t.point.serves = true
    · exact subscription_moved point (moves.serves.2.trans serves.symm)
    · rw [Bool.not_eq_true] at serves
      rw [subscription_idle serves, subscription_serves moves.serves.2, queueOf_eq_none]
      intro i held
      exact h.not_added thread moves.serves.1 serves i (subscriberKey_eq_some.mp held).1
  | close idle =>
    refine ⟨_, Function.update_self _ _ _, .same rfl ?_ (.inr rfl)⟩
    have idle' : t.point.serves = false := by
      rcases idle with ⟨-, point⟩ | ⟨-, point⟩ <;> rw [point] <;> rfl
    rw [subscription_idle idle', subscription_idle rfl]
  | drained rounds at_round line subscribers effect point stops =>
    have serves : t.point.serves = true := by rw [at_round]; rfl
    have serves' : point.serves = true := by rcases stops with ⟨-, rfl⟩ | ⟨-, rfl⟩ <;> rfl
    have after := subscription_serves (s := { s with subscribers := subscribers })
      (t := { t with point := point }) serves'
    cases queue : s.subscribers.queueOf t.fd.val with
    | none =>
      refine ⟨_, Function.update_self _ _ _, .same rfl ?_ (.inr rfl)⟩
      rw [subscription_serves serves, queue]
      exact after.trans (drain_none effect t.fd.property queue).1
    | some lines =>
      rcases (effect.queueOf h.sound t.fd.property).1 lines queue with
        ⟨rfl, -, emptied⟩ | ⟨rest, rfl, left⟩
      · refine ⟨_, Function.update_self _ _ _, .same rfl ?_ (.inr rfl)⟩
        rw [subscription_serves serves, queue]
        exact after.trans emptied
      · exact ⟨_, Function.update_self _ _ _,
          .dropped line rest (stops.imp And.left And.left) rfl
            ((subscription_serves serves).trans queue) (after.trans left)⟩
  | pushed rounds at_round line subscribers effect nonempty short =>
    have serves : t.point.serves = true := by rw [at_round]; rfl
    cases queue : s.subscribers.queueOf t.fd.val with
    | none => exact absurd (drain_none effect t.fd.property queue).2 nonempty
    | some lines =>
      rcases (effect.queueOf h.sound t.fd.property).1 lines queue with
        ⟨-, empty, -⟩ | ⟨rest, rfl, left⟩
      · exact absurd empty nonempty
      · exact ⟨_, Function.update_self _ _ _,
          .drained line rest (pushedLines_concat _ _) ((subscription_serves serves).trans queue)
            ((subscription_serves rfl).trans left) rfl⟩
  | sent count e buffer after sending descriptor up count_pos count_le =>
    obtain ⟨serves, after_serves⟩ := ServePoint.sending_serves sending
    exact ⟨_, Function.update_self _ _ _, .same rfl
      (subscription_moved _ ((after_serves _).trans serves.symm)) (.inr rfl)⟩
  | again buffer after sending =>
    obtain ⟨serves, after_serves⟩ := ServePoint.sending_serves sending
    exact ⟨_, Function.update_self _ _ _, .same rfl
      (subscription_moved _ ((after_serves _).trans serves.symm)) (.inr rfl)⟩
  | failed buffer after sending =>
    obtain ⟨serves, after_serves⟩ := ServePoint.sending_serves sending
    refine ⟨_, Function.update_self _ _ _, .same rfl ?_ (.inr quiet)⟩
    rw [← subscription_moved (s := s) (after none) ((after_serves none).trans serves.symm)]
    simp [subscription, moveTo, setThread]
  | received readings e line rest waits descriptor reads result serves =>
    have before : s.subscription t = s.subscribers.queueOf t.fd.val :=
      subscription_serves (by rw [waits]; rfl)
    have pushed := pushedLines_reply t.blocks
      ((s.sockets e).incoming.takeWhile (· ≠ lineFeed)) result.reply
    have after := nextReply_serves result.closes result.reply
    refine ⟨_, Function.update_self _ _ _, ?_⟩
    rcases serveLine_subscribers s.toServerState t.fd readings line with same | same
    · refine .same pushed ((subscription_serves after).trans ?_) (.inr rfl)
      change result.state.subscribers.queueOf t.fd.val = _
      rw [before, ← serves, same]
    · have queue := ((add_effect s.subscribers t.fd.property).queueOf h.sound t.fd.property
        t.fd.val)
      rw [← same, serves] at queue
      by_cases new : s.subscribers.queueOf t.fd.val = none ∧
          (subscribersAdd s.subscribers t.fd.val).1 = 0
      · exact .subscribed pushed (before.trans new.1)
          ((subscription_serves after).trans (queue.trans (if_pos ⟨rfl, new⟩)))
      · exact .same pushed ((subscription_serves after).trans
          ((queue.trans (if_neg fun h => new h.2)).trans before.symm)) (.inr rfl)
  | removed ends =>
    exact ⟨_, Function.update_self _ _ _, .ended rfl (subscription_idle rfl) (.inr (.inl rfl))⟩

/-- A broadcast queues the line, or cuts the subscriber off. -/
theorem broadcast_delivers (h : s.Linked) (thread : s.threads c = some t)
    (step : s.broadcast = some s') : s'.threads c = some t ∧ s.Delivers s' c t t := by
  obtain ⟨alert, newAlerts, -, rfl⟩ := broadcast_eq_some step
  refine ⟨thread, ?_⟩
  cases before : s.subscription t with
  | none =>
    refine .same rfl (Eq.trans ?_ before.symm) (.inl before)
    unfold subscription at before ⊢
    split at before
    · next serves =>
      rw [if_pos serves]
      exact (queueOf_broadcast h.sound alert).trans (by rw [before]; rfl)
    · next idle => rw [if_neg idle]
  | some lines =>
    have serves : t.point.serves = true := by
      by_contra idle
      rw [subscription_idle (by simpa using idle)] at before
      cases before
    have queue := before
    rw [subscription_serves serves] at queue
    have after : (subscribersBroadcast s.subscribers alert).2.queueOf t.fd.val = _ :=
      queueOf_broadcast h.sound alert
    rw [queue, Option.bind_some] at after
    obtain ⟨i, held, contents⟩ := slot_of_queueOf queue
    have slot := (subscriberKey_eq_some.mp held).1
    have length : lines.length = (s.subscribers.slots i).count := by
      rw [← contents, RingQueue.contents_length]
    have owned := h.owns c t thread (ServePoint.ne_closed serves)
    by_cases full : lines.length = queueSize
    · rw [if_pos full] at after
      refine .ended rfl ((subscription_serves serves).trans after) (.inl ?_)
      have cut : (s.subscribers.slots i).fd ∈ (subscribersBroadcast s.subscribers alert).1 :=
        ((cutsOff h.sound alert).shutDown i (slot ▸ t.fd.property)).mpr (length ▸ full)
      have any : ((subscribersBroadcast s.subscribers alert).1.any
          fun fd => s.descriptors fd = some c) = true :=
        List.any_eq_true.mpr ⟨_, cut, decide_eq_true (slot ▸ owned)⟩
      simp only [any, if_true]
    · rw [if_neg full] at after
      refine .queued alert lines rfl before ((subscription_serves serves).trans after) rfl ?_
      have member : i ∈ s.queueingSlots c := by
        refine List.mem_filter.mpr ⟨List.mem_finRange i, decide_eq_true ⟨?_, ?_, ?_⟩⟩
        · exact slot ▸ t.fd.property
        · exact length ▸ full
        · exact slot ▸ owned
      exact (List.Sublist.refl _).append
        (List.singleton_sublist.mpr (List.mem_map.mpr ⟨i, member, rfl⟩))

theorem delivers_step {strtod : Bytes → StrtodResult} {event : ThreadEvent} (h : s.Linked)
    (thread : s.threads c = some t) (step : s.step strtod event = some s') :
    ∃ t', s'.threads c = some t' ∧ s.Delivers s' c t t' := by
  cases event with
  | accept fd =>
    simp only [ServerThreads.step, accept, Option.ite_none_right_eq_some, Option.some.injEq] at step
    obtain ⟨-, rfl⟩ := step
    have old : c ≠ s.accepted := by
      rintro rfl
      rw [h.fresh _ le_rfl] at thread
      cases thread
    exact ⟨t, (Function.update_of_ne old _ _).trans thread, .same rfl rfl (.inr rfl)⟩
  | arrive d bytes =>
    simp only [ServerThreads.step, Option.ite_none_right_eq_some, Option.some.injEq] at step
    obtain ⟨-, rfl⟩ := step
    exact ⟨t, thread, .same rfl rfl (.inr rfl)⟩
  | owner d event =>
    obtain ⟨u, stepped, step⟩ := Option.bind_eq_some_iff.mp step
    have effect := ownerStep_effect step
    by_cases same : c = d
    · subst same
      obtain rfl : t = u := Option.some.inj (thread.symm.trans stepped)
      exact effect.delivers h thread
    · exact ⟨t, (effect.others h stepped same).1.trans thread,
        .same rfl (effect.delivers_other h thread stepped same) (.inr effect.unrecorded.1)⟩
  | datagram clock bytes =>
    simp only [ServerThreads.step, Option.ite_none_right_eq_some, Option.some.injEq] at step
    obtain ⟨-, rfl⟩ := step
    exact ⟨t, thread, .same rfl rfl (.inr rfl)⟩
  | broadcast =>
    obtain ⟨kept, delivers⟩ := broadcast_delivers h thread step
    exact ⟨t, kept, delivers⟩

/-- A step queues the line of the alert it broadcasts, or nothing. -/
theorem queuedFor_step {strtod : Bytes → StrtodResult} {event : ThreadEvent}
    (step : s.step strtod event = some s') (c : Nat) :
    (s'.queuedFor c = s.queuedFor c ∧ s'.broadcasted = s.broadcasted) ∨
      ∃ alert lines, s'.broadcasted = s.broadcasted ++ [alert] ∧
        s'.queuedFor c = s.queuedFor c ++ lines ∧ ∀ line ∈ lines, line = formatAlert alert := by
  cases event with
  | accept fd =>
    simp only [ServerThreads.step, accept, Option.ite_none_right_eq_some, Option.some.injEq] at step
    obtain ⟨-, rfl⟩ := step
    exact .inl ⟨rfl, rfl⟩
  | arrive d bytes =>
    simp only [ServerThreads.step, Option.ite_none_right_eq_some, Option.some.injEq] at step
    obtain ⟨-, rfl⟩ := step
    exact .inl ⟨rfl, rfl⟩
  | owner d event =>
    obtain ⟨u, -, step⟩ := Option.bind_eq_some_iff.mp step
    obtain ⟨broadcasted, queuedFor, -⟩ := (ownerStep_effect step).unrecorded
    exact .inl ⟨congrFun queuedFor c, broadcasted⟩
  | datagram clock bytes =>
    simp only [ServerThreads.step, Option.ite_none_right_eq_some, Option.some.injEq] at step
    obtain ⟨-, rfl⟩ := step
    exact .inl ⟨rfl, rfl⟩
  | broadcast =>
    obtain ⟨alert, newAlerts, -, rfl⟩ := broadcast_eq_some step
    refine .inr ⟨alert, _, rfl, rfl, fun line member => ?_⟩
    obtain ⟨i, -, rfl⟩ := List.mem_map.mp member
    rfl

/-- The connections are handed lines that were queued for them, and these are lines of alerts. -/
structure Queued (s : ServerThreads) : Prop where
  sublist : ∀ c t, s.threads c = some t →
    (pushedLines t.blocks ++ (s.subscription t).getD []).Sublist (s.queuedFor c)
  alerts : ∀ c, ∀ line ∈ s.queuedFor c, ∃ alert ∈ s.broadcasted, line = formatAlert alert

theorem Delivers.sublist (delivers : s.Delivers s' c t u) (grown : (s.queuedFor c).Sublist
      (s'.queuedFor c))
    (h : (pushedLines t.blocks ++ (s.subscription t).getD []).Sublist (s.queuedFor c)) :
    (pushedLines u.blocks ++ (s'.subscription u).getD []).Sublist (s'.queuedFor c) := by
  have pushed_only := (List.sublist_append_left _ _).trans (h.trans grown)
  cases delivers with
  | same pushed queue quiet =>
    rw [pushed, queue]
    exact h.trans grown
  | subscribed pushed before queue =>
    rw [pushed, queue, Option.getD_some, List.append_nil]
    exact pushed_only
  | drained line rest pushed before queue quiet =>
    rw [before, Option.getD_some] at h
    rw [pushed, queue, Option.getD_some, List.append_assoc, List.singleton_append]
    exact h.trans grown
  | dropped line rest bad pushed before queue =>
    rw [before, Option.getD_some] at h
    rw [pushed, queue, Option.getD_some]
    exact (((List.Sublist.refl _).append (List.sublist_cons_self line rest)).trans h).trans grown
  | queued alert lines pushed before queue next recorded =>
    rw [before, Option.getD_some] at h
    rw [pushed, queue, Option.getD_some, ← List.append_assoc]
    exact (h.append (List.Sublist.refl _)).trans recorded
  | ended pushed queue gone =>
    rw [pushed, queue, Option.getD_none, List.append_nil]
    exact pushed_only

theorem Queued.step {strtod : Bytes → StrtodResult} {event : ThreadEvent} (queued : s.Queued)
    (h : s.Linked) (step : s.step strtod event = some s') : s'.Queued where
  sublist c t' thread' := by
    cases thread : s.threads c with
    | none =>
      obtain ⟨point, blocks, -, -⟩ := born h thread step thread'
      simp [blocks, pushedLines, subscription, point, ServePoint.serves]
    | some t =>
      obtain ⟨t'', thread'', delivers⟩ := delivers_step h thread step
      obtain rfl : t' = t'' := Option.some.inj (thread'.symm.trans thread'')
      refine delivers.sublist ?_ (queued.sublist c t thread)
      rcases queuedFor_step step c with ⟨same, -⟩ | ⟨alert, lines, -, more, -⟩
      · rw [same]
      · rw [more]
        exact List.sublist_append_left _ _
  alerts c line member := by
    rcases queuedFor_step step c with ⟨same, quiet⟩ | ⟨alert, lines, next, more, new⟩
    · rw [same] at member
      rw [quiet]
      exact queued.alerts c line member
    · rw [more] at member
      rw [next]
      rcases List.mem_append.mp member with old | last
      · obtain ⟨alert', known, rfl⟩ := queued.alerts c line old
        exact ⟨alert', List.mem_append_left _ known, rfl⟩
      · exact ⟨alert, by simp, new line last⟩

theorem queued_init (startedAt bootId : Long) : (threadsInit startedAt bootId).Queued where
  sublist c t thread := by cases thread
  alerts c line member := by cases member

theorem queued_reachable {strtod : Bytes → StrtodResult} {startedAt bootId : Long}
    (h : (threadsMachine strtod startedAt bootId).Reachable s) : s.Linked ∧ s.Queued :=
  h.invariant (P := fun s => s.Linked ∧ s.Queued)
    ⟨linked_init startedAt bootId, queued_init startedAt bootId⟩
    fun _ _ both => preserves_next (P := fun s => s.Linked ∧ s.Queued) both
      fun _ step => ⟨both.1.step step, both.2.step both.1 step⟩

/-! ## A subscriber misses nothing -/

/-- A thread that no longer serves does not serve again. -/
theorem OwnerEffect.stays_out (effect : OwnerEffect s c t event s')
    (thread' : s'.threads c = some u) (out : t.point = .removed ∨ t.point = .closed) :
    u.point = .removed ∨ u.point = .closed := by
  have idle : t.point.sending = none := by rcases out with point | point <;> rw [point] <;> rfl
  cases effect with
  | move point moves => rcases out with out | out <;> rw [out] at moves <;> cases moves
  | close _ =>
    obtain rfl : ({ t with point := .closed } : ClientThread) = u := by
      simpa [closeFd, moveTo, setThread] using thread'
    exact .inr rfl
  | sent count e buffer after sending descriptor up count_pos count_le =>
    rw [idle] at sending
    cases sending
  | again buffer after sending =>
    rw [idle] at sending
    cases sending
  | failed buffer after sending =>
    rw [idle] at sending
    cases sending
  | drained rounds at_round line subscribers effect point stops => simp [at_round] at out
  | pushed rounds at_round line subscribers effect nonempty short => simp [at_round] at out
  | received readings e line rest waits descriptor reads result serves => simp [waits] at out
  | removed ends => simp [ends] at out

/-- A subscription that is over stays so. -/
theorem Ended.step {strtod : Bytes → StrtodResult} {event : ThreadEvent} (gone : s.Ended c t)
    (h : s.Linked) (thread : s.threads c = some t) (step : s.step strtod event = some s') :
    ∃ t', s'.threads c = some t' ∧ s'.Ended c t' := by
  obtain ⟨t', thread', -⟩ := delivers_step h thread step
  refine ⟨t', thread', ?_⟩
  rcases gone with shut | gone
  · exact .inl (shut_step h thread shut step).1
  · rcases step_view h thread step with ⟨owner, -, effect⟩ | bystander
    · exact .inr (effect.stays_out thread' gone)
    · obtain rfl : t = t' := Option.some.inj (bystander.thread.symm.trans thread')
      exact .inr gone

/-- From the alert number `k` on, the connection has been handed or has queued every alert that
was broadcast. -/
def Follows (s : ServerThreads) (c k : Nat) : Prop :=
  k ≤ s.broadcasted.length ∧ ∃ t lines, s.threads c = some t ∧ s.subscription t = some lines ∧
    pushedLines t.blocks ++ lines = (s.broadcasted.drop k).map formatAlert

theorem formatAlert_short (alert : Alert) : (formatAlert alert).length < maxLine := by
  have := List.length_take_le (maxLine - 1) (ascii "ALERT|" ++ alert.nodeId ++ ascii "|" ++
    alert.alertType ++ ascii "|" ++ formatFixed2 alert.value)
  have limit : maxLine = 1024 := rfl
  rw [formatAlert, snprintf]
  omega

theorem Delivers.follows {k : Nat} (delivers : s.Delivers s' c t u) (thread : s.threads c = some t)
    (thread' : s'.threads c = some u) (h : s.Follows c k) :
    s'.Follows c k ∨ s'.Ended c u := by
  obtain ⟨le, t₁, lines, thread₁, subscribed, all⟩ := h
  obtain rfl : t = t₁ := Option.some.inj (thread.symm.trans thread₁)
  cases delivers with
  | same pushed queue quiet =>
    rcases quiet with none | quiet
    · rw [none] at subscribed
      cases subscribed
    · exact .inl ⟨by rw [quiet]; exact le, u, lines, thread', queue.trans subscribed,
        by rw [pushed, quiet]; exact all⟩
  | subscribed pushed before queue =>
    rw [before] at subscribed
    cases subscribed
  | drained line rest pushed before queue quiet =>
    obtain rfl : line :: rest = lines := Option.some.inj (before.symm.trans subscribed)
    exact .inl ⟨by rw [quiet]; exact le, u, rest, thread', queue, by
      rw [pushed, quiet, List.append_assoc]
      exact all⟩
  | dropped line rest bad pushed before queue =>
    obtain rfl : line :: rest = lines := Option.some.inj (before.symm.trans subscribed)
    have member : line ∈ (s.broadcasted.drop k).map formatAlert := by
      rw [← all]
      simp
    obtain ⟨alert, -, rfl⟩ := List.mem_map.mp member
    rcases bad with empty | long
    · exact absurd empty (formatAlert_ne_nil alert)
    · exact absurd long (not_le.mpr (formatAlert_short alert))
  | queued alert lines₁ pushed before queue next recorded =>
    obtain rfl : lines₁ = lines := Option.some.inj (before.symm.trans subscribed)
    refine .inl ⟨?_, u, _, thread', queue, ?_⟩
    · rw [next, List.length_append]
      exact le.trans (Nat.le_add_right _ _)
    · rw [pushed, next, ← List.append_assoc, all, List.drop_append_of_le_length le, List.map_append]
      rfl
  | ended pushed queue gone => exact .inr gone

end Steps

end ServerThreads

end Telep
