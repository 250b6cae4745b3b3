import Telep.Server.AlertSubscribers

/-!
# Every subscriber gets every alert once, in order

`queueOf` reads the slots as a partial map from descriptors to the lines still queued. Each
section does to that map what a list of queues would do (`queueOf_add`, `queueOf_remove`,
`queueOf_broadcast`, `queueOf_drain`); what a subscription was sent follows by induction on
the run (`delivered_exec`).
-/

namespace Telep

open SlotTable

/-- The descriptor in a slot. -/
def subscriberKey (s : Subscriber) : Option Nat := if s.fd = 0 then none else some s.fd

theorem subscriberKey_eq_some {s : Subscriber} {fd : Nat} :
    subscriberKey s = some fd ↔ s.fd = fd ∧ fd ≠ 0 := by
  unfold subscriberKey
  split
  · next free => simp [free]; omega
  · next used =>
    simp only [Option.some.injEq]
    exact ⟨fun h => ⟨h, h ▸ used⟩, fun h => h.1⟩

theorem subscriberKey_eq_none {s : Subscriber} : subscriberKey s = none ↔ s.fd = 0 := by
  unfold subscriberKey
  split <;> simp [*]

namespace Subscribers

/-- No descriptor is in two slots, and the indices of every queue are in range. -/
structure Sound (s : Subscribers) : Prop where
  distinct : KeysDistinct subscriberKey s.slots
  within : ∀ i, (s.slots i).Within queueSize

/-- The lines queued for a descriptor, `none` when it is not subscribed. -/
def queueOf (s : Subscribers) (fd : Nat) : Option (List Bytes) :=
  (lookup subscriberKey s.slots fd).map fun slot => slot.contents queueSize

variable {s : Subscribers} {fd fd' : Nat} {i : Fin maxSubscribers}

theorem queueOf_of_slot (d : KeysDistinct subscriberKey s.slots)
    (held : subscriberKey (s.slots i) = some fd) :
    s.queueOf fd = some ((s.slots i).contents queueSize) := by
  rw [queueOf, lookup_of_find (d.find_eq held), Option.map_some]

theorem queueOf_eq_none : s.queueOf fd = none ↔ ∀ i, subscriberKey (s.slots i) ≠ some fd := by
  rw [queueOf, Option.map_eq_none_iff, lookup_eq_none, find_eq_none]

theorem slot_of_queueOf {q : List Bytes} (h : s.queueOf fd = some q) :
    ∃ i, subscriberKey (s.slots i) = some fd ∧ (s.slots i).contents queueSize = q := by
  rw [queueOf, lookup] at h
  cases hf : find subscriberKey s.slots fd with
  | none => simp [hf] at h
  | some i => exact ⟨i, find_spec hf, by simpa [hf] using h⟩

/-! ## One section at a time -/

theorem setSlot_self (slot : Subscriber) : (s.setSlot i slot).slots i = slot :=
  Function.update_self _ _ _

theorem setSlot_ne {j : Fin maxSubscribers} (other : j ≠ i) (slot : Subscriber) :
    (s.setSlot i slot).slots j = s.slots j := Function.update_of_ne other _ _

/-- Overwriting the slot of `fd` without changing its descriptor changes the queue of `fd`
only. -/
theorem queueOf_setSlot (d : KeysDistinct subscriberKey s.slots)
    (held : subscriberKey (s.slots i) = some fd) {slot : Subscriber}
    (same : subscriberKey slot = subscriberKey (s.slots i)) :
    (s.setSlot i slot).queueOf fd' =
      if fd' = fd then some (slot.contents queueSize) else s.queueOf fd' := by
  have d' : KeysDistinct subscriberKey (s.setSlot i slot).slots := d.update_same same
  by_cases h : fd' = fd
  · subst h
    rw [if_pos rfl, queueOf_of_slot d' (i := i) (by rw [setSlot_self, same, held]), setSlot_self]
  · rw [if_neg h, queueOf, queueOf, lookup, lookup,
      show find subscriberKey (s.setSlot i slot).slots fd' = find subscriberKey s.slots fd' from
        find_update_same same]
    cases hf : find subscriberKey s.slots fd' with
    | none => rfl
    | some j =>
      have other : j ≠ i := by
        rintro rfl
        exact h (Option.some.inj ((find_spec hf).symm.trans held))
      simp only [Option.map_some, setSlot_ne other]

theorem Sound.setSlot (sound : s.Sound) {slot : Subscriber} (within : slot.Within queueSize)
    (key : subscriberKey slot = subscriberKey (s.slots i) ∨
      ∀ j, subscriberKey (s.slots j) ≠ subscriberKey slot) : (s.setSlot i slot).Sound where
  distinct := by
    rcases key with same | fresh
    · exact sound.distinct.update_same same
    · cases h : subscriberKey slot with
      | none => exact sound.distinct.update_none h
      | some fd => exact sound.distinct.update_fresh h fun j => h ▸ fresh j
  within j := by
    by_cases h : j = i
    · subst h
      simpa [Subscribers.setSlot] using within
    · simpa [Subscribers.setSlot, h] using sound.within j

/-- `subscribers_add` finds the descriptor, finds no room, or fills a free slot. -/
inductive AddEffect (s : Subscribers) (fd : Nat) : Int → Subscribers → Prop
  | known (held : s.queueOf fd ≠ none) : AddEffect s fd 0 s
  | full (unknown : s.queueOf fd = none) (full : ∀ i, subscriberKey (s.slots i) ≠ none) :
      AddEffect s fd (-1) s
  | added (i : Fin maxSubscribers) (unknown : s.queueOf fd = none)
      (free : subscriberKey (s.slots i) = none) : AddEffect s fd 0 (s.setSlot i (.fresh fd))

theorem add_effect (s : Subscribers) (nonzero : fd ≠ 0) :
    AddEffect s fd (subscribersAdd s fd).1 (subscribersAdd s fd).2 := by
  unfold subscribersAdd
  have search : ((List.finRange maxSubscribers).reverse.find? fun i => (s.slots i).fd == 0) =
      lastFree subscriberKey s.slots := by
    unfold lastFree
    congr 1
    funext i
    rw [Bool.eq_iff_iff]
    simp [Option.isNone_iff_eq_none, subscriberKey_eq_none]
  by_cases held : ∃ i, (s.slots i).fd = fd
  · rw [if_pos held]
    refine .known fun none => ?_
    obtain ⟨i, hi⟩ := held
    exact queueOf_eq_none.mp none i (subscriberKey_eq_some.mpr ⟨hi, nonzero⟩)
  · have unknown : s.queueOf fd = none :=
      queueOf_eq_none.mpr fun i hi => held ⟨i, (subscriberKey_eq_some.mp hi).1⟩
    rw [if_neg held, search]
    cases free : lastFree subscriberKey s.slots with
    | none => exact .full unknown (lastFree_eq_none.mp free)
    | some i => exact .added i unknown (lastFree_spec free)

theorem fresh_within (fd : Nat) : (Subscriber.fresh fd).Within queueSize :=
  ⟨Nat.zero_lt_succ 31, Nat.zero_le _⟩

theorem AddEffect.sound {s' : Subscribers} {result : Int} (effect : AddEffect s fd result s')
    (sound : s.Sound) (nonzero : fd ≠ 0) : s'.Sound := by
  cases effect with
  | known held => exact sound
  | full unknown full => exact sound
  | added i unknown free =>
    have key : subscriberKey (.fresh fd) = some fd := subscriberKey_eq_some.mpr ⟨rfl, nonzero⟩
    exact sound.setSlot (fresh_within fd) (.inr fun j => key ▸ queueOf_eq_none.mp unknown j)

theorem AddEffect.dropped {s' : Subscribers} {result : Int} (effect : AddEffect s fd result s') :
    s'.dropped = s.dropped := by
  cases effect <;> rfl

/-- A subscription starts with an empty queue and disturbs no other. -/
theorem AddEffect.queueOf {s' : Subscribers} {result : Int} (effect : AddEffect s fd result s')
    (sound : s.Sound) (nonzero : fd ≠ 0) (fd' : Nat) :
    s'.queueOf fd' =
      if fd' = fd ∧ s.queueOf fd = none ∧ result = 0 then some [] else s.queueOf fd' := by
  cases effect with
  | known held => simp [held]
  | full unknown full => simp
  | added i unknown free =>
    have key : subscriberKey (.fresh fd) = some fd := subscriberKey_eq_some.mpr ⟨rfl, nonzero⟩
    have sound' : (s.setSlot i (.fresh fd)).Sound :=
      (AddEffect.added i unknown free).sound sound nonzero
    by_cases same : fd' = fd
    · subst same
      rw [if_pos ⟨rfl, unknown, rfl⟩, queueOf_of_slot sound'.distinct (i := i)
        (by rw [setSlot_self, key]), setSlot_self]
      rfl
    · rw [if_neg fun h => same h.1, Subscribers.queueOf, Subscribers.queueOf, lookup, lookup,
        show find subscriberKey (s.setSlot i (.fresh fd)).slots fd' =
          find subscriberKey s.slots fd' from find_update_fresh_other free key same]
      cases hf : find subscriberKey s.slots fd' with
      | none => rfl
      | some j =>
        have other : j ≠ i := by
          rintro rfl
          rw [find_spec hf] at free
          cases free
        simp only [Option.map_some, setSlot_ne other]

/-- Slots that keep or give up their descriptor and keep its queue, except for `fd`. -/
theorem queueOf_of_kept {s' : Subscribers} (sound : s.Sound)
    (kept : ∀ i fd, subscriberKey (s'.slots i) = some fd → subscriberKey (s.slots i) = some fd)
    (same : ∀ i, subscriberKey (s.slots i) = some fd → s'.slots i = s.slots i) :
    s'.queueOf fd = s.queueOf fd := by
  cases h : s.queueOf fd with
  | none =>
    exact queueOf_eq_none.mpr fun i hi => queueOf_eq_none.mp h i (kept i fd hi)
  | some q =>
    obtain ⟨i, held, rfl⟩ := slot_of_queueOf h
    have slot := same i held
    rw [← slot] at held
    rw [queueOf_of_slot (sound.distinct.of_kept kept) held, slot]

theorem sound_remove (sound : s.Sound) : (subscribersRemove s fd).Sound where
  distinct := sound.distinct.of_kept fun i fd' h => by
    simp only [subscribersRemove] at h
    split at h
    · simp [subscriberKey] at h
    · exact h
  within i := by
    simp only [subscribersRemove]
    split
    · exact ⟨(sound.within i).head_lt, (sound.within i).count_le⟩
    · exact sound.within i

theorem queueOf_remove (sound : s.Sound) :
    (subscribersRemove s fd).queueOf fd' = if fd' = fd then none else s.queueOf fd' := by
  split
  · next same =>
    subst same
    refine queueOf_eq_none.mpr fun i hi => ?_
    simp only [subscribersRemove] at hi
    split at hi
    · simp [subscriberKey] at hi
    · next other => exact other (subscriberKey_eq_some.mp hi).1
  · next other =>
    refine queueOf_of_kept sound (fun i fd'' h => ?_) fun i h => ?_
    · simp only [subscribersRemove] at h
      split at h
      · simp [subscriberKey] at h
      · exact h
    · exact if_neg fun h' => other ((subscriberKey_eq_some.mp h).1.symm.trans h')

/-! ### Broadcasts -/

theorem broadcast_key (slot : Subscriber) (alert : Alert) :
    subscriberKey (slot.broadcast alert) =
      if slot.count = queueSize then none else subscriberKey slot := by
  unfold Subscriber.broadcast subscriberKey
  split_ifs <;> first | rfl | simp_all

theorem broadcast_within {slot : Subscriber} (within : slot.Within queueSize) (alert : Alert) :
    (slot.broadcast alert).Within queueSize := by
  unfold Subscriber.broadcast
  split_ifs with free full
  · exact within
  · exact ⟨within.head_lt, within.count_le⟩
  · exact within.push (lt_of_le_of_ne within.count_le full) _

theorem broadcast_kept (alert : Alert) (i : Fin maxSubscribers) (fd : Nat)
    (h : subscriberKey ((subscribersBroadcast s alert).2.slots i) = some fd) :
    subscriberKey (s.slots i) = some fd := by
  have key := broadcast_key (s.slots i) alert
  rw [show (s.slots i).broadcast alert = (subscribersBroadcast s alert).2.slots i from rfl, h]
    at key
  split at key
  · cases key
  · exact key.symm

theorem sound_broadcast (sound : s.Sound) (alert : Alert) :
    (subscribersBroadcast s alert).2.Sound where
  distinct := sound.distinct.of_kept (broadcast_kept alert)
  within i := broadcast_within (sound.within i) alert

/-- A broadcast appends the alert to every queue that is not full and ends the others. -/
theorem queueOf_broadcast (sound : s.Sound) (alert : Alert) :
    (subscribersBroadcast s alert).2.queueOf fd =
      (s.queueOf fd).bind fun q =>
        if q.length = queueSize then none else some (q ++ [formatAlert alert]) := by
  cases h : s.queueOf fd with
  | none =>
    exact queueOf_eq_none.mpr fun i hi => queueOf_eq_none.mp h i (broadcast_kept alert i fd hi)
  | some q =>
    obtain ⟨i, held, rfl⟩ := slot_of_queueOf h
    have key := broadcast_key (s.slots i) alert
    rw [Option.bind_some, RingQueue.contents_length]
    by_cases full : (s.slots i).count = queueSize
    · rw [if_pos full]
      refine queueOf_eq_none.mpr fun j hj => ?_
      obtain rfl := sound.distinct j i fd (broadcast_kept alert j fd hj) held
      rw [if_pos full] at key
      rw [show (subscribersBroadcast s alert).2.slots j = (s.slots j).broadcast alert from rfl,
        key] at hj
      cases hj
    · rw [if_neg full] at key ⊢
      have used : (s.slots i).fd ≠ 0 := by
        obtain ⟨rfl, nonzero⟩ := subscriberKey_eq_some.mp held
        exact nonzero
      have slot : (subscribersBroadcast s alert).2.slots i =
          { s.slots i with toRingQueue := (s.slots i).push queueSize (formatAlert alert) } := by
        change (s.slots i).broadcast alert = _
        rw [Subscriber.broadcast, if_neg used, if_neg full]
      rw [queueOf_of_slot (sound_broadcast sound alert).distinct (key.trans held), slot]
      exact congrArg some (RingQueue.contents_push
        (lt_of_le_of_ne (sound.within i).count_le full) _)

/-! ### Drains -/

/-- The section takes the oldest line of a queue that has one. -/
inductive DrainEffect (s : Subscribers) (fd : Nat) : Bytes → Subscribers → Prop
  | empty (none : ∀ q, s.queueOf fd = some q → q = []) : DrainEffect s fd [] s
  | line (i : Fin maxSubscribers) (held : (s.slots i).fd = fd) (nonempty : (s.slots i).count ≠ 0) :
      DrainEffect s fd ((s.slots i).cells (s.slots i).head)
        (s.setSlot i { s.slots i with toRingQueue := (s.slots i).pop queueSize })

theorem drain_effect (s : Subscribers) (fd : Nat) :
    DrainEffect s fd (drainSection s fd).1 (drainSection s fd).2 := by
  unfold drainSection
  cases search : (List.finRange maxSubscribers).find? fun i =>
      (s.slots i).fd == fd && (s.slots i).count != 0 with
  | none =>
    refine .empty fun q hq => ?_
    obtain ⟨i, held, rfl⟩ := slot_of_queueOf hq
    have := List.find?_eq_none.mp search i (List.mem_finRange i)
    simp only [(subscriberKey_eq_some.mp held).1, beq_self_eq_true, Bool.true_and,
      bne_iff_ne, ne_eq, not_not] at this
    exact RingQueue.contents_of_count_eq_zero this
  | some i =>
    have found := List.find?_some search
    simp only [Bool.and_eq_true, beq_iff_eq, bne_iff_ne] at found
    exact .line i found.1 found.2

theorem DrainEffect.sound {s' : Subscribers} {line : Bytes} (effect : DrainEffect s fd line s')
    (sound : s.Sound) : s'.Sound := by
  cases effect with
  | empty none => exact sound
  | line i held nonempty => exact sound.setSlot (sound.within i).pop (.inl rfl)

/-- A drain moves the first line of the queue to its owner and leaves other queues alone. -/
theorem DrainEffect.queueOf {s' : Subscribers} {line : Bytes} (effect : DrainEffect s fd line s')
    (sound : s.Sound) (nonzero : fd ≠ 0) :
    (∀ q, s.queueOf fd = some q →
        (q = [] ∧ line = [] ∧ s'.queueOf fd = some []) ∨
          ∃ rest, q = line :: rest ∧ s'.queueOf fd = some rest) ∧
      ∀ fd', fd' ≠ fd → s'.queueOf fd' = s.queueOf fd' := by
  cases effect with
  | empty none => exact ⟨fun q hq => .inl ⟨none q hq, rfl, none q hq ▸ hq⟩, fun _ _ => rfl⟩
  | line i held nonempty =>
    have key : subscriberKey (s.slots i) = some fd := subscriberKey_eq_some.mpr ⟨held, nonzero⟩
    refine ⟨fun q hq => .inr ⟨((s.slots i).pop queueSize).contents queueSize, ?_, ?_⟩,
      fun fd' other => ?_⟩
    · rw [queueOf_of_slot sound.distinct key] at hq
      exact (Option.some.inj hq).symm.trans
        (RingQueue.contents_pop (sound.within i) nonempty)
    · rw [queueOf_setSlot sound.distinct key (by rfl), if_pos rfl]
    · rw [queueOf_setSlot sound.distinct key (by rfl), if_neg other]

end Subscribers

/-! ## Runs -/

open Subscribers

theorem formatAlert_ne_nil (alert : Alert) : formatAlert alert ≠ [] := by
  simp [formatAlert, snprintf, ascii]

/-- Every section keeps the slots sound. -/
theorem sound_step {s : Subscribers} (sound : s.Sound) (op : SubscribersOp) :
    (subscribersStep s op).2.Sound := by
  cases op with
  | add fd => exact (add_effect s fd.property).sound sound fd.property
  | remove fd => exact sound_remove sound
  | broadcast alert => exact sound_broadcast sound alert
  | drain fd => exact (drain_effect s fd.val).sound sound

theorem sound_init : subscribersInit.Sound where
  distinct i j k h := by simp [subscribersInit, Subscriber.fresh, subscriberKey] at h
  within _ := fresh_within 0

theorem sound_reachable {s : Subscribers} (h : subscribersMachine.Reachable s) : s.Sound :=
  h.invariant (P := Sound) sound_init fun _ op sound => sound_step sound op

/-- The line a section hands to the owner of `fd`, if any. -/
def drainedBy (fd : Nat) (s : Subscribers) : SubscribersOp → List Bytes
  | .drain fd' =>
      if fd'.val = fd ∧ (drainSection s fd).1 ≠ [] then [(drainSection s fd).1] else []
  | _ => []

/-- The lines handed to the owner of `fd` in a run from `s`. -/
def delivered (fd : Nat) (s : Subscribers) (ops : List SubscribersOp) : List Bytes :=
  subscribersMachine.collect (drainedBy fd) s ops

theorem delivered_append (fd : Nat) (s : Subscribers) (ops ops' : List SubscribersOp) :
    delivered fd s (ops ++ ops') =
      delivered fd s ops ++ delivered fd (subscribersMachine.exec s ops) ops' :=
  subscribersMachine.collect_append _ _ _ _

/-- The line of a broadcast. -/
def SubscribersOp.line : SubscribersOp → List Bytes
  | .broadcast alert => [formatAlert alert]
  | _ => []

/-- The lines of the alerts broadcast in a run, in order. -/
def broadcasts (ops : List SubscribersOp) : List Bytes := ops.flatMap SubscribersOp.line

/-- A section that does not end a subscription hands out the first line of its queue or appends
the broadcast line to it. -/
theorem queueOf_step {s : Subscribers} (sound : s.Sound) {fd : Nat} {q : List Bytes}
    (hq : s.queueOf fd = some q) (lines : ∀ line ∈ q, line ≠ []) (op : SubscribersOp)
    (stays : (subscribersStep s op).2.queueOf fd ≠ none) :
    ∃ q', (subscribersStep s op).2.queueOf fd = some q' ∧
      drainedBy fd s op ++ q' = q ++ op.line := by
  cases op with
  | add fd' =>
    refine ⟨q, ?_, by simp [drainedBy, SubscribersOp.line]⟩
    refine ((add_effect s fd'.property).queueOf sound fd'.property fd).trans ?_
    rw [if_neg fun h => by simp [← h.1, hq] at h, hq]
  | remove fd' =>
    have step : (subscribersRemove s fd'.val).queueOf fd = _ := queueOf_remove sound
    change (subscribersRemove s fd'.val).queueOf fd ≠ none at stays
    change ∃ q', (subscribersRemove s fd'.val).queueOf fd = some q' ∧ _
    rw [step] at stays ⊢
    by_cases same : fd = fd'.val
    · exact absurd (if_pos same) stays
    · exact ⟨q, by rw [if_neg same, hq], by simp [drainedBy, SubscribersOp.line]⟩
  | broadcast alert =>
    have step : (subscribersStep s (.broadcast alert)).2.queueOf fd = _ :=
      queueOf_broadcast sound alert
    rw [step, hq, Option.bind_some] at stays
    rw [step, hq, Option.bind_some]
    by_cases full : q.length = queueSize
    · exact absurd (if_pos full) stays
    · exact ⟨_, if_neg full, rfl⟩
  | drain fd' =>
    obtain ⟨own, other⟩ := (drain_effect s fd'.val).queueOf sound fd'.property
    by_cases same : fd'.val = fd
    · subst same
      rcases own q hq with ⟨rfl, line, after⟩ | ⟨rest, rfl, after⟩
      · exact ⟨[], after, by simp [drainedBy, line, SubscribersOp.line]⟩
      · have nonempty := lines _ List.mem_cons_self
        exact ⟨rest, after, by simp [drainedBy, nonempty, SubscribersOp.line]⟩
    · refine ⟨q, (other fd fun h => same h.symm).trans hq, ?_⟩
      simp [drainedBy, same, SubscribersOp.line]

/-- While a subscription lasts, what it was handed and what is still queued is what was queued
at first and what was broadcast since: induction on the run. -/
theorem delivered_exec {fd : Nat} (ops : List SubscribersOp) {s : Subscribers} (sound : s.Sound)
    {q : List Bytes} (hq : s.queueOf fd = some q) (lines : ∀ line ∈ q, line ≠ [])
    (stays : ∀ mid, mid <+: ops → (subscribersMachine.exec s mid).queueOf fd ≠ none) :
    ∃ q', (subscribersMachine.exec s ops).queueOf fd = some q' ∧
      delivered fd s ops ++ q' = q ++ broadcasts ops := by
  induction ops generalizing s q with
  | nil => exact ⟨q, hq, by simp [delivered, Machine.collect, broadcasts]⟩
  | cons op ops ih =>
    obtain ⟨q₁, hq₁, first⟩ := queueOf_step sound hq lines op
      (stays [op] (List.prefix_cons_inj op |>.mpr List.nil_prefix))
    have lines₁ : ∀ line ∈ q₁, line ≠ [] := by
      intro line member
      have : line ∈ q ++ op.line := first ▸ List.mem_append_right _ member
      rcases List.mem_append.mp this with old | new
      · exact lines line old
      · cases op with
        | broadcast alert =>
          rw [List.mem_singleton.mp new]
          exact formatAlert_ne_nil alert
        | _ => cases new
    obtain ⟨q', hq', rest⟩ := ih (sound_step sound op) hq₁ lines₁ fun mid h =>
      stays (op :: mid) (List.prefix_cons_inj op |>.mpr h)
    refine ⟨q', hq', ?_⟩
    have now : delivered fd s (op :: ops) =
        drainedBy fd s op ++ delivered fd (subscribersStep s op).2 ops := rfl
    rw [now, List.append_assoc, rest, ← List.append_assoc, first, List.append_assoc]
    rfl

/-- Sections of other threads hand nothing to the owner of `fd`. -/
theorem delivered_others {fd : ClientFd} {ops : List SubscribersOp}
    (sole : SubscribersOp.drain fd ∉ ops) (s : Subscribers) : delivered fd.val s ops = [] := by
  induction ops generalizing s with
  | nil => rfl
  | cons op ops ih =>
    rw [List.mem_cons, not_or] at sole
    refine List.append_eq_nil_iff.mpr ⟨?_, ih sole.2 _⟩
    cases op with
    | drain fd' =>
      have other : ¬ fd'.val = fd.val := fun same => sole.1 (by rw [Subtype.ext same])
      simp [drainedBy, other]
    | _ => rfl

/-- A drain hands out the lines of its sections, whatever the other threads do in between. -/
theorem drainLoop_run {others : Nat → List SubscribersOp} {sends : Bytes → Bool} {fd : ClientFd}
    (sole : ∀ n, SubscribersOp.drain fd ∉ others n) (n : Nat) (s : Subscribers) :
    ∃ ops, (drainLoop others sends fd n s).2.2 = subscribersMachine.exec s ops ∧
      (drainLoop others sends fd n s).2.1 = delivered fd.val s ops := by
  induction n generalizing s with
  | zero => exact ⟨[], rfl, rfl⟩
  | succ n ih =>
    have state : (drainSection (subscribersMachine.exec s (others n)) fd.val).2 =
        subscribersMachine.exec s (others n ++ [.drain fd]) :=
      (subscribersMachine.exec_concat s (others n) (.drain fd)).symm
    have lines : delivered fd.val s (others n ++ [.drain fd]) =
        drainedBy fd.val (subscribersMachine.exec s (others n)) (.drain fd) := by
      rw [delivered, Machine.collect_concat]
      exact congrArg (· ++ _) (delivered_others (sole n) s)
    obtain ⟨ops, final, rest⟩ := ih (subscribersMachine.exec s (others n ++ [.drain fd]))
    simp only [drainLoop]
    split_ifs with empty sent
    · exact ⟨_, state, by simp [lines, drainedBy, empty]⟩
    · refine ⟨others n ++ [.drain fd] ++ ops, ?_, ?_⟩
      · rw [Machine.exec_append, state]
        exact final
      · rw [delivered_append, lines, state, ← rest]
        simp [drainedBy, empty]
    · exact ⟨_, state, by simp [lines, drainedBy, empty]⟩

theorem subscribersDrain_run {others : Nat → List SubscribersOp} {sends : Bytes → Bool}
    {fd : ClientFd} (sole : ∀ n, SubscribersOp.drain fd ∉ others n) (s : Subscribers) :
    ∃ ops, (subscribersDrain others sends fd s).2.2 = subscribersMachine.exec s ops ∧
      (subscribersDrain others sends fd s).2.1 = delivered fd.val s ops :=
  drainLoop_run sole queueSize s

/-! ## The whole table -/

/-- Whether a descriptor is subscribed. -/
def Registered (s : Subscribers) (fd : Nat) : Prop := ∃ i, (s.slots i).fd = fd

theorem registered_iff {s : Subscribers} {fd : Nat} (nonzero : fd ≠ 0) :
    Registered s fd ↔ s.queueOf fd ≠ none := by
  rw [ne_eq, queueOf_eq_none, not_forall]
  refine exists_congr fun i => ?_
  rw [not_not, subscriberKey_eq_some]
  exact (and_iff_left nonzero).symm

/-- A descriptor is in one slot at most, and the indices of the queues are in range. -/
structure SlotsInRange (s : Subscribers) : Prop where
  distinct : ∀ i j, (s.slots i).fd ≠ 0 → (s.slots i).fd = (s.slots j).fd → i = j
  count_le : ∀ i, (s.slots i).count ≤ 32
  head_lt : ∀ i, (s.slots i).head < 32

theorem slotsInRange {s : Subscribers} (sound : s.Sound) : SlotsInRange s where
  distinct i j used same := sound.distinct i j _ (subscriberKey_eq_some.mpr ⟨rfl, used⟩)
    (subscriberKey_eq_some.mpr ⟨same.symm, used⟩)
  count_le i := (sound.within i).count_le
  head_lt i := (sound.within i).head_lt

/-- A broadcast cuts off exactly the subscribers with a full queue, each once. -/
structure CutsOff (s : Subscribers) (alert : Alert) : Prop where
  shutDown : ∀ i, (s.slots i).fd ≠ 0 →
    ((s.slots i).fd ∈ (subscribersBroadcast s alert).1 ↔ (s.slots i).count = 32)
  freed : ∀ i, (s.slots i).fd ≠ 0 →
    (((subscribersBroadcast s alert).2.slots i).fd = 0 ↔ (s.slots i).count = 32)
  once : (subscribersBroadcast s alert).1.Nodup
  dropped : (subscribersBroadcast s alert).2.dropped =
    s.dropped + (subscribersBroadcast s alert).1.length

theorem cutsOff {s : Subscribers} (sound : s.Sound) (alert : Alert) : CutsOff s alert where
  shutDown i used := by
    simp only [subscribersBroadcast, List.mem_map, List.mem_filter, List.mem_finRange, true_and,
      Subscriber.isCut, decide_eq_true_iff]
    constructor
    · rintro ⟨j, ⟨-, full⟩, same⟩
      rwa [(slotsInRange sound).distinct i j used same.symm]
    · intro full
      exact ⟨i, ⟨used, full⟩, rfl⟩
  freed i used := by
    simp only [subscribersBroadcast, Subscriber.broadcast, if_neg used]
    split <;> simp [*]
  once := by
    refine List.Nodup.map_on (fun i hi j _ same => ?_)
      ((List.nodup_finRange _).filter _)
    have cut := (List.mem_filter.mp hi).2
    simp only [Subscriber.isCut, decide_eq_true_iff] at cut
    exact (slotsInRange sound).distinct i j cut.1 same
  dropped := by simp [subscribersBroadcast]

/-- A subscription made after `before` and never ended during `after`. -/
structure Subscription (before : List SubscribersOp) (fd : ClientFd)
    (after : List SubscribersOp) : Prop where
  fresh : ¬ Registered (subscribersMachine.exec subscribersInit before) fd.val
  lasts : ∀ mid, mid <+: after →
    Registered (subscribersMachine.exec subscribersInit (before ++ .add fd :: mid)) fd.val

theorem subscription_delivered {before after : List SubscribersOp} {fd : ClientFd}
    (h : Subscription before fd after) {i : Fin maxSubscribers}
    (held : ((subscribersMachine.exec subscribersInit (before ++ .add fd :: after)).slots i).fd =
      fd.val) :
    delivered fd.val (subscribersMachine.exec subscribersInit (before ++ [.add fd])) after ++
        ((subscribersMachine.exec subscribersInit (before ++ .add fd :: after)).slots i).contents
          queueSize =
      broadcasts after := by
  have cut (mid : List SubscribersOp) :
      subscribersMachine.exec subscribersInit (before ++ .add fd :: mid) =
        subscribersMachine.exec (subscribersMachine.exec subscribersInit (before ++ [.add fd]))
          mid := by
    rw [← Machine.exec_append, List.append_assoc, List.singleton_append]
  have sound₀ : (subscribersMachine.exec subscribersInit before).Sound :=
    sound_reachable ⟨before, rfl⟩
  have sound₁ : (subscribersMachine.exec subscribersInit (before ++ [.add fd])).Sound :=
    sound_reachable ⟨_, rfl⟩
  have start : (subscribersMachine.exec subscribersInit (before ++ [.add fd])).queueOf fd.val =
      some [] := by
    have unknown : (subscribersMachine.exec subscribersInit before).queueOf fd.val = none := by
      by_contra known
      exact h.fresh ((registered_iff fd.property).mpr known)
    have held := (registered_iff fd.property).mp (h.lasts [] List.nil_prefix)
    have added := (add_effect (subscribersMachine.exec subscribersInit before)
      fd.property).queueOf sound₀ fd.property fd.val
    rw [Machine.exec_concat] at held ⊢
    change (subscribersAdd _ fd.val).2.queueOf fd.val ≠ none at held
    rw [added] at held
    refine added.trans (if_pos ?_)
    by_contra refused
    rw [if_neg refused] at held
    exact held unknown
  obtain ⟨q, hq, all⟩ := delivered_exec after sound₁ start (by simp) fun mid hmid => by
    rw [← cut]
    exact (registered_iff fd.property).mp (h.lasts mid hmid)
  have sound : (subscribersMachine.exec subscribersInit (before ++ .add fd :: after)).Sound :=
    sound_reachable ⟨_, rfl⟩
  have slot := queueOf_of_slot sound.distinct (subscriberKey_eq_some.mpr ⟨held, fd.property⟩)
  rw [← cut] at hq
  rw [hq] at slot
  rw [← Option.some.inj slot, all, List.nil_append]

/-- Only a broadcast cuts subscribers off. -/
theorem dropped_of_not_broadcast (s : Subscribers) (op : SubscribersOp)
    (other : ∀ alert, op ≠ .broadcast alert) : (subscribersStep s op).2.dropped = s.dropped := by
  cases op with
  | broadcast alert => exact absurd rfl (other alert)
  | add fd =>
    have effect := add_effect s fd.property
    change (subscribersAdd s fd.val).2.dropped = s.dropped
    generalize (subscribersAdd s fd.val).1 = result at effect
    generalize (subscribersAdd s fd.val).2 = s' at effect ⊢
    cases effect <;> rfl
  | remove fd => rfl
  | drain fd =>
    have effect := drain_effect s fd.val
    change (drainSection s fd.val).2.dropped = s.dropped
    generalize (drainSection s fd.val).1 = line at effect
    generalize (drainSection s fd.val).2 = s' at effect ⊢
    cases effect <;> rfl

/-- Adding a subscribed connection again changes nothing. -/
theorem add_again {s : Subscribers} {fd : ClientFd} (held : Registered s fd.val) :
    subscribersStep s (.add fd) = (.added 0, s) := by
  have effect := add_effect s fd.property
  have known := (registered_iff fd.property).mp held
  change (SubscribersAnswer.added (subscribersAdd s fd.val).1, (subscribersAdd s fd.val).2) = _
  generalize (subscribersAdd s fd.val).1 = result at effect ⊢
  generalize (subscribersAdd s fd.val).2 = s' at effect ⊢
  cases effect with
  | known _ => rfl
  | full unknown full => exact absurd unknown known
  | added i unknown free => exact absurd unknown known

/-- In every interleaving of the sections: the slots are in range; each subscription was handed
and still queues exactly the alerts broadcast since it was made, in order; broadcasts, and
nothing else, cut off the subscribers that have a full queue; and subscribing again changes
nothing. -/
theorem subscriptions_correct (ops : List SubscribersOp) (s : Subscribers)
    (run : subscribersMachine.exec subscribersInit ops = s) :
    SlotsInRange s ∧
      (∀ before fd after i, ops = before ++ .add fd :: after → Subscription before fd after →
        (s.slots i).fd = fd.val →
        delivered fd.val (subscribersMachine.exec subscribersInit (before ++ [.add fd])) after ++
          (s.slots i).contents queueSize = broadcasts after) ∧
      (∀ alert, CutsOff s alert) ∧
      (∀ op, (∀ alert, op ≠ .broadcast alert) →
        (subscribersStep s op).2.dropped = s.dropped) ∧
      ∀ fd : ClientFd, Registered s fd.val → subscribersStep s (.add fd) = (.added 0, s) := by
  have sound : s.Sound := sound_reachable ⟨ops, run⟩
  refine ⟨slotsInRange sound, ?_, cutsOff sound, dropped_of_not_broadcast s,
    fun fd held => add_again held⟩
  rintro before fd after i rfl subscription held
  subst run
  exact subscription_delivered subscription held

/-- Connection 5 subscribes, is pushed an alert, drains it and is pushed another one. -/
theorem subscriptions_correct_sample :
    delivered 5 (subscribersMachine.exec subscribersInit [.add ⟨5, by decide⟩])
        [.broadcast ⟨0, ascii "N", ascii "TEMP_HIGH", 41⟩, .drain ⟨5, by decide⟩,
          .broadcast ⟨0, ascii "N", ascii "HUM_HIGH", 90⟩] ++
      ((subscribersMachine.exec subscribersInit
        [.add ⟨5, by decide⟩, .broadcast ⟨0, ascii "N", ascii "TEMP_HIGH", 41⟩,
          .drain ⟨5, by decide⟩, .broadcast ⟨0, ascii "N", ascii "HUM_HIGH", 90⟩]).slots
            31).contents queueSize =
      broadcasts [.broadcast ⟨0, ascii "N", ascii "TEMP_HIGH", 41⟩, .drain ⟨5, by decide⟩,
        .broadcast ⟨0, ascii "N", ascii "HUM_HIGH", 90⟩] := by
  refine (subscriptions_correct _ _ rfl).2.1 [] ⟨5, by decide⟩ _ 31 rfl ⟨?_, ?_⟩ (by decide)
  · unfold Registered
    decide
  · intro mid h
    have := (List.mem_inits _ _).mpr h
    simp only [List.inits, List.map_cons, List.map_nil, List.mem_cons, List.not_mem_nil,
      or_false] at this
    rcases this with rfl | rfl | rfl | rfl <;> exact ⟨31, by decide⟩

end Telep
