import Telep.Server.Proofs.PushedAlerts
import Telep.Server.Proofs.ThreadRegistry

/-!
# No alert is missed

An operator subscribes and then asks for the alerts. The UDP thread records an alert and broadcasts
it later, and either command can fall between the two. A connection that was subscribed has been
handed, or has queued, all that was broadcast from its subscription on (`Follows`); what was
broadcast before had been recorded before.
-/

namespace Telep

open Subscribers

namespace ServerThreads

/-- The thread of the connection waits, and the next line it receives is the bare command. -/
def Receives (s : ServerThreads) (c : Nat) (command : Bytes) : Prop :=
  ∃ t text rest, s.threads c = some t ∧ t.point = .waiting ∧
    receiveTextLine (s.sockets c).incoming maxLine = some (.line text, rest) ∧
    parseMessage text = some ⟨command, []⟩

/-- The last block of the connection is the reply with these lines. -/
def Answered (s : ServerThreads) (c : Nat) (lines : List Bytes) : Prop :=
  ∃ t frame blocks, s.threads c = some t ∧ t.blocks = blocks ++ [.reply frame lines]

/-- The subscription of a connection: it has none and was handed nothing, it follows the alerts, or
it is over. -/
inductive Subscribing (s : ServerThreads) (c : Nat) (t : ClientThread) : Prop
  | fresh (unknown : s.subscription t = none) (nothing : pushedLines t.blocks = [])
  | follows (k : Nat) (follows : s.Follows c k)
  | ended (gone : s.Ended c t)

/-- The connection follows the alerts from the number `k` on until its subscription is over. -/
def Attends (s : ServerThreads) (c k : Nat) : Prop :=
  s.Follows c k ∨ ∃ t, s.threads c = some t ∧ s.Ended c t

section Steps

variable {strtod : Bytes → StrtodResult} {startedAt bootId : Long} {s s' : ServerThreads} {c : Nat}
  {t t' : ClientThread} {event : ThreadEvent}

theorem Subscribing.step (h : s.Linked) (subscribing : s.Subscribing c t)
    (thread : s.threads c = some t) (thread' : s'.threads c = some t')
    (step : s.step strtod event = some s') : s'.Subscribing c t' := by
  obtain ⟨u, kept, delivers⟩ := delivers_step h thread step
  obtain rfl : t' = u := Option.some.inj (thread'.symm.trans kept)
  cases subscribing with
  | fresh unknown nothing =>
    have contradiction {lines : List Bytes} (before : s.subscription t = some lines) :
        s'.Subscribing c t' := by
      rw [unknown] at before
      cases before
    cases delivers with
    | same pushed queue quiet => exact .fresh (queue.trans unknown) (pushed.trans nothing)
    | subscribed pushed before queue =>
      -- the alerts that follow are those from here on
      refine .follows s'.broadcasted.length ⟨le_rfl, t', [], thread', queue, ?_⟩
      rw [pushed, nothing, List.drop_length]
      rfl
    | drained line rest pushed before queue quiet => exact contradiction before
    | dropped line rest bad pushed before queue => exact contradiction before
    | queued alert lines pushed before queue next recorded => exact contradiction before
    | ended pushed queue gone => exact .ended gone
  | follows k follows =>
    rcases delivers.follows thread thread' follows with follows | gone
    · exact .follows k follows
    · exact .ended gone
  | ended gone =>
    obtain ⟨u, kept, gone⟩ := gone.step h thread step
    obtain rfl : t' = u := Option.some.inj (thread'.symm.trans kept)
    exact .ended gone

/-- Every connection of every run. -/
theorem subscribing_reachable (h : (threadsMachine strtod startedAt bootId).Reachable s)
    (thread : s.threads c = some t) : s.Subscribing c t :=
  connections_reachable (fun s c t new => .fresh
      (by simp [subscription, new.point, ServePoint.serves]) (by simp [new.blocks, pushedLines]))
    (fun s s' event c t t' reachable thread thread' step subscribing =>
      subscribing.step (linked_reachable reachable) thread thread' step) h thread

theorem Attends.step {k : Nat} (h : s.Linked) (attends : s.Attends c k)
    (step : s.step strtod event = some s') : s'.Attends c k := by
  rcases attends with follows | ⟨t, thread, gone⟩
  · obtain ⟨-, t, -, thread, -⟩ := id follows
    obtain ⟨t', thread', delivers⟩ := delivers_step h thread step
    exact (delivers.follows thread thread' follows).imp id fun gone => ⟨t', thread', gone⟩
  · exact .inr (gone.step h thread step)

theorem Attends.exec {k : Nat} (attends : s.Attends c k) (h : s.Linked)
    (events : List ThreadEvent) :
    ((threadsMachine strtod startedAt bootId).exec s events).Attends c k :=
  (Machine.exec_preserves (M := threadsMachine strtod startedAt bootId)
    (P := fun s => s.Linked ∧ s.Attends c k)
    (fun _ _ both => preserves_next (P := fun s => s.Linked ∧ s.Attends c k) both
      fun _ step => ⟨both.1.step step, both.2.step both.1 step⟩) ⟨h, attends⟩ events).2

/-- The recorded alerts only grow. -/
theorem raised_prefix_exec (s : ServerThreads) (events : List ThreadEvent) :
    s.raised <+: ((threadsMachine strtod startedAt bootId).exec s events).raised :=
  Machine.exec_preserves (M := threadsMachine strtod startedAt bootId)
    (P := fun s' => s.raised <+: s'.raised)
    (fun s' event grown => preserves_next (P := fun s' => s.raised <+: s'.raised) grown
      fun s'' step => by
        cases registryEffect_step step with
        | same registry raised => exact raised ▸ grown
        | call op registry raised timed => exact grown.trans (raised ▸ List.prefix_append _ _))
    (List.prefix_refl _) events

/-- The step of a thread that receives a bare command. -/
theorem Receives.step {command : Bytes} (strtod : Bytes → StrtodResult)
    (receives : s.Receives c command) (h : s.Linked) (readings : TimeReadings) :
    ∃ t text rest, s.threads c = some t ∧ parseMessage text = some ⟨command, []⟩ ∧
      s.step strtod (.owner c (.receive readings)) =
        some (((s.setSocket c { s.sockets c with incoming := rest }).sharing c
          (handleCommand s.toServerState t.fd readings.val text).state).produce c t
          (.reply ((s.sockets c).incoming.takeWhile (· ≠ lineFeed))
            (handleCommand s.toServerState t.fd readings.val text).reply)
          (nextReply (handleCommand s.toServerState t.fd readings.val text).closes
            (handleCommand s.toServerState t.fd readings.val text).reply)) := by
  obtain ⟨t, text, rest, thread, waits, reads, parsed⟩ := receives
  have descriptor := h.owns c t thread (by simp [waits])
  refine ⟨t, text, rest, thread, parsed, ?_⟩
  simp only [ServerThreads.step, thread, Option.bind_some, ownerStep, waits, if_true, descriptor,
    receiveLine, reads, serveLine]

/-- `GET_ALERTS` is answered with the last alerts that were recorded. -/
theorem Receives.alerts (receives : s.Receives c (ascii "GET_ALERTS")) (h : s.Linked)
    (fits : s.countersFit = true) (readings : TimeReadings)
    (holds : s.registry.RingHolds s.raised) :
    (s.next strtod (.owner c (.receive readings))).Answered c
      (replyList (s.raised.drop (s.raised.length - maxAlerts)).length
        ((s.raised.drop (s.raised.length - maxAlerts)).map alertRow)) := by
  obtain ⟨t, text, rest, thread, parsed, step⟩ := receives.step strtod h readings
  rw [handleCommand_alerts parsed] at step
  rw [next_eq step fits]
  refine ⟨_, (s.sockets c).incoming.takeWhile (· ≠ lineFeed), t.blocks,
    Function.update_self _ _ _, ?_⟩
  dsimp only
  rw [← holds.shownAlerts_eq]
  rfl

theorem Answered.lines_eq {lines lines' : List Bytes} {frame : Bytes} {blocks : List Block}
    (answered : s.Answered c lines) (thread : s.threads c = some t)
    (last : t.blocks = blocks ++ [.reply frame lines']) : lines' = lines := by
  obtain ⟨u, frame', blocks', thread', last'⟩ := answered
  obtain rfl : t = u := Option.some.inj (thread.symm.trans thread')
  have same := (List.append_inj' (last.symm.trans last') rfl).2
  rw [List.singleton_inj, Block.reply.injEq] at same
  exact same.2

/-- An accepted `SUBSCRIBE` leaves a subscription. -/
theorem Receives.subscribed (strtod : Bytes → StrtodResult)
    (receives : s.Receives c (ascii "SUBSCRIBE")) (h : s.Linked) (fits : s.countersFit = true)
    (readings : TimeReadings) :
    ∃ t, (s.next strtod (.owner c (.receive readings))).threads c = some t ∧
      ((s.next strtod (.owner c (.receive readings))).Answered c [ascii "OK|SUBSCRIBED"] →
        (s.next strtod (.owner c (.receive readings))).subscription t ≠ none) := by
  obtain ⟨t, text, rest, thread, parsed, step⟩ := receives.step strtod h readings
  rw [handleCommand_subscribe parsed] at step
  have effect := add_effect s.subscribers t.fd.property
  rw [next_eq step (by rw [← fits]; simp only [countersFit, ← effect.dropped]; rfl)]
  refine ⟨_, Function.update_self _ _ _, fun answered => ?_⟩
  have lines : (if (subscribersAdd s.subscribers t.fd.val).1 < 0 then replyError .serverFull
      else sendTextLine (ascii "OK|SUBSCRIBED")) = [ascii "OK|SUBSCRIBED"] :=
    answered.lines_eq (Function.update_self _ _ _) rfl
  have accepted : (subscribersAdd s.subscribers t.fd.val).1 = 0 := by
    revert effect lines
    generalize subscribersAdd s.subscribers t.fd.val = result
    obtain ⟨code, subscribers⟩ := result
    intro effect lines
    cases effect with
    | full unknown full =>
      rw [if_pos (Int.negSucc_lt_zero 0)] at lines
      exact absurd lines (by decide)
    | _ => rfl
  have queue := effect.queueOf h.sound t.fd.property t.fd.val
  rw [subscription_serves (nextReply_serves _ _)]
  change (subscribersAdd s.subscribers t.fd.val).2.queueOf t.fd.val ≠ none
  rw [queue]
  split
  · exact Option.some_ne_none _
  · next held => exact fun unknown => held ⟨rfl, unknown, accepted⟩

end Steps

/-- What the operator of a connection knows of the alerts: `asking` is the state in which its
`GET_ALERTS` is answered, and `s` any later one. From the alert number `k` on, which is not later
than `asking`, the lines handed to the connection, those queued for it and those that the UDP
thread has not broadcast yet are the alerts of the log. -/
structure NoGap (asking s : ServerThreads) (t : ClientThread) (k : Nat) (queued : List Bytes) :
    Prop where
  logged : asking.raised <+: s.raised
  start : k ≤ asking.raised.length
  subscribed : s.subscription t = some queued
  suffix : pushedLines t.blocks ++ queued ++ s.newAlerts.map formatAlert =
    (s.raised.drop k).map formatAlert
  complete : s.newAlerts = [] → ∀ j (h : j < s.raised.length), j < asking.raised.length ∨
    (pushedLines t.blocks ++ queued)[j - k]? = some (formatAlert s.raised[j])

theorem Follows.noGap {asking s : ServerThreads} {c k : Nat} {t : ClientThread}
    (follows : s.Follows c k) (thread : s.threads c = some t)
    (logged : asking.raised <+: s.raised) (start : k ≤ asking.raised.length) :
    ∃ queued, NoGap asking s t k queued := by
  obtain ⟨le, u, queued, thread', subscribed, all⟩ := follows
  obtain rfl : t = u := Option.some.inj (thread.symm.trans thread')
  have suffix : pushedLines t.blocks ++ queued ++ s.newAlerts.map formatAlert =
      (s.raised.drop k).map formatAlert := by
    rw [all, raised, List.drop_append_of_le_length le, List.map_append]
  refine ⟨queued, logged, start, subscribed, suffix, fun none j h => ?_⟩
  rw [none, List.map_nil, List.append_nil] at suffix
  by_cases early : j < asking.raised.length
  · exact .inl early
  · right
    rw [suffix, List.getElem?_map, List.getElem?_drop, Nat.add_sub_cancel' (by omega),
      List.getElem?_eq_getElem h, Option.map_some]

/-- An operator that is subscribed and then asks for the alerts misses none, whatever the other
threads do meanwhile. -/
theorem no_alert_gap (strtod : Bytes → StrtodResult) (startedAt bootId : Long) (c : Nat)
    (before between after : List ThreadEvent) (readings readings' : TimeReadings) (t : ClientThread) :
    let M := threadsMachine strtod startedAt bootId
    let subscribing := M.exec M.init before
    let subscribed := M.exec subscribing [.owner c (.receive readings)]
    let asking := M.exec subscribed between
    let asked := M.exec asking [.owner c (.receive readings')]
    let s := M.exec asked after
    subscribing.Receives c (ascii "SUBSCRIBE") →
    subscribed.Answered c [ascii "OK|SUBSCRIBED"] →
    asking.Receives c (ascii "GET_ALERTS") →
    s.threads c = some t → ¬ s.Ended c t →
    (∃ k queued, NoGap asking s t k queued) ∧
    asked.Answered c (replyList (asking.raised.drop (asking.raised.length - maxAlerts)).length
      ((asking.raised.drop (asking.raised.length - maxAlerts)).map alertRow)) ∧
    ∃ ops, (registryMachine startedAt bootId).exec (registryInit startedAt bootId) ops =
      s.registry ∧ alertLog startedAt bootId ops = s.raised := by
  intro M subscribing subscribed asking asked s subscribes accepted asks thread connected
  have initial : M.Reachable subscribing := (Machine.Reachable.init M).exec before
  have reaches : M.Reachable subscribed := initial.exec _
  have linked := linked_reachable reaches
  have linked' : asking.Linked := linked_exec linked between
  have run (events : List ThreadEvent) := registry_run strtod startedAt bootId events
  have joined : M.exec M.init (before ++ [.owner c (.receive readings)] ++ between) = asking := by
    rw [M.exec_append, M.exec_append]
  have whole : M.exec M.init (before ++ [.owner c (.receive readings)] ++ between ++
      [.owner c (.receive readings')] ++ after) = s := by
    rw [M.exec_append, M.exec_append, joined]
  refine ⟨?_, ?_, ?_⟩
  · obtain ⟨u, thread', queue⟩ := subscribes.subscribed strtod
      (linked_reachable initial) (countersFit_reachable initial) readings
    have attends : ∃ k ≤ subscribed.raised.length, subscribed.Attends c k := by
      cases subscribing_reachable reaches thread' with
      | fresh unknown nothing => exact absurd unknown (queue accepted)
      | follows k follows =>
        refine ⟨k, follows.1.trans ?_, .inl follows⟩
        rw [raised, List.length_append]
        exact Nat.le_add_right _ _
      | ended gone => exact ⟨0, Nat.zero_le _, .inr ⟨u, thread', gone⟩⟩
    obtain ⟨k, start, attends⟩ := attends
    have asking_attends : asking.Attends c k := attends.exec linked between
    have asked_attends : asked.Attends c k := asking_attends.exec linked' _
    rcases (asked_attends.exec (linked_exec linked' _) after : s.Attends c k) with
      follows | ⟨u, thread', gone⟩
    · exact ⟨k, follows.noGap thread
        ((raised_prefix_exec asking _).trans (raised_prefix_exec asked after))
        (start.trans (raised_prefix_exec subscribed between).length_le)⟩
    · obtain rfl : t = u := Option.some.inj (thread.symm.trans thread')
      exact absurd gone connected
  · obtain ⟨ops, run⟩ := run (before ++ [.owner c (.receive readings)] ++ between)
    have holds := ringHolds_run startedAt bootId ops
    rw [run.registry, run.raised] at holds
    exact asks.alerts linked' (countersFit_reachable (reaches.exec between)) readings'
      (joined ▸ holds)
  · obtain ⟨ops, run⟩ := run (before ++ [.owner c (.receive readings)] ++ between ++
      [.owner c (.receive readings')] ++ after)
    exact ⟨ops, run.registry.trans (congrArg (fun s => s.registry) whole),
      run.raised.trans (congrArg raised whole)⟩

/-! A node is in alert when an operator subscribes, and again after `GET_ALERTS`. -/

def alarmedReadings : TimeReadings :=
  ⟨⟨fun _ => 9, true, true, 0⟩, fun _ => (by decide : IsLong 9), Nat.zero_le _⟩

def statusDatagram (sequence : Nat) (status : String) : ThreadEvent :=
  .datagram ⟨fun _ => 9, fun _ => (by decide : IsLong 9)⟩
    (ascii "TELEMETRY|N|" ++ sessionS.val ++ ascii "|" ++ decimal sequence ++
      ascii "|TEMP=20;HUM=50;STATUS=" ++ ascii status ++ [lineFeed])

def beforeSubscribe : List ThreadEvent :=
  [.accept ⟨5, by decide⟩,
    .arrive 0 (frames lineFeed [ascii "HELLO|N|" ++ sessionS.val, ascii "SUBSCRIBE",
      ascii "GET_ALERTS"]),
    .owner 0 .start, .owner 0 .drain, .owner 0 (.receive alarmedReadings),
    .owner 0 (.send (.taken 14)), .owner 0 .drain, statusDatagram 0 "FAIL"]

def beforeGetAlerts : List ThreadEvent := [.owner 0 (.send (.taken 14)), .owner 0 .drain]

def afterGetAlerts : List ThreadEvent :=
  [.broadcast, statusDatagram 1 "OK", statusDatagram 2 "FAIL", .broadcast]

/-- `strtod` on decimal digits. -/
def strtodDigits (text : Bytes) : StrtodResult := ⟨some (digitsValue text), [], false⟩

def alarmedThread : ClientThread where
  fd := ⟨5, by decide⟩
  point := .replying false (frameOf (ascii "OK|1"))
    [alertRow ⟨9, ascii "N", ascii "STATUS_FAIL", 0⟩, ascii "END"]
  blocks :=
    [.reply (ascii "HELLO|N|" ++ sessionS.val) [ascii "OK|REGISTERED"],
      .reply (ascii "SUBSCRIBE") [ascii "OK|SUBSCRIBED"],
      .reply (ascii "GET_ALERTS")
        [ascii "OK|1", alertRow ⟨9, ascii "N", ascii "STATUS_FAIL", 0⟩, ascii "END"]]

theorem no_alert_gap_sample :
    ∃ asking s k queued, NoGap asking s alarmedThread k queued ∧ asking.raised.length = 1 ∧
      s.raised.length = 2 ∧ s.newAlerts = [] := by
  let M := threadsMachine strtodDigits ⟨7, by decide⟩ ⟨1, by decide⟩
  let subscribing := M.exec M.init beforeSubscribe
  let subscribed := M.exec subscribing [.owner 0 (.receive alarmedReadings)]
  let asking := M.exec subscribed beforeGetAlerts
  let asked := M.exec asking [.owner 0 (.receive alarmedReadings)]
  let s := M.exec asked afterGetAlerts
  let waits (n : Nat) : ClientThread :=
    { alarmedThread with point := .waiting, blocks := alarmedThread.blocks.take n }
  let answers : ClientThread :=
    { alarmedThread with
      point := .replying false (frameOf (ascii "OK|SUBSCRIBED")) []
      blocks := alarmedThread.blocks.take 2 }
  -- one evaluation of the run
  have run : (subscribing.threads 0 = some (waits 1) ∧
      receiveTextLine (subscribing.sockets 0).incoming maxLine =
        some (.line (ascii "SUBSCRIBE"), frames lineFeed [ascii "GET_ALERTS"]) ∧
      subscribed.threads 0 = some answers) ∧
      (asking.threads 0 = some (waits 2) ∧
        receiveTextLine (asking.sockets 0).incoming maxLine =
          some (.line (ascii "GET_ALERTS"), []) ∧ asking.raised.length = 1) ∧
      (s.sockets 0).isShut = false ∧ s.raised.length = 2 ∧ s.newAlerts = [] := by
    decide +kernel
  obtain ⟨⟨waiting, line, replied⟩, ⟨waiting', line', one⟩, up, two, none⟩ := run
  have subscribes : subscribing.Receives 0 (ascii "SUBSCRIBE") :=
    ⟨waits 1, ascii "SUBSCRIBE", _, waiting, rfl, line, by decide⟩
  have accepted : subscribed.Answered 0 [ascii "OK|SUBSCRIBED"] :=
    ⟨answers, ascii "SUBSCRIBE", alarmedThread.blocks.take 1, replied, rfl⟩
  have asks : asking.Receives 0 (ascii "GET_ALERTS") :=
    ⟨waits 2, ascii "GET_ALERTS", [], waiting', rfl, line', by decide⟩
  have connected : ¬ s.Ended 0 alarmedThread := by
    rintro (shut | point | point)
    · rw [up] at shut
      cases shut
    · cases point
    · cases point
  obtain ⟨⟨k, queued, noGap⟩, -⟩ := no_alert_gap strtodDigits ⟨7, by decide⟩ ⟨1, by decide⟩ 0
    beforeSubscribe beforeGetAlerts afterGetAlerts alarmedReadings alarmedReadings alarmedThread
    subscribes accepted asks (by decide +kernel) connected
  exact ⟨asking, s, k, queued, noGap, one, two, none⟩

end ServerThreads

end Telep
