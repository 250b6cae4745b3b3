import Telep.Client.Proofs.OperatorLinks

/-!
# The replies that an operator gets from the server

Every list that a call returns was computed by the server from the registry of one state of the run,
and in that state the call was under way (`answered_during_call`). The clock, the health of the
services and the number of slow subscribers are read besides, each on its own.
-/

namespace Telep

namespace OperatorLink

variable {strtod : Bytes → StrtodResult} {startedAt bootId : Long} {l : OperatorLink} {c : Nat}
  {o : OperatorSession}

/-- The server does not list a node whose row reads as an alert. -/
def AnswersApart (c : Nat) (l : OperatorLink) : LinkEvent → Prop
  | .server (.owner d (.receive _)) => d = c → ¬ ListsAlertNode l.server.toServerState
      ((l.server.sockets c).incoming.takeWhile (· ≠ lineFeed))
  | _ => True

/-- No command is sent after a call failed. -/
def SendsInStep (l : OperatorLink) : LinkEvent → Prop
  | .send _ _ => l.failed = false
  | _ => True

theorem Refines.answersApart (h : Refines c l o) {event : LinkEvent}
    {k : SessionEvent strtod startedAt bootId} (seen : Seen c l event k)
    (apart : AnswersApart c l event) : o.AnswersApart k := by
  cases seen with
  | answer state same readings frame rest clean incoming =>
    obtain ⟨unanswered, split, -⟩ := h.oldest clean incoming
    intro frame' oldest
    rw [split, List.head?_cons] at oldest
    obtain rfl := Option.some.inj oldest
    have first : (l.server.sockets c).incoming.takeWhile (· ≠ lineFeed) = frame := by
      rw [incoming, takeWhile_frame clean]
    rw [same, ← first]
    exact apart rfl
  | _ => trivial

theorem Refines.sendsInStep (h : Refines c l o) {event : LinkEvent}
    {k : SessionEvent strtod startedAt bootId} (seen : Seen c l event k)
    (sends : l.SendsInStep event) : ∀ command fields, k = .send command fields →
      o.failed = false := by
  rintro command fields rfl
  cases seen
  exact h.failed.trans sends

/-- The call with a number is under way, and its command is answered in this state. -/
structure Answers (c : Nat) (l : OperatorLink) (readings : TimeReadings) (n : Nat) (frame : Bytes)
    (lines : List Bytes) : Prop where
  asking : l.asking ≠ none
  length : l.asked.length = n + 1
  asked : l.asked[n]? = some frame
  encoded : ∃ command fields, encodeMessage command fields = some (frame ++ [lineFeed])
  apart : ¬ ListsAlertNode l.server.toServerState frame
  computed : ∃ t, l.server.threads c = some t ∧
    lines = (serveLine l.server.toServerState t.fd readings.val (lineOf frame)).reply

/-- The reply was computed from the registry of one state of the run, during the call. -/
def InCall (strtod : Bytes → StrtodResult) (startedAt bootId : Long) (c : Nat)
    (events : List LinkEvent) (n : Nat) (frame : Bytes) (lines : List Bytes) : Prop :=
  let M := linkMachine strtod startedAt bootId c
  ∃ before readings after,
    events = before ++ .server (.owner c (.receive readings)) :: after ∧
      Answers c (M.exec M.init before) readings n frame lines

theorem InCall.later {events : List LinkEvent} {n : Nat} {frame : Bytes} {lines : List Bytes}
    (inCall : InCall strtod startedAt bootId c events n frame lines) (event : LinkEvent) :
    InCall strtod startedAt bootId c (events ++ [event]) n frame lines := by
  obtain ⟨before, readings, after, rfl, answers⟩ := inCall
  exact ⟨before, readings, after ++ [event], by simp, answers⟩

/-- A frame that is answered while no call has failed is that of the call under way. -/
theorem Refines.answers (h : Refines c l o) (kept : o.Kept) (fine : o.failed = false)
    {t : ClientThread} (thread : l.server.threads c = some t) {frame : Bytes}
    {unanswered : List Bytes} (split : o.unanswered = frame :: unanswered)
    (apart : ¬ ListsAlertNode l.server.toServerState frame) (readings : TimeReadings) :
    Answers c l readings o.replies.length frame
      (serveLine l.server.toServerState t.fd readings.val (lineOf frame)).reply := by
  obtain ⟨done, left, inStep⟩ := kept.inStep
  cases inStep.progress with
  | idle asking =>
    obtain ⟨none, -⟩ := inStep.isSettled_iff.mp (kept.calm fine asking)
    exact absurd (none.symm.trans split) (List.cons_ne_nil _ _).symm
  | answered _ _ _ _ _ _ none => exact absurd (none.symm.trans split) (List.cons_ne_nil _ _).symm
  | sent command fields frame' asking line one alerts =>
    obtain ⟨rfl, rfl⟩ := List.cons.inj (one.symm.trans split)
    have asked := inStep.asked
    rw [one] at asked
    have length : (o.replies.map Prod.fst).length = o.replies.length := List.length_map _
    refine ⟨?_, ?_, ?_, inStep.commands _ (split ▸ List.mem_cons_self), apart, t, thread, rfl⟩
    · rw [← h.asking, asking]
      exact Option.some_ne_none _
    · rw [← h.asked, ← asked, List.length_append, length]
      rfl
    · rw [← h.asked, ← asked, List.getElem?_append_right (le_of_eq length), length, Nat.sub_self]
      rfl

/-- What is known of the replies along a run. -/
structure Recorded (strtod : Bytes → StrtodResult) (startedAt bootId : Long) (c : Nat)
    (events : List LinkEvent) (l : OperatorLink) (o : OperatorSession) : Prop where
  reachable : (threadsMachine strtod startedAt bootId).Reachable l.server
  refines : Refines c l o
  kept : o.Kept
  stopped : o.failed = true → o.asking = none
  replies : o.failed = false → ∀ n frame lines, o.replies[n]? = some (frame, lines) →
    InCall strtod startedAt bootId c events n frame lines
  returned : ∀ entry ∈ o.returned, ∃ frame lines,
    InCall strtod startedAt bootId c events entry.1 frame lines ∧ entry.2 = shownLines lines

/-- An event that adds no reply. -/
theorem Recorded.quiet {events : List LinkEvent} {event : LinkEvent} {l' : OperatorLink}
    {o' : OperatorSession} (h : Recorded strtod startedAt bootId c events l o)
    (reachable : (threadsMachine strtod startedAt bootId).Reachable l'.server)
    (refines : Refines c l' o') (kept : o'.Kept)
    (stopped : o'.failed = true → o'.asking = none) (replies : o'.replies = o.replies)
    (failed : o'.failed = false → o.failed = false)
    (returned : o'.returned = o.returned ∨ o.failed = false) :
    Recorded strtod startedAt bootId c (events ++ [event]) l' o' where
  reachable := reachable
  refines := refines
  kept := kept
  stopped := stopped
  replies fine n frame lines reply :=
    (h.replies (failed fine) n frame lines (replies ▸ reply)).later event
  returned entry member := by
    rcases returned with same | fine
    · obtain ⟨frame, lines, inCall, shown⟩ := h.returned entry (same ▸ member)
      exact ⟨frame, lines, inCall.later event, shown⟩
    · obtain ⟨frame, lines, -, reply, shown⟩ := kept.right entry member
      exact ⟨frame, lines, (h.replies fine _ _ _ (replies ▸ reply)).later event, shown⟩

theorem read_failed {s : OperatorSession} {chunks : List Bytes}
    (fine : (s.read chunks).failed = false) : s.failed = false := by
  unfold OperatorSession.read at fine
  split at fine
  · exact fine
  · split at fine
    · split at fine
      · exact fine
      · cases fine
    · exact fine

/-- After a call failed no other is under way. -/
theorem stopped_next {s : OperatorSession} {fd : ClientFd} {k : SessionEvent strtod startedAt bootId}
    (stopped : s.failed = true → s.asking = none)
    (sends : ∀ command fields, k = .send command fields → s.failed = false) :
    (s.next strtod startedAt bootId fd k).failed = true →
      (s.next strtod startedAt bootId fd k).asking = none := by
  cases k with
  | push alert => exact stopped
  | answer state readings =>
    obtain ⟨-, asking, failed, -⟩ := s.answer_fields state.val.toServerState fd readings.val
    exact fun bad => asking.trans (stopped (failed.symm.trans bad))
  | send command fields =>
    have fine := sends command fields rfl
    have same : (s.send command fields).failed = s.failed := (s.send_fields command fields).2.1
    exact fun bad => absurd (bad.symm.trans (same.trans fine)) Bool.true_eq_false.mp
  | read chunks =>
    show (s.read chunks).failed = true → (s.read chunks).asking = none
    unfold OperatorSession.read
    split
    · exact stopped
    · split
      · split <;> exact fun _ => rfl
      · exact stopped
  | take chunks =>
    show (s.take chunks).failed = true → (s.take chunks).asking = none
    rw [(s.take_fields chunks).2.2.1]
    unfold OperatorSession.take
    split
    · next both => exact fun _ => both.1
    · exact stopped

theorem recorded_init : Recorded strtod startedAt bootId c []
    (linkMachine strtod startedAt bootId c).init ⟨.fresh, [], [], none, false, [], [], [], []⟩ where
  reachable := Machine.Reachable.init _
  refines := refines_init
  kept := @OperatorSession.kept_init strtod startedAt bootId ⟨1, Nat.one_ne_zero⟩
  stopped _ := rfl
  replies _ n frame lines reply := absurd reply (by simp [OperatorSession.replies])
  returned := List.forall_mem_nil _

theorem Recorded.next {events : List LinkEvent} {event : LinkEvent}
    (h : Recorded strtod startedAt bootId c events l o)
    (run : (linkMachine strtod startedAt bootId c).exec
      (linkMachine strtod startedAt bootId c).init events = l)
    (apart : AnswersApart c l event) (sends : l.SendsInStep event) :
    ∃ o', Recorded strtod startedAt bootId c (events ++ [event]) (l.next c strtod event) o' := by
  obtain ⟨fd, owned⟩ := exists_owned l c
  have reachable' := reachable_next (c := c) h.reachable event
  rcases h.refines.next h.reachable owned event with same | ⟨k, seen, moved⟩
  · exact ⟨o, h.quiet reachable' same h.kept h.stopped rfl id (.inl rfl)⟩
  · have fine := h.refines.sendsInStep seen sends
    have kept' : (o.next strtod startedAt bootId fd k).Kept :=
      h.kept.next (h.refines.answersApart seen apart) (h.kept.sendsInStep fine)
    have other := h.refines.answersApart seen apart
    have stopped' := @stopped_next strtod startedAt bootId o fd k h.stopped fine
    refine ⟨o.next strtod startedAt bootId fd k, ?_⟩
    cases seen with
    | push event alert =>
      exact h.quiet reachable' moved kept' stopped' (OperatorSession.replies_push _) id (.inl rfl)
    | send command fields =>
      obtain ⟨-, failed, returned, replies⟩ := o.send_fields command fields
      exact h.quiet reachable' moved kept' stopped' replies (fun fine => failed.symm.trans fine)
        (.inl returned)
    | read chunks =>
      refine h.quiet reachable' moved kept' stopped' (o.read_fields chunks).2 read_failed ?_
      cases failed : o.failed with
      | false => exact .inr rfl
      | true =>
        left
        show (o.read chunks).returned = _
        rw [OperatorSession.read, h.stopped failed]
    | take chunks =>
      obtain ⟨-, replies, -, returned, failed⟩ := o.take_fields chunks
      refine h.quiet reachable' moved kept' stopped' replies (fun fine => ?_) (.inl returned)
      rw [← Bool.not_eq_true]
      intro bad
      exact Bool.true_eq_false.mp ((failed bad).symm.trans fine)
    | answer state same readings frame rest clean incoming =>
      obtain ⟨unanswered, split, -⟩ := h.refines.oldest clean incoming
      have other : ¬ ListsAlertNode l.server.toServerState frame :=
        same ▸ other frame (by rw [split]; rfl)
      obtain ⟨t, thread⟩ : ∃ t, l.server.threads c = some t := by
        cases thread : l.server.threads c with
        | some t => exact ⟨t, rfl⟩
        | none =>
          rw [h.refines.unborn thread] at incoming
          exact absurd incoming.symm (List.append_ne_nil_of_right_ne_nil _ (List.cons_ne_nil _ _))
      obtain ⟨-, -, failed, returned, -⟩ :=
        o.answer_fields state.val.toServerState fd readings.val
      have replies : (o.answer state.val.toServerState fd readings.val).replies = o.replies ++
          [(frame, (serveLine l.server.toServerState t.fd readings.val (lineOf frame)).reply)] := by
        rw [OperatorSession.answer, split, same, owned t thread]
        exact OperatorSession.replies_answer _ _
      refine ⟨reachable', moved, kept', stopped', fun fine n frame' lines reply => ?_,
        fun entry member => ?_⟩
      · have fine' := failed.symm.trans fine
        have reply : (o.answer state.val.toServerState fd readings.val).replies[n]? =
          some (frame', lines) := reply
        rw [replies, List.getElem?_append] at reply
        split at reply
        · exact (h.replies fine' n frame' lines reply).later _
        · next beyond =>
          rw [List.getElem?_singleton] at reply
          split at reply
          · next first =>
            obtain ⟨rfl, rfl⟩ := Prod.mk.inj (Option.some.inj reply)
            obtain rfl : n = o.replies.length := by omega
            exact ⟨events, readings, [], rfl, run ▸
              h.refines.answers h.kept fine' thread split other readings⟩
          · cases reply
      · obtain ⟨frame', lines, inCall, shown⟩ := h.returned entry (returned ▸ member)
        exact ⟨frame', lines, inCall.later _, shown⟩

/-- Every run in which no command lists a node `ALERT` and none is sent after a call failed. -/
theorem recorded_run {events : List LinkEvent}
    (along : (linkMachine strtod startedAt bootId c).Along
      (fun l event => AnswersApart c l event ∧ l.SendsInStep event)
      (linkMachine strtod startedAt bootId c).init events) :
    ∃ o, Recorded strtod startedAt bootId c events ((linkMachine strtod startedAt bootId c).exec
      (linkMachine strtod startedAt bootId c).init events) o :=
  along.exec_history
    (R := fun events l => ∃ o, Recorded strtod startedAt bootId c events l o)
    ⟨_, recorded_init⟩
    (fun _ _ ⟨_, recorded⟩ fine => recorded.next rfl fine.1 fine.2)

/-- In every run in which no command lists a node `ALERT` and no command is sent after a call
failed, every list that `request` returns was computed by the server from the registry of one state
that it went through while this very call was under way. -/
theorem answered_during_call (strtod : Bytes → StrtodResult) (startedAt bootId : Long) (c : Nat)
    {events : List LinkEvent} :
    let M := linkMachine strtod startedAt bootId c
    M.Along (fun l event => AnswersApart c l event ∧ l.SendsInStep event) M.init events →
    ∀ entry ∈ (M.exec M.init events).returned, ∃ frame lines,
      InCall strtod startedAt bootId c events entry.1 frame lines ∧
        entry.2 = shownLines lines := by
  intro M along
  obtain ⟨o, recorded⟩ := recorded_run along
  intro entry member
  exact recorded.returned entry (recorded.refines.returned ▸ member)

open ServerThreads in
/-- An operator connects and asks for the nodes. -/
def linkedEvents : List LinkEvent :=
  [.server (.accept alarmedThread.fd), .server (.owner 0 .start), .server (.owner 0 .drain),
    .send (ascii "GET_NODES") [], .deliver 4, .deliver 6,
    .server (.owner 0 (.receive alarmedReadings)), .server (.owner 0 (.send (.taken 5))),
    .server (.owner 0 (.send (.taken 2))), .server (.owner 0 (.send (.taken 2))),
    .read [ascii "OK", ascii "|0\nEN", ascii "D\n"]]

open ServerThreads in
theorem linkedEvents_along :
    (linkMachine strtodDigits ⟨7, by decide⟩ ⟨1, by decide⟩ 0).Along
      (fun l event => AnswersApart 0 l event ∧ l.SendsInStep event)
      (linkMachine strtodDigits ⟨7, by decide⟩ ⟨1, by decide⟩ 0).init linkedEvents :=
  ⟨⟨trivial, trivial⟩, ⟨trivial, trivial⟩, ⟨trivial, trivial⟩,
    ⟨trivial, show OperatorLink.failed _ = false by decide +kernel⟩, ⟨trivial, trivial⟩,
    ⟨trivial, trivial⟩,
    ⟨fun _ => OperatorSession.not_listsAlertNode (by decide +kernel) _, trivial⟩,
    ⟨trivial, trivial⟩, ⟨trivial, trivial⟩, ⟨trivial, trivial⟩, ⟨trivial, trivial⟩, trivial⟩

open ServerThreads in
/-- The reply to the first command. -/
theorem answered_during_call_sample :
    let M := linkMachine strtodDigits ⟨7, by decide⟩ ⟨1, by decide⟩ 0
    let l := M.exec M.init linkedEvents
    l.returned = [(0, [[ascii "OK", ascii "0"]])] ∧ ∃ frame lines,
      InCall strtodDigits ⟨7, by decide⟩ ⟨1, by decide⟩ 0 linkedEvents 0 frame lines ∧
        [[ascii "OK", ascii "0"]] = shownLines lines := by
  intro M l
  have returned : l.returned = [(0, [[ascii "OK", ascii "0"]])] := by decide +kernel
  have answered :=
    answered_during_call strtodDigits ⟨7, by decide⟩ ⟨1, by decide⟩ 0 linkedEvents_along
  exact ⟨returned, answered (0, _) (returned ▸ List.mem_singleton_self _)⟩

end OperatorLink

end Telep
