import Telep.Client.Proofs.LinkedReplies
import Telep.Client.Proofs.DecodedReplies
import Telep.Server.Proofs.ShownAlerts

/-!
# The alerts that an operator gets from the server

What `send` took of a connection contains, apart from replies, the alerts that were broadcast from
one of them on (`trails_reachable`), also when the connection is shut down and its owner goes on.
So the alerts that an operator took and those that are pending are, in order and without a gap, the
first alerts that were broadcast from its subscription on (`alerts_in_order`).
-/

namespace Telep

/-! ## What is sent of the alerts -/

namespace ServerThreads

variable {strtod : Bytes → StrtodResult} {startedAt bootId : Long} {s s' : ServerThreads} {c : Nat}
  {t t' : ClientThread} {event : ThreadEvent}

/-- The alerts among the first blocks, which contain all that was sent, are those that were
broadcast from the number `k` on. -/
structure Trails (s : ServerThreads) (c : Nat) (t : ClientThread) (k : Nat)
    (first : List Block) : Prop where
  begins : first <+: t.blocks
  sent : (s.sockets c).wire <+: frames lineFeed (first.flatMap Block.lines)
  start : k ≤ s.broadcasted.length
  pushed : pushedLines first <+: (s.broadcasted.drop k).map formatAlert
  whole : (s.sockets c).isShut = false → first = t.blocks

theorem broadcasted_step (step : s.step strtod event = some s') :
    s.broadcasted <+: s'.broadcasted := by
  rcases queuedFor_step step 0 with ⟨-, same⟩ | ⟨alert, lines, more, -⟩
  · rw [same]
  · rw [more]
    exact List.prefix_append _ _

theorem begins_drop_map {α β : Type} {xs ys : List α} (begins : xs <+: ys) {k : Nat}
    (le : k ≤ xs.length) (f : α → β) : (xs.drop k).map f <+: (ys.drop k).map f := by
  obtain ⟨more, rfl⟩ := begins
  rw [List.drop_append_of_le_length le, List.map_append]
  exact List.prefix_append _ _

/-- A line is drained only for a connection that follows the alerts. -/
theorem Delivers.pushed_cases (delivers : s.Delivers s' c t t') :
    pushedLines t'.blocks = pushedLines t.blocks ∨
      ∃ line rest, pushedLines t'.blocks = pushedLines t.blocks ++ [line] ∧
        s.subscription t = some (line :: rest) := by
  cases delivers with
  | drained line rest pushed before queue quiet => exact .inr ⟨line, rest, pushed, before⟩
  | same pushed | subscribed pushed | dropped _ _ _ pushed | queued _ _ pushed | ended pushed =>
    exact .inl pushed

theorem Trails.step {k : Nat} {first : List Block} (h : s.Trails c t k first) (linked : s.Linked)
    (streamed : s.Streamed c t) (subscribing : s.Subscribing c t)
    (thread : s.threads c = some t) (thread' : s'.threads c = some t')
    (step : s.step strtod event = some s') : ∃ k' first', s'.Trails c t' k' first' := by
  have grown := broadcasted_step step
  have le {k : Nat} (start : k ≤ s.broadcasted.length) : k ≤ s'.broadcasted.length :=
    start.trans grown.length_le
  have streamed' := streamed.step linked thread thread' step
  have blocks : t.blocks <+: t'.blocks := by
    rcases step_view linked thread step with ⟨owner, -, effect⟩ | bystander
    · rcases (effect.produces thread').2 with same | ⟨line, more⟩ | ⟨frame, readings, more⟩
      · exact same ▸ List.prefix_rfl
      · exact more ▸ List.prefix_append _ _
      · exact more ▸ List.prefix_append _ _
    · obtain rfl : t = t' := Option.some.inj (bystander.thread.symm.trans thread')
      exact List.prefix_rfl
  -- every block counts as long as the connection is up
  have everything {k : Nat} (start : k ≤ s.broadcasted.length)
      (pushed : pushedLines t'.blocks <+: (s.broadcasted.drop k).map formatAlert) :
      s'.Trails c t' k t'.blocks :=
    ⟨List.prefix_rfl, streamed'.begun, le start,
      pushed.trans (begins_drop_map grown start formatAlert), fun _ => rfl⟩
  cases up : (s.sockets c).isShut with
  | true =>
    obtain ⟨shut, wire⟩ := shut_step linked thread up step
    refine ⟨k, first, h.begins.trans blocks, wire ▸ h.sent, le h.start,
      h.pushed.trans (begins_drop_map grown h.start formatAlert), fun up' => ?_⟩
    exact absurd (shut.symm.trans up') Bool.true_eq_false.mp
  | false =>
    have all := h.whole up
    subst all
    obtain ⟨u, kept, delivers⟩ := delivers_step linked thread step
    obtain rfl : t' = u := Option.some.inj (thread'.symm.trans kept)
    rcases delivers.pushed_cases with same | ⟨line, rest, more, before⟩
    · exact ⟨k, _, everything h.start (same ▸ h.pushed)⟩
    · cases subscribing with
      | fresh unknown nothing =>
        rw [unknown] at before
        cases before
      | ended gone =>
        rcases gone with shut | out | out
        · exact absurd (up.symm.trans shut) Bool.false_ne_true
        · rw [subscription_idle (by rw [out]; rfl)] at before
          cases before
        · rw [subscription_idle (by rw [out]; rfl)] at before
          cases before
      | follows j follows =>
        obtain ⟨start, u, lines, thread₁, subscribed, lines_eq⟩ := follows
        obtain rfl : t = u := Option.some.inj (thread.symm.trans thread₁)
        obtain rfl : line :: rest = lines := Option.some.inj (before.symm.trans subscribed)
        refine ⟨j, _, everything start ?_⟩
        rw [more, ← lines_eq]
        exact (List.prefix_append_right_inj _).mpr ⟨rest, rfl⟩

/-- Every connection of every run. -/
theorem trails_reachable (h : (threadsMachine strtod startedAt bootId).Reachable s)
    (thread : s.threads c = some t) : ∃ k first, s.Trails c t k first := by
  refine connections_reachable (P := fun s c t => ∃ k first, s.Trails c t k first) ?_ ?_ h thread
  · intro s c t new
    refine ⟨0, [], List.nil_prefix, ?_, Nat.zero_le _, List.nil_prefix, fun _ => new.blocks.symm⟩
    rw [new.socket]
    exact List.nil_prefix
  · rintro s s' event c t t' reachable thread thread' step ⟨k, first, trails⟩
    exact trails.step (linked_reachable reachable) (streamed_reachable reachable thread)
      (subscribing_reachable reachable thread) thread thread' step

/-- The alerts that were handed to a connection with nothing in its queue are all that were
broadcast from its subscription on. -/
theorem followed_reachable (h : (threadsMachine strtod startedAt bootId).Reachable s)
    (thread : s.threads c = some t) (empty : s.subscription t = some [])
    (connected : ¬ s.Ended c t) :
    ∃ k ≤ s.broadcasted.length,
      pushedLines t.blocks = (s.broadcasted.drop k).map formatAlert := by
  cases subscribing_reachable h thread with
  | fresh unknown nothing =>
    rw [unknown] at empty
    cases empty
  | ended gone => exact absurd gone connected
  | follows k follows =>
    obtain ⟨start, u, lines, thread', subscribed, all⟩ := follows
    obtain rfl : t = u := Option.some.inj (thread.symm.trans thread')
    obtain rfl : [] = lines := Option.some.inj (empty.symm.trans subscribed)
    exact ⟨k, start, (List.append_nil _).symm.trans all⟩

/-- An alert that was broadcast reads as it is. -/
theorem decoded_broadcasted (h : (threadsMachine strtod startedAt bootId).Reachable s) (k : Nat) :
    ((s.broadcasted.drop k).map formatAlert).map decodeMessage =
      (s.broadcasted.drop k).map pushedAlert := by
  rw [List.map_map]
  refine List.map_congr_left fun alert member => ?_
  have raised : alert ∈ s.raised := List.mem_append_left _ (List.mem_of_mem_drop member)
  exact decode_formatAlert (raised_shown h alert raised) ((ringHolds_reachable h).2 alert raised)

end ServerThreads

/-! ## What is received of the alerts -/

/-- The alerts among marked lines. -/
def alertsAmong (lines : List (Bytes × Bool)) : List Bytes := (lines.filter Prod.snd).map Prod.fst

theorem alertsAmong_marked (blocks : List Block) :
    alertsAmong (blocks.flatMap Block.marked) = pushedLines blocks := by
  induction blocks with
  | nil => rfl
  | cons block blocks ih =>
    have one : alertsAmong block.marked = block.pushed := by
      cases block with
      | alert line => rfl
      | reply frame lines =>
        simp [alertsAmong, Block.marked, Block.pushed, List.filter_map, Function.comp_def]
    rw [List.flatMap_cons, alertsAmong, List.filter_append, List.map_append, ← alertsAmong,
      ← alertsAmong, one, ih]
    rfl

theorem map_fst_flatMap_marked (blocks : List Block) :
    (blocks.flatMap Block.marked).map Prod.fst = blocks.flatMap Block.lines := by
  induction blocks with
  | nil => rfl
  | cons block blocks ih =>
    rw [List.flatMap_cons, List.flatMap_cons, List.map_append, ih]
    cases block with
    | alert line => rfl
    | reply frame lines => rw [Block.marked, OperatorSession.map_fst_marked, Block.lines]

theorem alertsAmong_prefix {lines more : List (Bytes × Bool)} (begins : lines <+: more) :
    alertsAmong lines <+: alertsAmong more := (begins.filter _).map _

/-- The shorter of two beginnings, by the length of their frames, is a beginning of the longer. -/
theorem prefix_of_length_frames {α β : Type} (mark : α) {f : β → List α} {xs ys whole : List β}
    (left : xs <+: whole) (right : ys <+: whole)
    (le : (frames mark (xs.map f)).length ≤ (frames mark (ys.map f)).length) : xs <+: ys := by
  rcases List.prefix_or_prefix_of_prefix left right with begins | ⟨more, rfl⟩
  · exact begins
  · rw [List.map_append, frames_append, List.length_append] at le
    have few := @length_le_frames _ mark (more.map f)
    obtain rfl : more = [] := List.length_eq_zero_iff.mp (by rw [List.length_map] at few; omega)
    rw [List.append_nil]

namespace OperatorLink

open ServerThreads

variable {strtod : Bytes → StrtodResult} {startedAt bootId : Long} {l : OperatorLink} {c : Nat}
  {o : OperatorSession} {done left : List (Bytes × Bool)}

/-- The lines that were read are among those that were sent. -/
theorem Refines.done_sent (h : Refines c l o) (inStep : o.InStep done left)
    {t : ClientThread} {k : Nat} {first : List Block} (thread : l.server.threads c = some t)
    (trails : l.server.Trails c t k first) : done <+: first.flatMap Block.marked := by
  have blocks : o.blocks = t.blocks := h.blocks.trans (blocks_eq thread)
  have written : o.written = done ++ left := inStep.written
  rw [OperatorSession.written, blocks] at written
  have lines : l.lines c = done.map Prod.fst ++ left.map Prod.fst := by
    rw [OperatorLink.lines, blocks_eq thread, ← map_fst_flatMap_marked, written, List.map_append]
  have stream := congrArg List.length inStep.unread.stream
  rw [h.inFlight, lines, frames_append, List.flatten_nil, List.nil_append, List.length_append,
    List.length_drop, List.length_append] at stream
  obtain ⟨more, begins⟩ := trails.begins
  refine prefix_of_length_frames lineFeed (f := Prod.fst) ⟨left, rfl⟩
    (written ▸ begins ▸ ⟨more.flatMap Block.marked, (List.flatMap_append ..).symm⟩) ?_
  have sent := trails.sent.length_le
  rw [← map_fst_flatMap_marked] at sent
  have within := h.within
  omega

/-- The lines that were read are all that the server wrote. -/
theorem Refines.done_all (h : Refines c l o) (inStep : o.InStep done left)
    (all : l.connection.extracted = l.lines c) :
    done = (l.blocks c).flatMap Block.marked := by
  have written : o.written = done ++ left := inStep.written
  rw [OperatorSession.written, h.blocks] at written
  have lines := congrArg (List.map Prod.fst) written
  rw [map_fst_flatMap_marked, List.map_append, ← inStep.extracted, h.connection, all] at lines
  have none : left.map Prod.fst = [] := List.self_eq_append_right.mp lines
  rw [written, List.map_eq_nil_iff.mp none, List.append_nil]

/-- In every run in which no command lists a node `ALERT` and none is sent after a call failed: the
alerts that `take_alerts` returned and those that are pending are, in
order, without a gap and without a repetition, the first alerts that were broadcast from some number
on; and they are all of them when the server queues none, the connection is up and the client read
all that the server wrote. -/
theorem alerts_in_order (strtod : Bytes → StrtodResult) (startedAt bootId : Long) (c : Nat)
    {events : List LinkEvent} :
    let M := linkMachine strtod startedAt bootId c
    let l := M.exec M.init events
    M.Along (fun l event => AnswersApart c l event ∧ l.SendsInStep event) M.init events →
    ∃ k ≤ l.server.broadcasted.length,
      l.taken ++ l.connection.pendingAlerts <+: (l.server.broadcasted.drop k).map pushedAlert ∧
      ∀ t, l.server.threads c = some t → l.server.subscription t = some [] →
        ¬ l.server.Ended c t → l.connection.extracted = l.lines c →
        l.taken ++ l.connection.pendingAlerts =
          (l.server.broadcasted.drop k).map pushedAlert := by
  intro M l along
  obtain ⟨o, recorded⟩ := recorded_run along
  have refines : Refines c l o := recorded.refines
  have reachable : (threadsMachine strtod startedAt bootId).Reachable l.server :=
    recorded.reachable
  obtain ⟨done, left, inStep⟩ := recorded.kept.inStep
  have alerts : l.taken ++ l.connection.pendingAlerts = (alertsAmong done).map decodeMessage := by
    rw [← refines.taken, ← refines.connection]
    exact inStep.alerts
  rw [alerts]
  have written : o.written = done ++ left := inStep.written
  rw [OperatorSession.written, refines.blocks] at written
  cases thread : l.server.threads c with
  | none =>
    have nothing : done = [] := by
      rw [OperatorLink.blocks, thread] at written
      exact (List.append_eq_nil_iff.mp written.symm).1
    refine ⟨0, Nat.zero_le _, ?_, fun t some => by cases some⟩
    rw [nothing]
    exact List.nil_prefix
  | some t =>
    have known {k : Nat} (begins : alertsAmong done <+: (l.server.broadcasted.drop k).map
        formatAlert) : (alertsAmong done).map decodeMessage <+:
          (l.server.broadcasted.drop k).map pushedAlert :=
      decoded_broadcasted reachable k ▸ begins.map decodeMessage
    rw [blocks_eq thread] at written
    by_cases follows : l.server.subscription t = some [] ∧ ¬ l.server.Ended c t
    · obtain ⟨k, start, all⟩ := followed_reachable reachable thread follows.1 follows.2
      refine ⟨k, start, known ?_, fun u thread' _ _ every => ?_⟩
      · rw [← all, ← alertsAmong_marked, written]
        exact alertsAmong_prefix (List.prefix_append _ _)
      · rw [refines.done_all inStep every, blocks_eq thread, alertsAmong_marked, all]
        exact decoded_broadcasted reachable k
    · obtain ⟨k, first, trails⟩ := trails_reachable reachable thread
      refine ⟨k, trails.start, known ?_, fun u thread' empty connected => ?_⟩
      · have sent := alertsAmong_prefix (refines.done_sent inStep thread trails)
        rw [alertsAmong_marked] at sent
        exact sent.trans trails.pushed
      · obtain rfl : t = u := Option.some.inj thread'
        exact absurd ⟨empty, connected⟩ follows

/-- An operator subscribes and gets the alert that follows. -/
def followedEvents : List LinkEvent :=
  [.server (.accept alarmedThread.fd), .server (.owner 0 .start), .server (.owner 0 .drain),
    .send (ascii "SUBSCRIBE") [], .deliver 100, .server (.owner 0 (.receive alarmedReadings)),
    .server (.owner 0 (.send (.taken 14))), .read [ascii "OK|SUBSCRIBED\n"],
    .server (.owner 0 .drain), .send (ascii "HELLO") [ascii "N", sessionS.val], .deliver 100,
    .server (.owner 0 (.receive alarmedReadings)), .server (.owner 0 (.send (.taken 14))),
    .read [ascii "OK|REGISTERED\n"], .server (.owner 0 .drain), .server (statusDatagram 0 "FAIL"),
    .server .broadcast, .server (.owner 0 .idle), .server (.owner 0 .drain),
    .server (.owner 0 (.send (.taken 25))), .take [ascii "ALERT|N|STATUS_", ascii "FAIL|0.00\n"]]

theorem alerts_in_order_sample :
    let M := linkMachine strtodDigits ⟨7, by decide⟩ ⟨1, by decide⟩ 0
    (M.exec M.init followedEvents).taken =
        [[ascii "ALERT", ascii "N", ascii "STATUS_FAIL", ascii "0.00"]] ∧
      ∃ k, (M.exec M.init followedEvents).taken ++
          (M.exec M.init followedEvents).connection.pendingAlerts <+:
        ((M.exec M.init followedEvents).server.broadcasted.drop k).map pushedAlert := by
  intro M
  have along : M.Along (fun l event => AnswersApart 0 l event ∧ l.SendsInStep event) M.init
      followedEvents :=
    ⟨⟨trivial, trivial⟩, ⟨trivial, trivial⟩, ⟨trivial, trivial⟩,
      ⟨trivial, show OperatorLink.failed _ = false by decide +kernel⟩, ⟨trivial, trivial⟩,
      ⟨fun _ => OperatorSession.not_listsAlertNode (by decide +kernel) _, trivial⟩,
      ⟨trivial, trivial⟩, ⟨trivial, trivial⟩, ⟨trivial, trivial⟩,
      ⟨trivial, show OperatorLink.failed _ = false by decide +kernel⟩, ⟨trivial, trivial⟩,
      ⟨fun _ => OperatorSession.not_listsAlertNode (by decide +kernel) _, trivial⟩,
      ⟨trivial, trivial⟩, ⟨trivial, trivial⟩, ⟨trivial, trivial⟩, ⟨trivial, trivial⟩,
      ⟨trivial, trivial⟩, ⟨trivial, trivial⟩, ⟨trivial, trivial⟩, ⟨trivial, trivial⟩,
      ⟨trivial, trivial⟩, trivial⟩
  have taken : (M.exec M.init followedEvents).taken =
      [[ascii "ALERT", ascii "N", ascii "STATUS_FAIL", ascii "0.00"]] := by
    decide +kernel
  have order := alerts_in_order strtodDigits ⟨7, by decide⟩ ⟨1, by decide⟩ 0 along
  refine ⟨taken, ?_⟩
  generalize M.exec M.init followedEvents = l at order ⊢
  obtain ⟨k, -, begins, -⟩ := order
  exact ⟨k, begins⟩

end OperatorLink

end Telep
