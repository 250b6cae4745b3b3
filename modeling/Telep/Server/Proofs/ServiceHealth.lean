import Telep.Misc.Recency
import Telep.Server.ServiceHealth
import Telep.Server.Proofs.RouteRequests

/-!
# What the health of a service tells

A cell holds the time of the last heartbeat, so `/status` answers 200 exactly when each loop was at
its head within the last three seconds and there is memory for the body (`status_iff_beating`).
-/

namespace Telep

namespace ServiceLoops

variable {l : ServiceLoops} {service : Service}

/-- The time of a heartbeat. -/
def beatTimes : LoopEvent → List Int
  | .heartbeat _ now => [now]
  | _ => []

/-- The time of a heartbeat of the service, if the loop is at its head. -/
def beatAt (service : Service) (l : ServiceLoops) : LoopEvent → List Int
  | .heartbeat other now => if other = service ∧ l.point service = .head then [now] else []
  | _ => []

/-- A heartbeat of the service changes its cell, nothing else does. -/
theorem beats_next (l : ServiceLoops) (service : Service) (event : LoopEvent) :
    (l.next event).beats service = ((beatAt service l event).getLast?).getD (l.beats service) := by
  cases event with
  | heartbeat other now =>
    rw [next, step, beatAt]
    by_cases same : other = service
    · subst same
      by_cases head : l.point other = .head
      · simp [head, serviceHeartbeat]
      · simp [head]
    · by_cases head : l.point other = .head
      · simp [head, same, serviceHeartbeat, Function.update_of_ne (Ne.symm same)]
      · simp [head, same]
  | idle other | readable other | handled other =>
    rw [next, step]
    split <;> rfl

/-- The cell of a service is that of its heartbeats. -/
theorem beats_run (service : Service) (events : List LoopEvent) :
    (loopsMachine.exec loopsMachine.init events).beats service =
      lastStamp (loopsMachine.collect (beatAt service) loopsMachine.init events) := by
  refine Machine.exec_history
    (P := fun events (l : ServiceLoops) => l.beats service =
      lastStamp (loopsMachine.collect (beatAt service) loopsMachine.init events)) rfl ?_ events
  intro events event h
  rw [Machine.collect_concat]
  generalize loopsMachine.exec loopsMachine.init events = l at h ⊢
  show (l.next event).beats service = _
  rw [beats_next, h]
  have one : (beatAt service l event).length ≤ 1 := by
    unfold beatAt
    split
    · split <;> simp
    · simp
  cases now : beatAt service l event with
  | nil => rw [List.append_nil]; rfl
  | cons time times =>
    rw [now, List.length_cons] at one
    obtain rfl : times = [] := List.length_eq_zero_iff.mp (by omega)
    rw [lastStamp_concat]
    rfl

/-- The loop of the service began a round at the time. -/
def BeganAt (service : Service) (events : List LoopEvent) (time : Int) : Prop :=
  ∃ before after, events = before ++ .heartbeat service time :: after ∧
    (loopsMachine.exec loopsMachine.init before).point service = .head

theorem mem_beatTimes {events : List LoopEvent} {time : Int} :
    time ∈ loopsMachine.collect (beatAt service) loopsMachine.init events ↔
      BeganAt service events time := by
  rw [Machine.mem_collect]
  constructor
  · rintro ⟨before, event, after, split, member⟩
    cases event with
    | heartbeat other now =>
      rw [beatAt] at member
      split at member
      · next began =>
        obtain rfl := List.mem_singleton.mp member
        exact ⟨before, after, began.1 ▸ split, began.2⟩
      · cases member
    | _ => cases member
  · rintro ⟨before, after, split, head⟩
    refine ⟨before, _, after, split, ?_⟩
    rw [beatAt, if_pos ⟨rfl, head⟩]
    exact List.mem_singleton_self _

/-- A service is healthy exactly when its loop began a round within the last three seconds. -/
theorem healthy_iff {events : List LoopEvent}
    (sorted : (events.flatMap beatTimes).Pairwise (· ≤ ·))
    (positive : ∀ t ∈ events.flatMap beatTimes, 0 < t) (service : Service) (now : Int) :
    serviceHealthy (loopsMachine.exec loopsMachine.init events).beats service now = true ↔
      ∃ t, BeganAt service events t ∧ now - t < 3000 := by
  have sublist : List.Sublist (loopsMachine.collect (beatAt service) loopsMachine.init events)
      (events.flatMap beatTimes) := by
    refine Machine.collect_sublist _ fun l event => ?_
    cases event with
    | heartbeat other now =>
      rw [beatAt]
      split
      · exact List.Sublist.refl _
      · exact List.nil_sublist _
    | _ => exact List.nil_sublist _
  rw [serviceHealthy, decide_eq_true_eq, beats_run,
    recent_iff (sorted.sublist sublist) fun t member => positive t (sublist.subset member)]
  exact exists_congr fun t => and_congr_left fun _ => mem_beatTimes

end ServiceLoops

namespace ServerThreads

variable {strtod : Bytes → StrtodResult} {startedAt bootId : Long} {s : ServerThreads}

/-- The reply to `/status`. -/
theorem routeReply_health (reachable : (threadsMachine strtod startedAt bootId).Reachable s)
    (clockText : Int → Bytes) (readings : TimeReadings) (now : Int) (tcpOk udpOk : Bool) :
    ∃ body, routeReply strtod clockText s.toServerState ⟨now, readings.val, tcpOk, udpOk⟩
      (ascii "/status") = some ⟨if tcpOk = false ∨ udpOk = false then 503 else 200,
        ascii "application/json", body⟩ := by
  obtain ⟨-, -, body⟩ := statusBody (shown_reachable reachable) readings now tcpOk udpOk
  obtain ⟨text, built⟩ : ∃ text, buildJson httpBodySize (ascii "/status")
      s.registry.toRegistrySnapshot ⟨now, readings.val, tcpOk, udpOk⟩ =
        some text := ⟨_, body.written _ le_rfl⟩
  refine ⟨text, ?_⟩
  rw [routeReply]
  dsimp only
  rw [if_neg (by decide), if_pos (by decide), built, Option.map_some]
  simp only [true_and]

open ServiceLoops in
/-- In every run of the two loops whose clock is positive and does not go back, and in every state
of the server, a request for `/status` is answered with 200 if there is memory for the body and the
loop of each service began a round less than three seconds before the reading of the clock for it,
which is taken after `tcpEvents` and `udpEvents`, and with 503 otherwise. -/
theorem status_iff_beating (reachable : (threadsMachine strtod startedAt bootId).Reachable s)
    {tcpEvents udpEvents : List LoopEvent} (begins : tcpEvents <+: udpEvents)
    (sorted : (udpEvents.flatMap beatTimes).Pairwise (· ≤ ·))
    (positive : ∀ t ∈ udpEvents.flatMap beatTimes, 0 < t) (clockText : Int → Bytes)
    (readings : TimeReadings) (now tcpNow udpNow : Int) (allocated : Bool) {arriving : Bytes}
    (request : IsRouteRequest (ascii "/status") arriving) :
    let page := page (loopsMachine.exec loopsMachine.init tcpEvents)
      (loopsMachine.exec loopsMachine.init udpEvents) now readings.val tcpNow udpNow
    let beating := (∃ t, BeganAt .tcpListener tcpEvents t ∧ tcpNow - t < 3000) ∧
      ∃ t, BeganAt .udpReceiver udpEvents t ∧ udpNow - t < 3000
    ∃ reply, serveHttpRequest strtod clockText s.toServerState page allocated arriving = some reply ∧
      (reply.status = 200 ↔ allocated = true ∧ beating) ∧
      (reply.status = 503 ↔ ¬ (allocated = true ∧ beating)) := by
  intro page beating
  have served := serveHttpRequest_route strtod clockText s.toServerState page
    (show ascii "/status" ∈ routes by decide) request allocated
  have earlier : (tcpEvents.flatMap beatTimes) <+: udpEvents.flatMap beatTimes := by
    obtain ⟨more, rfl⟩ := begins
    rw [List.flatMap_append]
    exact List.prefix_append _ _
  have healthy : beating ↔ page.tcpOk = true ∧ page.udpOk = true := by
    refine and_congr (healthy_iff (sorted.sublist earlier.sublist) (fun t member => ?_) _ _).symm
      (healthy_iff sorted positive _ _).symm
    exact positive t (earlier.subset member)
  rw [served, healthy]
  cases allocated with
  | false => exact ⟨_, rfl, by simp [plainReply], by simp [plainReply]⟩
  | true =>
    obtain ⟨body, answer⟩ :=
      routeReply_health reachable clockText readings now page.tcpOk page.udpOk
    refine ⟨_, answer, ?_⟩
    cases page.tcpOk <;> cases page.udpOk <;> simp

open ServiceLoops in
/-- The receiver has not come back to its head for three seconds. -/
theorem status_iff_beating_sample :
    let before : List LoopEvent := [.heartbeat .udpReceiver 1000, .heartbeat .tcpListener 1100,
      .readable .udpReceiver, .idle .tcpListener]
    let events := before ++ [.heartbeat .tcpListener 1350]
    let page := page (loopsMachine.exec loopsMachine.init before)
      (loopsMachine.exec loopsMachine.init events) 9 alarmedReadings.val 4000 4001
    ∃ reply, serveHttpRequest strtodDigits (fun _ => ascii "00:00:00")
        (threadsInit ⟨7, by decide⟩ ⟨1, by decide⟩).toServerState page true
        (frames lineFeed [ascii "GET /status HTTP/1.1\r", ascii "Host: n\r", ascii "\r"]) =
          some reply ∧ reply.status = 503 := by
  intro before events page
  have header : IsAccepted (ascii "Host: n\r") := ⟨by decide, by decide, by decide +kernel⟩
  have request : IsRouteRequest (ascii "/status")
      (frames lineFeed [ascii "GET /status HTTP/1.1\r", ascii "Host: n\r", ascii "\r"]) :=
    ⟨ascii "GET /status HTTP/1.1\r", [ascii "Host: n\r"], ascii "\r", [], ascii "HTTP/1.1",
      (List.append_nil _).symm, ⟨by decide, by decide, by decide +kernel⟩, by decide +kernel,
      .inr rfl, List.forall_mem_singleton.mpr ⟨header, by decide +kernel⟩, by decide,
      ⟨by decide, by decide⟩, by decide +kernel⟩
  have times : events.flatMap beatTimes = [1000, 1100, 1350] := rfl
  have sorted : (events.flatMap beatTimes).Pairwise (· ≤ ·) := by
    rw [times]
    decide
  have positive : ∀ t ∈ events.flatMap beatTimes, 0 < t := by
    rw [times]
    decide
  obtain ⟨reply, answered, -, failing⟩ := status_iff_beating
    (Machine.Reachable.init (threadsMachine strtodDigits ⟨7, by decide⟩ ⟨1, by decide⟩))
    (List.prefix_append before _) sorted positive (fun _ => ascii "00:00:00") alarmedReadings 9 4000
    4001 true request
  refine ⟨reply, answered, failing.mpr fun ⟨_, beating⟩ => ?_⟩
  have healthy := (healthy_iff sorted positive .udpReceiver 4001).mpr beating.2
  exact absurd healthy (by decide)

end ServerThreads

end Telep
