import Telep.Misc.Machine
import Telep.Server.HttpStatusServer

/-!
# The health of the services (`service_health.c`)

The cells of the heartbeats and the loops of `tcp_command_server` and `udp_telemetry_server`, which
both begin a round with a heartbeat and then wait for their descriptor. The clock is
`monotonic_ms`. An event that cannot happen in a state leaves it alone.
-/

namespace Telep

/-- The loops that beat. -/
inductive Service where
  | tcpListener
  | udpReceiver
  deriving DecidableEq

/-- `beats`, zero before the first one. -/
abbrev Beats := Service → Int

/-- `service_heartbeat` -/
def serviceHeartbeat (beats : Beats) (service : Service) (now : Int) : Beats :=
  Function.update beats service now

/-- `service_healthy` -/
def serviceHealthy (beats : Beats) (service : Service) (now : Int) : Bool :=
  beats service ≠ 0 ∧ now - beats service < 3000

/-- The points of a loop. -/
inductive LoopPoint where
  /-- Before the heartbeat. -/
  | head
  /-- In `wait_readable`. -/
  | waiting
  /-- Behind it, for as long as the round takes. -/
  | handling
  deriving DecidableEq

structure ServiceLoops where
  point : Service → LoopPoint
  beats : Beats

inductive LoopEvent where
  | heartbeat (service : Service) (now : Int)
  /-- `wait_readable` times out or fails. -/
  | idle (service : Service)
  | readable (service : Service)
  /-- The round ends. -/
  | handled (service : Service)

namespace ServiceLoops

variable (l : ServiceLoops)

def moveTo (service : Service) (point : LoopPoint) : ServiceLoops :=
  { l with point := Function.update l.point service point }

/-- The state after an event, `none` where it cannot happen. -/
def step : LoopEvent → Option ServiceLoops
  | .heartbeat service now =>
      if l.point service = .head then
        some { l.moveTo service .waiting with beats := serviceHeartbeat l.beats service now }
      else none
  | .idle service =>
      if l.point service = .waiting then some (l.moveTo service .head) else none
  | .readable service =>
      if l.point service = .waiting then some (l.moveTo service .handling) else none
  | .handled service =>
      if l.point service = .handling then some (l.moveTo service .head) else none

def next (event : LoopEvent) : ServiceLoops := (l.step event).getD l

/-- What the page reads of the heartbeats: each cell in a state and at a reading of the clock of its
own. -/
def page (tcp udp : ServiceLoops) (now : Int) (status : Readings) (tcpNow udpNow : Int) :
    PageReadings where
  now := now
  status := status
  tcpOk := serviceHealthy tcp.beats .tcpListener tcpNow
  udpOk := serviceHealthy udp.beats .udpReceiver udpNow

end ServiceLoops

/-- Any interleaving of the two loops is a run of this machine. -/
def loopsMachine : Machine ServiceLoops LoopEvent Unit where
  init := ⟨fun _ => .head, fun _ => 0⟩
  step l event := ((), l.next event)

end Telep
