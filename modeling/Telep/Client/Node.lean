import Telep.Client.Telep
import Telep.Server.TcpCommandServer

/-!
# The node (`node.py`) and its server

The main loop of a node, cut between any two changes of its state, together with the registry
of the server, a UDP network that loses, repeats and reorders datagrams and TCP exchanges that
fail on either side of the server's step. An event that cannot happen in a state leaves it
alone.
-/

namespace Telep

/-- `counters` -/
structure Counters where
  attempts : Nat
  sent : Nat
  omitted : Nat
  sendErrors : Nat
  deriving DecidableEq

def Counters.zero : Counters := ⟨0, 0, 0, 0⟩

/-- What `parse_arguments` lets through, and what the node draws from. -/
structure NodeArgs where
  id : NodeId
  session : Session
  count : Nat
  count_le : count ≤ sessionLimit
  dnsRefresh : ℚ
  /-- `omitted_by_drop` at the percentage given -/
  omittedByDrop : Nat → Bool
  /-- The sessions `uuid4` draws for this node. -/
  own : Session → Bool
  own_session : own session = true

/-- The commands of `control`, after the connection is made. -/
inductive Phase where
  | dial
  | status
  | hello
  | report
  deriving DecidableEq

/-- How far the exchange of a phase is: before the request, with the request on its way, or
with the reply of the server on its way. -/
inductive Exchange where
  | ready
  | asked
  | status (bootId : Int)
  | result (code : Option ErrorCode)
  deriving DecidableEq

/-- The points of `main` between two changes of its state. `final` is `none` for a `control`
of the loop and the number of the try for `control(final=True)`. -/
inductive Point where
  | loop
  | control (final : Option Nat) (phase : Phase) (exchange : Exchange)
  /-- The session is replaced, the counters are not yet. -/
  | renewed (final : Option Nat) (bootId : Int)
  /-- The counters are reset, `boot` is not yet. -/
  | zeroed (final : Option Nat) (bootId : Int)
  | attempt
  /-- `sendto` returned the length of the datagram. -/
  | handed
  /-- `sendto` raised or sent less. -/
  | failed
  /-- `sent`, `omitted` or `send_errors` is incremented, `attempts` is not yet. -/
  | counted
  | advanced
  | sleeping
  | done
  deriving DecidableEq

/-- The variables of `main`. -/
structure NodeState where
  point : Point
  session : Session
  counters : Counters
  boot : Option Int
  nextRefresh : ℚ
  totalAttempts : Nat
  finalAck : Bool

/-- What `sendto` hands to the network. -/
structure Datagram where
  session : Session
  sequence : Nat
  values : MeasurementSet

/-- The commands a node sends. -/
inductive Request where
  | status
  | hello (session : Session)
  | report (session : Session) (counters : Counters) (final : Bool)
  deriving DecidableEq

/-- A node, the network and the server. The last two fields only record what happened. -/
structure World extends NodeState where
  /-- The last reading of `time.monotonic()`. -/
  clock : ℚ
  /-- The sessions the node has used so far. -/
  used : List Session
  datagrams : List Datagram
  /-- Whether the connection of `control` reaches the running server process. -/
  connected : Bool
  /-- Requests of closed connections that the server has not processed. -/
  stale : List Request
  registry : Registry
  /-- The identities of the server processes so far. -/
  boots : List Int
  /-- The datagrams that reached the running server process. -/
  arrived : List (Session × Nat)
  /-- The replies to `REPORT` that the node read. -/
  reportReplies : List (Option ErrorCode)

/-- The request of a phase. -/
def NodeState.request (s : NodeState) (final : Option Nat) : Phase → Option Request
  | .dial => none
  | .status => some .status
  | .hello => some (.hello s.session)
  | .report => some (.report s.session s.counters final.isSome)

namespace NodeArgs

variable (a : NodeArgs)

/-- The server's answer to a request; `handle_command` checks the bounds of the counters. -/
def serve (r : Registry) : Request → Exchange × Registry
  | .status => (.status r.bootId, r)
  | .hello session =>
      let (code, r') := registryRegisterNode r a.id.val session.val
      (.result code, r')
  | .report session c final =>
      if c.attempts ≤ sessionLimit ∧ c.sent ≤ sessionLimit ∧ c.omitted ≤ sessionLimit ∧
          c.sendErrors ≤ sessionLimit then
        let (code, r') := registryReport r a.id.val session.val c.attempts c.sent c.omitted
          c.sendErrors final
        (.result code, r')
      else (.result (some .badFormat), r)

/-- What a datagram of the node asks from the registry; the server parses the sequence against
its limit. -/
def telemetryOp (d : Datagram) (clock : Clock) : RegistryOp :=
  if h : d.sequence < sessionLimit then
    .telemetry a.id d.session ⟨d.sequence, h⟩ d.values clock
  else .invalidDatagram

/-- Whether a call names the node with one of its sessions. -/
def isOwn : RegistryOp → Bool
  | .hello id session => id = a.id ∧ a.own session
  | .report id session _ _ => id = a.id ∧ a.own session
  | .telemetry id session _ _ _ => id = a.id ∧ a.own session
  | .invalidDatagram => false

end NodeArgs

namespace World

variable (w : World)

def moveTo (point : Point) : World := { w with point := point }

/-- The requests on their way on the connection of `control`. -/
def inFlight : List Request :=
  match w.point with
  | .control final phase .asked => if w.connected then (w.request final phase).toList else []
  | _ => []

/-- `close` on the connection of `control`; a request on its way may still be processed. -/
def close : World := { w with connected := false, stale := w.stale ++ w.inFlight }

/-- The next try of the final report. -/
def nextTry (k : Nat) : World :=
  if k + 1 < 3 then w.moveTo (.control (some (k + 1)) .dial .ready) else w.moveTo .done

/-- `control` raises an `OSError`. -/
def unavailable : Option Nat → World
  | none => w.close.moveTo .loop
  | some k => w.close.nextTry k

/-- `control` raises a `RuntimeError`. -/
def rejected : Option Nat → World
  | none => w.close.moveTo (.control (some 0) .dial .ready)
  | some k => w.close.nextTry k

/-- `control` returns. -/
def succeeded (a : NodeArgs) (now : ℚ) : Option Nat → World
  | none => { w.close.moveTo .attempt with nextRefresh := now + a.dnsRefresh, clock := now }
  | some _ => { w.close.moveTo .done with finalAck := true }

/-- The reply to `GET_STATUS`: another `boot_id` than the last one ends the session. -/
def readStatus (a : NodeArgs) (final : Option Nat) (bootId : Int) (fresh : Session) :
    Option World :=
  if w.boot.isSome ∧ w.boot ≠ some bootId then
    if a.own fresh ∧ fresh ∉ w.used then
      some { w.moveTo (.renewed final bootId) with session := fresh }
    else none
  else some { w.moveTo (.control final .hello .ready) with boot := some bootId }

/-- The reply to `HELLO`. -/
def readHello (final : Option Nat) : Option ErrorCode → World
  | none => w.moveTo (.control final .report .ready)
  | some _ => w.rejected final

/-- The reply to `REPORT`. -/
def readReport (a : NodeArgs) (final : Option Nat) (now : ℚ) (code : Option ErrorCode) : World :=
  let w := { w with reportReplies := w.reportReplies ++ [code] }
  match code with
  | none => w.succeeded a now final
  | some _ => w.rejected final

end World

/-- The steps of the node, of the network, of the server and of everyone else. -/
inductive WorldEvent where
  /-- The head of the loop, with the reading of the clock. -/
  | check (now : ℚ)
  | connect
  | ask
  /-- The server processes the request on its way. -/
  | answer
  /-- The node reads the reply; `fresh` is the session that `uuid4` would draw. -/
  | read (fresh : Session) (now : ℚ)
  /-- `counters.update` -/
  | zero
  /-- `boot = new_boot` -/
  | settle
  /-- An `OSError` in `control`. -/
  | fail
  | omits
  | send (values : MeasurementSet)
  | sendFails
  /-- `sent` or `send_errors` is incremented. -/
  | count
  /-- `attempts` is incremented. -/
  | advance
  /-- `total_attempts` is incremented. -/
  | total
  | wake
  /-- The network delivers a datagram, for the first time or once more. -/
  | deliver (k : Nat) (clock : Clock)
  /-- The server processes a request of a closed connection. -/
  | serveStale (k : Nat)
  | restart (startedAt bootId : Int)
  /-- A call on behalf of someone else. -/
  | others (op : RegistryOp)

/-- The state after an event, `none` where it cannot happen. -/
def NodeArgs.step (a : NodeArgs) (w : World) : WorldEvent → Option World
  | .check now =>
      if w.point = .loop ∧ w.clock ≤ now then
        let w := { w with clock := now }
        some (if w.totalAttempts < a.count then
          if w.nextRefresh ≤ now then w.moveTo (.control none .dial .ready) else w.moveTo .attempt
        else w.moveTo (.control (some 0) .dial .ready))
      else none
  | .connect =>
      match w.point with
      | .control final .dial .ready =>
          some { w.moveTo (.control final .status .ready) with connected := true }
      | _ => none
  | .ask =>
      match w.point with
      | .control final phase .ready =>
          if phase ≠ .dial ∧ w.connected then some (w.moveTo (.control final phase .asked))
          else none
      | _ => none
  | .answer =>
      match w.point, w.inFlight with
      | .control final phase _, [request] =>
          let (reply, r) := a.serve w.registry request
          some { w.moveTo (.control final phase reply) with registry := r }
      | _, _ => none
  | .read fresh now =>
      match w.point with
      | .control final .status (.status bootId) => w.readStatus a final bootId fresh
      | .control final .hello (.result code) => some (w.readHello final code)
      | .control final .report (.result code) =>
          if w.clock ≤ now then some (w.readReport a final now code) else none
      | _ => none
  | .zero =>
      match w.point with
      | .renewed final bootId => some { w.moveTo (.zeroed final bootId) with counters := .zero }
      | _ => none
  | .settle =>
      match w.point with
      | .zeroed final bootId =>
          some { w.moveTo (.control final .hello .ready) with
            boot := some bootId,
            used := w.session :: w.used }
      | _ => none
  | .fail =>
      match w.point with
      | .control final _ _ => some (w.unavailable final)
      | _ => none
  | .omits =>
      if w.point = .attempt ∧ a.omittedByDrop w.counters.attempts then
        some { w.moveTo .counted with
          counters := { w.counters with omitted := w.counters.omitted + 1 } }
      else none
  | .send values =>
      if w.point = .attempt ∧ ¬ a.omittedByDrop w.counters.attempts then
        some { w.moveTo .handed with
          datagrams := w.datagrams ++ [⟨w.session, w.counters.attempts, values⟩] }
      else none
  | .sendFails =>
      if w.point = .attempt ∧ ¬ a.omittedByDrop w.counters.attempts then some (w.moveTo .failed)
      else none
  | .count =>
      match w.point with
      | .handed =>
          some { w.moveTo .counted with
            counters := { w.counters with sent := w.counters.sent + 1 } }
      | .failed =>
          some { w.moveTo .counted with
            counters := { w.counters with sendErrors := w.counters.sendErrors + 1 },
            nextRefresh := 0 }
      | _ => none
  | .advance =>
      if w.point = .counted then
        some { w.moveTo .advanced with
          counters := { w.counters with attempts := w.counters.attempts + 1 } }
      else none
  | .total =>
      if w.point = .advanced then
        some { w.moveTo .sleeping with totalAttempts := w.totalAttempts + 1 }
      else none
  | .wake => if w.point = .sleeping then some (w.moveTo .loop) else none
  | .deliver k clock =>
      match w.datagrams[k]? with
      | some d =>
          some { w with
            registry := (registryStep w.registry (a.telemetryOp d clock)).2,
            arrived := (d.session, d.sequence) :: w.arrived }
      | none => none
  | .serveStale k =>
      match w.stale[k]? with
      | some request =>
          some { w with
            registry := (a.serve w.registry request).2,
            stale := w.stale.eraseIdx k }
      | none => none
  | .restart startedAt bootId =>
      if bootId ∉ w.boots then
        some { w with
          registry := registryInit startedAt bootId,
          boots := bootId :: w.boots,
          connected := false,
          stale := [],
          arrived := [] }
      else none
  | .others op =>
      if a.isOwn op then none else some { w with registry := (registryStep w.registry op).2 }

/-- A node that starts next to a new server process. -/
def NodeArgs.world (a : NodeArgs) (startedAt bootId : Int) : World where
  point := .loop
  session := a.session
  counters := .zero
  boot := none
  nextRefresh := 0
  totalAttempts := 0
  finalAck := false
  clock := 0
  used := [a.session]
  datagrams := []
  connected := false
  stale := []
  registry := registryInit startedAt bootId
  boots := [bootId]
  arrived := []
  reportReplies := []

/-- Runs of the node without an interrupt. An event that cannot happen changes nothing. -/
def NodeArgs.machine (a : NodeArgs) (startedAt bootId : Int) : Machine World WorldEvent Unit where
  init := a.world startedAt bootId
  step w event := ((), (a.step w event).getD w)

/-! ## The interrupt -/

/-- `KeyboardInterrupt` in the loop: the connection of `control` is closed, if there is one, and
the final report is tried with the variables as they are. -/
def World.interrupt (w : World) : World := w.close.moveTo (.control (some 0) .dial .ready)

/-- `control` without failures; the two steps of a new session are skipped where the session
stays. -/
def controlEvents (fresh : Session) (now : ℚ) : List WorldEvent :=
  [.connect, .ask, .answer, .read fresh now, .zero, .settle, .ask, .answer, .read fresh now, .ask,
    .answer]

end Telep
