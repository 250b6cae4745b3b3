import Telep.Client.Telep
import Telep.Server.Proofs.Replies

/-!
# The session of an operator

A `TelepConnection` and the server at the other end of its connection, cut between the calls of the
client and the blocks that the server writes. The commands and the blocks arrive in the order in
which they are sent, and the server answers every command in some reachable state. Nothing is
assumed about when bytes arrive: a call takes what arrives before its deadline. A call that
cannot happen in a state leaves it alone.
-/

namespace Telep

/-- The lines of a block, the alerts marked. -/
def Block.marked : Block → List (Bytes × Bool)
  | alert line => [(line, true)]
  | reply _ lines => lines.map fun line => (line, false)

/-- The connection and what is on its way. The last five fields only record what happened. -/
structure OperatorSession where
  connection : TelepConnection
  /-- The bytes that the server sent and the client did not receive. -/
  inFlight : Bytes
  /-- The frames that the client sent and the server did not answer, without line feeds. -/
  unanswered : List Bytes
  /-- The command whose call of `request` has not returned. -/
  asking : Option Bytes
  /-- Whether a call raised an exception. -/
  failed : Bool
  /-- The frames of the commands, in order. -/
  asked : List Bytes
  /-- The blocks that the server wrote, in order. -/
  blocks : List Block
  /-- The lists that `request` returned, each with the number of its command. -/
  returned : List (Nat × List (List Bytes))
  /-- What `take_alerts` returned. -/
  taken : List (List Bytes)
  deriving DecidableEq

namespace OperatorSession

variable (s : OperatorSession)

/-- The replies that the server wrote, in order, each with the frame of its command. -/
def replies : List (Bytes × List Bytes) :=
  s.blocks.filterMap fun
    | .alert _ => none
    | .reply frame lines => some (frame, lines)

/-- The lines that the server wrote, in order. -/
def written : List (Bytes × Bool) := s.blocks.flatMap Block.marked

/-- The alerts among the lines that were read. -/
def pushesRead : List Bytes :=
  ((s.written.take s.connection.extracted.length).filter Prod.snd).map Prod.fst

/-- Whether no reply is outstanding: every command was answered, and the lines that were not read
are alerts. -/
def isSettled : Bool :=
  s.unanswered = [] ∧ (s.written.drop s.connection.extracted.length).all Prod.snd

/-! ## The server -/

/-- The server sends a block. -/
def write (block : Block) : OperatorSession :=
  { s with
    inFlight := s.inFlight ++ frames lineFeed block.lines
    blocks := s.blocks ++ [block] }

/-- The server answers the oldest command. -/
def answer (state : ServerState) (fd : ClientFd) (readings : Readings) : OperatorSession :=
  match s.unanswered with
  | [] => s
  | frame :: unanswered =>
      { s with unanswered := unanswered }.write
        (.reply frame (serveLine state fd readings (lineOf frame)).reply)

/-! ## The client -/

/-- `request` up to the end of `sendall`; a `ValueError` leaves the connection alone. -/
def send (command : Bytes) (fields : List Bytes) : OperatorSession :=
  match s.asking, encodeMessage command fields with
  | none, some bytes =>
      { s with
        unanswered := s.unanswered ++ [bytes.dropLast]
        asking := some command
        asked := s.asked ++ [bytes.dropLast] }
  | _, _ => s

/-- Whether the chunks can be what the calls of `recv` return. -/
def canReceive (chunks : List Bytes) : Bool := [] ∉ chunks ∧ chunks.flatten <+: s.inFlight

/-- The connection after a call and the chunks that it did not receive. -/
def received (c : TelepConnection) (chunks left : List Bytes) : OperatorSession :=
  { s with
    connection := c
    inFlight := left.flatten ++ s.inFlight.drop chunks.flatten.length }

/-- The rest of `request`. -/
def read (chunks : List Bytes) : OperatorSession :=
  match s.asking with
  | none => s
  | some command =>
      if s.canReceive chunks then
        match s.connection.request command chunks with
        | (.ok list, c, left) =>
            { s.received c chunks left with
              asking := none
              returned := s.returned ++ [(s.asked.length - 1, list)] }
        | (.error _, c, left) => { s.received c chunks left with asking := none, failed := true }
      else s

/-- `take_alerts` -/
def take (chunks : List Bytes) : OperatorSession :=
  if s.asking = none ∧ s.canReceive chunks then
    match s.connection.takeAlerts chunks with
    | (.ok alerts, c, left) => { s.received c chunks left with taken := s.taken ++ alerts }
    | (.error _, c, left) => { s.received c chunks left with failed := true }
  else s

end OperatorSession

section Sessions

variable (strtod : Bytes → StrtodResult) (startedAt bootId : Long)

abbrev ReachableServer :=
  { s : ServerThreads // (threadsMachine strtod startedAt bootId).Reachable s }

/-- An alert that the UDP thread raises in some run. -/
abbrev RaisedAlert :=
  { alert : Alert // ∃ s, (threadsMachine strtod startedAt bootId).Reachable s ∧ alert ∈ s.raised }

inductive SessionEvent where
  /-- The server sends an alert. -/
  | push (alert : RaisedAlert strtod startedAt bootId)
  /-- The server answers a command in a state. -/
  | answer (state : ReachableServer strtod startedAt bootId) (readings : TimeReadings)
  | send (command : Bytes) (fields : List Bytes)
  | read (chunks : List Bytes)
  | take (chunks : List Bytes)

def OperatorSession.next (fd : ClientFd) (s : OperatorSession) :
    SessionEvent strtod startedAt bootId → OperatorSession
  | .push alert => s.write (.alert (formatAlert alert.val))
  | .answer state readings => s.answer state.val.toServerState fd readings.val
  | .send command fields => s.send command fields
  | .read chunks => s.read chunks
  | .take chunks => s.take chunks

/-- Any order of the calls, the replies and the alerts is a run of this machine. -/
def operatorMachine (fd : ClientFd) :
    Machine OperatorSession (SessionEvent strtod startedAt bootId) Unit where
  init := ⟨.fresh, [], [], none, false, [], [], [], []⟩
  step s event := ((), s.next strtod startedAt bootId fd event)

end Sessions

end Telep
