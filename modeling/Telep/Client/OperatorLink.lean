import Telep.Client.OperatorSession

/-!
# An operator and the threads of the server

A `TelepConnection` at the other end of one connection of the server. The threads of the server,
the datagrams and the other clients take any steps between those of the operator; the bytes that
`sendall` took arrive in order and in pieces of any size, and a call of the client receives, in
any chunks, bytes that `send` took at the other end. Every `sendall` succeeds, and the end of the
stream is not read.
-/

namespace Telep

/-- The server, the client of one of its connections and what is on its way between them. The last
five fields only record what happened, as in `OperatorSession`. -/
structure OperatorLink where
  server : ServerThreads
  connection : TelepConnection
  /-- The bytes that `sendall` took and the server did not get. -/
  outgoing : Bytes
  /-- The number of bytes that the client received. -/
  received : Nat
  asking : Option Bytes
  failed : Bool
  asked : List Bytes
  returned : List (Nat × List (List Bytes))
  taken : List (List Bytes)

inductive LinkEvent where
  /-- A step of the server or of another client. -/
  | server (event : ThreadEvent)
  /-- Bytes of the client reach the server. -/
  | deliver (count : Nat)
  | send (command : Bytes) (fields : List Bytes)
  | read (chunks : List Bytes)
  | take (chunks : List Bytes)

/-- Whether an event stands for bytes that reach a connection. -/
def ThreadEvent.arrivesAt (c : Nat) : ThreadEvent → Bool
  | .arrive d _ => d = c
  | _ => false

namespace OperatorLink

variable (l : OperatorLink) (c : Nat)

/-- The bytes that can be received. -/
def ready : Bytes := (l.server.sockets c).wire.drop l.received

/-- Whether the chunks can be what the calls of `recv` return. -/
def canReceive (chunks : List Bytes) : Bool := [] ∉ chunks ∧ chunks.flatten <+: l.ready c

/-- Bytes of the client reach the server. -/
def deliver (strtod : Bytes → StrtodResult) (count : Nat) : OperatorLink :=
  if (l.server.threads c).isSome then
    { l with
      server := l.server.next strtod (.arrive c (l.outgoing.take count))
      outgoing := l.outgoing.drop count }
  else l

/-- `request` up to the end of `sendall`. -/
def send (command : Bytes) (fields : List Bytes) : OperatorLink :=
  match l.asking, encodeMessage command fields with
  | none, some bytes =>
      { l with
        outgoing := l.outgoing ++ bytes
        asking := some command
        asked := l.asked ++ [bytes.dropLast] }
  | _, _ => l

/-- The connection after a call and the chunks that it did not receive. -/
def afterCall (connection : TelepConnection) (chunks left : List Bytes) : OperatorLink :=
  { l with
    connection := connection
    received := l.received + (chunks.flatten.length - left.flatten.length) }

/-- The rest of `request`. -/
def read (chunks : List Bytes) : OperatorLink :=
  match l.asking with
  | none => l
  | some command =>
      if l.canReceive c chunks then
        match l.connection.request command chunks with
        | (.ok list, connection, left) =>
            { l.afterCall connection chunks left with
              asking := none
              returned := l.returned ++ [(l.asked.length - 1, list)] }
        | (.error _, connection, left) =>
            { l.afterCall connection chunks left with asking := none, failed := true }
      else l

/-- `take_alerts` -/
def take (chunks : List Bytes) : OperatorLink :=
  if l.asking = none ∧ l.canReceive c chunks then
    match l.connection.takeAlerts chunks with
    | (.ok alerts, connection, left) =>
        { l.afterCall connection chunks left with taken := l.taken ++ alerts }
    | (.error _, connection, left) => { l.afterCall connection chunks left with failed := true }
  else l

/-- The state after an event. Only the client sends on its connection. -/
def next (strtod : Bytes → StrtodResult) : LinkEvent → OperatorLink
  | .server event =>
      if event.arrivesAt c then l else { l with server := l.server.next strtod event }
  | .deliver count => l.deliver c strtod count
  | .send command fields => l.send command fields
  | .read chunks => l.read c chunks
  | .take chunks => l.take c chunks

end OperatorLink

/-- Any interleaving of the server and the operator of the connection `c` is a run of this
machine. -/
def linkMachine (strtod : Bytes → StrtodResult) (startedAt bootId : Long) (c : Nat) :
    Machine OperatorLink LinkEvent Unit where
  init := ⟨threadsInit startedAt bootId, .fresh, [], 0, none, false, [], [], []⟩
  step l event := ((), l.next c strtod event)

end Telep
