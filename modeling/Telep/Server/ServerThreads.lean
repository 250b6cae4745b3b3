import Telep.Server.UdpTelemetryServer

/-!
# The threads of the server

The receive loop of the UDP thread, one thread of `serve_client` for each connection, and what the
kernel keeps of descriptors and connections, cut between any two sections under a mutex and any
two calls of `send`; the sections that only read a clock, a heartbeat or the number of dropped
subscribers for a reply are its readings. A thread names its connection by the descriptor, so every
call on it goes through the kernel's table, whatever that holds by then. An event that cannot happen
in a state leaves it alone.
-/

namespace Telep

/-- A connection as the kernel has it: the bytes that were not received yet, the bytes that
`send` took, and whether it is shut down. -/
structure Socket where
  incoming : Bytes
  wire : Bytes
  isShut : Bool

/-- What an owner hands to `send_text_line` between two points of its loop: an alert of its
queue, or the lines of the reply to a frame. -/
inductive Block where
  | alert (line : Bytes)
  | reply (frame : Bytes) (lines : List Bytes)
  deriving DecidableEq

def Block.lines : Block → List Bytes
  | alert line => [line]
  | reply _ lines => lines

/-- The points of `serve_client`. -/
inductive ServePoint where
  /-- Before `pthread_create`. -/
  | accepted
  /-- In `subscribers_drain`, with this many rounds left. -/
  | draining (rounds : Nat)
  /-- In `send_text_line` for an alert, with the rest of its frame. -/
  | pushing (rounds : Nat) (rest : Bytes)
  /-- In `wait_readable`. -/
  | waiting
  /-- In `send_text_line` for a reply, with the rest of a frame and the lines after it. -/
  | replying (closes : Bool) (rest : Bytes) (lines : List Bytes)
  /-- Out of the loop. -/
  | ending
  /-- After `subscribers_remove`. -/
  | removed
  /-- After `close`. -/
  | closed
  deriving DecidableEq

/-- The thread of a connection; `blocks` only records what it sends. -/
structure ClientThread where
  fd : ClientFd
  point : ServePoint
  blocks : List Block
  deriving DecidableEq

/-- The threads of the server and the kernel. Connections are numbered as they are accepted. The
last four fields only record what happened. -/
structure ServerThreads extends ServerState where
  /-- The alerts that the UDP thread recorded and has not broadcast yet. -/
  newAlerts : List Alert
  /-- The connection that a descriptor stands for, `none` while it is closed. -/
  descriptors : Nat → Option Nat
  sockets : Nat → Socket
  threads : Nat → Option ClientThread
  accepted : Nat
  /-- The connection whose thread put the descriptor into a slot. -/
  addedBy : Fin maxSubscribers → Option Nat
  /-- The lines of the broadcasts that were queued for a connection. -/
  queuedFor : Nat → List Bytes
  /-- The bytes that the client of a connection sent. -/
  arrived : Nat → Bytes
  /-- The alerts that the UDP thread broadcast. -/
  broadcasted : List Alert

/-- How one round of `send_full_buffer` ends: `send` takes bytes, the round is repeated after
`EINTR` or `EAGAIN`, or the call fails. -/
inductive SendOutcome where
  | taken (count : Nat)
  | again
  | failed
  deriving DecidableEq

/-- Whether a number is a value of `long`, or of `time_t`. -/
def IsLong (z : Int) : Prop := -(longMax + 1 : Int) ≤ z ∧ z ≤ longMax

instance (z : Int) : Decidable (IsLong z) := inferInstanceAs (Decidable (_ ∧ _))

abbrev Long := { z : Int // IsLong z }

/-- `time(NULL)` returns values of `time_t`. -/
abbrev TimeClock := { clock : Clock // ∀ k, IsLong (clock k) }

abbrev TimeReadings :=
  { readings : Readings // (∀ k, IsLong (readings.clock k)) ∧ readings.dropped ≤ longMax }

inductive OwnerEvent where
  | start
  /-- The accepting thread closes the connection instead of starting a thread. -/
  | refuse
  /-- A section of `subscribers_drain`. -/
  | drain
  | send (outcome : SendOutcome)
  /-- `wait_readable` times out. -/
  | idle
  /-- A frame is received and handled. -/
  | receive (readings : TimeReadings)
  /-- `wait_readable` fails, or no frame arrives before the deadline or the end of the stream. -/
  | hangUp
  | remove
  | close

inductive ThreadEvent where
  | accept (fd : ClientFd)
  /-- Bytes of the client reach its connection. -/
  | arrive (connection : Nat) (bytes : Bytes)
  /-- A step of the thread of a connection. -/
  | owner (connection : Nat) (event : OwnerEvent)
  /-- The UDP thread receives a datagram and records it. -/
  | datagram (clock : TimeClock) (bytes : Bytes)
  /-- The UDP thread broadcasts the next of its new alerts. -/
  | broadcast

/-! ## Replies -/

/-- The answer to what `receive_text_line` returned. -/
def serveLine (s : ServerState) (fd : ClientFd) (readings : Readings) :
    ReceivedLine → CommandResult
  | .line text => handleCommand s fd readings text
  | .overflow => s.answers (replyError .tooLong)
  | .invalid => s.answers (replyError .badFormat)

/-- The frame of a line. -/
def frameOf (line : Bytes) : Bytes := line ++ [lineFeed]

/-- The point after the frames sent so far, with the lines of the reply that are left. -/
def nextReply (closes : Bool) : List Bytes → ServePoint
  | [] => if closes then .ending else .draining queueSize
  | line :: lines => .replying closes (frameOf line) lines

/-- The point after a round of `send_full_buffer` for an alert; `none` is the result -1. -/
def afterPush (rounds : Nat) : Option Bytes → ServePoint
  | none => .ending
  | some [] => .draining rounds
  | some rest => .pushing rounds rest

/-- The point after a round of `send_full_buffer` for a reply: the result is ignored. -/
def afterReply (closes : Bool) (lines : List Bytes) : Option Bytes → ServePoint
  | none => nextReply closes lines
  | some [] => nextReply closes lines
  | some rest => .replying closes rest lines

/-- The buffer of `send_full_buffer`, with what follows a round. -/
def ServePoint.sending : ServePoint → Option (Bytes × (Option Bytes → ServePoint))
  | pushing rounds rest => some (rest, afterPush rounds)
  | replying closes rest lines => some (rest, afterReply closes lines)
  | _ => none

namespace ServerThreads

variable (s : ServerThreads)

/-! ## The kernel -/

def setSocket (d : Nat) (socket : Socket) : ServerThreads :=
  { s with sockets := Function.update s.sockets d socket }

/-- `shutdown(fd, SHUT_RDWR)` -/
def shutdown (fd : Nat) : ServerThreads :=
  match s.descriptors fd with
  | some d => s.setSocket d { s.sockets d with isShut := true }
  | none => s

/-- One round of `send_full_buffer`: the rest of the buffer, or `none` for the result -1, which
makes `send_text_line` shut the connection down. -/
def sendRound (fd : Nat) (buffer : Bytes) : SendOutcome → Option (Option Bytes × ServerThreads)
  | .taken count =>
      match s.descriptors fd with
      | some d =>
          if (s.sockets d).isShut = false ∧ 0 < count ∧ count ≤ buffer.length then
            some (some (buffer.drop count),
              s.setSocket d { s.sockets d with wire := (s.sockets d).wire ++ buffer.take count })
          else none
      | none => none
  | .again => some (some buffer, s)
  | .failed => some (none, s.shutdown fd)

/-! ## The owner of a connection -/

variable (c : Nat) (t : ClientThread)

def setThread (t : ClientThread) : ServerThreads :=
  { s with threads := Function.update s.threads c (some t) }

def moveTo (point : ServePoint) : ServerThreads := s.setThread c { t with point := point }

/-- The thread begins to send a block. -/
def produce (block : Block) (point : ServePoint) : ServerThreads :=
  s.setThread c { t with point := point, blocks := t.blocks ++ [block] }

/-- `close(fd)` -/
def closeFd : ServerThreads :=
  { s.moveTo c t .closed with descriptors := Function.update s.descriptors t.fd.val none }

/-- One round of the loop of `subscribers_drain`. -/
def drainRound (rounds : Nat) : ServerThreads :=
  let (line, subscribers) := drainSection s.subscribers t.fd.val
  let s := { s with subscribers := subscribers }
  if line = [] then s.moveTo c t .waiting
  else if maxLine ≤ line.length then s.moveTo c t .ending
  else s.produce c t (.alert line) (.pushing rounds (frameOf line))

/-- The shared state after a section of the thread that may have added its descriptor. -/
def sharing (state : ServerState) : ServerThreads :=
  { s with
    toServerState := state
    addedBy := fun i =>
      if (state.subscribers.slots i).fd = (s.subscribers.slots i).fd then s.addedBy i
      else some c }

/-- `receive_text_line` returns and the line is answered. -/
def receiveLine (d : Nat) (readings : Readings) : Option ServerThreads :=
  match receiveTextLine (s.sockets d).incoming maxLine with
  | none => none
  | some (received, rest) =>
      let frame := (s.sockets d).incoming.takeWhile (· ≠ lineFeed)
      let result := serveLine s.toServerState t.fd readings received
      let s := s.setSocket d { s.sockets d with incoming := rest }
      some ((s.sharing c result.state).produce c t (.reply frame result.reply)
        (nextReply result.closes result.reply))

def ownerStep : OwnerEvent → Option ServerThreads
  | .start => if t.point = .accepted then some (s.moveTo c t (.draining queueSize)) else none
  | .refuse => if t.point = .accepted then some (s.closeFd c t) else none
  | .drain =>
      match t.point with
      | .draining 0 => some (s.moveTo c t .waiting)
      | .draining (rounds + 1) => some (s.drainRound c t rounds)
      | _ => none
  | .send outcome =>
      match t.point.sending with
      | some (buffer, after) =>
          (s.sendRound t.fd.val buffer outcome).map fun (rest, s) => s.moveTo c t (after rest)
      | none => none
  | .idle => if t.point = .waiting then some (s.moveTo c t (.draining queueSize)) else none
  | .receive readings =>
      if t.point = .waiting then
        (s.descriptors t.fd.val).bind fun d => s.receiveLine c t d readings.val
      else none
  | .hangUp => if t.point = .waiting then some (s.moveTo c t .ending) else none
  | .remove =>
      if t.point = .ending then
        some { s.moveTo c t .removed with
          subscribers := subscribersRemove s.subscribers t.fd.val }
      else none
  | .close => if t.point = .removed then some (s.closeFd c t) else none

/-! ## The other threads -/

/-- The alerts that the UDP thread recorded, in order. -/
def raised : List Alert := s.broadcasted ++ s.newAlerts

/-- `accept` returns a closed descriptor. -/
def accept (fd : ClientFd) : Option ServerThreads :=
  if s.descriptors fd.val = none then
    some { s with
      descriptors := Function.update s.descriptors fd.val (some s.accepted)
      sockets := Function.update s.sockets s.accepted ⟨[], [], false⟩
      threads := Function.update s.threads s.accepted (some ⟨fd, .accepted, []⟩)
      arrived := Function.update s.arrived s.accepted []
      accepted := s.accepted + 1 }
  else none

/-- The slots that a broadcast queues its line in for a connection. -/
def queueingSlots (d : Nat) : List (Fin maxSubscribers) :=
  (List.finRange maxSubscribers).filter fun i =>
    (s.subscribers.slots i).fd ≠ 0 ∧ (s.subscribers.slots i).count ≠ queueSize ∧
      s.descriptors (s.subscribers.slots i).fd = some d

def broadcast : Option ServerThreads :=
  match s.newAlerts with
  | [] => none
  | alert :: newAlerts =>
      let (fds, subscribers) := subscribersBroadcast s.subscribers alert
      some { s with
        subscribers := subscribers
        newAlerts := newAlerts
        broadcasted := s.broadcasted ++ [alert]
        sockets := fun d =>
          if fds.any fun fd => s.descriptors fd = some d then { s.sockets d with isShut := true }
          else s.sockets d
        queuedFor := fun d =>
          s.queuedFor d ++ (s.queueingSlots d).map fun _ => formatAlert alert }

/-- The state after an event, `none` where it cannot happen. -/
def step (strtod : Bytes → StrtodResult) : ThreadEvent → Option ServerThreads
  | .accept fd => s.accept fd
  | .arrive d bytes =>
      if (s.threads d).isSome then
        let s := { s with arrived := Function.update s.arrived d (s.arrived d ++ bytes) }
        some (s.setSocket d { s.sockets d with incoming := (s.sockets d).incoming ++ bytes })
      else none
  | .owner c event => (s.threads c).bind fun t => s.ownerStep c t event
  | .datagram clock bytes =>
      if s.newAlerts = [] then
        let (newAlerts, registry) := udpTelemetryServer strtod s.registry clock.val bytes
        some { s with registry := registry, newAlerts := newAlerts }
      else none
  | .broadcast => s.broadcast

/-- Whether the counters that a long run can exhaust still are values of `long`. -/
def countersFit : Bool :=
  s.registry.datagramsTotal ≤ longMax ∧ s.registry.datagramsInvalid ≤ longMax ∧
    s.subscribers.dropped ≤ longMax

/-- The state after an event; one that cannot happen, or overflows a `long`, does not happen. -/
def next (strtod : Bytes → StrtodResult) (event : ThreadEvent) : ServerThreads :=
  match s.step strtod event with
  | some s' => if s'.countersFit then s' else s
  | none => s

end ServerThreads

def threadsInit (startedAt bootId : Long) : ServerThreads where
  toServerState := serverInit startedAt bootId
  newAlerts := []
  descriptors := fun _ => none
  sockets := fun _ => ⟨[], [], false⟩
  threads := fun _ => none
  accepted := 0
  addedBy := fun _ => none
  queuedFor := fun _ => []
  arrived := fun _ => []
  broadcasted := []

/-- Any interleaving of the threads and of the clients is a run of this machine. -/
def threadsMachine (strtod : Bytes → StrtodResult) (startedAt bootId : Long) :
    Machine ServerThreads ThreadEvent Unit where
  init := threadsInit startedAt bootId
  step s event := ((), s.next strtod event)

end Telep
