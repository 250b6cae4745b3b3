import Telep.Misc.Machine
import Telep.Misc.RingQueue
import Telep.Misc.SlotTable
import Telep.Server.NodeRegistry

/-!
# The alert subscribers (`alert_subscribers.c`)

One slot per subscribed connection, with the queue of lines its owner has not sent yet. Every
section under the mutex is one step on the whole state; `subscribersDrain` is the one function
with several sections, and other threads may run between them.
-/

namespace Telep

abbrev maxSubscribers : Nat := 32
abbrev queueSize : Nat := 32

/-- A slot; the descriptor 0 marks it free. -/
structure Subscriber extends RingQueue Bytes where
  fd : Nat

/-- The static state of the module: `slots` and `dropped`. -/
structure Subscribers where
  slots : Fin maxSubscribers → Subscriber
  dropped : Nat

/-- `(Subscriber){.fd = fd}` -/
def Subscriber.fresh (fd : Nat) : Subscriber where
  fd := fd
  head := 0
  count := 0
  cells := fun _ => []

def subscribersInit : Subscribers := ⟨fun _ => .fresh 0, 0⟩

def Subscribers.setSlot (s : Subscribers) (i : Fin maxSubscribers) (slot : Subscriber) :
    Subscribers := { s with slots := Function.update s.slots i slot }

/-- The result 0 or -1, and the state after the call. The loop leaves the last free slot in
`free_slot`. -/
def subscribersAdd (s : Subscribers) (fd : Nat) : Int × Subscribers :=
  if ∃ i, (s.slots i).fd = fd then (0, s)
  else
    match (List.finRange maxSubscribers).reverse.find? fun i => (s.slots i).fd == 0 with
    | none => (-1, s)
    | some i => (0, s.setSlot i (.fresh fd))

def subscribersRemove (s : Subscribers) (fd : Nat) : Subscribers :=
  { s with slots := fun i =>
      if (s.slots i).fd = fd then { s.slots i with fd := 0 } else s.slots i }

/-- The line pushed for an alert. -/
def formatAlert (alert : Alert) : Bytes :=
  snprintf maxLine (ascii "ALERT|" ++ alert.nodeId ++ ascii "|" ++ alert.alertType ++ ascii "|" ++
    formatFixed2 alert.value)

/-- The body of the loop of `subscribers_broadcast`. -/
def Subscriber.broadcast (s : Subscriber) (alert : Alert) : Subscriber :=
  if s.fd = 0 then s
  else if s.count = queueSize then { s with fd := 0 }
  else { s with toRingQueue := s.push queueSize (formatAlert alert) }

/-- Whether the broadcast shuts the slot's connection down. -/
def Subscriber.isCut (s : Subscriber) : Bool := s.fd ≠ 0 ∧ s.count = queueSize

/-- The descriptors that are shut down, and the state after the call. -/
def subscribersBroadcast (s : Subscribers) (alert : Alert) : List Nat × Subscribers :=
  let cut := (List.finRange maxSubscribers).filter fun i => (s.slots i).isCut
  (cut.map fun i => (s.slots i).fd,
    { slots := fun i => (s.slots i).broadcast alert, dropped := s.dropped + cut.length })

/-- The section of `subscribers_drain` under the mutex: the line to send, empty when there is
none, and the state after it. -/
def drainSection (s : Subscribers) (fd : Nat) : Bytes × Subscribers :=
  match (List.finRange maxSubscribers).find? fun i =>
      (s.slots i).fd == fd && (s.slots i).count != 0 with
  | none => ([], s)
  | some i =>
      ((s.slots i).cells (s.slots i).head,
        s.setSlot i { s.slots i with toRingQueue := (s.slots i).pop queueSize })

/-! ## Interleavings -/

/-- The descriptor of a connection; 0 belongs to the listeners, which are opened first. -/
abbrev ClientFd := { fd : Nat // fd ≠ 0 }

/-- The sections under the mutex. -/
inductive SubscribersOp where
  | add (fd : ClientFd)
  | remove (fd : ClientFd)
  | broadcast (alert : Alert)
  | drain (fd : ClientFd)

/-- What a section returns to its thread. -/
inductive SubscribersAnswer where
  | added (result : Int)
  | removed
  | cut (fds : List Nat)
  | drained (line : Bytes)
  deriving DecidableEq

def subscribersStep (s : Subscribers) : SubscribersOp → SubscribersAnswer × Subscribers
  | .add fd =>
      let (result, s') := subscribersAdd s fd.val
      (.added result, s')
  | .remove fd => (.removed, subscribersRemove s fd.val)
  | .broadcast alert =>
      let (fds, s') := subscribersBroadcast s alert
      (.cut fds, s')
  | .drain fd =>
      let (line, s') := drainSection s fd.val
      (.drained line, s')

/-- Any interleaving of the threads is a run of this machine. -/
def subscribersMachine : Machine Subscribers SubscribersOp SubscribersAnswer where
  init := subscribersInit
  step := subscribersStep

/-- The loop of `subscribers_drain` with `n` rounds left: `others k` are the sections that other
threads run before the next section of this one when `k` rounds are left, `sends` says whether
a line can be sent. The result, the lines handed to `send_text_line` and the state at the end. -/
def drainLoop (others : Nat → List SubscribersOp) (sends : Bytes → Bool) (fd : ClientFd) :
    Nat → Subscribers → Int × List Bytes × Subscribers
  | 0, s => (0, [], s)
  | n + 1, s =>
      let (line, s') := drainSection (subscribersMachine.exec s (others n)) fd.val
      if line = [] then (0, [], s')
      else if sends line then
        let (result, lines, s'') := drainLoop others sends fd n s'
        (result, line :: lines, s'')
      else (-1, [line], s')

def subscribersDrain (others : Nat → List SubscribersOp) (sends : Bytes → Bool) (fd : ClientFd)
    (s : Subscribers) : Int × List Bytes × Subscribers := drainLoop others sends fd queueSize s

end Telep
