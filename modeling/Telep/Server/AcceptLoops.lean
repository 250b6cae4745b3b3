import Mathlib.Logic.Function.Basic
import Telep.Misc.Machine

/-!
# The accept loops

`tcp_command_server` and `http_status_server` take a place for a connection, allocate the argument
of its thread and start the thread. Both are the one loop below with their own orders of calls,
together with the threads that they started and the descriptors of the kernel, cut between any two
calls and any two sections under the mutex of the counter. `malloc` and `pthread_create` can fail at
any connection. An event that cannot happen in a state leaves it alone.
-/

namespace Telep

/-- What a connection holds: a place in the counter, its descriptor, and the memory of the argument
of its thread. -/
inductive Resource where
  | place
  | descriptor
  | memory
  deriving DecidableEq

/-- The calls of a branch of a loop or of a thread. The counter does not change in `serve`, which
stands for the work on the connection, nor in `subscribers_remove`. -/
inductive Call where
  | serve
  | subscribersRemove
  | close
  | free
  /-- The counter is decremented under its mutex. -/
  | release
  deriving DecidableEq

/-- What a call gives back. -/
def Call.returns : Call → Option Resource
  | serve => none
  | subscribersRemove => none
  | close => some .descriptor
  | free => some .memory
  | release => some .place

/-- The capacity of a loop and the calls of its branches. -/
structure AcceptLoop where
  capacity : Nat
  /-- The counter is at the capacity. -/
  full : List Call
  /-- `malloc` failed. -/
  noMemory : List Call
  /-- `pthread_create` failed. -/
  notCreated : List Call
  /-- The thread of a connection. -/
  thread : List Call

/-- `tcp_command_server`; the thread is `serve_client`. -/
def tcpCommandServer : AcceptLoop where
  capacity := 64
  full := [.close]
  noMemory := [.close, .release]
  notCreated := [.close, .free, .release]
  thread := [.serve, .subscribersRemove, .close, .free, .release]

/-- `http_status_server`; the thread is `http_worker`. Without memory, `free(arg)` has a null
pointer and does nothing. -/
def httpStatusServer : AcceptLoop where
  capacity := 16
  full := [.close]
  noMemory := [.close, .release]
  notCreated := [.free, .close, .release]
  thread := [.free, .serve, .close, .release]

/-- A connection, numbered as it was accepted, and the descriptor in the hands of its owner. -/
structure Connection where
  number : Nat
  fd : Nat
  deriving DecidableEq

/-- The points of the loop. -/
inductive AcceptPoint where
  | waiting
  /-- `accept` returned. -/
  | accepted (c : Connection)
  /-- The counter is incremented. -/
  | admitted (c : Connection)
  /-- `malloc` returned memory. -/
  | allocated (c : Connection)
  /-- In a branch that gives the connection up. -/
  | leaving (c : Connection) (calls : List Call)
  deriving DecidableEq

/-- A loop, its threads with the calls that each has before it, and the kernel. The last three
fields only record what happened. -/
structure AcceptState where
  /-- `clients` or `workers` -/
  counter : Int
  /-- The connection that a descriptor stands for, `none` while it is closed. -/
  descriptors : Nat → Option Nat
  point : AcceptPoint
  threads : List (Connection × List Call)
  accepted : Nat
  taken : List (Resource × Nat)
  returned : List (Resource × Nat)
  /-- The calls of `close` on a descriptor that was closed. -/
  misses : Nat

namespace AcceptState

variable (s : AcceptState)

/-- The connections that took a resource. -/
def took (r : Resource) : List Nat := (s.taken.filter (·.1 = r)).map Prod.snd

/-- The connections whose resource was given back. -/
def gave (r : Resource) : List Nat := (s.returned.filter (·.1 = r)).map Prod.snd

def take (r : Resource) (number : Nat) : AcceptState :=
  { s with taken := s.taken ++ [(r, number)] }

/-- A call for a connection; `close` closes what its descriptor stands for. -/
def call (c : Connection) : Call → AcceptState
  | .serve => s
  | .subscribersRemove => s
  | .close =>
      match s.descriptors c.fd with
      | some number =>
          { s with
            descriptors := Function.update s.descriptors c.fd none
            returned := s.returned ++ [(.descriptor, number)] }
      | none => { s with misses := s.misses + 1 }
  | .free => { s with returned := s.returned ++ [(.memory, c.number)] }
  | .release =>
      { s with
        counter := s.counter - 1
        returned := s.returned ++ [(.place, c.number)] }

@[simp] theorem call_threads (c : Connection) (call : Call) :
    (s.call c call).threads = s.threads := by
  cases call with
  | close =>
    rw [AcceptState.call]
    split <;> rfl
  | _ => rfl

@[simp] theorem call_point (c : Connection) (call : Call) : (s.call c call).point = s.point := by
  cases call with
  | close =>
    rw [AcceptState.call]
    split <;> rfl
  | _ => rfl

end AcceptState

inductive AcceptEvent where
  /-- `accept` returns a descriptor. -/
  | accept (fd : Nat)
  /-- The section under the mutex that tests the counter. -/
  | checkCapacity
  | malloc (succeeds : Bool)
  | create (succeeds : Bool)
  /-- The next call of a branch, or its end. -/
  | leave
  /-- The next call of a thread. -/
  | thread (i : Nat)
  deriving DecidableEq

/-- The state after an event, `none` where it cannot happen. -/
def AcceptLoop.step (l : AcceptLoop) (s : AcceptState) : AcceptEvent → Option AcceptState
  | .accept fd =>
      if s.point = .waiting ∧ s.descriptors fd = none then
        some { s.take .descriptor s.accepted with
          descriptors := Function.update s.descriptors fd (some s.accepted)
          point := .accepted ⟨s.accepted, fd⟩
          accepted := s.accepted + 1 }
      else none
  | .checkCapacity =>
      match s.point with
      | .accepted c =>
          if l.capacity ≤ s.counter then some { s with point := .leaving c l.full }
          else some { s.take .place c.number with
            counter := s.counter + 1
            point := .admitted c }
      | _ => none
  | .malloc succeeds =>
      match s.point with
      | .admitted c =>
          if succeeds then some { s.take .memory c.number with point := .allocated c }
          else some { s with point := .leaving c l.noMemory }
      | _ => none
  | .create succeeds =>
      match s.point with
      | .allocated c =>
          if succeeds then
            some { s with
              point := .waiting
              threads := s.threads ++ [(c, l.thread)] }
          else some { s with point := .leaving c l.notCreated }
      | _ => none
  | .leave =>
      match s.point with
      | .leaving _ [] => some { s with point := .waiting }
      | .leaving c (call :: calls) => some { s.call c call with point := .leaving c calls }
      | _ => none
  | .thread i =>
      match s.threads[i]? with
      | some (c, call :: calls) =>
          some { s.call c call with threads := s.threads.set i (c, calls) }
      | _ => none

/-- Any interleaving of the loop and its threads is a run of this machine. -/
def AcceptLoop.machine (l : AcceptLoop) : Machine AcceptState AcceptEvent Unit where
  init := ⟨0, fun _ => none, .waiting, [], 0, [], [], 0⟩
  step s event := ((), (l.step s event).getD s)

end Telep
