import Mathlib.Data.Finset.Card
import Telep.Client.Node
import Telep.Server.Proofs.Statistics

/-!
# What a node and its server agree on

The invariant behind the counters of a node. `Accounts` speaks of the node alone, `Claim` of a
set of counters that was reported, may be reported, or is stored in the record of the node,
`Settled` of a session that is bound where it can be bound at all, and `Linked` of the open
connection.
-/

namespace Telep

/-! ## Points -/

namespace Point

/-- Inside the final report, or after it. -/
@[simp] def isFinal : Point → Bool
  | control final _ _ => final.isSome
  | renewed final _ => final.isSome
  | zeroed final _ => final.isSome
  | done => true
  | _ => false

/-- A `control` of the loop. -/
@[simp] def isRefresh : Point → Bool
  | control final _ _ => final.isNone
  | renewed final _ => final.isNone
  | zeroed final _ => final.isNone
  | _ => false

/-- The session is drawn but not in use. -/
@[simp] def isRestart : Point → Bool
  | renewed _ _ => true
  | zeroed _ _ => true
  | _ => false

@[simp] def isRenewed : Point → Bool
  | renewed _ _ => true
  | _ => false

/-- The identity of the server in the hands of the node. -/
@[simp] def newBoot : Point → Option Int
  | control _ _ (.status bootId) => some bootId
  | renewed _ bootId => some bootId
  | zeroed _ bootId => some bootId
  | _ => none

/-- `control` has found the session to be the one of this server. -/
@[simp] def afterStatus : Point → Bool
  | control _ .hello _ => true
  | control _ .report _ => true
  | _ => false

/-- `control` has found the session to be registered. -/
@[simp] def afterHello : Point → Bool
  | control _ .hello (.result none) => true
  | control _ .report _ => true
  | _ => false

/-- The reply to `REPORT` on its way. -/
@[simp] def reportReply : Point → Option (Option ErrorCode)
  | control _ .report (.result code) => some code
  | _ => none

/-- How much `sent` is behind. -/
@[simp] def unsent : Point → Nat
  | handed => 1
  | _ => 0

/-- How much `attempts` is behind the other counters. -/
@[simp] def unattempted : Point → Nat
  | counted => 1
  | _ => 0

/-- How much `attempts` is behind the datagrams. -/
@[simp] def outrun : Point → Nat
  | handed => 1
  | counted => 1
  | _ => 0

/-- How much `total_attempts` is behind `attempts`. -/
@[simp] def untotalled : Point → Nat
  | advanced => 1
  | _ => 0

/-- The attempt that the loop has admitted and not finished. -/
@[simp] def admitted : Point → Nat
  | attempt => 1
  | handed => 1
  | failed => 1
  | counted => 1
  | advanced => 1
  | control final _ _ => final.isNone.toNat
  | renewed final _ => final.isNone.toNat
  | zeroed final _ => final.isNone.toNat
  | _ => 0

/-- The points behind a successful `control` for the session. -/
@[simp] def isRegistered : Point → Bool
  | control _ .hello (.result none) => true
  | control _ .report _ => true
  | attempt => true
  | handed => true
  | failed => true
  | counted => true
  | advanced => true
  | sleeping => true
  | _ => false

end Point

/-! ## The invariant -/

/-- Counter by counter. -/
def Counters.Le (c c' : Counters) : Prop :=
  c.attempts ≤ c'.attempts ∧ c.sent ≤ c'.sent ∧ c.omitted ≤ c'.omitted ∧
    c.sendErrors ≤ c'.sendErrors

theorem Counters.Le.refl (c : Counters) : c.Le c := ⟨le_rfl, le_rfl, le_rfl, le_rfl⟩

theorem Counters.Le.trans {c c' c'' : Counters} (h : c.Le c') (h' : c'.Le c'') : c.Le c'' :=
  ⟨h.1.trans h'.1, h.2.1.trans h'.2.1, h.2.2.1.trans h'.2.2.1, h.2.2.2.trans h'.2.2.2⟩

/-- The counters of the last report. -/
def TelemetryNode.counters (node : TelemetryNode) : Counters :=
  ⟨node.attempts, node.sent, node.omitted, node.sendErrors⟩

namespace World

variable (w : World) (a : NodeArgs)

/-- The sequences handed to `sendto` in a session. -/
def handed (s : Session) : Finset Nat :=
  ((w.datagrams.filter fun d => d.session = s).map Datagram.sequence).toFinset

/-- The sequences of a session that reached the running server process. -/
def received (s : Session) : Finset Nat :=
  ((w.arrived.filter fun e => e.1 = s).map Prod.snd).toFinset

/-- The node's counters against the datagrams of its session. -/
structure Accounts : Prop where
  sum : w.counters.attempts + w.point.unattempted =
    w.counters.sent + w.counters.omitted + w.counters.sendErrors
  sent : w.point.isRenewed = false →
    w.counters.sent + w.point.unsent = (w.handed w.session).card
  below : ∀ q ∈ w.handed w.session, q < w.counters.attempts + w.point.outrun
  pending : w.point = .handed → w.counters.attempts ∈ w.handed w.session
  attempts_le : w.point.isFinal = false →
    w.counters.attempts ≤ w.totalAttempts + w.point.untotalled
  total_le : w.totalAttempts + w.point.admitted ≤ a.count
  limit : w.counters.attempts ≤ a.count

/-- The sessions of the node and its datagrams. -/
structure Sessions : Prop where
  own : ∀ s ∈ w.used, a.own s = true
  current : w.point.isRestart = false → w.session ∈ w.used
  fresh : w.point.isRestart = true → w.session ∉ w.used ∧ a.own w.session = true
  datagram : ∀ d ∈ w.datagrams, d.session ∈ w.used
  bounded : ∀ d ∈ w.datagrams, d.sequence < sessionLimit
  once : (w.datagrams.map fun d => (d.session, d.sequence)).Nodup
  arrived : ∀ e ∈ w.arrived, e.2 ∈ w.handed e.1

/-- Counters that a report of the session `s` may carry. -/
structure Claim (s : Session) (c : Counters) (final : Bool) : Prop where
  used : s ∈ w.used
  sum : c.attempts = c.sent + c.omitted + c.sendErrors
  sent : c.sent = ((w.handed s).filter (· < c.attempts)).card
  covers : final = true → ∀ q ∈ w.handed s, q < c.attempts
  below : s = w.session → c.Le w.counters
  last : final = true → s = w.session → c = w.counters ∧ w.point.isFinal = true

/-- A request of a closed connection. -/
def Legit : Request → Prop
  | .status => True
  | .hello s => s ∈ w.used
  | .report s c final => w.Claim s c final

/-- The record of the node while it is bound to the session `s`. -/
structure Holds (x : Record) (s : Session) : Prop where
  claim : w.Claim s x.node.counters x.node.finalReport
  seen : ∀ q, x.row.test q = true ↔ (s, q) ∈ w.arrived

/-- The running server process has bound the node to the session. -/
def Bound (s : Session) : Prop :=
  ∃ x, recordOf w.registry a.id.val = some x ∧ x.node.session = s.val

/-- The session is bound, or no `HELLO` can bind it any more. -/
structure Settled (s : Session) : Prop where
  boot : s = w.session → w.boot ≠ none
  bound : w.Bound a s ∨
    (Request.hello s ∉ w.stale ∧ (s = w.session → w.boot ≠ some w.registry.bootId))

/-- What the server has heard from the node. -/
structure Served : Prop where
  reachable : ∃ startedAt,
    (registryMachine startedAt w.registry.bootId).Reachable w.registry
  stale : ∀ request ∈ w.stale, w.Legit request
  record : ∀ x s, recordOf w.registry a.id.val = some x → a.own s = true →
    x.node.session = s.val → w.Holds x s
  settled : ∀ s, (w.handed s).Nonempty → w.Settled a s
  registered : w.point.isRegistered = true → w.Settled a w.session
  refreshed : w.point = .loop → w.clock < w.nextRefresh → w.Settled a w.session
  waiting : w.point.isRefresh = true → w.nextRefresh ≤ w.clock

/-- What the node knows of the server. -/
structure Linked : Prop where
  running : w.registry.bootId ∈ w.boots
  boot : ∀ b, w.boot = some b → b ∈ w.boots
  newBoot : ∀ b, w.point.newBoot = some b → b ∈ w.boots ∧
    (w.connected = true → b = w.registry.bootId) ∧
    (b = w.registry.bootId ∨ w.boot ≠ some w.registry.bootId)
  outdated : w.point.isRestart = true → w.boot ≠ none ∧ w.boot ≠ some w.registry.bootId
  known : w.connected = true → w.point.afterStatus = true → w.boot = some w.registry.bootId
  bound : w.connected = true → w.point.afterHello = true → w.Bound a w.session
  reply : ∀ code, w.point.reportReply = some code → code = none
  replies : ∀ code ∈ w.reportReplies, code = none

structure Inv : Prop where
  accounts : w.Accounts a
  sessions : w.Sessions a
  served : w.Served a
  linked : w.Linked a

end World

/-! ## Claims last -/

namespace World

variable {w w' : World} {a : NodeArgs} {s : Session} {c : Counters} {final : Bool}

theorem mem_handed {q : Nat} :
    q ∈ w.handed s ↔ ∃ d ∈ w.datagrams, d.session = s ∧ d.sequence = q := by
  simp [handed, and_assoc]

theorem mem_received {q : Nat} : q ∈ w.received s ↔ (s, q) ∈ w.arrived := by
  simp [received]

theorem handed_congr (same : w'.datagrams = w.datagrams) : w'.handed s = w.handed s := by
  simp only [handed, same]

/-- A session that is not in use has no datagrams. -/
theorem Sessions.handed_empty (h : w.Sessions a) (unused : s ∉ w.used) : w.handed s = ∅ := by
  rw [Finset.eq_empty_iff_forall_notMem]
  intro q hq
  obtain ⟨d, hd, rfl, -⟩ := mem_handed.mp hq
  exact unused (h.datagram d hd)

/-- A step that keeps the counters of every session in use, or only lets them grow. -/
structure Keeps (w w' : World) : Prop where
  used : w.used ⊆ w'.used
  datagrams : w'.datagrams = w.datagrams
  current : ∀ s ∈ w.used, s = w'.session → s = w.session ∧ w.counters.Le w'.counters ∧
    (w.point.isFinal = true → w'.counters = w.counters ∧ w'.point.isFinal = true)

theorem Claim.keep (h : w.Claim s c final) (keeps : w.Keeps w') : w'.Claim s c final where
  used := keeps.used h.used
  sum := h.sum
  sent := by
    rw [handed_congr keeps.datagrams]
    exact h.sent
  covers := by
    rw [handed_congr keeps.datagrams]
    exact h.covers
  below same := by
    obtain ⟨same', grown, -⟩ := keeps.current s h.used same
    exact (h.below same').trans grown
  last isFinal same := by
    obtain ⟨same', -, stays⟩ := keeps.current s h.used same
    obtain ⟨equal, inside⟩ := h.last isFinal same'
    obtain ⟨equal', inside'⟩ := stays inside
    exact ⟨equal.trans equal'.symm, inside'⟩

theorem Legit.keep {request : Request} (h : w.Legit request) (keeps : w.Keeps w') :
    w'.Legit request := by
  cases request with
  | status => trivial
  | hello s => exact keeps.used h
  | report s c final => exact Claim.keep h keeps

theorem Holds.keep {x : Record} (h : w.Holds x s) (keeps : w.Keeps w')
    (arrived : w'.arrived = w.arrived) : w'.Holds x s where
  claim := h.claim.keep keeps
  seen q := by
    rw [arrived]
    exact h.seen q

/-- Steps of the network, of the server and of others leave the node alone. -/
theorem Keeps.of_node (node : w'.toNodeState = w.toNodeState) (used : w'.used = w.used)
    (datagrams : w'.datagrams = w.datagrams) : w.Keeps w' where
  used := by rw [used]; exact List.Subset.refl _
  datagrams := datagrams
  current s _ same := by
    rw [node] at *
    exact ⟨same, .refl _, fun inside => ⟨rfl, inside⟩⟩

/-- Outside the attempts, the counters of the node are a claim. -/
theorem Inv.claim {phase : Phase} {exchange : Exchange} {tries : Option Nat} (h : w.Inv a)
    (point : w.point = .control tries phase exchange) :
    w.Claim w.session w.counters tries.isSome where
  used := h.sessions.current (by rw [point]; rfl)
  sum := by simpa [point] using h.accounts.sum
  sent := by
    have all : (w.handed w.session).filter (· < w.counters.attempts) = w.handed w.session := by
      rw [Finset.filter_eq_self]
      simpa [point] using h.accounts.below
    rw [all]
    simpa [point] using h.accounts.sent
  covers _ := by simpa [point] using h.accounts.below
  below _ := .refl _
  last isFinal _ := ⟨rfl, by simpa [point] using isFinal⟩

end World

end Telep
