import Mathlib.Tactic.MkIffOfInductiveProp
import Telep.Client.Proofs.NodeServer

/-!
# Every event keeps the invariant

A step of the node other than a `sendto` is one of the `Moves`; what it has to show is left to
the new point, the new counters and the new session. The events are then taken one by one.
-/

namespace Telep

/-- Two points with the same lag of every counter. -/
@[mk_iff]
structure Point.Alike (p p' : Point) : Prop where
  unattempted : p'.unattempted = p.unattempted
  unsent : p'.unsent = p.unsent
  outrun : p'.outrun = p.outrun
  pending : p' = .handed → p = .handed
  untotalled : p'.isFinal = false → p.isFinal = false ∧ p'.untotalled = p.untotalled
  renewed : p'.isRenewed = false → p.isRenewed = false

/-- Two points with the session in use, of which the second knows nothing of the server. -/
@[mk_iff]
structure Point.Quiet (p p' : Point) : Prop where
  alike : p.Alike p'
  inUse : p.isRestart = false
  inUse' : p'.isRestart = false
  final : p.isFinal = true → p'.isFinal = true
  newBoot : p'.newBoot = none
  outside : p'.afterStatus = false
  silent : p'.reportReply = none

namespace World

variable {w w' : World} {a : NodeArgs} {s : Session}

theorem Accounts.move (h : w.Accounts a) (alike : w.point.Alike w'.point)
    (session : w'.session = w.session) (counters : w'.counters = w.counters)
    (total : w'.totalAttempts = w.totalAttempts) (datagrams : w'.datagrams = w.datagrams)
    (total_le : w'.totalAttempts + w'.point.admitted ≤ a.count) : w'.Accounts a where
  sum := by
    rw [counters, alike.unattempted]
    exact h.sum
  sent renewed := by
    rw [counters, alike.unsent, session, handed_congr datagrams]
    exact h.sent (alike.renewed renewed)
  below := by
    rw [counters, alike.outrun, session, handed_congr datagrams]
    exact h.below
  pending point := by
    rw [counters, session, handed_congr datagrams]
    exact h.pending (alike.pending point)
  attempts_le started := by
    obtain ⟨started', untotalled⟩ := alike.untotalled started
    rw [counters, total, untotalled]
    exact h.attempts_le started'
  total_le := total_le
  limit := by
    rw [counters]
    exact h.limit

/-- A step of the node that leaves the network and the server alone. -/
structure Moves (w w' : World) : Prop where
  registry : w'.registry = w.registry
  arrived : w'.arrived = w.arrived
  boots : w'.boots = w.boots
  datagrams : w'.datagrams = w.datagrams
  used : w.used ⊆ w'.used
  stale : ∀ request ∈ w'.stale, request ∈ w.stale ∨ request ∈ w.inFlight
  current : ∀ s ∈ w.used, s = w'.session → s = w.session ∧
    (w.boot ≠ none → w'.boot = w.boot) ∧ w.counters.Le w'.counters ∧
    (w.point.isFinal = true → w'.counters = w.counters ∧ w'.point.isFinal = true)

/-- A step that touches neither the network, nor the server, nor the session. -/
theorem Moves.node (same : w'.registry = w.registry ∧ w'.arrived = w.arrived ∧
      w'.boots = w.boots ∧ w'.datagrams = w.datagrams ∧ w'.used = w.used)
    (stale : w'.stale ⊆ w.stale ++ w.inFlight)
    (session : w'.session = w.session) (boot : w.boot ≠ none → w'.boot = w.boot)
    (grown : w.counters.Le w'.counters)
    (final : w.point.isFinal = true → w'.counters = w.counters ∧ w'.point.isFinal = true) :
    w.Moves w' := by
  obtain ⟨registry, arrived, boots, datagrams, used⟩ := same
  refine ⟨registry, arrived, boots, datagrams, ?_, fun request member => ?_, fun s _ same => ?_⟩
  · rw [used]
    exact List.Subset.refl _
  · exact List.mem_append.mp (stale member)
  · exact ⟨same.trans session, boot, grown, final⟩

theorem Moves.keeps (moves : w.Moves w') : w.Keeps w' where
  used := moves.used
  datagrams := moves.datagrams
  current s used same := by
    obtain ⟨session, -, grown, final⟩ := moves.current s used same
    exact ⟨session, grown, final⟩

/-- The request on its way is the one of the phase, and the connection is open. -/
theorem mem_inFlight {request : Request} (member : request ∈ w.inFlight) :
    ∃ final phase, w.point = .control final phase .asked ∧ w.connected = true ∧
      w.request final phase = some request := by
  unfold inFlight at member
  split at member
  · next final phase point =>
    split at member
    · next connected => exact ⟨final, phase, point, connected, by simpa using member⟩
    · simp at member
  · simp at member

theorem Inv.legit (h : w.Inv a) : ∀ request ∈ w.inFlight, w.Legit request := by
  intro request member
  obtain ⟨final, phase, point, -, sent⟩ := mem_inFlight member
  cases phase with
  | dial => cases sent
  | status =>
    obtain rfl := Option.some.inj sent
    trivial
  | hello =>
    obtain rfl := Option.some.inj sent
    exact h.sessions.current (by rw [point]; rfl)
  | report =>
    obtain rfl := Option.some.inj sent
    exact h.claim point

/-- A `HELLO` on its way is for the session of the running server. -/
theorem Inv.hello_inFlight (h : w.Inv a) (member : Request.hello s ∈ w.inFlight) :
    s = w.session ∧ w.boot = some w.registry.bootId := by
  obtain ⟨final, phase, point, connected, sent⟩ := mem_inFlight member
  cases phase with
  | hello =>
    obtain rfl : w.session = s := by simpa [NodeState.request] using sent
    exact ⟨rfl, h.linked.known connected (by rw [point]; rfl)⟩
  | _ => simp [NodeState.request] at sent

theorem Settled.move (h : w.Settled a s) (inv : w.Inv a) (used : s ∈ w.used)
    (moves : w.Moves w') : w'.Settled a s where
  boot same := by
    obtain ⟨session, boot, -⟩ := moves.current s used same
    rw [boot (h.boot session)]
    exact h.boot session
  bound := by
    rcases h.bound with ⟨x, hx, same⟩ | ⟨absent, expired⟩
    · exact .inl ⟨x, by rwa [moves.registry], same⟩
    · refine .inr ⟨fun member => ?_, fun same => ?_⟩
      · rcases moves.stale _ member with member | member
        · exact absent member
        · obtain ⟨session, boot⟩ := inv.hello_inFlight member
          exact expired session boot
      · obtain ⟨session, boot, -⟩ := moves.current s used same
        rw [boot (h.boot session), moves.registry]
        exact expired session

theorem Served.move (h : w.Inv a) (moves : w.Moves w')
    (registered : w'.point.isRegistered = true → w'.Settled a w'.session)
    (refreshed : w'.point = .loop → w'.clock < w'.nextRefresh → w'.Settled a w'.session)
    (waiting : w'.point.isRefresh = true → w'.nextRefresh ≤ w'.clock) : w'.Served a where
  reachable := by
    rw [moves.registry]
    exact h.served.reachable
  stale request member := by
    rcases moves.stale request member with member | member
    · exact (h.served.stale request member).keep moves.keeps
    · exact (h.legit request member).keep moves.keeps
  record x s hx own bound := by
    rw [moves.registry] at hx
    exact (h.served.record x s hx own bound).keep moves.keeps moves.arrived
  settled s nonempty := by
    rw [handed_congr moves.datagrams] at nonempty
    have used : s ∈ w.used := by
      obtain ⟨q, hq⟩ := nonempty
      obtain ⟨d, hd, rfl, -⟩ := mem_handed.mp hq
      exact h.sessions.datagram d hd
    exact (h.served.settled s nonempty).move h used moves
  registered := registered
  refreshed := refreshed
  waiting := waiting

theorem Sessions.move (h : w.Sessions a) (moves : w.Moves w')
    (own : ∀ s ∈ w'.used, a.own s = true)
    (current : w'.point.isRestart = false → w'.session ∈ w'.used)
    (fresh : w'.point.isRestart = true → w'.session ∉ w'.used ∧ a.own w'.session = true) :
    w'.Sessions a where
  own := own
  current := current
  fresh := fresh
  datagram := by
    rw [moves.datagrams]
    exact fun d hd => moves.used (h.datagram d hd)
  bounded := by
    rw [moves.datagrams]
    exact h.bounded
  once := by
    rw [moves.datagrams]
    exact h.once
  arrived := by
    rw [moves.arrived]
    intro e he
    rw [handed_congr moves.datagrams]
    exact h.arrived e he

/-- A step that keeps the session and the counters, between points with one use of it. -/
structure Stays (a : NodeArgs) (w w' : World) : Prop where
  moves : w.Moves w'
  alike : w.point.Alike w'.point
  session : w'.session = w.session
  counters : w'.counters = w.counters
  total : w'.totalAttempts = w.totalAttempts
  total_le : w'.totalAttempts + w'.point.admitted ≤ a.count
  used : w'.used = w.used
  inUse : w.point.isRestart = false
  inUse' : w'.point.isRestart = false

theorem Stays.inv (stays : Stays a w w') (h : w.Inv a)
    (registered : w'.point.isRegistered = true → w'.Settled a w'.session)
    (refreshed : w'.point = .loop → w'.clock < w'.nextRefresh → w'.Settled a w'.session)
    (waiting : w'.point.isRefresh = true → w'.nextRefresh ≤ w'.clock) (linked : w'.Linked a) :
    w'.Inv a where
  accounts := h.accounts.move stays.alike stays.session stays.counters stays.total
    stays.moves.datagrams stays.total_le
  sessions := h.sessions.move stays.moves (by rw [stays.used]; exact h.sessions.own)
    (fun _ => by
      rw [stays.used, stays.session]
      exact h.sessions.current stays.inUse)
    (fun restart => by
      rw [stays.inUse'] at restart
      cases restart)
  served := .move h stays.moves registered refreshed waiting
  linked := linked

theorem Stays.settled (stays : Stays a w w') (h : w.Inv a) (settled : w.Settled a w.session) :
    w'.Settled a w'.session := by
  rw [stays.session]
  exact settled.move h (h.sessions.current stays.inUse) stays.moves

theorem afterStatus_of_afterHello {p : Point} (h : p.afterHello = true) :
    p.afterStatus = true := by
  unfold Point.afterHello at h
  split at h <;> simp_all

theorem newBoot_of_isRestart {p : Point} (h : p.isRestart = true) :
    ∃ b, p.newBoot = some b := by
  cases p <;> simp_all

/-- A point without an exchange knows nothing more of the server. -/
theorem Linked.quiet (h : w.Linked a) (moves : w.Moves w') (boot : w'.boot = w.boot)
    (newBoot : w'.point.newBoot = none)
    (outside : w'.point.afterStatus = false) (silent : w'.point.reportReply = none)
    (replies : ∀ code ∈ w'.reportReplies, code = none) : w'.Linked a where
  running := by
    rw [moves.registry, moves.boots]
    exact h.running
  boot b hb := by
    rw [moves.boots]
    rw [boot] at hb
    exact h.boot b hb
  newBoot b hb := nomatch newBoot.symm.trans hb
  outdated restart := by
    obtain ⟨b, hb⟩ := newBoot_of_isRestart restart
    exact nomatch newBoot.symm.trans hb
  known _ reached := nomatch outside.symm.trans reached
  bound _ reached := nomatch outside.symm.trans (afterStatus_of_afterHello reached)
  reply _ reply := nomatch silent.symm.trans reply
  replies := replies

theorem Stays.node (same : w'.registry = w.registry ∧ w'.arrived = w.arrived ∧
      w'.boots = w.boots ∧ w'.datagrams = w.datagrams ∧ w'.used = w.used)
    (stale : w'.stale ⊆ w.stale ++ w.inFlight)
    (vars : w'.session = w.session ∧ w'.counters = w.counters ∧
      w'.totalAttempts = w.totalAttempts ∧ (w.boot ≠ none → w'.boot = w.boot))
    (alike : w.point.Alike w'.point) (inUse : w.point.isRestart = false)
    (inUse' : w'.point.isRestart = false)
    (final : w.point.isFinal = true → w'.point.isFinal = true)
    (total_le : w'.totalAttempts + w'.point.admitted ≤ a.count) : Stays a w w' := by
  obtain ⟨session, counters, total, boot⟩ := vars
  exact {
    moves := .node same stale session boot (counters ▸ .refl _) fun isFinal =>
      ⟨counters, final isFinal⟩
    alike := alike
    session := session
    counters := counters
    total := total
    total_le := total_le
    used := same.2.2.2.2
    inUse := inUse
    inUse' := inUse' }

/-- A step between two points of which the second knows nothing of the server. -/
theorem Inv.quiet (h : w.Inv a) (quiet : w.point.Quiet w'.point)
    (same : w'.registry = w.registry ∧ w'.arrived = w.arrived ∧
      w'.boots = w.boots ∧ w'.datagrams = w.datagrams ∧ w'.used = w.used)
    (stale : w'.stale ⊆ w.stale ++ w.inFlight)
    (vars : w'.session = w.session ∧ w'.counters = w.counters ∧
      w'.totalAttempts = w.totalAttempts ∧ w'.boot = w.boot)
    (total_le : w'.totalAttempts + w'.point.admitted ≤ a.count)
    (settled : w'.point.isRegistered = true ∨ w'.point = .loop ∧ w'.clock < w'.nextRefresh →
      w.Settled a w.session)
    (waiting : w'.point.isRefresh = true → w'.nextRefresh ≤ w'.clock)
    (replies : ∀ code ∈ w'.reportReplies, code = none) : w'.Inv a := by
  obtain ⟨session, counters, total, boot⟩ := vars
  have stays : Stays a w w' := .node same stale ⟨session, counters, total, fun _ => boot⟩
    quiet.alike quiet.inUse quiet.inUse' quiet.final total_le
  exact stays.inv h (fun point => stays.settled h (settled (.inl point)))
    (fun point early => stays.settled h (settled (.inr ⟨point, early⟩))) waiting
    (h.linked.quiet stays.moves boot quiet.newBoot quiet.outside quiet.silent replies)

/-- A quiet step that also sets the clock or connects. -/
theorem Inv.moves {point : Point} {now : ℚ} {connected : Bool} (h : w.Inv a)
    (quiet : w.point.Quiet point) (total_le : w.totalAttempts + point.admitted ≤ a.count)
    (settled : point.isRegistered = true ∨ point = .loop ∧ now < w.nextRefresh →
      w.Settled a w.session)
    (waiting : point.isRefresh = true → w.nextRefresh ≤ now) :
    World.Inv { w with point := point, clock := now, connected := connected } a :=
  h.quiet quiet ⟨rfl, rfl, rfl, rfl, rfl⟩ (List.subset_append_left _ _) ⟨rfl, rfl, rfl, rfl⟩
    total_le settled waiting h.linked.replies

/-! ## The loop -/

theorem inv_check (h : w.Inv a) {now : ℚ} (step : a.step w (.check now) = some w') :
    w'.Inv a := by
  rw [NodeArgs.step] at step
  split at step
  · next guard =>
    obtain ⟨point, later⟩ := guard
    have total_le := h.accounts.total_le
    rw [point] at total_le
    dsimp only at step
    split at step
    · next room =>
      split at step
      · next due =>
        obtain rfl := Option.some.inj step
        refine h.moves ?_ (Nat.succ_le_of_lt room) (by simp) fun _ => due
        simp [Point.quiet_iff, Point.alike_iff, point]
      · next early =>
        obtain rfl := Option.some.inj step
        refine h.moves ?_ (Nat.succ_le_of_lt room)
          (fun _ => h.served.refreshed point (later.trans_lt (not_le.mp early))) (by simp)
        simp [Point.quiet_iff, Point.alike_iff, point]
    · obtain rfl := Option.some.inj step
      refine h.moves ?_ total_le (by simp) (by simp)
      simp [Point.quiet_iff, Point.alike_iff, point]
  · cases step

theorem inv_sendFails (h : w.Inv a) (step : a.step w .sendFails = some w') : w'.Inv a := by
  rw [NodeArgs.step] at step
  split at step
  · next guard =>
    have point := guard.1
    have total_le := h.accounts.total_le
    rw [point] at total_le
    obtain rfl := Option.some.inj step
    refine h.moves ?_ total_le (fun _ => h.served.registered (by rw [point]; rfl)) (by simp)
    simp [Point.quiet_iff, Point.alike_iff, point]
  · cases step

theorem inv_wake (h : w.Inv a) (step : a.step w .wake = some w') : w'.Inv a := by
  rw [NodeArgs.step] at step
  split at step
  · next point =>
    have total_le := h.accounts.total_le
    rw [point] at total_le
    obtain rfl := Option.some.inj step
    refine h.moves ?_ total_le (fun _ => h.served.registered (by rw [point]; rfl)) (by simp)
    simp [Point.quiet_iff, Point.alike_iff, point]
  · cases step

theorem inv_connect (h : w.Inv a) (step : a.step w .connect = some w') : w'.Inv a := by
  rw [NodeArgs.step] at step
  split at step
  · next final point =>
    have total_le := h.accounts.total_le
    have waiting := h.served.waiting
    rw [point] at total_le waiting
    obtain rfl := Option.some.inj step
    refine h.moves ?_ total_le (by simp) waiting
    simp [Point.quiet_iff, Point.alike_iff, point]
  · cases step

/-! ## The end of a `control` -/

/-- Where a `control` can end without success. -/
inductive Leaves : Option Nat → Point → Prop
  | loop : Leaves none .loop
  | retry (final : Option Nat) (k : Nat) : Leaves final (.control (some k) .dial .ready)
  | done (k : Nat) : Leaves (some k) .done

theorem Inv.leave (h : w.Inv a) {final : Option Nat} {phase : Phase} {exchange : Exchange}
    (point : w.point = .control final phase exchange) {p : Point} (leaves : Leaves final p) :
    (w.close.moveTo p).Inv a := by
  have total_le := h.accounts.total_le
  have waiting := h.served.waiting
  rw [point] at total_le waiting
  refine h.quiet ?_ ⟨rfl, rfl, rfl, rfl, rfl⟩ (List.Subset.refl _) ⟨rfl, rfl, rfl, rfl⟩ ?_ ?_ ?_
    h.linked.replies
  · cases leaves <;> simp [Point.quiet_iff, Point.alike_iff, point, moveTo]
  · cases leaves with
    | loop => exact (Nat.le_succ _).trans total_le
    | retry final k => exact (Nat.le_add_right _ _).trans total_le
    | done k => exact total_le
  · cases leaves with
    | loop =>
      intro reached
      simp only [moveTo, Point.isRegistered, Bool.false_eq_true, true_and, false_or] at reached
      exact absurd reached (not_lt.mpr (waiting rfl))
    | _ => simp [moveTo]
  · cases leaves <;> simp [moveTo]

theorem leaves_nextTry (w : World) (k : Nat) :
    ∃ p, w.nextTry k = w.moveTo p ∧ Leaves (some k) p := by
  unfold nextTry
  split
  · exact ⟨_, rfl, .retry _ _⟩
  · exact ⟨_, rfl, .done k⟩

theorem leaves_unavailable (w : World) (final : Option Nat) :
    ∃ p, w.unavailable final = w.close.moveTo p ∧ Leaves final p := by
  cases final with
  | none => exact ⟨_, rfl, .loop⟩
  | some k => exact leaves_nextTry w.close k

theorem leaves_rejected (w : World) (final : Option Nat) :
    ∃ p, w.rejected final = w.close.moveTo p ∧ Leaves final p := by
  cases final with
  | none => exact ⟨_, rfl, .retry none 0⟩
  | some k => exact leaves_nextTry w.close k

theorem Inv.unavailable (h : w.Inv a) {final : Option Nat} {phase : Phase} {exchange : Exchange}
    (point : w.point = .control final phase exchange) : (w.unavailable final).Inv a := by
  obtain ⟨p, moved, leaves⟩ := leaves_unavailable w final
  rw [moved]
  exact h.leave point leaves

theorem Inv.rejected (h : w.Inv a) {final : Option Nat} {phase : Phase} {exchange : Exchange}
    (point : w.point = .control final phase exchange) : (w.rejected final).Inv a := by
  obtain ⟨p, moved, leaves⟩ := leaves_rejected w final
  rw [moved]
  exact h.leave point leaves

/-- After an accepted report the session is settled. -/
theorem Inv.succeeded (h : w.Inv a) {final : Option Nat} {exchange : Exchange}
    (point : w.point = .control final .report exchange) (now : ℚ) :
    (w.succeeded a now final).Inv a := by
  have total_le := h.accounts.total_le
  rw [point] at total_le
  cases final with
  | none =>
    refine h.quiet ?_ ⟨rfl, rfl, rfl, rfl, rfl⟩ (List.Subset.refl _) ⟨rfl, rfl, rfl, rfl⟩ total_le
      (fun _ => h.served.registered (by rw [point]; rfl)) (by simp [World.succeeded, moveTo])
      h.linked.replies
    simp [Point.quiet_iff, Point.alike_iff, point, World.succeeded, moveTo]
  | some k =>
    refine h.quiet ?_ ⟨rfl, rfl, rfl, rfl, rfl⟩ (List.Subset.refl _) ⟨rfl, rfl, rfl, rfl⟩ total_le
      (by simp [World.succeeded, moveTo]) (by simp [World.succeeded, moveTo]) h.linked.replies
    simp [Point.quiet_iff, Point.alike_iff, point, World.succeeded, moveTo]

theorem inv_fail (h : w.Inv a) (step : a.step w .fail = some w') : w'.Inv a := by
  rw [NodeArgs.step] at step
  split at step
  · next final phase exchange point =>
    obtain rfl := Option.some.inj step
    exact h.unavailable point
  · cases step

/-! ## The exchanges -/

theorem inv_ask (h : w.Inv a) (step : a.step w .ask = some w') : w'.Inv a := by
  rw [NodeArgs.step] at step
  split at step
  · next final phase point =>
    split at step
    · next guard =>
      obtain rfl := Option.some.inj step
      have total_le := h.accounts.total_le
      have waiting := h.served.waiting
      rw [point] at total_le waiting
      have stays : Stays a w (w.moveTo (.control final phase .asked)) :=
        .node ⟨rfl, rfl, rfl, rfl, rfl⟩ (List.subset_append_left _ _) ⟨rfl, rfl, rfl, fun _ => rfl⟩
          (by simp [Point.alike_iff, point, moveTo]) (by rw [point]; rfl) rfl
          (by simp [point, moveTo]) total_le
      have phases : w.point.afterStatus = (w.moveTo (.control final phase .asked)).point.afterStatus
          := by cases phase <;> simp [point, moveTo]
      have hello (reached : (w.moveTo (.control final phase .asked)).point.afterHello = true) :
          w.point.afterHello = true := by cases phase <;> simp_all [moveTo]
      have registered
          (reached : (w.moveTo (.control final phase .asked)).point.isRegistered = true) :
          w.point.isRegistered = true := by cases phase <;> simp_all [moveTo]
      exact stays.inv h (fun reached => stays.settled h (h.served.registered (registered reached)))
        (by simp [moveTo]) waiting {
          running := h.linked.running
          boot := h.linked.boot
          newBoot := by simp [moveTo]
          outdated := by simp [moveTo]
          known := fun connected reached => h.linked.known connected (phases ▸ reached)
          bound := fun connected reached => h.linked.bound connected (hello reached)
          reply := by cases phase <;> simp [moveTo]
          replies := h.linked.replies }
    · cases step
  · cases step

/-- The reply to `GET_STATUS` when it is the first one or names the same server. -/
theorem Inv.sameBoot (h : w.Inv a) {final : Option Nat} {bootId : Int}
    (point : w.point = .control final .status (.status bootId))
    (same : w.boot = none ∨ w.boot = some bootId) :
    World.Inv { w.moveTo (.control final .hello .ready) with boot := some bootId } a := by
  have total_le := h.accounts.total_le
  have waiting := h.served.waiting
  have newBoot := h.linked.newBoot
  rw [point] at total_le waiting newBoot
  have stays : Stays a w { w.moveTo (.control final .hello .ready) with boot := some bootId } :=
    .node ⟨rfl, rfl, rfl, rfl, rfl⟩ (List.subset_append_left _ _)
      ⟨rfl, rfl, rfl, fun known => (same.resolve_left known).symm⟩
      (by simp [Point.alike_iff, point, moveTo]) (by rw [point]; rfl) rfl
      (by simp [point, moveTo]) total_le
  exact stays.inv h (by simp [moveTo]) (by simp [moveTo]) waiting {
    running := h.linked.running
    boot := fun b hb => by
      obtain rfl := Option.some.inj hb
      exact (newBoot bootId rfl).1
    newBoot := by simp [moveTo]
    outdated := by simp [moveTo]
    known := fun connected _ => congrArg some ((newBoot bootId rfl).2.1 connected)
    bound := by simp [moveTo]
    reply := by simp [moveTo]
    replies := h.linked.replies }

/-- A step to a point where the session is not in use. -/
theorem Inv.unseen (h : w.Inv a) (moves : w.Moves w') (restart : w'.point.isRestart = true)
    (unused : w'.session ∉ w.used) (own : a.own w'.session = true)
    (same : w'.used = w.used ∧ w'.boot = w.boot ∧ w'.reportReplies = w.reportReplies)
    (outdated : w.boot ≠ none ∧ w.boot ≠ some w.registry.bootId)
    (newBoot : ∀ b, w'.point.newBoot = some b → b ∈ w.boots ∧
      (w'.connected = true → b = w.registry.bootId))
    (waiting : w'.point.isRefresh = true → w'.nextRefresh ≤ w'.clock)
    (accounts : w'.Accounts a) : w'.Inv a := by
  obtain ⟨used, boot, replies⟩ := same
  have plain : w'.point.isRegistered = false ∧ w'.point.afterStatus = false ∧
      w'.point.reportReply = none ∧ w'.point ≠ .loop := by
    cases point : w'.point <;> simp_all
  obtain ⟨registered, outside, silent, notLoop⟩ := plain
  exact {
    accounts := accounts
    sessions := h.sessions.move moves (by rw [used]; exact h.sessions.own)
      (fun inUse => nomatch restart.symm.trans inUse) fun _ => by
        rw [used]
        exact ⟨unused, own⟩
    served := .move h moves (fun reached => nomatch registered.symm.trans reached)
      (fun loop => absurd loop notLoop) waiting
    linked := {
      running := by
        rw [moves.registry, moves.boots]
        exact h.linked.running
      boot := by
        rw [boot, moves.boots]
        exact h.linked.boot
      newBoot := by
        rw [moves.boots, moves.registry, boot]
        exact fun b hb => ⟨(newBoot b hb).1, (newBoot b hb).2, .inr outdated.2⟩
      outdated := by
        rw [boot, moves.registry]
        exact fun _ => outdated
      known := fun _ reached => nomatch outside.symm.trans reached
      bound := fun _ reached => nomatch outside.symm.trans (afterStatus_of_afterHello reached)
      reply := fun _ reply => nomatch silent.symm.trans reply
      replies := by
        rw [replies]
        exact h.linked.replies } }

/-- The reply to `GET_STATUS` of another server: a session that nobody has seen. -/
theorem Inv.renew (h : w.Inv a) {final : Option Nat} {bootId : Int} {fresh : Session}
    (point : w.point = .control final .status (.status bootId))
    (known : w.boot ≠ none) (different : w.boot ≠ some bootId)
    (own : a.own fresh = true) (unused : fresh ∉ w.used) :
    World.Inv { w.moveTo (.renewed final bootId) with session := fresh } a := by
  have empty : w.handed fresh = ∅ := h.sessions.handed_empty unused
  have other (s : Session) (used : s ∈ w.used) (same : s = fresh) : False :=
    unused (same ▸ used)
  have newBoot := h.linked.newBoot
  have waiting := h.served.waiting
  obtain ⟨sum, -, -, -, attempts_le, total_le, limit⟩ := h.accounts
  rw [point] at sum attempts_le total_le waiting newBoot
  obtain ⟨running, same, latest⟩ := newBoot bootId rfl
  have outdated : w.boot ≠ some w.registry.bootId := by
    rcases latest with rfl | outdated
    · exact different
    · exact outdated
  refine h.unseen ⟨rfl, rfl, rfl, rfl, List.Subset.refl _, fun _ => .inl,
    fun s used same => (other s used same).elim⟩ rfl unused own ⟨rfl, rfl, rfl⟩
    ⟨known, outdated⟩ (fun b hb => ?_) waiting ?_
  · obtain rfl := Option.some.inj hb
    exact ⟨running, same⟩
  · exact {
      sum := sum
      sent := by simp [moveTo]
      below := by
        intro q hq
        change q ∈ w.handed fresh at hq
        rw [empty] at hq
        cases hq
      pending := by simp [moveTo]
      attempts_le := attempts_le
      total_le := total_le
      limit := limit }

/-- Counters that are reset for a session that nobody has seen. -/
theorem accounts_zero {final : Option Nat} {bootId : Int} (point : w.point = .zeroed final bootId)
    (counters : w.counters = .zero) (empty : w.handed w.session = ∅)
    (total_le : w.totalAttempts + w.point.admitted ≤ a.count) : w.Accounts a where
  sum := by simp [point, counters, Counters.zero]
  sent _ := by simp [point, counters, Counters.zero, empty]
  below := by simp [empty]
  pending := by simp [point]
  attempts_le := by simp [counters, Counters.zero]
  total_le := total_le
  limit := by simp [counters, Counters.zero]

theorem inv_zero (h : w.Inv a) (step : a.step w .zero = some w') : w'.Inv a := by
  rw [NodeArgs.step] at step
  split at step
  · next final bootId point =>
    obtain rfl := Option.some.inj step
    obtain ⟨unused, own⟩ := h.sessions.fresh (by rw [point]; rfl)
    have other (s : Session) (used : s ∈ w.used) (same : s = w.session) : False :=
      unused (same ▸ used)
    have total_le := h.accounts.total_le
    have newBoot := h.linked.newBoot
    have waiting := h.served.waiting
    rw [point] at total_le newBoot waiting
    exact h.unseen ⟨rfl, rfl, rfl, rfl, List.Subset.refl _, fun _ => .inl,
      fun s used same => (other s used same).elim⟩ rfl unused own ⟨rfl, rfl, rfl⟩
      (h.linked.outdated (by rw [point]; rfl))
      (fun b hb => ⟨(newBoot b hb).1, (newBoot b hb).2.1⟩) waiting
      (accounts_zero rfl rfl (h.sessions.handed_empty unused) total_le)
  · cases step

theorem inv_settle (h : w.Inv a) (step : a.step w .settle = some w') : w'.Inv a := by
  rw [NodeArgs.step] at step
  split at step
  · next final bootId point =>
    obtain rfl := Option.some.inj step
    have total_le := h.accounts.total_le
    have waiting := h.served.waiting
    have newBoot := h.linked.newBoot
    obtain ⟨unused, own⟩ := h.sessions.fresh (by rw [point]; rfl)
    have other (s : Session) (used : s ∈ w.used) (same : s = w.session) : False :=
      unused (same ▸ used)
    rw [point] at waiting newBoot total_le
    have moves : w.Moves { w.moveTo (.control final .hello .ready) with
        boot := some bootId, used := w.session :: w.used } :=
      ⟨rfl, rfl, rfl, rfl, List.subset_cons_self _ _, fun _ => .inl,
        fun s used same => (other s used same).elim⟩
    exact {
      accounts := h.accounts.move (by simp [Point.alike_iff, point, moveTo]) rfl rfl rfl rfl
        total_le
      sessions := h.sessions.move moves
        (fun s member => by
          rcases List.mem_cons.mp member with rfl | member
          · exact own
          · exact h.sessions.own s member)
        (fun _ => List.mem_cons_self) (by simp [moveTo])
      served := .move h moves (by simp [moveTo]) (by simp [moveTo]) waiting
      linked := {
        running := h.linked.running
        boot := fun b hb => by
          obtain rfl := Option.some.inj hb
          exact (newBoot bootId rfl).1
        newBoot := by simp [moveTo]
        outdated := by simp [moveTo]
        known := fun connected _ => congrArg some ((newBoot bootId rfl).2.1 connected)
        bound := by simp [moveTo]
        reply := by simp [moveTo]
        replies := h.linked.replies } }
  · cases step

end World

end Telep
