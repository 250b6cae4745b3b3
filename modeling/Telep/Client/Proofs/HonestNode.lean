import Telep.Client.Proofs.NodeExchanges

/-!
# An honest node

The rest of the events, and from them the runs: in every run that no signal interrupts, the
node never repeats a sequence, the server accepts its reports and its datagrams, and the loss it
publishes is exact.
-/

namespace Telep

namespace World

variable {w w' : World} {a : NodeArgs} {s : Session}

/-! ## The attempts -/

/-- A step of an attempt, which only lets counters grow. -/
theorem Inv.attempt (h : w.Inv a) (same : w'.registry = w.registry ∧ w'.arrived = w.arrived ∧
      w'.boots = w.boots ∧ w'.datagrams = w.datagrams ∧ w'.used = w.used)
    (stale : w'.stale = w.stale) (vars : w'.session = w.session ∧ w'.boot = w.boot ∧
      w'.reportReplies = w.reportReplies)
    (registered : w.point.isRegistered = true) (started : w.point.isFinal = false)
    (inside : w'.point.isRestart = false ∧ w'.point.isRefresh = false ∧ w'.point ≠ .loop ∧
      w'.point.newBoot = none ∧ w'.point.afterStatus = false ∧ w'.point.reportReply = none)
    (grown : w.counters.Le w'.counters) (accounts : w'.Accounts a) : w'.Inv a := by
  obtain ⟨session, boot, replies⟩ := vars
  obtain ⟨inUse', refresh, notLoop, newBoot, outside, silent⟩ := inside
  have inUse : w.point.isRestart = false := by cases point : w.point <;> simp_all
  have moves : w.Moves w' := .node same
    (by rw [stale]; exact List.subset_append_left _ _) session (fun _ => boot) grown
    fun final => absurd (started.symm.trans final) Bool.false_ne_true
  exact {
    accounts := accounts
    sessions := h.sessions.move moves (by rw [same.2.2.2.2]; exact h.sessions.own)
      (fun _ => by
        rw [session, same.2.2.2.2]
        exact h.sessions.current inUse)
      fun restart => absurd (inUse'.symm.trans restart) Bool.false_ne_true
    served := .move h moves
      (fun _ => by
        rw [session]
        exact (h.served.registered registered).move h (h.sessions.current inUse) moves)
      (fun loop => absurd loop notLoop)
      fun waiting => absurd (refresh.symm.trans waiting) Bool.false_ne_true
    linked := h.linked.quiet moves boot newBoot outside silent (by
      rw [replies]
      exact h.linked.replies) }

theorem inv_omits (h : w.Inv a) (step : a.step w .omits = some w') : w'.Inv a := by
  rw [NodeArgs.step] at step
  split at step
  · next guard =>
    have point := guard.1
    obtain rfl := Option.some.inj step
    refine h.attempt ⟨rfl, rfl, rfl, rfl, rfl⟩ rfl ⟨rfl, rfl, rfl⟩ (by rw [point]; rfl)
      (by rw [point]; rfl) (by simp [moveTo]) ⟨le_rfl, le_rfl, Nat.le_succ _, le_rfl⟩ ?_
    obtain ⟨sum, sent, below, -, attempts_le, total_le, limit⟩ := h.accounts
    rw [point] at sum sent below attempts_le total_le
    exact {
      sum := by
        change w.counters.attempts + 1 = w.counters.sent + (w.counters.omitted + 1) +
          w.counters.sendErrors
        simp only [Point.unattempted] at sum
        omega
      sent := sent
      below := fun q hq => Nat.lt_succ_of_lt (below q hq)
      pending := by simp [moveTo]
      attempts_le := attempts_le
      total_le := total_le
      limit := limit }
  · cases step

theorem inv_count (h : w.Inv a) (step : a.step w .count = some w') : w'.Inv a := by
  rw [NodeArgs.step] at step
  split at step
  · next point =>
    obtain rfl := Option.some.inj step
    refine h.attempt ⟨rfl, rfl, rfl, rfl, rfl⟩ rfl ⟨rfl, rfl, rfl⟩ (by rw [point]; rfl)
      (by rw [point]; rfl) (by simp [moveTo]) ⟨le_rfl, Nat.le_succ _, le_rfl, le_rfl⟩ ?_
    obtain ⟨sum, sent, below, -, attempts_le, total_le, limit⟩ := h.accounts
    rw [point] at sum sent below attempts_le total_le
    exact {
      sum := by
        change w.counters.attempts + 1 = w.counters.sent + 1 + w.counters.omitted +
          w.counters.sendErrors
        simp only [Point.unattempted] at sum
        omega
      sent := sent
      below := below
      pending := by simp [moveTo]
      attempts_le := attempts_le
      total_le := total_le
      limit := limit }
  · next point =>
    obtain rfl := Option.some.inj step
    refine h.attempt ⟨rfl, rfl, rfl, rfl, rfl⟩ rfl ⟨rfl, rfl, rfl⟩ (by rw [point]; rfl)
      (by rw [point]; rfl) (by simp [moveTo]) ⟨le_rfl, le_rfl, le_rfl, Nat.le_succ _⟩ ?_
    obtain ⟨sum, sent, below, -, attempts_le, total_le, limit⟩ := h.accounts
    rw [point] at sum sent below attempts_le total_le
    exact {
      sum := by
        change w.counters.attempts + 1 = w.counters.sent + w.counters.omitted +
          (w.counters.sendErrors + 1)
        simp only [Point.unattempted] at sum
        omega
      sent := sent
      below := fun q hq => Nat.lt_succ_of_lt (below q hq)
      pending := by simp [moveTo]
      attempts_le := attempts_le
      total_le := total_le
      limit := limit }
  · cases step

theorem inv_advance (h : w.Inv a) (step : a.step w .advance = some w') : w'.Inv a := by
  rw [NodeArgs.step] at step
  split at step
  · next point =>
    obtain rfl := Option.some.inj step
    refine h.attempt ⟨rfl, rfl, rfl, rfl, rfl⟩ rfl ⟨rfl, rfl, rfl⟩ (by rw [point]; rfl)
      (by rw [point]; rfl) (by simp [moveTo]) ⟨Nat.le_succ _, le_rfl, le_rfl, le_rfl⟩ ?_
    obtain ⟨sum, sent, below, -, attempts_le, total_le, limit⟩ := h.accounts
    rw [point] at sum sent below attempts_le total_le
    exact {
      sum := sum
      sent := sent
      below := below
      pending := by simp [moveTo]
      attempts_le := fun started => Nat.succ_le_succ (attempts_le started)
      total_le := total_le
      limit := (Nat.succ_le_succ (attempts_le rfl)).trans total_le }
  · cases step

theorem inv_total (h : w.Inv a) (step : a.step w .total = some w') : w'.Inv a := by
  rw [NodeArgs.step] at step
  split at step
  · next point =>
    obtain rfl := Option.some.inj step
    refine h.attempt ⟨rfl, rfl, rfl, rfl, rfl⟩ rfl ⟨rfl, rfl, rfl⟩ (by rw [point]; rfl)
      (by rw [point]; rfl) (by simp [moveTo]) (.refl _) ?_
    obtain ⟨sum, sent, below, -, attempts_le, total_le, limit⟩ := h.accounts
    rw [point] at sum sent below attempts_le total_le
    exact {
      sum := sum
      sent := sent
      below := below
      pending := by simp [moveTo]
      attempts_le := attempts_le
      total_le := total_le
      limit := limit }
  · cases step

/-! ## A datagram -/

/-- The datagram of an attempt is handed to the network. -/
def sends (w : World) (values : MeasurementSet) : World :=
  { w.moveTo .handed with
    datagrams := w.datagrams ++ [⟨w.session, w.counters.attempts, values⟩] }

theorem mem_handed_sends {values : MeasurementSet} {q : Nat} :
    q ∈ (w.sends values).handed s ↔
      q ∈ w.handed s ∨ s = w.session ∧ q = w.counters.attempts := by
  simp only [mem_handed, sends, moveTo, List.mem_append, List.mem_singleton]
  constructor
  · rintro ⟨d, hd | rfl, rfl, rfl⟩
    · exact .inl ⟨d, hd, rfl, rfl⟩
    · exact .inr ⟨rfl, rfl⟩
  · rintro (⟨d, hd, rfl, rfl⟩ | ⟨rfl, rfl⟩)
    · exact ⟨d, .inl hd, rfl, rfl⟩
    · exact ⟨_, .inr rfl, rfl, rfl⟩

/-- The sequence of the datagram is above every claim, and no claim is final. -/
theorem Claim.sends {c : Counters} {final : Bool} (h : w.Claim s c final)
    (point : w.point = .attempt) (values : MeasurementSet) : (w.sends values).Claim s c final := by
  have notFinal (same : s = w.session) : final ≠ true := fun isFinal => by
    have inside := (h.last isFinal same).2
    rw [point] at inside
    cases inside
  exact {
    used := h.used
    sum := h.sum
    sent := by
      rw [h.sent]
      congr 1
      ext q
      simp only [Finset.mem_filter, mem_handed_sends]
      constructor
      · exact fun ⟨sent, below⟩ => ⟨.inl sent, below⟩
      · rintro ⟨sent | ⟨same, rfl⟩, below⟩
        · exact ⟨sent, below⟩
        · exact absurd below (not_lt.mpr (h.below same).1)
    covers := by
      intro isFinal q hq
      rcases mem_handed_sends.mp hq with sent | ⟨same, -⟩
      · exact h.covers isFinal q sent
      · exact absurd isFinal (notFinal same)
    below := h.below
    last := fun isFinal same => absurd isFinal (notFinal same) }

theorem Settled.sends (h : w.Settled a s) (values : MeasurementSet) :
    (w.sends values).Settled a s := ⟨h.boot, h.bound⟩

theorem Inv.sends (h : w.Inv a) (point : w.point = .attempt) (values : MeasurementSet) :
    (w.sends values).Inv a := by
  obtain ⟨sum, sent, below, -, attempts_le, total_le, limit⟩ := h.accounts
  rw [point] at sum sent below attempts_le total_le
  have count_le := a.count_le
  have inUse : w.session ∈ w.used := h.sessions.current (by rw [point]; rfl)
  have registered : w.Settled a w.session := h.served.registered (by rw [point]; rfl)
  have new : w.counters.attempts ∉ w.handed w.session := fun hq =>
    absurd (below _ hq) (lt_irrefl _)
  have same (s : Session) (hs : s ≠ w.session) : (w.sends values).handed s = w.handed s := by
    ext q
    simp [mem_handed_sends, hs]
  have grown : (w.sends values).handed w.session =
      insert w.counters.attempts (w.handed w.session) := by
    ext q
    simp [mem_handed_sends, or_comm]
  exact {
    accounts := {
      sum := sum
      sent := fun _ => by
        change w.counters.sent + 1 = ((w.sends values).handed w.session).card
        rw [grown, Finset.card_insert_of_notMem new]
        exact congrArg (· + 1) (sent rfl)
      below := fun q hq => by
        rcases mem_handed_sends.mp hq with hq | ⟨-, rfl⟩
        · exact Nat.lt_succ_of_lt (below q hq)
        · exact Nat.lt_succ_self _
      pending := fun _ => mem_handed_sends.mpr (.inr ⟨rfl, rfl⟩)
      attempts_le := attempts_le
      total_le := total_le
      limit := limit }
    sessions := {
      own := h.sessions.own
      current := fun _ => inUse
      fresh := fun restart => nomatch restart
      datagram := fun d hd => by
        rcases List.mem_append.mp hd with hd | hd
        · exact h.sessions.datagram d hd
        · rw [List.mem_singleton.mp hd]
          exact inUse
      bounded := fun d hd => by
        rcases List.mem_append.mp hd with hd | hd
        · exact h.sessions.bounded d hd
        · rw [List.mem_singleton.mp hd]
          have attempts_le := attempts_le rfl
          simp only [Point.untotalled, Point.admitted] at attempts_le total_le
          change w.counters.attempts < sessionLimit
          omega
      once := by
        change ((w.datagrams ++ [_]).map fun d : Datagram => (d.session, d.sequence)).Nodup
        rw [List.map_append, List.nodup_append]
        refine ⟨h.sessions.once, List.nodup_singleton _, fun e he e' he' repeated => ?_⟩
        obtain ⟨d, hd, rfl⟩ := List.mem_map.mp he
        rw [List.map_singleton, List.mem_singleton] at he'
        subst he'
        obtain ⟨session, sequence⟩ := Prod.mk.inj repeated
        exact new (mem_handed.mpr ⟨d, hd, session, sequence⟩)
      arrived := fun e he => mem_handed_sends.mpr (.inl (h.sessions.arrived e he)) }
    served := {
      reachable := h.served.reachable
      stale := fun request member => by
        have legit := h.served.stale request member
        cases request with
        | status => trivial
        | hello s => exact legit
        | report s c final => exact Claim.sends legit point values
      record := fun x s hx own bound => by
        have holds := h.served.record x s hx own bound
        exact ⟨holds.claim.sends point values, holds.seen⟩
      settled := fun s nonempty => by
        by_cases hs : s = w.session
        · subst hs
          exact registered.sends values
        · rw [same s hs] at nonempty
          exact (h.served.settled s nonempty).sends values
      registered := fun _ => registered.sends values
      refreshed := fun loop => nomatch loop
      waiting := fun waiting => nomatch waiting }
    linked := {
      running := h.linked.running
      boot := h.linked.boot
      newBoot := fun b hb => nomatch hb
      outdated := fun restart => nomatch restart
      known := fun _ reached => nomatch reached
      bound := fun _ reached => nomatch reached
      reply := fun code reply => nomatch reply
      replies := h.linked.replies } }

theorem inv_send (h : w.Inv a) {values : MeasurementSet}
    (step : a.step w (.send values) = some w') : w'.Inv a := by
  rw [NodeArgs.step] at step
  split at step
  · next guard =>
    obtain rfl := Option.some.inj step
    exact h.sends guard.1 values
  · cases step

/-! ## The network, the server and everyone else -/

theorem inv_deliver (h : w.Inv a) {k : Nat} {clock : Clock}
    (step : a.step w (.deliver k clock) = some w') : w'.Inv a := by
  rw [NodeArgs.step] at step
  split at step
  · next d found =>
    obtain rfl := Option.some.inj step
    have member : d ∈ w.datagrams := List.mem_of_getElem? found
    have bound : d.sequence < sessionLimit := h.sessions.bounded d member
    rw [NodeArgs.telemetryOp, dif_pos bound]
    exact h.called (.telemetry d member bound clock) (List.Subset.refl _)
  · cases step

theorem inv_others (h : w.Inv a) {op : RegistryOp} (step : a.step w (.others op) = some w') :
    w'.Inv a := by
  rw [NodeArgs.step] at step
  split at step
  · cases step
  · next foreign =>
    obtain rfl := Option.some.inj step
    exact h.called (.foreign op (Bool.eq_false_of_not_eq_true foreign)) (List.Subset.refl _)

/-- A new server process knows nothing, and no session of the node can be bound by mistake. -/
theorem inv_restart (h : w.Inv a) {startedAt bootId : Int}
    (step : a.step w (.restart startedAt bootId) = some w') : w'.Inv a := by
  rw [NodeArgs.step] at step
  split at step
  · next new =>
    obtain rfl := Option.some.inj step
    have unknown : w.boot ≠ some bootId := fun known => new (h.linked.boot bootId known)
    have settled {s : Session} (settled : w.Settled a s) : World.Settled { w with
        registry := registryInit startedAt bootId, boots := bootId :: w.boots,
        connected := false, stale := [], arrived := [] } a s :=
      ⟨settled.boot, .inr ⟨List.not_mem_nil, fun _ => unknown⟩⟩
    exact {
      accounts := ⟨h.accounts.sum, h.accounts.sent, h.accounts.below, h.accounts.pending,
        h.accounts.attempts_le, h.accounts.total_le, h.accounts.limit⟩
      sessions := ⟨h.sessions.own, h.sessions.current, h.sessions.fresh, h.sessions.datagram,
        h.sessions.bounded, h.sessions.once, fun e he => absurd he List.not_mem_nil⟩
      served := {
        reachable := ⟨startedAt, .init (registryMachine startedAt bootId)⟩
        stale := fun request member => absurd member List.not_mem_nil
        record := fun x s hx => by
          rw [show recordOf _ _ = none from recordOf_init startedAt bootId a.id.val] at hx
          cases hx
        settled := fun s nonempty => settled (h.served.settled s nonempty)
        registered := fun reached => settled (h.served.registered reached)
        refreshed := fun loop early => settled (h.served.refreshed loop early)
        waiting := h.served.waiting }
      linked := {
        running := List.mem_cons_self
        boot := fun b hb => List.mem_cons_of_mem _ (h.linked.boot b hb)
        newBoot := fun b hb => ⟨List.mem_cons_of_mem _ (h.linked.newBoot b hb).1,
          fun off => absurd off Bool.false_ne_true, .inr unknown⟩
        outdated := fun restart => ⟨(h.linked.outdated restart).1, unknown⟩
        known := fun off => absurd off Bool.false_ne_true
        bound := fun off => absurd off Bool.false_ne_true
        reply := h.linked.reply
        replies := h.linked.replies } }
  · cases step

/-! ## Runs -/

/-- Every event keeps the invariant. -/
theorem inv_step (h : w.Inv a) {event : WorldEvent} (step : a.step w event = some w') :
    w'.Inv a := by
  cases event with
  | check now => exact inv_check h step
  | connect => exact inv_connect h step
  | ask => exact inv_ask h step
  | answer => exact inv_answer h step
  | read fresh now => exact inv_read h step
  | zero => exact inv_zero h step
  | settle => exact inv_settle h step
  | fail => exact inv_fail h step
  | omits => exact inv_omits h step
  | send values => exact inv_send h step
  | sendFails => exact inv_sendFails h step
  | count => exact inv_count h step
  | advance => exact inv_advance h step
  | total => exact inv_total h step
  | wake => exact inv_wake h step
  | deliver k clock => exact inv_deliver h step
  | serveStale k => exact inv_serveStale h step
  | restart startedAt bootId => exact inv_restart h step
  | others op => exact inv_others h step

theorem inv_init (a : NodeArgs) (startedAt bootId : Int) : (a.world startedAt bootId).Inv a where
  accounts := {
    sum := rfl
    sent := fun _ => rfl
    below := fun q hq => nomatch hq
    pending := fun loop => nomatch loop
    attempts_le := fun _ => Nat.zero_le _
    total_le := Nat.zero_le _
    limit := Nat.zero_le _ }
  sessions := {
    own := fun s hs => by
      rw [List.mem_singleton.mp hs]
      exact a.own_session
    current := fun _ => List.mem_singleton_self _
    fresh := fun restart => nomatch restart
    datagram := fun d hd => nomatch hd
    bounded := fun d hd => nomatch hd
    once := List.nodup_nil
    arrived := fun e he => nomatch he }
  served := {
    reachable := ⟨startedAt, .init (registryMachine startedAt bootId)⟩
    stale := fun request member => nomatch member
    record := fun x s hx => by
      rw [NodeArgs.world, recordOf_init] at hx
      cases hx
    settled := fun s nonempty => by
      obtain ⟨q, hq⟩ := nonempty
      cases hq
    registered := fun reached => nomatch reached
    refreshed := fun _ early => absurd early (lt_irrefl _)
    waiting := fun waiting => nomatch waiting }
  linked := {
    running := List.mem_singleton_self _
    boot := fun b hb => nomatch hb
    newBoot := fun b hb => nomatch hb
    outdated := fun restart => nomatch restart
    known := fun off => nomatch off
    bound := fun off => nomatch off
    reply := fun code reply => nomatch reply
    replies := fun code member => nomatch member }

theorem inv_getD (h : w.Inv a) (event : WorldEvent) : ((a.step w event).getD w).Inv a := by
  cases step : a.step w event with
  | none => exact h
  | some w' => exact inv_step h step

/-- Every run keeps the invariant. -/
theorem Inv.exec (h : w.Inv a) (startedAt bootId : Int) (events : List WorldEvent) :
    ((a.machine startedAt bootId).exec w events).Inv a :=
  Machine.exec_preserves (M := a.machine startedAt bootId) (P := fun w => World.Inv w a)
    (fun _ event inv => inv_getD inv event) h events

/-! ## What the server publishes about the node -/

/-- What arrived is what the row of the bitmap counts. -/
theorem Inv.count_eq (h : w.Inv a) {x : Record} (holds : w.Holds x s) (n : Nat) :
    x.row.count n = ((w.handed s).filter fun q => q < n ∧ q ∈ w.received s).card := by
  rw [BitRow.count_eq_card]
  congr 1
  ext q
  rw [BitRow.mem_members, Finset.mem_filter, holds.seen, mem_received]
  exact ⟨fun ⟨below, seen⟩ => ⟨h.sessions.arrived (s, q) seen, below, seen⟩, fun hq => hq.2⟩

/-- The published loss, once and for all. -/
theorem Inv.lost_eq (h : w.Inv a) {x : Record} (hx : recordOf w.registry a.id.val = some x)
    (own : a.own s = true) (bound : x.node.session = s.val) :
    x.node.datagramsLost =
      ((w.handed s).filter fun q => q < x.node.attempts ∧ q ∉ w.received s).card := by
  obtain ⟨startedAt, reachable⟩ := h.served.reachable
  obtain ⟨log, tracks⟩ := tracks_reachable reachable hx
  have holds := h.served.record x s hx own bound
  have sent : x.node.sent = ((w.handed s).filter (· < x.node.attempts)).card := holds.claim.sent
  have split := Finset.card_filter_add_card_filter_not (s := (w.handed s).filter
    (· < x.node.attempts)) (· ∈ w.received s)
  rw [Finset.filter_filter, Finset.filter_filter] at split
  rw [tracks.lost, h.count_eq holds, sent]
  omega

/-- After a final report nothing is lost exactly when everything has arrived. -/
theorem Inv.lost_eq_zero (h : w.Inv a) {x : Record}
    (hx : recordOf w.registry a.id.val = some x) (own : a.own s = true)
    (bound : x.node.session = s.val) (final : x.node.finalReport = true) :
    x.node.datagramsLost = 0 ↔ w.handed s ⊆ w.received s := by
  have covers := (h.served.record x s hx own bound).claim.covers final
  rw [h.lost_eq hx own bound, Finset.card_eq_zero, Finset.filter_eq_empty_iff]
  constructor
  · intro none q hq
    by_contra missing
    exact none hq ⟨covers q hq, missing⟩
  · exact fun all q hq lost => lost.2 (all hq)

/-- No datagram of the node is refused as later than a final report. -/
theorem Inv.onTime (h : w.Inv a) {d : Datagram} (member : d ∈ w.datagrams) (clock : Clock) :
    (registryStep w.registry (a.telemetryOp d clock)).2.datagramsInvalid =
      w.registry.datagramsInvalid := by
  have own : a.own d.session = true := h.sessions.own _ (h.sessions.datagram d member)
  have bounded : d.sequence < sessionLimit := h.sessions.bounded d member
  have effect := telemetry_effect w.registry clock a.id.val d.session.val d.sequence d.values.val
  rw [NodeArgs.telemetryOp, dif_pos bounded]
  change (registryRecordTelemetry w.registry clock a.id.val d.session.val d.sequence
    d.values.val).2.datagramsInvalid = _
  by_cases bound : w.Bound a d.session
  · obtain ⟨x, hx, same⟩ := bound
    have onTime : ¬ x.Late d.sequence :=
      (h.served.record x d.session hx own same).onTime (mem_handed.mpr ⟨d, member, rfl, rfl⟩)
    have counts := effect.counts hx same
    rw [if_neg onTime] at counts
    exact congrArg Counts.invalid counts
  · rw [effect.of_unbound fun x hx same => bound ⟨x, hx, same⟩]
    rfl

theorem Inv.own_session (h : w.Inv a) : a.own w.session = true := by
  cases restart : w.point.isRestart with
  | true => exact (h.sessions.fresh restart).2
  | false => exact h.sessions.own _ (h.sessions.current restart)

end World

/-- What the server publishes about a node, and how it answers it. -/
structure HonestNode (a : NodeArgs) (w : World) : Prop where
  /-- No sequence of a session is handed to `sendto` twice. -/
  once : (w.datagrams.map fun d => (d.session, d.sequence)).Nodup
  /-- Every reply to `REPORT` that was read is the result 0. -/
  reported : ∀ code ∈ w.reportReplies, code = none
  /-- A report that the server answers with the result 0 is stored. -/
  stored : ∀ s c final, (registryStep w.registry (.report a.id s c final)).1 = .result none →
    ∃ x, recordOf (registryStep w.registry (.report a.id s c final)).2 a.id.val = some x ∧
      x.node.session = s.val ∧ x.node.reportSeen = true ∧ x.node.finalReport = final ∧
      x.node.attempts = c.attempts ∧ x.node.sent = c.sent ∧ x.node.omitted = c.omitted ∧
      x.node.sendErrors = c.errors
  /-- Whenever a datagram arrives, `datagrams_invalid` stays. -/
  onTime : ∀ d ∈ w.datagrams, ∀ clock,
    (registryStep w.registry (a.telemetryOp d clock)).2.datagramsInvalid =
      w.registry.datagramsInvalid
  /-- The loss is what was sent below the reported attempts and has not arrived. -/
  lost : ∀ i, (w.registry.nodes i).inUse = true → (w.registry.nodes i).nodeId = a.id.val →
    (w.registry.nodes i).session = w.session.val → (w.registry.nodes i).reportSeen = true →
    (w.registry.nodes i).datagramsLost = ((w.handed w.session).filter fun q =>
      q < (w.registry.nodes i).attempts ∧ q ∉ w.received w.session).card
  /-- After the final report it is 0 exactly when everything sent has arrived. -/
  drained : ∀ i, (w.registry.nodes i).inUse = true → (w.registry.nodes i).nodeId = a.id.val →
    (w.registry.nodes i).session = w.session.val → (w.registry.nodes i).finalReport = true →
    ((w.registry.nodes i).datagramsLost = 0 ↔ w.handed w.session ⊆ w.received w.session)

/-- In every run of a node that no signal interrupts, with any loss, repetition and reordering of
its datagrams, any failure of its exchanges and any restarts of the server, the counters of the
node and the statistics of the server agree. -/
theorem honest_node (a : NodeArgs) (startedAt bootId : Int) (events : List WorldEvent) :
    HonestNode a ((a.machine startedAt bootId).exec (a.world startedAt bootId) events) := by
  have h := (World.inv_init a startedAt bootId).exec startedAt bootId events
  generalize (a.machine startedAt bootId).exec (a.world startedAt bootId) events = w at h
  have slot (i : Fin maxNodes) (used : (w.registry.nodes i).inUse = true)
      (named : (w.registry.nodes i).nodeId = a.id.val) :
      recordOf w.registry a.id.val = some (w.registry.record i) := by
    rw [← named]
    exact h.wellFormed.recordOf_slot used
  exact {
    once := h.sessions.once
    reported := h.linked.replies
    stored := fun s c final accepted => by
      obtain ⟨x, same, stored⟩ := recordOf_of_accepted h.wellFormed accepted
      exact ⟨_, stored, same, rfl, rfl, rfl, rfl, rfl, rfl⟩
    onTime := fun d member clock => h.onTime member clock
    lost := fun i used named bound _ => h.lost_eq (slot i used named) h.own_session bound
    drained := fun i used named bound final =>
      h.lost_eq_zero (slot i used named) h.own_session bound final }

end Telep
