import Telep.Client.Proofs.NodeSteps

/-!
# The server answers

A request of the node, on an open connection or on a closed one, is one call to the registry.
The report of an open connection is accepted: `Holds.accepts` goes through the reasons to
refuse one.
-/

namespace Telep

namespace World

variable {w w' : World} {a : NodeArgs} {s : Session}

theorem Inv.wellFormed (h : w.Inv a) : w.registry.WellFormed := by
  obtain ⟨startedAt, reachable⟩ := h.served.reachable
  exact wellFormed_reachable reachable

/-- Losing requests and reading accepted reports changes nothing else. -/
theorem Inv.forget (h : w.Inv a) {stale : List Request} (fewer : stale ⊆ w.stale)
    {replies : List (Option ErrorCode)} (accepted : ∀ code ∈ replies, code = none) :
    World.Inv { w with stale := stale, reportReplies := replies } a := by
  have moves : w.Moves { w with stale := stale, reportReplies := replies } :=
    .node ⟨rfl, rfl, rfl, rfl, rfl⟩ (fun _ member => List.mem_append_left _ (fewer member)) rfl
      (fun _ => rfl) (.refl _) fun final => ⟨rfl, final⟩
  have settled (settled : w.Settled a w.session) (inUse : w.point.isRestart = false) :
      World.Settled { w with stale := stale, reportReplies := replies } a w.session :=
    settled.move h (h.sessions.current inUse) moves
  exact {
    accounts := h.accounts.move (by simp [Point.alike_iff]) rfl rfl rfl rfl h.accounts.total_le
    sessions := h.sessions.move moves h.sessions.own h.sessions.current h.sessions.fresh
    served := .move h moves
      (fun reached => settled (h.served.registered reached) (by
        cases point : w.point <;> simp_all))
      (fun loop early => settled (h.served.refreshed loop early) (by
        rw [show w.point = .loop from loop]
        rfl)) h.served.waiting
    linked := ⟨h.linked.running, h.linked.boot, h.linked.newBoot, h.linked.outdated,
      h.linked.known, h.linked.bound, h.linked.reply, accepted⟩ }

/-- The server processes a request that the node sent. -/
theorem Inv.serve (h : w.Inv a) {request : Request} (legit : w.Legit request)
    (bound : ∀ s, request = .hello s → (w.handed s).Nonempty → w.Bound a s)
    {stale : List Request} (fewer : stale ⊆ w.stale) :
    World.Inv { w with registry := (a.serve w.registry request).2, stale := stale } a := by
  rw [serve_registry]
  cases call : requestOp a request with
  | none => exact h.forget fewer h.linked.replies
  | some op => exact h.called (legit.asks bound call) fewer

theorem inv_serveStale (h : w.Inv a) {k : Nat} (step : a.step w (.serveStale k) = some w') :
    w'.Inv a := by
  rw [NodeArgs.step] at step
  split at step
  · next request found =>
    obtain rfl := Option.some.inj step
    have member : request ∈ w.stale := List.mem_of_getElem? found
    refine h.serve (h.served.stale request member) ?_ List.eraseIdx_subset
    rintro s rfl nonempty
    exact (h.served.settled s nonempty).bound.resolve_right fun lost => lost.1 member
  · cases step

/-! ## An open connection -/

/-- A `HELLO` with the result 0 leaves the session bound. -/
theorem bound_of_hello (wf : w.registry.WellFormed)
    (ok : (registryRegisterNode w.registry a.id.val s.val).1 = none)
    (registry : w'.registry = (registryRegisterNode w.registry a.id.val s.val).2) :
    w'.Bound a s := by
  have effect := register_effect wf a.id.val s.val
  rw [ok] at effect
  rw [Bound, registry, effect.recordOf wf]
  generalize (registryRegisterNode w.registry a.id.val s.val).2 = r at effect
  cases effect with
  | bound i found same =>
    rw [recordOf_of_find found, if_neg (by simp)]
    exact ⟨_, rfl, same⟩
  | created i fresh free =>
    rw [if_pos ⟨rfl, recordOf_eq_none.mpr fresh, by rw [Registry.hasRoom, free]; rfl⟩]
    exact ⟨_, rfl, rfl⟩

/-- The record of the session refuses no report of the node. -/
theorem Inv.accepts (h : w.Inv a) {x : Record} (hx : recordOf w.registry a.id.val = some x)
    (bound : x.node.session = w.session.val) {tries : Option Nat} {phase : Phase}
    {exchange : Exchange} (point : w.point = .control tries phase exchange) :
    ¬ x.Refuses w.counters.attempts w.counters.sent w.counters.omitted w.counters.sendErrors
      tries.isSome := by
  obtain ⟨startedAt, reachable⟩ := h.served.reachable
  obtain ⟨log, tracks⟩ := tracks_reachable reachable hx
  have inUse : w.session ∈ w.used := h.sessions.current (by rw [point]; rfl)
  have holds := h.served.record x w.session hx (h.sessions.own _ inUse) bound
  have claim := h.claim point
  obtain ⟨attempts, sent, omitted, sendErrors⟩ := holds.claim.below rfl
  have marked (q : Nat) (hq : x.row.test q = true) : q ∈ w.handed w.session :=
    h.sessions.arrived (w.session, q) ((holds.seen q).mp hq)
  have count : x.row.count w.counters.attempts ≤ w.counters.sent := by
    rw [BitRow.count_eq_card, claim.sent]
    refine Finset.card_le_card fun q hq => ?_
    obtain ⟨below, test⟩ := BitRow.mem_members.mp hq
    exact Finset.mem_filter.mpr ⟨marked q test, below⟩
  have last (final : tries.isSome = true) : x.node.lastSequence < w.counters.attempts := by
    rw [tracks.last]
    cases newest : ArrivalLog.newest log with
    | none => exact (by decide : (-1 : Int) < 0).trans_le (Int.natCast_nonneg _)
    | some e =>
      have test : x.row.test e.1 = true :=
        (tracks.seen e.1).mpr (List.mem_map_of_mem (ArrivalLog.newest_spec newest).1)
      exact Int.ofNat_lt.mpr (claim.covers final e.1 (marked e.1 test))
  rintro ((sum | below | below | below | below | ⟨final, late⟩ | ⟨final, other⟩) | few)
  · exact sum claim.sum
  · exact absurd attempts (not_le.mpr below)
  · exact absurd sent (not_le.mpr below)
  · exact absurd omitted (not_le.mpr below)
  · exact absurd sendErrors (not_le.mpr below)
  · exact absurd (last final) (not_lt.mpr late)
  · -- After a final report the counters are those of the report, and so is the flag.
    obtain ⟨same, inside⟩ := holds.claim.last final rfl
    rw [point] at inside
    rw [← same] at other
    simp [TelemetryNode.counters, show tries.isSome = true from inside] at other
  · exact absurd count (not_le.mpr few)

/-- On an open connection the report is answered with the result 0. -/
theorem Inv.report_ok (h : w.Inv a) (bound : w.Bound a w.session) {tries : Option Nat}
    {phase : Phase} {exchange : Exchange} (point : w.point = .control tries phase exchange) :
    (a.serve w.registry (.report w.session w.counters tries.isSome)).1 = .result none := by
  obtain ⟨x, hx, same⟩ := bound
  have accounts := h.accounts
  obtain ⟨sum, -, -, -, -, -, limit⟩ := accounts
  rw [point] at sum
  simp only [Point.unattempted, Nat.add_zero] at sum
  have count_le := a.count_le
  have limits : w.counters.attempts ≤ sessionLimit ∧ w.counters.sent ≤ sessionLimit ∧
      w.counters.omitted ≤ sessionLimit ∧ w.counters.sendErrors ≤ sessionLimit := by omega
  rw [NodeArgs.serve, if_pos limits]
  obtain ⟨i, found, rfl⟩ := recordOf_eq_some.mp hx
  have effect := report_effect w.registry a.id.val w.session.val w.counters.attempts
    w.counters.sent w.counters.omitted w.counters.sendErrors tries.isSome
  exact congrArg Exchange.result
    (effect.of_accepts found same (h.accepts hx same point)).1

/-- The reply of the server in each phase. -/
inductive Replies (w : World) (a : NodeArgs) : Phase → Exchange → Prop
  | status : Replies w a .status (.status w.registry.bootId)
  | hello (code : Option ErrorCode) (bound : code = none → w.Bound a w.session) :
      Replies w a .hello (.result code)
  | report : Replies w a .report (.result none)

/-- The reply reaches the connection. -/
theorem Inv.replied (h : w.Inv a) {final : Option Nat} {phase : Phase} {reply : Exchange}
    (point : w.point = .control final phase .asked) (connected : w.connected = true)
    (replies : w.Replies a phase reply) : (w.moveTo (.control final phase reply)).Inv a := by
  have total_le := h.accounts.total_le
  have waiting := h.served.waiting
  have known := h.linked.known connected
  have bound := h.linked.bound connected
  rw [point] at total_le waiting known bound
  have stays : Stays a w (w.moveTo (.control final phase reply)) :=
    .node ⟨rfl, rfl, rfl, rfl, rfl⟩ (List.subset_append_left _ _) ⟨rfl, rfl, rfl, fun _ => rfl⟩
      (by simp [Point.alike_iff, point, moveTo]) (by rw [point]; rfl) rfl
      (by simp [point, moveTo]) total_le
  have settled (bound : w.Bound a w.session) (known : w.boot = some w.registry.bootId) :
      (w.moveTo (.control final phase reply)).Settled a w.session :=
    stays.settled h ⟨fun _ => by simp [known], .inl bound⟩
  cases replies with
  | status =>
    exact stays.inv h (by simp [moveTo]) (by simp [moveTo]) waiting {
      running := h.linked.running
      boot := h.linked.boot
      newBoot := fun b hb => by
        obtain rfl := Option.some.inj hb
        exact ⟨h.linked.running, fun _ => rfl, .inl rfl⟩
      outdated := by simp [moveTo]
      known := by simp [moveTo]
      bound := by simp [moveTo]
      reply := by simp [moveTo]
      replies := h.linked.replies }
  | hello code hello =>
    have ok (reached : (Point.control final .hello (.result code)).afterHello = true) :
        code = none := by cases code <;> simp_all
    have ok' (reached : (Point.control final .hello (.result code)).isRegistered = true) :
        code = none := by cases code <;> simp_all
    exact stays.inv h (fun reached => settled (hello (ok' reached)) (known rfl))
      (by simp [moveTo]) waiting {
        running := h.linked.running
        boot := h.linked.boot
        newBoot := by simp [moveTo]
        outdated := by simp [moveTo]
        known := fun _ _ => known rfl
        bound := fun _ reached => hello (ok reached)
        reply := by simp [moveTo]
        replies := h.linked.replies }
  | report =>
    exact stays.inv h (fun _ => settled (bound rfl) (known rfl)) (by simp [moveTo]) waiting {
      running := h.linked.running
      boot := h.linked.boot
      newBoot := by simp [moveTo]
      outdated := by simp [moveTo]
      known := fun _ _ => known rfl
      bound := fun _ _ => bound rfl
      reply := fun code reply => (Option.some.inj reply).symm
      replies := h.linked.replies }

/-- What the server answers on an open connection. -/
theorem Inv.replies_serve (h : w.Inv a) {final : Option Nat} {phase : Phase} {request : Request}
    (point : w.point = .control final phase .asked) (connected : w.connected = true)
    (sent : w.request final phase = some request) :
    World.Replies { w with registry := (a.serve w.registry request).2 } a phase
      (a.serve w.registry request).1 := by
  cases phase with
  | dial => cases sent
  | status =>
    obtain rfl := Option.some.inj sent
    exact .status
  | hello =>
    obtain rfl := Option.some.inj sent
    exact .hello _ fun ok => bound_of_hello h.wellFormed ok rfl
  | report =>
    obtain rfl := Option.some.inj sent
    have bound : w.Bound a w.session := h.linked.bound connected (by rw [point]; rfl)
    rw [h.report_ok bound point]
    exact .report

theorem inv_answer (h : w.Inv a) (step : a.step w .answer = some w') : w'.Inv a := by
  rw [NodeArgs.step] at step
  split at step
  · next final' phase' exchange request point' inFlight =>
    have member : request ∈ w.inFlight := by simp [inFlight]
    obtain ⟨final, phase, point, connected, sent⟩ := mem_inFlight member
    obtain ⟨rfl, rfl, rfl⟩ : final' = final ∧ phase' = phase ∧ exchange = .asked := by
      simpa [point] using point'.symm
    obtain rfl := Option.some.inj step
    have bound : ∀ s, request = .hello s → (w.handed s).Nonempty → w.Bound a s := by
      rintro s rfl nonempty
      obtain ⟨session, known⟩ := h.hello_inFlight member
      exact (h.served.settled s nonempty).bound.resolve_right fun lost => lost.2 session known
    have served : World.Inv { w with registry := (a.serve w.registry request).2 } a :=
      h.serve (h.legit request member) bound (List.Subset.refl _)
    exact served.replied point connected (h.replies_serve point connected sent)
  · cases step

theorem inv_readStatus (h : w.Inv a) {final : Option Nat} {bootId : Int} {fresh : Session}
    (point : w.point = .control final .status (.status bootId))
    (step : w.readStatus a final bootId fresh = some w') : w'.Inv a := by
  unfold readStatus at step
  split at step
  · next changed =>
    split at step
    · next guard =>
      obtain rfl := Option.some.inj step
      exact h.renew point (fun unknown => by simp [unknown] at changed) changed.2 guard.1 guard.2
    · cases step
  · next guard =>
    obtain rfl := Option.some.inj step
    refine h.sameBoot point ?_
    cases known : w.boot with
    | none => exact .inl rfl
    | some b =>
      refine .inr ?_
      by_contra other
      exact guard ⟨by rw [known]; rfl, by rwa [known]⟩

theorem inv_readHello (h : w.Inv a) {final : Option Nat} {code : Option ErrorCode}
    (point : w.point = .control final .hello (.result code)) : (w.readHello final code).Inv a := by
  cases code with
  | some e => exact h.rejected point
  | none =>
    have total_le := h.accounts.total_le
    have waiting := h.served.waiting
    have registered := h.served.registered
    have bound := h.linked.bound
    have known := h.linked.known
    rw [point] at total_le waiting registered bound known
    have stays : Stays a w (w.moveTo (.control final .report .ready)) :=
      .node ⟨rfl, rfl, rfl, rfl, rfl⟩ (List.subset_append_left _ _)
        ⟨rfl, rfl, rfl, fun _ => rfl⟩ (by simp [Point.alike_iff, point, moveTo])
        (by rw [point]; rfl) rfl (by simp [point, moveTo]) total_le
    exact stays.inv h (fun _ => stays.settled h (registered rfl)) (by simp [moveTo]) waiting {
      running := h.linked.running
      boot := h.linked.boot
      newBoot := by simp [moveTo]
      outdated := by simp [moveTo]
      known := fun connected _ => known connected rfl
      bound := fun connected _ => bound connected rfl
      reply := by simp [moveTo]
      replies := h.linked.replies }

theorem inv_readReport (h : w.Inv a) {final : Option Nat} {code : Option ErrorCode}
    (point : w.point = .control final .report (.result code)) (now : ℚ) :
    (w.readReport a final now code).Inv a := by
  obtain rfl : code = none := h.linked.reply code (by rw [point]; rfl)
  have read : World.Inv { w with reportReplies := w.reportReplies ++ [none] } a := by
    refine h.forget (List.Subset.refl _) fun code member => ?_
    rcases List.mem_append.mp member with member | member
    · exact h.linked.replies code member
    · exact List.mem_singleton.mp member
  exact read.succeeded point now

theorem inv_read (h : w.Inv a) {fresh : Session} {now : ℚ}
    (step : a.step w (.read fresh now) = some w') : w'.Inv a := by
  rw [NodeArgs.step] at step
  split at step
  · next point => exact inv_readStatus h point step
  · next point =>
    obtain rfl := Option.some.inj step
    exact inv_readHello h point
  · next point =>
    split at step
    · obtain rfl := Option.some.inj step
      exact inv_readReport h point now
    · cases step
  · cases step

end World

end Telep
