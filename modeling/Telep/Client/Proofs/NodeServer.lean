import Telep.Client.Proofs.NodeInvariant
import Telep.Server.Proofs.FinalReport

/-!
# The server's side of the invariant

What a call to the registry does to `Served`: a call of the node, old or new, and the calls of
everyone else. The last lemma says that an open connection gets its report accepted.
-/

namespace Telep

/-- The identity of a server process never changes. -/
theorem bootId_step {r : Registry} (wf : r.WellFormed) (op : RegistryOp) :
    (registryStep r op).2.bootId = r.bootId := congrArg Prod.snd (boot_step wf op)

/-- What a call can do to a record that exists after it. -/
inductive RecordEffect : RegistryOp → Option Record → Record → Prop
  | kept (op : RegistryOp) (x : Record) (missed : ∀ id session sequence values clock,
      op = .telemetry id session sequence values clock → x.node.session ≠ session.val) :
      RecordEffect op (some x) x
  | created (id : NodeId) (session : Session) :
      RecordEffect (.hello id session) none (.created id.val session.val)
  | reported (id : NodeId) (session : Session) (c : ReportCounters) (final : Bool) (x : Record)
      (same : x.node.session = session.val) :
      RecordEffect (.report id session c final) (some x)
        (x.reported c.attempts c.sent c.omitted c.errors final)
  | telemetry (id : NodeId) (session : Session) (sequence : Fin sessionLimit)
      (values : MeasurementSet) (clock : Clock) (x : Record)
      (same : x.node.session = session.val) :
      RecordEffect (.telemetry id session sequence values clock) (some x)
        (x.telemetry (clock 0) sequence.val values.val)

theorem record_effect {room : Bool} {op : RegistryOp} {record : Option Record} {x' : Record}
    (step : stepRecord room op record = some x') : RecordEffect op record x' := by
  cases record with
  | none =>
    cases op with
    | hello id session =>
      rw [stepRecord] at step
      split at step
      · exact Option.some.inj step ▸ .created id session
      · cases step
    | _ => cases step
  | some x =>
    cases op with
    | report id session c final =>
      simp only [stepRecord] at step
      split at step
      · next accepted => exact Option.some.inj step ▸ .reported id session c final x accepted.1
      · exact Option.some.inj step ▸ .kept _ x (by simp)
    | telemetry id session sequence values clock =>
      simp only [stepRecord] at step
      split at step
      · next same =>
        exact Option.some.inj step ▸ .telemetry id session sequence values clock x same
      · next other =>
        refine Option.some.inj step ▸ .kept _ x ?_
        intro _ _ _ _ _ same
        cases same
        exact other
    | _ => exact Option.some.inj step ▸ .kept _ x (by simp)

/-- No call changes the session of a record. -/
theorem RecordEffect.session {op : RegistryOp} {x x' : Record}
    (effect : RecordEffect op (some x) x') : x'.node.session = x.node.session := by
  cases effect with
  | telemetry id session sequence values clock x same => exact telemetry_session ..
  | _ => rfl

namespace World

variable {w w' : World} {a : NodeArgs} {s : Session}

theorem Bound.step (h : w.Bound a s) (wf : w.registry.WellFormed) {op : RegistryOp}
    (registry : w'.registry = (registryStep w.registry op).2) : w'.Bound a s := by
  obtain ⟨x, hx, same⟩ := h
  rw [Bound, registry]
  by_cases named : op.nodeId = some a.id.val
  · obtain ⟨x', step⟩ := stepRecord_isSome w.registry.hasRoom op x
    rw [recordOf_step_named wf named, hx]
    exact ⟨x', step, (record_effect step).session.trans same⟩
  · rw [recordOf_step_other wf named, hx]
    exact ⟨x, rfl, same⟩

/-! ## The calls of the node and of everyone else -/

/-- The calls that reach the registry while the invariant holds, with the arrival they bring. -/
inductive Asks (w : World) (a : NodeArgs) : RegistryOp → List (Session × Nat) → Prop
  | foreign (op : RegistryOp) (foreign : a.isOwn op = false) : Asks w a op []
  | hello (s : Session) (used : s ∈ w.used)
      (bound : (w.handed s).Nonempty → w.Bound a s) : Asks w a (.hello a.id s) []
  | report (s : Session) (c : ReportCounters) (final : Bool)
      (claim : w.Claim s ⟨c.attempts, c.sent, c.omitted, c.errors⟩ final) :
      Asks w a (.report a.id s c final) []
  | telemetry (d : Datagram) (member : d ∈ w.datagrams) (bound : d.sequence < sessionLimit)
      (clock : Clock) :
      Asks w a (.telemetry a.id d.session ⟨d.sequence, bound⟩ d.values clock)
        [(d.session, d.sequence)]

/-- A sequence is marked when its datagram is accepted or was marked before. -/
theorem test_telemetry {x : Record} {q : Nat} (onTime : ¬ x.Late q) (now : Int)
    (values : List Measurement) (p : Nat) :
    (x.telemetry now q values).row.test p = true ↔ p = q ∨ x.row.test p = true := by
  cases seen : x.row.test q with
  | true =>
    rw [telemetry_duplicate now values onTime seen]
    refine ⟨.inr, fun h => ?_⟩
    rcases h with rfl | h
    · exact seen
    · exact h
  | false =>
    have row : (x.telemetry now q values).row = x.row.set q := by
      by_cases below : (q : Int) < x.node.lastSequence
      · rw [telemetry_overtaken now values onTime seen below]
        rfl
      · rw [telemetry_advanced now values onTime seen below]
        rfl
    rw [row, BitRow.test_set, Bool.or_eq_true, decide_eq_true_iff]

theorem telemetry_counters (x : Record) (now : Int) (q : Nat) (values : List Measurement) :
    (x.telemetry now q values).node.counters = x.node.counters ∧
      (x.telemetry now q values).node.finalReport = x.node.finalReport := by
  unfold Record.telemetry
  split_ifs <;> exact ⟨rfl, rfl⟩

/-- A final report covers every datagram, so none is late. -/
theorem Holds.onTime {x : Record} (h : w.Holds x s) {q : Nat} (sent : q ∈ w.handed s) :
    ¬ x.Late q := by
  rintro ⟨final, late⟩
  exact absurd (h.claim.covers final q sent) (not_lt.mpr late)

/-- What a datagram of the node does to the record that holds its session. -/
theorem Holds.telemetry {x : Record} (h : w.Holds x s) (keeps : w.Keeps w') {q : Nat}
    (sent : q ∈ w.handed s) (arrived : w'.arrived = (s, q) :: w.arrived) (now : Int)
    (values : List Measurement) : w'.Holds (x.telemetry now q values) s where
  claim := by
    obtain ⟨counters, final⟩ := telemetry_counters x now q values
    rw [counters, final]
    exact h.claim.keep keeps
  seen p := by
    rw [test_telemetry (h.onTime sent), h.seen, arrived, List.mem_cons, Prod.mk.injEq]
    simp

/-- A record that a call leaves alone, unless the call brought an arrival of its session. -/
theorem Holds.kept {x : Record} (h : w.Holds x s) (keeps : w.Keeps w')
    {new : List (Session × Nat)} (arrived : w'.arrived = new ++ w.arrived)
    (other : ∀ e ∈ new, e.1 ≠ s) : w'.Holds x s where
  claim := h.claim.keep keeps
  seen q := by
    rw [arrived, List.mem_append]
    exact (h.seen q).trans ⟨.inr, fun hq => hq.resolve_left fun hq => other _ hq rfl⟩

/-- A record that the first `HELLO` of a session creates. -/
theorem holds_created (used : s ∈ w'.used)
    (nothing : ∀ q, (s, q) ∉ w'.arrived) : w'.Holds (.created a.id.val s.val) s where
  claim := {
    used := used
    sum := rfl
    sent := by simp [Record.created, TelemetryNode.counters, TelemetryNode.zero]
    covers := by simp [Record.created, TelemetryNode.zero]
    below := fun _ => ⟨Nat.zero_le _, Nat.zero_le _, Nat.zero_le _, Nat.zero_le _⟩
    last := by simp [Record.created, TelemetryNode.zero] }
  seen q := by simp [Record.created, nothing]

/-- What one of the calls does to the record of the node. -/
theorem Asks.holds {op : RegistryOp} {new : List (Session × Nat)} (asks : w.Asks a op new)
    (sessions : w.Sessions a) (arrived : w'.arrived = new ++ w.arrived) (keeps : w.Keeps w')
    {record : Option Record} {x' : Record} (effect : RecordEffect op record x')
    (named : op.nodeId = some a.id.val) (found : recordOf w.registry a.id.val = record)
    (before : ∀ x, record = some x → x.node.session = s.val → w.Holds x s)
    (own : a.own s = true) (bound : x'.node.session = s.val) : w'.Holds x' s := by
  cases asks with
  | foreign op foreign =>
    -- Everyone else names the node with sessions that are not its own.
    cases effect with
    | kept op x missed => exact (before _ rfl bound).kept keeps arrived (by simp)
    | created id session =>
      obtain rfl : id = a.id := Subtype.ext (Option.some.inj named)
      obtain rfl : session = s := Subtype.ext bound
      simp [NodeArgs.isOwn, own] at foreign
    | reported id session c final x same =>
      obtain rfl : id = a.id := Subtype.ext (Option.some.inj named)
      obtain rfl : session = s := Subtype.ext (same.symm.trans bound)
      simp [NodeArgs.isOwn, own] at foreign
    | telemetry id session sequence values clock x same =>
      obtain rfl : id = a.id := Subtype.ext (Option.some.inj named)
      rw [telemetry_session] at bound
      obtain rfl : session = s := Subtype.ext (same.symm.trans bound)
      simp [NodeArgs.isOwn, own] at foreign
  | hello session used earlier =>
    cases effect with
    | kept op x missed => exact (before _ rfl bound).kept keeps arrived (by simp)
    | created id session =>
      obtain rfl : session = s := Subtype.ext bound
      refine holds_created (keeps.used used) fun q hq => ?_
      rw [arrived] at hq
      have sent : q ∈ w.handed session := sessions.arrived (session, q) hq
      obtain ⟨x, hx, -⟩ := earlier ⟨q, sent⟩
      rw [found] at hx
      cases hx
  | report session c final claim =>
    cases effect with
    | kept op x missed => exact (before _ rfl bound).kept keeps arrived (by simp)
    | reported id session c final x same =>
      obtain rfl : session = s := Subtype.ext (same.symm.trans bound)
      refine ⟨claim.keep keeps, fun q => ?_⟩
      rw [arrived]
      exact (before x rfl same).seen q
  | telemetry d member bounded clock =>
    cases effect with
    | kept op x missed =>
      refine (before _ rfl bound).kept keeps arrived fun e he other => ?_
      rw [List.mem_singleton.mp he] at other
      exact missed _ _ _ _ _ rfl (bound.trans (congrArg Subtype.val other.symm))
    | telemetry id session sequence values clock x same =>
      rw [telemetry_session] at bound
      obtain rfl : d.session = s := Subtype.ext (same.symm.trans bound)
      exact (before x rfl same).telemetry keeps (mem_handed.mpr ⟨d, member, rfl, rfl⟩) arrived
        (clock 0) d.values.val

/-- The world after one of the calls. -/
def called (w : World) (op : RegistryOp) (new : List (Session × Nat)) (stale : List Request) :
    World :=
  { w with registry := (registryStep w.registry op).2, arrived := new ++ w.arrived, stale := stale }

theorem Keeps.called (op : RegistryOp) (new : List (Session × Nat)) (stale : List Request) :
    w.Keeps (w.called op new stale) := .of_node rfl rfl rfl

/-- A session stays settled when the registry serves a call. -/
theorem Settled.called (h : w.Settled a s) (wf : w.registry.WellFormed) (op : RegistryOp)
    (new : List (Session × Nat)) {stale : List Request} (fewer : stale ⊆ w.stale) :
    (w.called op new stale).Settled a s where
  boot := h.boot
  bound := by
    rcases h.bound with bound | ⟨absent, expired⟩
    · exact .inl (bound.step wf rfl)
    · refine .inr ⟨fun member => absent (fewer member), fun same => ?_⟩
      rw [World.called, bootId_step wf]
      exact expired same

/-- What one of the calls does to the server's side. -/
theorem Served.called (h : w.Served a) (sessions : w.Sessions a) {op : RegistryOp}
    {new : List (Session × Nat)} (asks : w.Asks a op new) {stale : List Request}
    (fewer : stale ⊆ w.stale) : (w.called op new stale).Served a := by
  obtain ⟨startedAt, reachable⟩ := h.reachable
  have wf : w.registry.WellFormed := wellFormed_reachable reachable
  have keeps : w.Keeps (w.called op new stale) := .called op new stale
  exact {
    reachable := by
      rw [World.called, bootId_step wf]
      exact ⟨startedAt, reachable.exec [op]⟩
    stale := fun request member => (h.stale request (fewer member)).keep keeps
    record := by
      intro x' s hx' own bound
      rw [World.called] at hx'
      by_cases named : op.nodeId = some a.id.val
      · rw [recordOf_step_named wf named] at hx'
        exact asks.holds sessions rfl keeps (record_effect hx') named rfl
          (fun x hx same => h.record x s hx own same) own bound
      · rw [recordOf_step_other wf named] at hx'
        refine (h.record x' s hx' own bound).kept keeps rfl ?_
        cases asks with
        | telemetry d member bounded clock => exact absurd rfl named
        | _ => simp
    settled := fun s nonempty => (h.settled s nonempty).called wf op new fewer
    registered := fun point => (h.registered point).called wf op new fewer
    refreshed := fun point early => (h.refreshed point early).called wf op new fewer
    waiting := h.waiting }

/-- The arrivals of a call are datagrams of the node. -/
theorem Asks.sent {op : RegistryOp} {new : List (Session × Nat)} (asks : w.Asks a op new) :
    ∀ e ∈ new, e.2 ∈ w.handed e.1 := by
  cases asks with
  | telemetry d member bounded clock =>
    intro e he
    rw [List.mem_singleton.mp he]
    exact mem_handed.mpr ⟨d, member, rfl, rfl⟩
  | _ => simp

/-- The invariant lasts over a call. -/
theorem Inv.called (h : w.Inv a) {op : RegistryOp} {new : List (Session × Nat)}
    (asks : w.Asks a op new) {stale : List Request} (fewer : stale ⊆ w.stale) :
    (w.called op new stale).Inv a := by
  have wf : w.registry.WellFormed := by
    obtain ⟨startedAt, reachable⟩ := h.served.reachable
    exact wellFormed_reachable reachable
  have bootId : (w.called op new stale).registry.bootId = w.registry.bootId := bootId_step wf op
  exact {
    accounts := ⟨h.accounts.sum, h.accounts.sent, h.accounts.below, h.accounts.pending,
      h.accounts.attempts_le, h.accounts.total_le, h.accounts.limit⟩
    sessions := {
      own := h.sessions.own
      current := h.sessions.current
      fresh := h.sessions.fresh
      datagram := h.sessions.datagram
      bounded := h.sessions.bounded
      once := h.sessions.once
      arrived := by
        intro e he
        rcases List.mem_append.mp he with he | he
        · exact asks.sent e he
        · exact h.sessions.arrived e he }
    served := h.served.called h.sessions asks fewer
    linked := {
      running := by
        rw [bootId]
        exact h.linked.running
      boot := h.linked.boot
      newBoot := by
        rw [bootId]
        exact h.linked.newBoot
      outdated := by
        rw [bootId]
        exact h.linked.outdated
      known := by
        rw [bootId]
        exact h.linked.known
      bound := fun connected reached => (h.linked.bound connected reached).step wf rfl
      reply := h.linked.reply
      replies := h.linked.replies } }

/-! ## The requests -/

/-- The call that a request of the node makes, if its counters are within the limits. -/
def requestOp (a : NodeArgs) : Request → Option RegistryOp
  | .status => none
  | .hello s => some (.hello a.id s)
  | .report s c final =>
      if h : c.attempts ≤ sessionLimit ∧ c.sent ≤ sessionLimit ∧ c.omitted ≤ sessionLimit ∧
          c.sendErrors ≤ sessionLimit then
        some (.report a.id s ⟨c.attempts, c.sent, c.omitted, c.sendErrors, h.1, h.2.1, h.2.2.1,
          h.2.2.2⟩ final)
      else none

theorem serve_registry (a : NodeArgs) (r : Registry) (request : Request) :
    (a.serve r request).2 =
      (requestOp a request).elim r fun op => (registryStep r op).2 := by
  cases request with
  | report s c final =>
    by_cases h : c.attempts ≤ sessionLimit ∧ c.sent ≤ sessionLimit ∧ c.omitted ≤ sessionLimit ∧
        c.sendErrors ≤ sessionLimit
    · rw [NodeArgs.serve, if_pos h, requestOp, dif_pos h]
      rfl
    · rw [NodeArgs.serve, if_neg h, requestOp, dif_neg h]
      rfl
  | _ => rfl

/-- A request that the node may have sent makes one of the calls, or none. -/
theorem Legit.asks {request : Request} (h : w.Legit request)
    (bound : ∀ s, request = .hello s → (w.handed s).Nonempty → w.Bound a s) {op : RegistryOp}
    (call : requestOp a request = some op) : w.Asks a op [] := by
  cases request with
  | status => cases call
  | hello s =>
    obtain rfl := Option.some.inj call
    exact .hello s h (bound s rfl)
  | report s c final =>
    rw [requestOp] at call
    split at call
    · obtain rfl := Option.some.inj call
      exact .report s _ final h
    · cases call

end World

end Telep
