import Telep.Client.Proofs.HonestNode

/-!
# The interrupted node

`KeyboardInterrupt` can land between any two changes of the node's state. The final report is
built from the counters as they are, so it is sound exactly when no datagram or count of the
current attempt is still missing from `attempts`, or when the server was restarted and the
session is dropped with its counters.
-/

namespace Telep

namespace World

variable {w w' : World} {a : NodeArgs} {s : Session}

/-- The server is not the one that the node has counted for. -/
def Restarted (w : World) : Prop := w.boot ≠ none ∧ w.boot ≠ some w.registry.bootId

instance (w : World) : Decidable w.Restarted := inferInstanceAs (Decidable (_ ∧ _))

/-- A new session and no counts, `boot` not yet updated. -/
def zeroedFinal (w : World) (fresh : Session) : World :=
  { w.close.moveTo (.zeroed (some 0) w.registry.bootId) with
    session := fresh, counters := .zero, connected := true }

/-- The final report on its way to a new server. -/
def renewedFinal (w : World) (fresh : Session) : World :=
  { w.close.moveTo (.control (some 0) .hello .ready) with
    session := fresh, counters := .zero, boot := some w.registry.bootId,
    used := fresh :: w.used, connected := true }

/-- The final report on its way to the server of the session. -/
def sameFinal (w : World) : World :=
  { w.close.moveTo (.control (some 0) .hello .ready) with
    boot := some w.registry.bootId, connected := true }

/-- The events up to the `HELLO` of the final report. -/
def statusEvents (fresh : Session) (now : ℚ) : List WorldEvent :=
  [.connect, .ask, .answer, .read fresh now, .zero, .settle]

/-- The events from there. -/
def helloEvents (fresh : Session) (now : ℚ) : List WorldEvent :=
  [.ask, .answer, .read fresh now, .ask, .answer]

variable (startedAt bootId : Int) (fresh : Session) (now : ℚ)

theorem exec_renewedFinal {fresh : Session} (restarted : w.Restarted) (own : a.own fresh = true)
    (unused : fresh ∉ w.used) :
    (a.machine startedAt bootId).exec w.interrupt (statusEvents fresh now) =
      w.renewedFinal fresh := by
  obtain ⟨known, different⟩ := restarted
  have isSome : w.boot.isSome = true := Option.isSome_iff_ne_none.mpr known
  simp [statusEvents, Machine.exec, NodeArgs.machine, NodeArgs.step, interrupt, close, moveTo,
    inFlight, NodeArgs.serve, NodeState.request, readStatus, renewedFinal, isSome, different, own,
    unused]

theorem exec_sameFinal (same : ¬ w.Restarted) :
    (a.machine startedAt bootId).exec w.interrupt (statusEvents fresh now) = w.sameFinal := by
  have guard : ¬ (w.boot.isSome = true ∧ w.boot ≠ some w.registry.bootId) := fun h =>
    same ⟨Option.isSome_iff_ne_none.mp h.1, h.2⟩
  simp [statusEvents, Machine.exec, NodeArgs.machine, NodeArgs.step, interrupt, close, moveTo,
    inFlight, NodeArgs.serve, NodeState.request, readStatus, sameFinal, guard]

/-- The server answers a report with a code. -/
theorem serve_report (r : Registry) (s : Session) (c : Counters) (final : Bool) :
    ∃ code, (a.serve r (.report s c final)).1 = .result code := by
  rw [NodeArgs.serve]
  split <;> exact ⟨_, rfl⟩

/-- How `control` ends after the reply to `GET_STATUS`. -/
structure Finishes (a : NodeArgs) (w w' : World) : Prop where
  point : ∃ k phase exchange, w'.point = .control (some k) phase exchange
  session : w'.session = w.session
  counters : w'.counters = w.counters
  datagrams : w'.datagrams = w.datagrams
  reported : (registryRegisterNode w.registry a.id.val w.session.val).1 = none →
    ∃ code, w'.point = .control (some 0) .report (.result code)

theorem exec_hello (point : w.point = .control (some 0) .hello .ready)
    (connected : w.connected = true) :
    Finishes a w ((a.machine startedAt bootId).exec w (helloEvents fresh now)) := by
  cases hello : (registryRegisterNode w.registry a.id.val w.session.val).1 with
  | some e =>
    have run : (a.machine startedAt bootId).exec w (helloEvents fresh now) =
        { w.moveTo (.control (some 1) .dial .ready) with
            registry := (registryRegisterNode w.registry a.id.val w.session.val).2,
            connected := false } := by
      simp [helloEvents, Machine.exec, NodeArgs.machine, NodeArgs.step, moveTo, inFlight,
        NodeArgs.serve, NodeState.request, readHello, rejected, nextTry, close, point, connected,
        hello]
    rw [run]
    refine ⟨⟨_, _, _, rfl⟩, rfl, rfl, rfl, ?_⟩
    intro ok
    rw [hello] at ok
    cases ok
  | none =>
    have run : (a.machine startedAt bootId).exec w (helloEvents fresh now) =
        { w.moveTo (.control (some 0) .report (a.serve
              (registryRegisterNode w.registry a.id.val w.session.val).2
              (.report w.session w.counters true)).1) with
            registry := (a.serve (registryRegisterNode w.registry a.id.val w.session.val).2
              (.report w.session w.counters true)).2 } := by
      simp [helloEvents, Machine.exec, NodeArgs.machine, NodeArgs.step, moveTo, inFlight,
        NodeArgs.serve, NodeState.request, readHello, point, connected, hello]
    obtain ⟨code, reply⟩ := serve_report (a := a)
      (registryRegisterNode w.registry a.id.val w.session.val).2 w.session w.counters true
    rw [run]
    exact ⟨⟨_, _, _, rfl⟩, rfl, rfl, rfl, fun _ => ⟨code, by simp [moveTo, reply]⟩⟩

/-- The final report of an interrupted node in the world `w'`: its counters balance, they cover
every datagram, and the server accepts it when its registry `r` accepts the `HELLO` before it. -/
structure FinalReportSound (a : NodeArgs) (r : Registry) (w' : World) : Prop where
  sum : w'.counters.attempts = w'.counters.sent + w'.counters.omitted + w'.counters.sendErrors
  covers : ∀ q ∈ w'.handed w'.session, q < w'.counters.attempts
  accepted : (registryRegisterNode r a.id.val w'.session.val).1 = none →
    w'.point = .control (some 0) .report (.result none)

/-- From the invariant at the reply to `GET_STATUS`, the final report is sound. -/
theorem Finishes.sound (finishes : Finishes a w w') (h : w'.Inv a) :
    FinalReportSound a w.registry w' := by
  obtain ⟨k, phase, exchange, point⟩ := finishes.point
  have sum := h.accounts.sum
  have below := h.accounts.below
  rw [point] at sum below
  exact {
    sum := sum
    covers := below
    accepted := fun ok => by
      rw [finishes.session] at ok
      obtain ⟨code, reported⟩ := finishes.reported ok
      obtain rfl : code = none := h.linked.reply code (by rw [reported]; rfl)
      exact reported }

/-! ## Where the interrupt is harmless -/

/-- Between the attempts, and inside one before its datagram is sent. -/
theorem Inv.interrupt (h : w.Inv a) (inUse : w.point.isRestart = false)
    (whole : w.point ≠ .handed ∧ w.point ≠ .counted) : w.interrupt.Inv a := by
  have total_le := h.accounts.total_le
  refine h.quiet ?_ ⟨rfl, rfl, rfl, rfl, rfl⟩ (List.Subset.refl _) ⟨rfl, rfl, rfl, rfl⟩
    ((Nat.le_add_right _ _).trans total_le) (by simp [World.interrupt, moveTo])
    (by simp [World.interrupt, moveTo]) h.linked.replies
  cases point : w.point <;>
    simp_all [Point.quiet_iff, Point.alike_iff, World.interrupt, moveTo]

/-- A session that is dropped takes its counters along. -/
theorem Inv.renewedFinal {fresh : Session} (h : w.Inv a) (restarted : w.Restarted)
    (own : a.own fresh = true) (unused : fresh ∉ w.used) : (w.renewedFinal fresh).Inv a := by
  have total_le := h.accounts.total_le
  have other (s : Session) (used : s ∈ w.used) (same : s = fresh) : False :=
    unused (same ▸ used)
  have zeroed : (w.zeroedFinal fresh).Inv a := by
    refine h.unseen ⟨rfl, rfl, rfl, rfl, List.Subset.refl _, fun _ => List.mem_append.mp,
      fun s used same => (other s used same).elim⟩ rfl unused own ⟨rfl, rfl, rfl⟩ restarted
      (fun b hb => ?_) (by simp [World.zeroedFinal, moveTo])
      (accounts_zero rfl rfl (h.sessions.handed_empty unused)
        ((Nat.le_add_right _ _).trans total_le))
    obtain rfl := Option.some.inj hb
    exact ⟨h.linked.running, fun _ => rfl⟩
  exact inv_settle zeroed rfl

/-- The points at which a datagram or a count is ahead of `attempts`. -/
theorem unsound_of_ahead (h : w.Inv a) (finishes : Finishes a w.sameFinal w')
    (ahead : w.point = .handed ∨ w.point = .counted) : ¬ FinalReportSound a w.registry w' := by
  intro sound
  rcases ahead with point | point
  · have pending := h.accounts.pending point
    have covers := sound.covers
    rw [finishes.session, finishes.counters, handed_congr finishes.datagrams] at covers
    exact lt_irrefl _ (covers _ pending)
  · have sum := h.accounts.sum
    have balanced := sound.sum
    rw [point] at sum
    rw [finishes.counters] at balanced
    change w.counters.attempts = _ + w.counters.omitted + w.counters.sendErrors at balanced
    simp only [Point.unattempted] at sum
    change w.counters.attempts = w.counters.sent + _ + _ at balanced
    omega

end World

/-- In every run, the final report of a node that is interrupted in its loop is sound exactly
when the interrupt does not fall between the return of `sendto`, or the increment of `sent`,
`omitted` or `send_errors`, and the increment of `attempts`, unless the server was restarted. -/
theorem finalReportSound_iff (a : NodeArgs) (startedAt bootId : Int) (events : List WorldEvent)
    (w : World) (run : (a.machine startedAt bootId).exec (a.world startedAt bootId) events = w)
    (fresh : Session) (own : a.own fresh = true) (unused : fresh ∉ w.used) (now : ℚ) :
    World.FinalReportSound a w.registry
        ((a.machine startedAt bootId).exec w.interrupt (controlEvents fresh now)) ↔
      w.Restarted ∨ (w.point ≠ .handed ∧ w.point ≠ .counted) := by
  have h : w.Inv a := run ▸ (World.inv_init a startedAt bootId).exec startedAt bootId events
  have split : controlEvents fresh now =
    World.statusEvents fresh now ++ World.helloEvents fresh now := rfl
  rw [split, Machine.exec_append]
  by_cases restarted : w.Restarted
  · rw [World.exec_renewedFinal startedAt bootId now restarted own unused]
    refine iff_of_true ?_ (.inl restarted)
    have finishes := World.exec_hello (a := a) (w := w.renewedFinal fresh) startedAt bootId
      fresh now rfl rfl
    exact finishes.sound ((h.renewedFinal restarted own unused).exec startedAt bootId _)
  · rw [World.exec_sameFinal startedAt bootId fresh now restarted]
    have finishes := World.exec_hello (a := a) (w := w.sameFinal) startedAt bootId
      fresh now rfl rfl
    constructor
    · intro sound
      refine .inr ⟨fun point => ?_, fun point => ?_⟩
      · exact World.unsound_of_ahead h finishes (.inl point) sound
      · exact World.unsound_of_ahead h finishes (.inr point) sound
    · rintro (restart | whole)
      · exact absurd restart restarted
      · have inUse : w.point.isRestart = false := by
          cases restart : w.point.isRestart with
          | false => rfl
          | true => exact absurd (h.linked.outdated restart) restarted
        have final := (h.interrupt inUse whole).exec startedAt bootId
          (World.statusEvents fresh now ++ World.helloEvents fresh now)
        rw [Machine.exec_append, World.exec_sameFinal startedAt bootId fresh now restarted] at final
        exact finishes.sound final

/-! ## An interrupt right after `sendto` -/

/-- A node that draws any session and omits nothing. -/
def nodeArgsN : NodeArgs where
  id := nodeN
  session := sessionS
  count := 2
  count_le := by decide
  dnsRefresh := 5
  omittedByDrop := fun _ => false
  own := fun _ => true
  own_session := rfl

def sessionF : Session := ⟨ascii "ffffffffffffffffffffffffffffffff", by decide⟩

/-- The node registers, sends its first datagram and the server receives it. -/
def firstDatagram : List WorldEvent :=
  .check 0 :: controlEvents sessionF 0 ++
    [.read sessionF 0, .send normalValues, .deliver 0 fun _ => 9]

/-- The world at the return of the first `sendto`. -/
def afterSendto : World :=
  (nodeArgsN.machine 0 7).exec (nodeArgsN.world 0 7) firstDatagram

theorem finalReportSound_iff_sample :
    World.FinalReportSound nodeArgsN afterSendto.registry
        ((nodeArgsN.machine 0 7).exec afterSendto.interrupt (controlEvents sessionF 0)) ↔
      afterSendto.Restarted ∨ (afterSendto.point ≠ .handed ∧ afterSendto.point ≠ .counted) :=
  finalReportSound_iff nodeArgsN 0 7 firstDatagram afterSendto rfl sessionF rfl
    (by decide +kernel) 0

/-- Interrupted before `sent` is incremented, the node sends the final report of no attempts, which
the server refuses because it has received the sequence 0. -/
theorem interrupt_after_sendto :
    afterSendto.point = .handed ∧ ¬ afterSendto.Restarted ∧
      0 ∈ afterSendto.handed sessionS ∧
      ((nodeArgsN.machine 0 7).exec afterSendto.interrupt (controlEvents sessionF 0)).counters =
        ⟨0, 0, 0, 0⟩ ∧
      ((nodeArgsN.machine 0 7).exec afterSendto.interrupt (controlEvents sessionF 0)).point =
        .control (some 0) .report (.result (some .badFormat)) ∧
      ¬ World.FinalReportSound nodeArgsN afterSendto.registry
        ((nodeArgsN.machine 0 7).exec afterSendto.interrupt (controlEvents sessionF 0)) := by
  have refused : ((nodeArgsN.machine 0 7).exec afterSendto.interrupt
      (controlEvents sessionF 0)).point =
        .control (some 0) .report (.result (some .badFormat)) := by decide +kernel
  refine ⟨by decide +kernel, by decide +kernel, by decide +kernel, by decide +kernel, refused, ?_⟩
  intro sound
  have accepted := sound.accepted (by decide +kernel)
  rw [refused] at accepted
  cases accepted

end Telep
