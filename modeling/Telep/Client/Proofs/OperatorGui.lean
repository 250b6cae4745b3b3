import Telep.Misc.Actions
import Telep.Client.OperatorGui

/-!
# The window over whole runs

Whatever the network, the server and the user do, the window has one pending refresh at most and no
socket besides the one of its connection (`window_tidy`).
-/

namespace Telep

open Actions

/-- The part of the window that only `connect`, `close`, `subscribe` and the timers change. -/
structure Core where
  socket : Option Nat
  opened : List Nat
  subscriptions : List Nat
  timers : List Nat
  refreshTimer : Option Nat

def Window.core (w : Window) : Core :=
  ⟨w.socket, w.opened, w.subscriptions, w.timers, w.refreshTimer⟩

/-! ## Actions that keep the core -/

/-- The action keeps the core, and what it raises satisfies `E`. -/
def Keeps {α : Type} (E : Raised → Prop) (x : Gui α) : Prop :=
  ∀ w, Ensures x w (fun _ w' => w'.core = w.core) fun raised w' => w'.core = w.core ∧ E raised

namespace Keeps

variable {α β : Type} {E : Raised → Prop} {x : Gui α} {f : α → Gui β}

theorem pure (a : α) : Keeps E (pure a : Gui α) := fun _ => rfl

theorem throw {raised : Raised} (allowed : E raised) : Keeps E (throw raised : Gui α) :=
  fun _ => ⟨rfl, allowed⟩

theorem get : Keeps E (get : Gui Window) := fun _ => rfl

/-- A step that changes something else. -/
theorem modify {g : Window → Window} (same : ∀ w, (g w).core = w.core) :
    Keeps E (modify g : Gui PUnit) := same

theorem bind (first : Keeps E x) (next : ∀ a, Keeps E (f a)) : Keeps E (x >>= f) := by
  intro w
  refine Ensures.bind (first w) fun a w' same => ?_
  exact (next a w').mono (fun _ _ => (·.trans same)) fun _ _ => And.imp_left (·.trans same)

theorem item (allowed : E .index) (list : List α) (index : Nat) : Keeps E (Gui.item list index) := by
  unfold Gui.item
  split
  · exact pure _
  · exact throw allowed

theorem result {answer : Except Raised α} (allowed : ∀ raised, answer = .error raised → E raised) :
    Keeps E (Gui.result answer) := by
  unfold Gui.result
  split
  · exact pure _
  · exact throw (allowed _ rfl)

theorem mono {E' : Raised → Prop} (keeps : Keeps E x) (weaker : ∀ raised, E raised → E' raised) :
    Keeps E' x := fun w => (keeps w).mono (fun _ _ => id) fun _ _ => And.imp_right (weaker _)

theorem tryCatch {E' : Raised → Prop} {h : Raised → Gui α} (first : Keeps E x)
    (handled : ∀ raised, E raised → Keeps E' (h raised)) : Keeps E' (tryCatch x h) := by
  intro w
  refine Ensures.tryCatch (first w) fun raised w' ⟨same, allowed⟩ => ?_
  exact (handled raised allowed w').mono (fun _ _ => (·.trans same)) fun _ _ =>
    And.imp_left (·.trans same)

theorem mapM {g : α → Gui β} (each : ∀ a, Keeps E (g a)) (l : List α) : Keeps E (l.mapM g) := by
  induction l with
  | nil => exact pure _
  | cons a l ih =>
    rw [List.mapM_cons]
    exact bind (each a) fun b => bind ih fun bs => pure _

end Keeps

section Callbacks

variable {connectTo : Nat → ConnectOutcome}
  {request : Nat → Bytes → List Bytes → Except Raised (List (List Bytes))}
  {takeAlerts : Nat → Except Raised (List (List Bytes))}
  {localTime : Int → Except Raised Bytes} {str : Raised → Bytes}

/-- What the connection raises: `request` refuses a text or loses the connection, and `take_alerts`
loses it. -/
structure Raises (request : Nat → Bytes → List Bytes → Except Raised (List (List Bytes)))
    (takeAlerts : Nat → Except Raised (List (List Bytes))) : Prop where
  request : ∀ n command fields raised, request n command fields = .error raised →
    raised = .connection ∨ raised = .value
  takeAlerts : ∀ n raised, takeAlerts n = .error raised → raised = .connection

/-- What `_refresh` can raise. -/
def Refreshes (localTime : Int → Except Raised Bytes) (raised : Raised) : Prop :=
  raised.isHandled = true ∨ ∃ t, localTime t = .error raised

variable (raises : Raises request takeAlerts)

include raises

theorem keeps_call (command : Bytes) (fields : List Bytes) :
    Keeps (Refreshes localTime) (call request command fields) := by
  intro w
  have kept : Keeps (Refreshes localTime) (Gui.result (request w.requests command fields)) := by
    refine Keeps.result fun raised failed => ?_
    rcases raises.request _ _ _ _ failed with rfl | rfl <;> exact .inl rfl
  exact kept { w with requests := w.requests + 1 }

theorem keeps_query (command : Bytes) (fields : List Bytes) :
    Keeps (Refreshes localTime) (query request command fields) := by
  have allowed : Refreshes localTime .index := .inl rfl
  unfold query
  refine Keeps.get.bind fun w => ?_
  split
  · exact Keeps.throw (.inl rfl)
  refine (keeps_call raises _ _).bind fun reply => ?_
  split
  · exact Keeps.throw (.inl rfl)
  refine (Keeps.item allowed _ _).bind fun line => (Keeps.item allowed _ _).bind fun head => ?_
  split
  · exact Keeps.throw (.inl rfl)
  · exact Keeps.pure _

omit raises in
theorem keeps_guiTime (text : Bytes) : Keeps (Refreshes localTime) (guiTime localTime text) := by
  unfold guiTime
  split
  · exact Keeps.throw (.inl rfl)
  · exact Keeps.result fun raised failed => .inr ⟨_, failed⟩

omit raises in
theorem keeps_guiMeasurements (field : Bytes) :
    Keeps (Refreshes localTime) (guiMeasurements field) := by
  unfold guiMeasurements
  split
  · exact Keeps.throw (.inl rfl)
  · exact Keeps.pure _

theorem keeps_nodeValues (row : List Bytes) :
    Keeps (Refreshes localTime) (nodeValues request row) := by
  have allowed : Refreshes localTime .index := .inl rfl
  unfold nodeValues
  split
  · refine (keeps_query raises _ _).bind fun reply => (Keeps.item allowed _ _).bind fun last => ?_
    refine Keeps.bind ?_ fun measurements => Keeps.pure _
    unfold replyMeasurements
    refine (Keeps.item allowed _ _).bind fun head => ?_
    split
    · exact (Keeps.item allowed _ _).bind fun field => keeps_guiMeasurements field
    · exact Keeps.pure _
  · exact Keeps.throw (.inl rfl)

omit raises in
theorem keeps_alertValues (row : List Bytes) :
    Keeps (Refreshes localTime) (alertValues localTime row) := by
  unfold alertValues
  split
  · exact (keeps_guiTime _).bind fun time => Keeps.pure _
  · exact Keeps.throw (.inl rfl)

theorem keeps_refreshTables :
    Keeps (Refreshes localTime) (refreshTables request takeAlerts localTime) := by
  have allowed : Refreshes localTime .index := .inl rfl
  have taken : Keeps (Refreshes localTime) (take takeAlerts) := by
    intro w
    have kept : Keeps (Refreshes localTime) (Gui.result (takeAlerts w.takes)) :=
      Keeps.result fun raised failed => .inl (raises.takeAlerts _ _ failed ▸ rfl)
    exact kept { w with takes := w.takes + 1 }
  have shown (pushed : List (List Bytes)) : Keeps (Refreshes localTime) (showPushed pushed) := by
    unfold showPushed
    split
    · exact Keeps.pure _
    · exact Keeps.modify fun _ => rfl
    · exact Keeps.throw (.inl rfl)
  unfold refreshTables
  refine taken.bind fun pushed => (shown pushed).bind fun _ => ?_
  refine (keeps_query raises _ _).bind fun status => ?_
  refine (Keeps.item allowed _ _).bind fun line => (Keeps.item allowed _ _).bind fun counters => ?_
  refine Keeps.bind (Keeps.modify ?_) fun _ => ?_
  · exact fun _ => rfl
  refine (keeps_query raises _ _).bind fun nodes => ?_
  refine (Keeps.mapM (keeps_nodeValues raises) _).bind fun rows => ?_
  refine Keeps.bind (Keeps.modify ?_) fun _ => ?_
  · exact fun _ => rfl
  refine (keeps_query raises _ _).bind fun alerts => ?_
  refine (Keeps.mapM keeps_alertValues _).bind fun rows => ?_
  exact Keeps.modify fun _ => rfl

/-- The callback of the other button. -/
theorem keeps_querySingleNode (localTime : Int → Except Raised Bytes) (str : Raised → Bytes)
    (text : Bytes) :
    Keeps (fun _ => True) (querySingleNode request localTime str text) := by
  have anything {α : Type} {x : Gui α} (keeps : Keeps (Refreshes localTime) x) :
      Keeps (fun _ => True) x := keeps.mono fun _ _ => trivial
  have item {α : Type} (list : List α) (index : Nat) :
      Keeps (fun _ => True) (Gui.item list index) := Keeps.item trivial _ _
  unfold querySingleNode
  split
  · exact Keeps.pure _
  refine Keeps.bind ?_ fun reply => ?_
  · have asked : Keeps (Refreshes localTime) (query request (ascii "GET_LAST") [strip text]) :=
      keeps_query raises _ _
    refine Keeps.tryCatch (asked.bind fun reply => Keeps.pure _) fun raised _ => ?_
    split
    · refine Keeps.bind (Keeps.modify ?_) fun _ => Keeps.pure _
      exact fun _ => rfl
    · exact Keeps.throw trivial
  split
  · exact Keeps.pure _
  refine (item _ _).bind fun line => Keeps.bind ?_ fun box => Keeps.modify fun _ => rfl
  unfold replyBox
  refine (item _ _).bind fun head => ?_
  split
  · exact (item _ _).bind fun _ => (item _ _).bind fun _ => Keeps.pure _
  refine (item _ _).bind fun field => ?_
  split
  · exact Keeps.pure _
  refine (anything (keeps_guiMeasurements _)).bind fun entries => (item _ _).bind fun text => ?_
  exact (anything (keeps_guiTime _)).bind fun time => Keeps.pure _

omit raises

end Callbacks

/-! ## The connection -/

/-- Within a refresh: no refresh is pending, and no socket is open besides the connection's. -/
structure Window.Refreshing (w : Window) : Prop where
  timers : w.timers = []
  refreshTimer : w.refreshTimer = none
  opened : w.opened = w.socket.toList

/-- The connection has a subscription, unless its socket is a certain one. -/
def Window.Subscribed (first : Option Nat) (w : Window) : Prop :=
  ∀ socket, w.socket = some socket → socket ∈ w.subscriptions ∨ first = some socket

/-- Between two callbacks: one pending refresh at most, no socket besides the connection's, and a
subscription on it. -/
structure Window.Tidy (first : Option Nat) (w : Window) : Prop where
  timers : w.timers = w.refreshTimer.toList
  opened : w.opened = w.socket.toList
  subscribed : w.Subscribed first

theorem Window.Refreshing.of_core {w w' : Window} (refreshing : w.Refreshing)
    (same : w'.core = w.core) : w'.Refreshing := by
  obtain ⟨timers, refreshTimer, opened⟩ := refreshing
  refine ⟨(congrArg Core.timers same).trans timers,
    (congrArg Core.refreshTimer same).trans refreshTimer, ?_⟩
  exact ((congrArg Core.opened same).trans opened).trans
    (congrArg (fun core => core.socket.toList) same.symm)

theorem Window.Subscribed.of_core {first : Option Nat} {w w' : Window}
    (subscribed : w.Subscribed first) (same : w'.core = w.core) : w'.Subscribed first := by
  intro socket connected
  have known := subscribed socket ((congrArg Core.socket same).symm.trans connected)
  have subscriptions : w'.subscriptions = w.subscriptions := congrArg Core.subscriptions same
  exact known.imp_left fun member => subscriptions ▸ member

theorem Window.Tidy.of_core {first : Option Nat} {w w' : Window} (tidy : w.Tidy first)
    (same : w'.core = w.core) : w'.Tidy first where
  timers := ((congrArg Core.timers same).trans tidy.timers).trans
    (congrArg (fun core => core.refreshTimer.toList) same.symm)
  opened := ((congrArg Core.opened same).trans tidy.opened).trans
    (congrArg (fun core => core.socket.toList) same.symm)
  subscribed := tidy.subscribed.of_core same

section Connection

variable {connectTo : Nat → ConnectOutcome}
  {request : Nat → Bytes → List Bytes → Except Raised (List (List Bytes))}
  {takeAlerts : Nat → Except Raised (List (List Bytes))}
  {localTime : Int → Except Raised Bytes} {str : Raised → Bytes} {w : Window}

/-- A connection takes the next socket, and a failed one leaves at most this socket. -/
theorem connect_ensures (connectTo : Nat → ConnectOutcome) (refreshing : w.Refreshing)
    (free : w.socket = none) :
    Ensures (connect connectTo) w
      (fun _ w' => w'.Refreshing ∧ w'.socket = some w.sockets ∧ w'.requests = w.requests)
      fun raised w' => raised = .connection ∧ w'.Refreshing := by
  have opens : Ensures openSocket { w with connects := w.connects + 1 }
      (fun _ w' => w'.Refreshing ∧ w'.socket = some w.sockets ∧ w'.requests = w.requests)
      fun raised w' => raised = .connection ∧ w'.Refreshing := by
    refine ⟨⟨refreshing.timers, refreshing.refreshTimer, ?_⟩, rfl, rfl⟩
    show w.opened ++ [w.sockets] = [w.sockets]
    rw [refreshing.opened, free]
    rfl
  have fails : Window.Refreshing { w with connects := w.connects + 1 } := refreshing.of_core rfl
  show Ensures (connectAs (connectTo w.connects)) { w with connects := w.connects + 1 } _ _
  cases connectTo w.connects with
  | unresolved => exact ⟨rfl, fails⟩
  | noSocket => exact ⟨rfl, fails⟩
  | refused => exact opens.bind fun _ w' ⟨opened, _⟩ => ⟨rfl, opened⟩
  | connected => exact opens

/-- A subscription is noted for the socket of the connection. -/
theorem subscribe_ensures (raises : Raises request takeAlerts) (refreshing : w.Refreshing) :
    Ensures (subscribe request) w
      (fun accepted w' => w'.Refreshing ∧ w'.socket = w.socket ∧
        (accepted = true → w'.Subscribed none) ∧
        (accepted = false → ∀ row rows,
          request w.requests (ascii "SUBSCRIBE") [] ≠ .ok ((ascii "OK" :: row) :: rows)))
      fun raised w' => w'.Refreshing ∧ raised.isHandled = true := by
  unfold subscribe
  cases answer : request w.requests (ascii "SUBSCRIBE") [] with
  | error raised =>
    have run : (call request (ascii "SUBSCRIBE") []).run.run w =
        (.error raised, { w with requests := w.requests + 1 }) := by
      show (Gui.result (request w.requests (ascii "SUBSCRIBE") [])).run.run _ = _
      rw [answer]
      rfl
    refine ensures_error (run_error run) ⟨refreshing.of_core rfl, ?_⟩
    rcases raises.request _ _ _ _ answer with rfl | rfl <;> rfl
  | ok reply =>
    have run : (call request (ascii "SUBSCRIBE") []).run.run w =
        (.ok reply, { w with requests := w.requests + 1 }) := by
      show (Gui.result (request w.requests (ascii "SUBSCRIBE") [])).run.run _ = _
      rw [answer]
      rfl
    refine Ensures.after run ?_
    cases reply with
    | nil => exact ⟨refreshing.of_core rfl, rfl⟩
    | cons line rows =>
      refine Ensures.after (a := line) rfl ?_
      cases line with
      | nil => exact ⟨refreshing.of_core rfl, rfl⟩
      | cons head row =>
        refine Ensures.after (a := head) rfl ?_
        by_cases accepted : head = ascii "OK"
        · rw [if_pos accepted]
          refine ⟨⟨refreshing.timers, refreshing.refreshTimer, refreshing.opened⟩, rfl,
            fun _ socket connected => .inl ?_, fun no => absurd no.symm Bool.false_ne_true⟩
          have connected : w.socket = some socket := connected
          show socket ∈ w.socket.toList ++ w.subscriptions
          rw [connected]
          exact List.mem_cons_self
        · rw [if_neg accepted]
          refine ⟨refreshing.of_core rfl, rfl, fun yes => absurd yes Bool.false_ne_true,
            fun _ row' rows' same => accepted ?_⟩
          exact (List.cons.inj (List.cons.inj (Except.ok.inj same)).1).1

/-- After `reconnect` there is a connection with a subscription. -/
theorem reconnect_ensures (raises : Raises request takeAlerts) {first : Option Nat}
    (refreshing : w.Refreshing) (subscribed : w.Subscribed first) :
    Ensures (reconnect connectTo request) w
      (fun _ w' => w'.Refreshing ∧ w'.Subscribed first)
      fun raised w' => w'.Refreshing ∧ raised.isHandled = true := by
  unfold reconnect
  refine Ensures.after (a := w) rfl ?_
  split
  · next free =>
    refine ((connect_ensures connectTo refreshing free).mono (fun _ _ => id)
      fun raised w' ⟨connection, refreshing⟩ => ⟨refreshing, connection ▸ rfl⟩).bind
      fun _ w' ⟨refreshing, _⟩ => (subscribe_ensures raises refreshing).bind
      fun accepted w'' ⟨refreshing, _, noted, _⟩ => ?_
    cases accepted with
    | true => exact ⟨refreshing, fun socket connected => (noted rfl socket connected).imp_right nofun⟩
    | false => exact ⟨refreshing, rfl⟩
  · exact ⟨refreshing, subscribed⟩

/-- `close` closes the only socket. -/
theorem close_ensures (refreshing : w.Refreshing) :
    Ensures closeConnection w (fun _ w' => w'.Refreshing ∧ w'.socket = none) fun _ _ => False := by
  obtain ⟨timers, refreshTimer, opened⟩ := refreshing
  refine ensures_ok (show closeConnection.run.run w = (.ok (), w.close) from rfl) ?_
  unfold Window.close
  split
  · next free => exact ⟨⟨timers, refreshTimer, opened⟩, free⟩
  · next socket connected =>
    refine ⟨⟨timers, refreshTimer, ?_⟩, rfl⟩
    show w.opened.erase socket = []
    rw [opened, connected]
    exact List.erase_cons_head ..

/-- A refresh can begin: its timer was the pending one, or none is taken from Tk. -/
def Window.MayRefresh (w : Window) : Prop := w.timers = [] ∨ w.timers = w.refreshTimer.toList

theorem cancel_ensures {first : Option Nat} (may : w.MayRefresh)
    (opened : w.opened = w.socket.toList) (subscribed : w.Subscribed first) :
    Ensures cancelRefresh w (fun _ w' => w'.Refreshing ∧ w'.Subscribed first)
      fun _ _ => False := by
  refine ensures_ok (show cancelRefresh.run.run w = (.ok (), w.cancel) from rfl) ?_
  unfold Window.cancel
  split
  · next none =>
    have empty : w.timers = [] := may.elim id fun timers => by rw [timers, none]; rfl
    exact ⟨⟨empty, none, opened⟩, subscribed⟩
  · next timer some =>
    refine ⟨⟨?_, rfl, opened⟩, subscribed⟩
    show w.timers.erase timer = []
    rcases may with timers | timers
    · rw [timers]
      rfl
    · rw [timers, some]
      exact List.erase_cons_head ..

/-- A refresh leaves a tidy window with a pending refresh, unless `time.localtime` raises something
that is not handled. -/
theorem refresh_ensures (raises : Raises request takeAlerts) {first : Option Nat}
    (may : w.MayRefresh) (opened : w.opened = w.socket.toList) (subscribed : w.Subscribed first) :
    Ensures (refresh connectTo request takeAlerts localTime str) w
      (fun _ w' => w'.Tidy first ∧ w'.refreshTimer.isSome = true)
      fun raised w' => w'.Tidy first ∧ raised.isHandled = false ∧
        ∃ t, localTime t = .error raised := by
  have plan {w : Window} (refreshing : w.Refreshing) (subscribed : w.Subscribed first) :
      Ensures planRefresh w (fun _ w' => w'.Tidy first ∧ w'.refreshTimer.isSome = true)
        fun raised w' => w'.Tidy first ∧ raised.isHandled = false ∧
          ∃ t, localTime t = .error raised := by
    refine ⟨⟨?_, refreshing.opened, subscribed⟩, rfl⟩
    show w.timers ++ [w.afters] = [w.afters]
    rw [refreshing.timers]
    rfl
  unfold refresh
  refine ((cancel_ensures may opened subscribed).mono (fun _ _ => id) fun _ _ => False.elim).bind
    fun _ w₁ ⟨refreshing, subscribed⟩ => ?_
  refine Ensures.bind (Q := fun _ w' => w'.Refreshing ∧ w'.Subscribed first) ?_
    fun _ w₂ ⟨refreshing, subscribed⟩ => plan refreshing subscribed
  -- only the tables can raise what is not handled, and then the connection stays
  refine Ensures.tryCatch (show Ensures _ _ _ fun raised w' => w'.Refreshing ∧
    (raised.isHandled = true ∨ (w'.Subscribed first ∧ ∃ t, localTime t = .error raised)) from ?_)
    fun raised w₂ failed => ?_
  · refine ((reconnect_ensures raises refreshing subscribed).mono (fun _ _ => id)
      fun _ _ => And.imp_right .inl).bind fun _ w₂ ⟨refreshing, subscribed⟩ => ?_
    exact (keeps_refreshTables raises w₂).mono
      (fun _ w' same => ⟨refreshing.of_core same, subscribed.of_core same⟩)
      fun raised w' ⟨same, failed⟩ => ⟨refreshing.of_core same,
        failed.imp_right fun time => ⟨subscribed.of_core same, time⟩⟩
  · obtain ⟨refreshing, failed⟩ := failed
    split
    · refine ((close_ensures refreshing).mono (fun _ _ => id) fun _ _ => False.elim).bind
        fun _ w₃ ⟨refreshing, free⟩ => ?_
      refine ⟨refreshing.of_core rfl, fun socket connected => ?_⟩
      have connected : w₃.socket = some socket := connected
      rw [free] at connected
      cases connected
    · next other =>
      obtain ⟨subscribed, time⟩ := failed.resolve_left other
      refine ⟨⟨?_, refreshing.opened, subscribed⟩, Bool.eq_false_iff.mpr other, time⟩
      rw [refreshing.timers, refreshing.refreshTimer]
      rfl

/-! ## Runs -/

/-- The first command, `SUBSCRIBE`, is not accepted. -/
def Rejected (request : Nat → Bytes → List Bytes → Except Raised (List (List Bytes))) : Prop :=
  ∀ row rows, request 0 (ascii "SUBSCRIBE") [] ≠ .ok ((ascii "OK" :: row) :: rows)

/-- `main` leaves a tidy window. It takes no notice of a subscription that is rejected, so the first
socket may be without one. -/
theorem openWindow_ensures (connectTo : Nat → ConnectOutcome) (localTime : Int → Except Raised Bytes)
    (str : Raised → Bytes) (raises : Raises request takeAlerts) :
    Ensures (openWindow connectTo request takeAlerts localTime str) Window.new
      (fun _ w' => ∃ first, w'.Tidy first ∧ w'.refreshTimer.isSome = true ∧
        (first = none ∨ (first = some 0 ∧ Rejected request)))
      fun _ _ => True := by
  have fresh : Window.new.Refreshing := ⟨rfl, rfl, rfl⟩
  unfold openWindow
  refine Ensures.bind (Q := fun _ w' => w'.Refreshing ∧ ∃ first, w'.Subscribed first ∧
    (first = none ∨ (first = some 0 ∧ Rejected request))) ?_
    fun _ w₁ ⟨refreshing, first, subscribed, known⟩ => ?_
  · refine Ensures.tryCatch (show Ensures _ _ _ fun _ w' => w'.Refreshing from ?_)
      fun raised w₁ refreshing => ?_
    · refine ((connect_ensures connectTo fresh rfl).mono (fun _ _ => id)
        fun _ _ => And.right).bind fun _ w₁ ⟨refreshing, socket, requests⟩ => ?_
      refine ((subscribe_ensures raises refreshing).mono (fun _ _ => id) fun _ _ => And.left).bind
        fun accepted w₂ ⟨refreshing, same, noted, rejected⟩ => ⟨refreshing, ?_⟩
      cases accepted with
      | true => exact ⟨none, noted rfl, .inl rfl⟩
      | false =>
        have rejected := rejected rfl
        rw [requests] at rejected
        refine ⟨some 0, fun k connected => .inr ?_, .inr ⟨rfl, rejected⟩⟩
        exact (socket.symm.trans (same.symm.trans connected))
    · split
      · refine (close_ensures refreshing).mono (fun _ w₂ ⟨refreshing, free⟩ => ⟨refreshing, none,
          fun socket connected => ?_, .inl rfl⟩) fun _ _ => False.elim
        rw [free] at connected
        cases connected
      · exact trivial
  · exact (refresh_ensures raises (.inl refreshing.timers) refreshing.opened subscribed).mono
      (fun _ _ ⟨tidy, pending⟩ => ⟨first, tidy, pending, known⟩) fun _ _ _ => trivial

/-- A callback keeps the window tidy, and a refresh pending if the times can be shown. -/
theorem callback_tidy (connectTo : Nat → ConnectOutcome) (localTime : Int → Except Raised Bytes)
    (str : Raised → Bytes) (raises : Raises request takeAlerts)
    {first : Option Nat} (tidy : w.Tidy first) (event : GuiEvent) :
    let w' := w.callback connectTo request takeAlerts localTime str event
    w'.Tidy first ∧ ((∀ t raised, localTime t = .error raised → raised.isHandled = true) →
      w.refreshTimer.isSome = true → w'.refreshTimer.isSome = true) := by
  have refreshes {w : Window} (may : w.MayRefresh) (opened : w.opened = w.socket.toList)
      (subscribed : w.Subscribed first) :
      Ensures (refresh connectTo request takeAlerts localTime str) w
        (fun _ w' => w'.Tidy first ∧ ((∀ t raised, localTime t = .error raised →
          raised.isHandled = true) → w'.refreshTimer.isSome = true))
        fun _ w' => w'.Tidy first ∧ ((∀ t raised, localTime t = .error raised →
          raised.isHandled = true) → w'.refreshTimer.isSome = true) := by
    refine (refresh_ensures raises may opened subscribed).mono
      (fun _ _ ⟨tidy, pending⟩ => ⟨tidy, fun _ => pending⟩)
      fun raised _ ⟨tidy, other, t, time⟩ => ⟨tidy, fun calm => ?_⟩
    rw [calm t raised time] at other
    cases other
  cases event with
  | fire timer =>
    show (Window.callback ..).Tidy first ∧ _
    unfold Window.callback
    dsimp only
    split
    · next pending =>
      have alone : w.timers.erase timer = [] := by
        rw [tidy.timers] at pending ⊢
        rw [Option.mem_toList.mp pending]
        exact List.erase_cons_head ..
      have state := (refreshes (w := { w with timers := w.timers.erase timer }) (.inl alone)
        tidy.opened tidy.subscribed).state
      exact ⟨state.1, fun calm _ => state.2 calm⟩
    · exact ⟨tidy, fun _ => id⟩
  | refreshButton =>
    have state := (refreshes (.inr tidy.timers) tidy.opened tidy.subscribed).state
    exact ⟨state.1, fun calm _ => state.2 calm⟩
  | queryButton text =>
    have kept := (keeps_querySingleNode raises localTime str text w).mono
      (fun _ _ => id) fun _ _ => And.left
    have same := kept.state
    refine ⟨tidy.of_core same, fun _ pending => ?_⟩
    exact (congrArg (fun core => core.refreshTimer.isSome) same).trans pending

/-- In every run of the window, whatever the network, the server and the user do: Tk has no pending
refresh besides the one that the window would cancel, no socket is open besides the connection's,
and the connection has a subscription, unless it is the first one and its subscription was rejected.
As long as times can be shown, a refresh is pending. -/
theorem window_tidy (connectTo : Nat → ConnectOutcome) (localTime : Int → Except Raised Bytes)
    (str : Raised → Bytes) (raises : Raises request takeAlerts)
    (opens : ((openWindow connectTo request takeAlerts localTime str).run.run Window.new).1 =
      .ok ()) (events : List GuiEvent) :
    let M := windowMachine connectTo request takeAlerts localTime str
    let w := M.exec M.init events
    w.timers = w.refreshTimer.toList ∧ w.opened = w.socket.toList ∧
      (∀ socket, w.socket = some socket → socket ∈ w.subscriptions ∨
        (socket = 0 ∧ Rejected request)) ∧
      ((∀ t raised, localTime t = .error raised → raised.isHandled = true) →
        w.refreshTimer.isSome = true) := by
  intro M w
  obtain ⟨first, tidy, pending, known⟩ : ∃ first, M.init.Tidy first ∧
      M.init.refreshTimer.isSome = true ∧ (first = none ∨ (first = some 0 ∧ Rejected request)) := by
    rcases (openWindow_ensures connectTo localTime str raises).cases with
      ⟨_, s', run, known⟩ | ⟨raised, s', run, -⟩
    · have init : M.init = s' := congrArg Prod.snd run
      exact init ▸ known
    · rw [run] at opens
      cases opens
  have run := Machine.exec_preserves (M := M) (P := fun w => w.Tidy first ∧
    ((∀ t raised, localTime t = .error raised → raised.isHandled = true) →
      w.refreshTimer.isSome = true)) (fun w event ⟨tidy, pending⟩ => ?_)
    ⟨tidy, fun _ => pending⟩ events
  · obtain ⟨tidy, pending⟩ := run
    refine ⟨tidy.timers, tidy.opened, fun socket connected => ?_, pending⟩
    refine (tidy.subscribed socket connected).imp_right fun is => ?_
    rcases known with none | ⟨zero, rejected⟩
    · rw [none] at is
      cases is
    · exact ⟨(Option.some.inj (zero.symm.trans is)).symm, rejected⟩
  · have next := callback_tidy connectTo localTime str raises tidy event
    exact ⟨next.1, fun calm => next.2 calm (pending calm)⟩

end Connection

/-- A server that accepts everything and lists nothing. -/
def emptyReplies (_ : Nat) (_ : Bytes) (_ : List Bytes) : Except Raised (List (List Bytes)) :=
  .ok [[ascii "OK", ascii "0"]]

def noAlerts (_ : Nat) : Except Raised (List (List Bytes)) := .ok []

/-- The first connection fails; the button and then the pending timer refresh. -/
theorem window_tidy_sample :
    let M := windowMachine (fun n => if n = 0 then .refused else .connected) emptyReplies
      noAlerts (fun _ => .ok []) (fun _ => [])
    let w := M.exec M.init [.refreshButton, .fire 1, .queryButton (ascii "N")]
    w.opened = w.socket.toList ∧ w.refreshTimer.isSome = true := by
  have raises : Raises emptyReplies noAlerts := ⟨nofun, nofun⟩
  have opens : ((openWindow (fun n => if n = 0 then .refused else .connected) emptyReplies
      noAlerts (fun _ => .ok []) (fun _ => [])).run.run Window.new).1 = .ok () := by
    decide +kernel
  have tidy := window_tidy _ _ _ raises opens [.refreshButton, .fire 1, .queryButton (ascii "N")]
  exact ⟨tidy.2.1, tidy.2.2.2 nofun⟩

end Telep
