import Telep.Client.Proofs.OperatorCli
import Telep.Client.Proofs.OperatorGui

/-!
# What the window of an operator shows

Whatever happened before, a refresh whose commands are answered shows the data of the states in
which the server answers (`refresh_shows_state`).
-/

namespace Telep

open Actions

/-- The columns of a node: what it measured last. -/
def nodeColumns (node : TelemetryNode) : List Bytes :=
  let entries := if node.lastSeen = 0 then [] else node.measurements.map fun m => (m.name, m.printed)
  measurementColumns.map fun name => (entries.lookup name).getD (ascii "-")

/-- The row of a node that a reply lists and a later reply measures. -/
def tableRow (now : Int) (node measured : TelemetryNode) : List Bytes × Bytes :=
  (shownNode node now ++ nodeColumns measured,
    if nodeIsActive node now then ascii "ACTIVE" else ascii "INACTIVE")

/-- The row of an alert. -/
def alertTableRow (timeText : Int → Bytes) (alert : Alert) : List Bytes × Bytes :=
  ([timeText alert.timestamp, alert.nodeId, alert.alertType, formatFixed2 alert.value],
    ascii "ALERT")

/-- The label for the alerts that were pushed; without one it stays. -/
def pushedLabel (alerts : List Alert) (label : Bytes) : Bytes :=
  match alerts.getLast? with
  | none => label
  | some alert => ascii "!! ALERT received: " ++ alert.nodeId ++ ascii " " ++ alert.alertType ++
      ascii " " ++ formatFixed2 alert.value

/-! ## Steps of a refresh -/

section Steps

variable {request : Nat → Bytes → List Bytes → Except Raised (List (List Bytes))}
  {localTime : Int → Except Raised Bytes} {timeText : Int → Bytes} {w : Window}

/-- A command that is accepted. -/
theorem run_query {command : Bytes} {fields row : List Bytes} {rows : List (List Bytes)}
    (connected : w.socket ≠ none)
    (answered : request w.requests command fields = .ok ((ascii "OK" :: row) :: rows)) :
    (query request command fields).run.run w =
      (.ok ((ascii "OK" :: row) :: rows), { w with requests := w.requests + 1 }) := by
  have run : (call request command fields).run.run w =
      (.ok ((ascii "OK" :: row) :: rows), { w with requests := w.requests + 1 }) := by
    show (Gui.result (request w.requests command fields)).run.run _ = _
    rw [answered]
    rfl
  unfold query
  refine (run_ok (show (get : Gui Window).run.run w = (.ok w, w) from rfl)).trans ?_
  rw [if_neg connected]
  refine (run_ok run).trans ?_
  rw [if_neg (List.cons_ne_nil _ _)]
  rfl

/-- A loop over rows of a reply that sends a command for each. -/
theorem run_mapM_asking {γ α β : Type} {row : γ → α} {f : Nat → γ → β} {g : α → Gui β}
    {entries : List γ} {m last : Nat} (each : ∀ e ∈ entries, ∀ w : Window, w.socket ≠ none →
      m ≤ w.requests → w.requests < last → (g (row e)).run.run w =
        (.ok (f w.requests e), { w with requests := w.requests + 1 }))
    (connected : w.socket ≠ none) (later : m ≤ w.requests)
    (enough : w.requests + entries.length ≤ last) :
    ((entries.map row).mapM g).run.run w =
      (.ok ((entries.zipIdx w.requests).map fun e => f e.2 e.1),
        { w with requests := w.requests + entries.length }) := by
  induction entries generalizing w with
  | nil => rfl
  | cons e entries ih =>
    rw [List.length_cons] at enough
    have rest := ih (fun e' member => each e' (List.mem_cons_of_mem _ member))
      (w := { w with requests := w.requests + 1 }) connected (Nat.le_succ_of_le later)
      (by dsimp only; omega)
    have first := each e List.mem_cons_self w connected later (by omega)
    rw [List.map_cons, List.mapM_cons]
    refine (run_ok first).trans ((run_ok rest).trans ?_)
    rw [List.length_cons, ← Nat.add_assoc, Nat.add_right_comm]
    rfl

/-- A loop over rows of a reply that sends nothing. -/
theorem run_mapM {γ α β : Type} {row : γ → α} {f : γ → β} {g : α → Gui β} {entries : List γ}
    (each : ∀ e ∈ entries, ∀ w, (g (row e)).run.run w = (.ok (f e), w)) (w : Window) :
    ((entries.map row).mapM g).run.run w = (.ok (entries.map f), w) := by
  induction entries with
  | nil => rfl
  | cons e entries ih =>
    have rest := ih fun e' member => each e' (List.mem_cons_of_mem _ member)
    rw [List.map_cons, List.mapM_cons]
    exact (run_ok (each e List.mem_cons_self w)).trans ((run_ok rest).trans rfl)

theorem run_guiTime {z : Int} (known : localTime z = .ok (timeText z)) (w : Window) :
    (guiTime localTime (formatInt z)).run.run w = (.ok (timeText z), w) := by
  rw [guiTime, pyInt_formatInt]
  dsimp only
  rw [known]
  rfl

theorem run_replyMeasurements {id time field : Bytes} {entries : List (Bytes × Bytes)}
    (decoded : decodeMeasurements field = some entries) (w : Window) :
    (replyMeasurements [ascii "OK", id, time, field]).run.run w = (.ok entries, w) := by
  have measured : (guiMeasurements field).run.run w = (.ok entries, w) := by
    rw [guiMeasurements, decoded]
    rfl
  unfold replyMeasurements
  refine (run_ok (a := ascii "OK") rfl).trans ?_
  rw [if_pos rfl]
  exact (run_ok (a := field) rfl).trans measured

/-- The row of a node whose measurements are asked for. -/
theorem run_nodeValues {now : Int} {node measured : TelemetryNode} (connected : w.socket ≠ none)
    (answered : request w.requests (ascii "GET_LAST") [node.nodeId] = .ok [lastShown measured])
    (stored : measured.lastSeen ≠ 0 → ValidMeasurements measured.measurements) :
    (nodeValues request (shownNode node now)).run.run w =
      (.ok (tableRow now node measured), { w with requests := w.requests + 1 }) := by
  unfold nodeValues shownNode tableRow nodeColumns
  dsimp only
  unfold lastShown at answered
  by_cases never : measured.lastSeen = 0
  · rw [if_pos never] at answered ⊢
    refine (run_ok (run_query connected answered)).trans ((run_ok rfl).trans ?_)
    exact run_ok (run_replyMeasurements (by decide) _)
  · rw [if_neg never] at answered ⊢
    refine (run_ok (run_query connected answered)).trans ((run_ok rfl).trans ?_)
    exact run_ok (run_replyMeasurements (stored never).decode_format _)

theorem run_alertValues {alert : Alert}
    (known : localTime alert.timestamp = .ok (timeText alert.timestamp)) (w : Window) :
    (alertValues localTime (listedAlert alert)).run.run w =
      (.ok (alertTableRow timeText alert), w) := by
  unfold alertValues listedAlert
  exact run_ok (run_guiTime known w)

theorem run_showPushed (alerts : List Alert) (w : Window) :
    (showPushed (alerts.map pushedAlert)).run.run w =
      (.ok (), { w with lastAlertLabel := pushedLabel alerts w.lastAlertLabel }) := by
  unfold showPushed pushedLabel
  rw [List.getLast?_map]
  cases alerts.getLast? <;> rfl

end Steps

/-! ## A refresh -/

namespace Answering

variable {strtod : Bytes → StrtodResult} {startedAt bootId : Long}
  (A : Answering strtod startedAt bootId)
  {request : Nat → Bytes → List Bytes → Except Raised (List (List Bytes))}
  {takeAlerts : Nat → Except Raised (List (List Bytes))}
  {localTime : Int → Except Raised Bytes} {timeText : Int → Bytes} {w : Window}

/-- The commands between two numbers are answered in the states of the server. -/
def Follows (request : Nat → Bytes → List Bytes → Except Raised (List (List Bytes)))
    (first last : Nat) : Prop :=
  ∀ n, first ≤ n → n ≤ last → request n = A.request n ∧ A.isUp n = true

/-- The number of the last command of a refresh, given that of the first one. -/
def lastQuery (n : Nat) : Nat := n + 2 + (registeredNodes (A.snapshot (n + 1))).length

/-- The node table: every node of one answer, each with what it measured in an answer of its own. -/
def nodeTable (n : Nat) : List (List Bytes × Bytes) :=
  ((registeredNodes (A.snapshot n)).zipIdx (n + 1)).map fun e =>
    tableRow ((A.readings n).val.clock 0) e.1
      ((snapshotFindNode (A.snapshot e.2) e.1.nodeId).getD e.1)

/-- The window after its tables were refreshed. -/
def refreshed (timeText : Int → Bytes) (alerts : List Alert) (w : Window) : Window :=
  let n := w.requests
  let last := A.lastQuery n
  { w with
    takes := w.takes + 1
    lastAlertLabel := pushedLabel alerts w.lastAlertLabel
    statusLabel := spaced (counterText (systemStats (A.snapshot n) (A.readings n).val))
    nodeTable := A.nodeTable (n + 1)
    alertTable := (shownAlerts (A.snapshot last)).reverse.map (alertTableRow timeText)
    requests := last + 1 }

/-- What a row of the node table asks for. -/
theorem request_listed (apart : A.Apart) {n m : Nat} (later : n ≤ m) (up : A.isUp m = true)
    {node : TelemetryNode} (member : node ∈ registeredNodes (A.snapshot n)) :
    let measured := (snapshotFindNode (A.snapshot m) node.nodeId).getD node
    A.request m (ascii "GET_LAST") [node.nodeId] = .ok [lastShown measured] ∧
      (measured.lastSeen ≠ 0 → ValidMeasurements measured.measurements) := by
  obtain ⟨node', found, -⟩ := A.found_later member later
  have valid : isValidNodeId node.nodeId = true := by
    obtain ⟨i, used, rfl⟩ := mem_registeredNodes.mp member
    exact (A.shown n).wellFormed.nodeId_valid i used
  rw [A.request_last apart up (encodeMessage_last valid), lastReply, if_pos valid, found]
  exact ⟨rfl, A.stored_found found⟩

/-- The loop over the nodes of an answer. -/
theorem run_nodeTable (apart : A.Apart) {n last : Nat} (connected : w.socket ≠ none)
    (follows : A.Follows request n last) (number : w.requests = n + 1)
    (enough : w.requests + (registeredNodes (A.snapshot n)).length ≤ last) :
    (((registeredNodes (A.snapshot n)).map fun node =>
        shownNode node ((A.readings n).val.clock 0)).mapM (nodeValues request)).run.run w =
      (.ok (A.nodeTable n),
        { w with requests := w.requests + (registeredNodes (A.snapshot n)).length }) := by
  have each : ∀ node ∈ registeredNodes (A.snapshot n), ∀ w : Window, w.socket ≠ none →
      n ≤ w.requests → w.requests < last →
      (nodeValues request (shownNode node ((A.readings n).val.clock 0))).run.run w =
        (.ok (tableRow ((A.readings n).val.clock 0) node
            ((snapshotFindNode (A.snapshot w.requests) node.nodeId).getD node)),
          { w with requests := w.requests + 1 }) := by
    intro node member w connected later before
    obtain ⟨same, up⟩ := follows _ later before.le
    obtain ⟨answered, stored⟩ := A.request_listed apart later up member
    exact run_nodeValues connected (same ▸ answered) stored
  rw [run_mapM_asking (f := fun n' node => tableRow ((A.readings n).val.clock 0) node
    ((snapshotFindNode (A.snapshot n') node.nodeId).getD node)) each connected (by omega) enough,
    number]
  rfl

/-- The loop over the alerts of an answer, newest first. -/
theorem run_alertTable (timed : A.Timed localTime timeText) (n : Nat) (head : List Bytes)
    (w : Window) :
    (((head :: (shownAlerts (A.snapshot n)).map listedAlert).drop 1).reverse.mapM
        (alertValues localTime)).run.run w =
      (.ok ((shownAlerts (A.snapshot n)).reverse.map (alertTableRow timeText)), w) := by
  rw [List.drop_one, List.tail_cons, ← List.map_reverse]
  exact run_mapM (fun alert member w => run_alertValues
    (timed.alerts n alert (List.mem_reverse.mp member)) w) w

theorem run_refreshTables (apart : A.Apart) (connected : w.socket ≠ none)
    (follows : A.Follows request w.requests (A.lastQuery w.requests))
    (timed : A.Timed localTime timeText)
    {alerts : List Alert} (taken : takeAlerts w.takes = .ok (alerts.map pushedAlert)) :
    (refreshTables request takeAlerts localTime).run.run w =
      (.ok (), A.refreshed timeText alerts w) := by
  have answers {n : Nat} (later : w.requests ≤ n) (before : n ≤ A.lastQuery w.requests)
      {command : Bytes} {reply : List (List Bytes)}
      (answer : A.isUp n = true → A.request n command [] = .ok reply) :
      request n command [] = .ok reply := by
    rw [(follows n later before).1]
    exact answer (follows n later before).2
  have took : (take takeAlerts).run.run w =
      (.ok (alerts.map pushedAlert), { w with takes := w.takes + 1 }) := by
    show (Gui.result (takeAlerts w.takes)).run.run _ = _
    rw [taken]
    rfl
  have next : w.requests + 1 ≤ A.lastQuery w.requests := by
    unfold lastQuery
    omega
  have follows' : A.Follows request (w.requests + 1) (A.lastQuery w.requests) := fun n later =>
    follows n (Nat.le_of_succ_le later)
  have first : w.requests ≤ A.lastQuery w.requests := Nat.le_of_succ_le next
  unfold refreshTables
  refine Eq.trans (run_ok took) (Eq.trans (run_ok (run_showPushed alerts _)) ?_)
  refine Eq.trans (run_ok (run_query connected (answers le_rfl first (A.request_status apart)))) ?_
  refine Eq.trans (run_ok rfl) (Eq.trans (run_ok rfl) (Eq.trans (run_ok rfl) ?_))
  refine Eq.trans
    (run_ok (run_query connected (answers (Nat.le_succ _) next (A.request_nodes apart)))) ?_
  refine Eq.trans (run_ok (A.run_nodeTable apart connected follows' rfl le_rfl)) ?_
  refine Eq.trans (run_ok rfl) ?_
  refine Eq.trans (run_ok (run_query connected (answers first le_rfl (A.request_alerts apart)))) ?_
  exact run_ok (A.run_alertTable timed _ _ _)

/-- What a refresh needs of the network: a window without a connection gets one, and its
subscription is accepted. -/
def Reconnects (connectTo : Nat → ConnectOutcome)
    (request : Nat → Bytes → List Bytes → Except Raised (List (List Bytes))) (w : Window) : Prop :=
  w.socket = none → connectTo w.connects = .connected ∧
    ∃ row rows, request w.requests (ascii "SUBSCRIBE") [] = .ok ((ascii "OK" :: row) :: rows)

/-- The number of the first command of a refresh after its connection. -/
def firstQuery (w : Window) : Nat := w.requests + if w.socket = none then 1 else 0

omit A in
theorem run_reconnect {connectTo : Nat → ConnectOutcome}
    (reconnects : Reconnects connectTo request w) :
    ∃ w', (reconnect connectTo request).run.run w = (.ok (), w') ∧ w'.socket ≠ none ∧
      w'.requests = firstQuery w ∧ w'.takes = w.takes ∧ w'.lastAlertLabel = w.lastAlertLabel ∧
      w'.boxes = w.boxes ∧ ∀ first, w.Subscribed first → w'.Subscribed first := by
  have read : (get : Gui Window).run.run w = (.ok w, w) := rfl
  unfold reconnect firstQuery
  by_cases free : w.socket = none
  · obtain ⟨connected, row, rows, accepted⟩ := reconnects free
    let opened : Window := { w with
      connects := w.connects + 1, socket := some w.sockets, opened := w.opened ++ [w.sockets]
      sockets := w.sockets + 1 }
    have connects : (connect connectTo).run.run w = (.ok (), opened) := by
      show (connectAs (connectTo w.connects)).run.run { w with connects := w.connects + 1 } = _
      rw [connected]
      rfl
    have asked : (call request (ascii "SUBSCRIBE") []).run.run opened =
        (.ok ((ascii "OK" :: row) :: rows), { opened with requests := w.requests + 1 }) := by
      show (Gui.result (request w.requests (ascii "SUBSCRIBE") [])).run.run _ = _
      rw [accepted]
      rfl
    have subscribes : (subscribe request).run.run opened = (.ok true, { opened with
        requests := w.requests + 1, subscriptions := w.sockets :: w.subscriptions }) := by
      unfold subscribe
      refine Eq.trans (run_ok asked) (Eq.trans (run_ok rfl) (Eq.trans (run_ok rfl) ?_))
      rw [if_pos rfl]
      rfl
    rw [if_pos free]
    refine ⟨{ opened with
      requests := w.requests + 1, subscriptions := w.sockets :: w.subscriptions },
      Eq.trans (run_ok read) ?_, Option.some_ne_none _, rfl, rfl, rfl, rfl, fun _ _ k same => ?_⟩
    · rw [if_pos free]
      exact Eq.trans (run_ok connects) (Eq.trans (run_ok subscribes) rfl)
    · exact .inl (Option.some.inj same ▸ List.mem_cons_self)
  · refine ⟨w, Eq.trans (run_ok read) ?_, free, ?_, rfl, rfl, rfl, fun _ => id⟩
    · rw [if_neg free]
      rfl
    · rw [if_neg free]
      rfl

/-- What a refresh shows that starts in `w`, and that `w'` is left by. -/
structure ShowsState (timeText : Int → Bytes) (received : List Alert) (w w' : Window) : Prop where
  connected : w'.socket ≠ none
  subscribed : ∀ first, w.Subscribed first → w'.Subscribed first
  pending : w'.refreshTimer ≠ none
  status : w'.statusLabel = spaced (counterText (systemStats (A.snapshot (firstQuery w))
    (A.readings (firstQuery w)).val))
  nodes : w'.nodeTable = A.nodeTable (firstQuery w + 1)
  alerts : w'.alertTable = (shownAlerts (A.snapshot (A.lastQuery (firstQuery w)))).reverse.map
    (alertTableRow timeText)
  pushed : w'.lastAlertLabel = pushedLabel received w.lastAlertLabel
  boxes : w'.boxes = w.boxes

theorem run_refresh (apart : A.Apart) {connectTo : Nat → ConnectOutcome} (str : Raised → Bytes)
    (timed : A.Timed localTime timeText) (reconnects : Reconnects connectTo request w)
    (follows : A.Follows request (firstQuery w) (A.lastQuery (firstQuery w))) {alerts : List Alert}
    (taken : takeAlerts w.takes = .ok (alerts.map pushedAlert)) :
    ∃ w', (refresh connectTo request takeAlerts localTime str).run.run w = (.ok (), w') ∧
      A.ShowsState timeText alerts w w' := by
  obtain ⟨w₁, cancels, socket, requests, takes, connects, label, boxes, still⟩ :
      ∃ w₁, cancelRefresh.run.run w = (.ok (), w₁) ∧ w₁.socket = w.socket ∧
        w₁.requests = w.requests ∧ w₁.takes = w.takes ∧ w₁.connects = w.connects ∧
        w₁.lastAlertLabel = w.lastAlertLabel ∧ w₁.boxes = w.boxes ∧
        ∀ first, w.Subscribed first → w₁.Subscribed first := by
    refine ⟨w.cancel, rfl, ?_⟩
    unfold Window.cancel
    cases w.refreshTimer <;> exact ⟨rfl, rfl, rfl, rfl, rfl, rfl, fun _ => id⟩
  have reconnects₁ : Reconnects connectTo request w₁ := by
    unfold Reconnects at reconnects ⊢
    rw [socket, requests, connects]
    exact reconnects
  have first : firstQuery w₁ = firstQuery w := by
    rw [firstQuery, socket, requests]
    rfl
  obtain ⟨w₂, connection, connected, number, takes₂, label₂, boxes₂, subscribed⟩ :=
    run_reconnect reconnects₁
  have number : w₂.requests = firstQuery w := number.trans first
  have tables := A.run_refreshTables apart connected (number ▸ follows) timed
    ((congrArg takeAlerts (takes₂.trans takes)).trans taken)
  let shown := A.refreshed timeText alerts w₂
  refine ⟨{ shown with
    timers := shown.timers ++ [shown.afters], refreshTimer := some shown.afters
    afters := shown.afters + 1 }, ?_, ?_⟩
  · unfold refresh
    refine Eq.trans (run_ok cancels) (Eq.trans (run_ok (show _ = (Except.ok (), shown) from ?_)) rfl)
    rw [run_tryCatch, run_ok connection, tables]
  · refine ⟨connected, fun first known => subscribed first (still first known),
      Option.some_ne_none _, ?_, ?_, ?_, ?_, boxes₂.trans boxes⟩
    · exact number ▸ rfl
    · exact number ▸ rfl
    · exact number ▸ rfl
    · exact congrArg (pushedLabel alerts) (label₂.trans label)

/-- A refresh of any window, by its button or by a pending timer. When there is a connection or a
new one is made, the commands are answered in states of the server, no node is called `ALERT` and
`time.localtime` converts the times that are shown, the window then shows these states: the
counters, the nodes with their activity, their age and what they measured last, and the alerts,
newest first; the next refresh is pending, and the connection is subscribed if it is new or was so
before. -/
theorem refresh_shows_state (connectTo : Nat → ConnectOutcome) (str : Raised → Bytes)
    (apart : A.Apart) (timed : A.Timed localTime timeText) (w : Window) {event : GuiEvent}
    (refreshes : event = .refreshButton ∨ ∃ timer ∈ w.timers, event = .fire timer)
    (reconnects : Reconnects connectTo request w)
    (follows : A.Follows request (firstQuery w) (A.lastQuery (firstQuery w)))
    {alerts : List (RaisedAlert strtod startedAt bootId)}
    (taken : takeAlerts w.takes = .ok (takenAlerts alerts)) :
    A.ShowsState timeText (alerts.map Subtype.val) w
      (w.callback connectTo request takeAlerts localTime str event) := by
  rw [takenAlerts_eq] at taken
  rcases refreshes with rfl | ⟨timer, pending, rfl⟩
  · obtain ⟨w', run, shows⟩ := A.run_refresh apart str timed reconnects follows taken
    have same : w.callback connectTo request takeAlerts localTime str .refreshButton = w' :=
      congrArg Prod.snd run
    exact same ▸ shows
  · obtain ⟨w', run, shows⟩ := A.run_refresh apart (w := { w with timers := w.timers.erase timer })
      str timed reconnects follows taken
    have same : w.callback connectTo request takeAlerts localTime str (.fire timer) = w' :=
      (if_pos pending).trans (congrArg Prod.snd run)
    rw [same]
    exact ⟨shows.connected, shows.subscribed, shows.pending, shows.status, shows.nodes,
      shows.alerts, shows.pushed, shows.boxes⟩

/-- The requests of a window that connects first. -/
def afterSubscription (n : Nat) (command : Bytes) (fields : List Bytes) :
    Except Raised (List (List Bytes)) :=
  if n = 0 then .ok [[ascii "OK"]] else alarmed.request n command fields

/-- The first refresh, after one alert. -/
theorem refresh_shows_state_sample :
    let w := Window.new.callback (fun _ => .connected) afterSubscription
      (fun _ => .ok (takenAlerts [alarmedAlert])) (fun _ => .ok (ascii "00:00:09")) (fun _ => [])
      .refreshButton
    w.alertTable =
        [([ascii "00:00:09", ascii "N", ascii "STATUS_FAIL", ascii "0.00"], ascii "ALERT")] ∧
      w.lastAlertLabel = ascii "!! ALERT received: N STATUS_FAIL 0.00" := by
  have timed : alarmed.Timed (fun _ => .ok (ascii "00:00:09")) fun _ => ascii "00:00:09" :=
    ⟨fun _ _ _ => rfl, fun _ _ _ _ => rfl⟩
  have alerts : (shownAlerts (alarmed.snapshot 0)).reverse.map
      (alertTableRow fun _ => ascii "00:00:09") =
      [([ascii "00:00:09", ascii "N", ascii "STATUS_FAIL", ascii "0.00"], ascii "ALERT")] := by
    decide +kernel
  have follows : alarmed.Follows afterSubscription 1 (alarmed.lastQuery 1) := fun n later _ =>
    ⟨funext fun command => funext fun fields => if_neg (Nat.ne_of_gt later), rfl⟩
  have shows := @refresh_shows_state _ _ _ alarmed afterSubscription
    (fun _ => .ok (takenAlerts [alarmedAlert])) _ _ (fun _ => .connected) (fun _ => [])
    alarmed_apart timed Window.new _ (.inl rfl) (fun _ => ⟨rfl, [], [], rfl⟩) follows
    [alarmedAlert] rfl
  exact ⟨shows.alerts.trans alerts, shows.pushed.trans (by decide +kernel)⟩

end Answering

end Telep
