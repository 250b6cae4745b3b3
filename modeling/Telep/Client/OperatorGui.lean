import Telep.Misc.Machine
import Telep.Client.OperatorCli

/-!
# The window of an operator (`operator_gui.py`)

`refresh`, `query_single_node` and `main`, with `connect` and `close` of the connection. Parameters
say how each call of `connect`, `request` and `take_alerts` ends, and what `time.localtime` with
`strftime` and the text of an exception are. Tk runs the timers that are pending; an exception that
leaves a callback is reported, and the window goes on.
-/

namespace Telep

/-- How a call of `connect` ends. -/
inductive ConnectOutcome where
  | unresolved
  | noSocket
  | refused
  | connected
  deriving DecidableEq

structure Window where
  /-- `connection.socket` -/
  socket : Option Nat
  /-- The sockets that are open. -/
  opened : List Nat
  /-- The sockets on which `subscribe` returned true. -/
  subscriptions : List Nat
  /-- The timers that Tk will run. -/
  timers : List Nat
  refreshTimer : Option Nat
  statusLabel : Bytes
  lastAlertLabel : Bytes
  /-- The values and the tag of each row. -/
  nodeTable : List (List Bytes × Bytes)
  alertTable : List (List Bytes × Bytes)
  /-- The titles and the texts of the message boxes. -/
  boxes : List (Bytes × Bytes)
  /-- The numbers of the calls of `connect`, `request` and `take_alerts`, of `socket.socket` and of
  `after`. -/
  connects : Nat
  requests : Nat
  takes : Nat
  sockets : Nat
  afters : Nat

/-- The window before `main`. -/
def Window.new : Window :=
  ⟨none, [], [], [], none, [], [], [], [], [], 0, 0, 0, 0, 0⟩

/-- A callback of the window. -/
abbrev Gui := ExceptT Raised (StateM Window)

namespace Gui

/-- `list[index]` -/
def item {α : Type} (list : List α) (index : Nat) : Gui α :=
  match list[index]? with
  | some a => pure a
  | none => throw .index

/-- What a call returns or raises. -/
def result {α : Type} : Except Raised α → Gui α
  | .ok a => pure a
  | .error raised => throw raised

end Gui

/-- `MEASUREMENT_COLUMNS` -/
def measurementColumns : List Bytes :=
  [ascii "TEMP", ascii "HUM", ascii "POWER", ascii "VIB", ascii "STATUS"]

/-- `text.replace(";", "   ")` -/
def spaced (text : Bytes) : Bytes :=
  text.flatMap fun c => if c = pairSeparator then [32, 32, 32] else [c]

/-- The exceptions that `refresh` handles. -/
def Raised.isHandled : Raised → Bool
  | connection | value | index => true
  | overflow | endOfFile => false

section Callbacks

variable (connectTo : Nat → ConnectOutcome)
  (request : Nat → Bytes → List Bytes → Except Raised (List (List Bytes)))
  (takeAlerts : Nat → Except Raised (List (List Bytes)))
  (localTime : Int → Except Raised Bytes)
  (str : Raised → Bytes)

/-! ## The connection -/

/-- `socket.socket` -/
def openSocket : Gui Unit :=
  modify fun w => { w with
    socket := some w.sockets, opened := w.opened ++ [w.sockets], sockets := w.sockets + 1 }

/-- What is left of `connect` when its outcome is known. -/
def connectAs : ConnectOutcome → Gui Unit
  | .unresolved => throw .connection
  | .noSocket => throw .connection
  | .refused => do
      openSocket
      throw .connection
  | .connected => openSocket

/-- `connect` -/
def connect : Gui Unit := do
  let w ← get
  set { w with connects := w.connects + 1 }
  connectAs (connectTo w.connects)

/-- The window after `close`. -/
def Window.close (w : Window) : Window :=
  match w.socket with
  | none => w
  | some socket => { w with socket := none, opened := w.opened.erase socket }

/-- `close` -/
def closeConnection : Gui Unit := modify Window.close

/-- `connection.request` -/
def call (command : Bytes) (fields : List Bytes) : Gui (List (List Bytes)) := do
  let w ← get
  set { w with requests := w.requests + 1 }
  Gui.result (request w.requests command fields)

/-- `subscribe` -/
def subscribe : Gui Bool := do
  let head ← Gui.item (← Gui.item (← call request (ascii "SUBSCRIBE") []) 0) 0
  if head = ascii "OK" then do
    modify fun w => { w with subscriptions := w.socket.toList ++ w.subscriptions }
    return true
  else return false

/-- `take_alerts` -/
def take : Gui (List (List Bytes)) := do
  let w ← get
  set { w with takes := w.takes + 1 }
  Gui.result (takeAlerts w.takes)

/-! ## The window -/

/-- `OperatorWindow.request` -/
def query (command : Bytes) (fields : List Bytes) : Gui (List (List Bytes)) := do
  let w ← get
  if w.socket = none then throw .connection
  else do
    let reply ← call request command fields
    if reply = [] then throw .value
    else if (← Gui.item (← Gui.item reply 0) 0) ≠ ascii "OK" then throw .value
    else return reply

/-- `format_timestamp` -/
def guiTime (epochText : Bytes) : Gui Bytes :=
  match pyInt epochText with
  | none => throw .value
  | some epoch => Gui.result (localTime epoch)

/-- `decode_measurements`, with the exception that `dict` raises. -/
def guiMeasurements (field : Bytes) : Gui (List (Bytes × Bytes)) :=
  match decodeMeasurements field with
  | none => throw .value
  | some entries => pure entries

/-- The measurements of a reply to `GET_LAST`. -/
def replyMeasurements (last : List Bytes) : Gui (List (Bytes × Bytes)) := do
  if (← Gui.item last 0) = ascii "OK" then guiMeasurements (← Gui.item last 3)
  else return []

/-- The row of a node. -/
def nodeValues (row : List Bytes) : Gui (List Bytes × Bytes) :=
  match row with
  | [nodeId, state, secondsAgo] => do
      let last ← Gui.item (← query request (ascii "GET_LAST") [nodeId]) 0
      let measurements ← replyMeasurements last
      return (nodeId :: state :: secondsAgo ::
        measurementColumns.map (fun name => (measurements.lookup name).getD (ascii "-")), state)
  | _ => throw .value

/-- The row of an alert. -/
def alertValues (row : List Bytes) : Gui (List Bytes × Bytes) :=
  match row with
  | [timestamp, nodeId, alertType, value] => do
      let time ← guiTime localTime timestamp
      return ([time, nodeId, alertType, value], ascii "ALERT")
  | _ => throw .value

/-- The label for the last of the alerts that were pushed. -/
def showPushed (pushed : List (List Bytes)) : Gui Unit :=
  match pushed.getLast? with
  | none => pure ()
  | some [_, nodeId, alertType, value] =>
      modify fun w => { w with
        lastAlertLabel := ascii "!! ALERT received: " ++ nodeId ++ ascii " " ++ alertType ++
          ascii " " ++ value }
  | some _ => throw .value

/-- `_refresh` -/
def refreshTables : Gui Unit := do
  showPushed (← take takeAlerts)
  let status ← query request (ascii "GET_STATUS") []
  let counters ← Gui.item (← Gui.item status 0) 1
  modify fun w => { w with statusLabel := spaced counters }
  let nodes ← query request (ascii "GET_NODES") []
  let nodeRows ← (nodes.drop 1).mapM (nodeValues request)
  modify fun w => { w with nodeTable := nodeRows }
  let alerts ← query request (ascii "GET_ALERTS") []
  let alertRows ← (alerts.drop 1).reverse.mapM (alertValues localTime)
  modify fun w => { w with alertTable := alertRows }

/-- The window after `after_cancel` of the pending refresh. -/
def Window.cancel (w : Window) : Window :=
  match w.refreshTimer with
  | none => w
  | some timer => { w with timers := w.timers.erase timer, refreshTimer := none }

def cancelRefresh : Gui Unit := modify Window.cancel

/-- `after(REFRESH_MS, self.refresh)` -/
def planRefresh : Gui Unit :=
  modify fun w => { w with
    timers := w.timers ++ [w.afters], refreshTimer := some w.afters, afters := w.afters + 1 }

/-- The connection of a refresh. -/
def reconnect : Gui Unit := do
  let w ← get
  if w.socket = none then do
    connect connectTo
    if ← subscribe request then return ()
    else throw .connection
  else return ()

/-- `refresh` -/
def refresh : Gui Unit := do
  cancelRefresh
  tryCatch (do
    reconnect connectTo request
    refreshTables request takeAlerts localTime) fun raised =>
      if raised.isHandled then do
        closeConnection
        modify fun w => { w with statusLabel := ascii "Disconnected; retry in 3s: " ++ str raised }
      else throw raised
  planRefresh

/-- The title and the text of the message box for a reply to `GET_LAST`. -/
def replyBox (nodeId : Bytes) (line : List Bytes) : Gui (Bytes × Bytes) := do
  if (← Gui.item line 0) ≠ ascii "OK" then
    return (ascii "Server error", (← Gui.item line 1) ++ ascii ": " ++ (← Gui.item line 2))
  else
    let field ← Gui.item line 3
    if field = ascii "NO_DATA" then return (nodeId, ascii "No measurements yet")
    else
      let entries ← guiMeasurements field
      let time ← guiTime localTime (← Gui.item line 2)
      return (nodeId ++ ascii " - " ++ time,
        List.intercalate [10] (entries.map fun e => e.1 ++ ascii ": " ++ e.2))

/-- `query_single_node` -/
def querySingleNode (text : Bytes) : Gui Unit := do
  if strip text = [] then return ()
  else
    let reply ← tryCatch (do
      let reply ← query request (ascii "GET_LAST") [strip text]
      return some reply) fun raised =>
        if raised = .connection ∨ raised = .value then do
          modify fun w => { w with statusLabel := ascii "Query failed: " ++ str raised }
          return none
        else throw raised
    match reply with
    | none => return ()
    | some reply =>
        let box ← replyBox localTime (strip text) (← Gui.item reply 0)
        modify fun w => { w with boxes := w.boxes ++ [box] }

/-! ## The program -/

/-- `main` up to the main loop. -/
def openWindow : Gui Unit := do
  tryCatch (do
    connect connectTo
    let _ ← subscribe request
    return ()) fun raised => if raised = .connection then closeConnection else throw raised
  refresh connectTo request takeAlerts localTime str

/-- What the main loop runs. -/
inductive GuiEvent where
  /-- A timer, if it is pending. -/
  | fire (timer : Nat)
  | refreshButton
  | queryButton (text : Bytes)

/-- A callback in the main loop: what it raises is only reported. -/
def Window.callback (w : Window) : GuiEvent → Window
  | .fire timer =>
      if timer ∈ w.timers then
        ((refresh connectTo request takeAlerts localTime str).run.run
          { w with timers := w.timers.erase timer }).2
      else w
  | .refreshButton => ((refresh connectTo request takeAlerts localTime str).run.run w).2
  | .queryButton text => ((querySingleNode request localTime str text).run.run w).2

/-- The window from `main` on, when no exception ends `main` before the main loop. -/
def windowMachine : Machine Window GuiEvent Unit where
  init := ((openWindow connectTo request takeAlerts localTime str).run.run Window.new).2
  step w event := ((), w.callback connectTo request takeAlerts localTime str event)

end Callbacks

end Telep
