import Telep.Server.AlertSubscribers
import Telep.Server.ResponseFormat
import Telep.Server.SocketHelpers

/-!
# The command server (`tcp_command_server.c`)

`handleCommand` dispatches one line of a client. A reply is the list of the lines put on the
client's connection; the replies of the list commands end with the line `END`.
-/

namespace Telep

/-- What the threads of the server share: the registry and the subscriptions. -/
structure ServerState where
  registry : Registry
  subscribers : Subscribers

def replyError (code : ErrorCode) : List Bytes := sendTextLine (buildErrorResponse 64 code)

def replyStatus (r : Registry) (readings : Readings) : List Bytes :=
  let statusText := formatSystemStatus r.toRegistrySnapshot readings maxLine
  sendTextLine (snprintf (maxLine * 2) (ascii "OK|" ++ statusText))

/-- The row of a node in `GET_NODES`. -/
def nodeRow (node : TelemetryNode) (now : Int) : Bytes :=
  let secondsAgo := if node.lastSeen ≠ 0 then now - node.lastSeen else -1
  snprintf maxLine (node.nodeId ++ ascii "|" ++
    (if nodeIsActive node now then ascii "ACTIVE" else ascii "INACTIVE") ++ ascii "|" ++
    formatInt secondsAgo)

/-- `OK|<n>` -/
def listHeader (n : Nat) : Bytes := snprintf maxLine (ascii "OK|" ++ decimal n)

/-- The header, the rows and `END`. -/
def replyList (n : Nat) (rows : List Bytes) : List Bytes :=
  sendTextLine (listHeader n) ++ rows.flatMap sendTextLine ++ sendTextLine (ascii "END")

def replyNodeList (r : Registry) (readings : Readings) : List Bytes :=
  let now := readings.clock 0
  replyList (countRegisteredNodes r.toRegistrySnapshot)
    ((registeredNodes r.toRegistrySnapshot).map fun node => nodeRow node now)

def replyLastMeasurement (r : Registry) (nodeId : Bytes) : List Bytes :=
  match snapshotFindNode r.toRegistrySnapshot nodeId with
  | none => replyError .unknownNode
  | some node =>
      sendTextLine (snprintf (maxLine * 2)
        (if node.lastSeen = 0 then ascii "OK|" ++ node.nodeId ++ ascii "|0|NO_DATA"
        else ascii "OK|" ++ node.nodeId ++ ascii "|" ++ formatInt node.lastSeen ++ ascii "|" ++
          formatMeasurements node maxLine))

/-- The row of an alert in `GET_ALERTS`. -/
def alertRow (alert : Alert) : Bytes :=
  snprintf maxLine (formatInt alert.timestamp ++ ascii "|" ++ alert.nodeId ++ ascii "|" ++
    alert.alertType ++ ascii "|" ++ formatFixed2 alert.value)

/-- The alerts the ring still holds, oldest first. -/
def shownAlerts (snapshot : RegistrySnapshot) : List Alert :=
  let shown := if snapshot.totalAlerts < maxAlerts then snapshot.totalAlerts else maxAlerts
  (List.range shown).map fun k =>
    snapshot.alerts (Fin.ofNat maxAlerts (snapshot.totalAlerts - shown + k))

def replyAlertList (r : Registry) : List Bytes :=
  replyList (shownAlerts r.toRegistrySnapshot).length
    ((shownAlerts r.toRegistrySnapshot).map alertRow)

/-- The row of a node in `STATS`. -/
def statsRow (n : TelemetryNode) : Bytes :=
  snprintf maxLine (n.nodeId ++ ascii "|" ++ n.session ++ ascii "|" ++
    (formatNodeStats n maxLine).take 800)

def replyStats (r : Registry) (id : Option Bytes) : List Bytes :=
  match id with
  | none =>
      replyList (countRegisteredNodes r.toRegistrySnapshot)
        ((registeredNodes r.toRegistrySnapshot).map statsRow)
  | some nodeId =>
      match snapshotFindNode r.toRegistrySnapshot nodeId with
      | none => replyError .unknownNode
      | some _ =>
          replyList 1 (((registeredNodes r.toRegistrySnapshot).filter fun n =>
            nodeId = n.nodeId).map statsRow)

/-- The lines of the reply, whether the connection must close, and the state after it. -/
structure CommandResult where
  reply : List Bytes
  closes : Bool
  state : ServerState

/-- A reply that changes nothing. -/
def ServerState.answers (s : ServerState) (reply : List Bytes) : CommandResult :=
  ⟨reply, false, s⟩

/-- The result of a call to the registry, with the reply `ok` for 0. -/
def ServerState.calls (s : ServerState) (call : Option ErrorCode × Registry) (ok : Bytes) :
    CommandResult :=
  ⟨match call.1 with
    | some code => replyError code
    | none => sendTextLine ok, false, { s with registry := call.2 }⟩

/-- The number of arguments a command takes; `none` for an unknown command. -/
def expectedArgs (command : Bytes) (argCount : Nat) : Option Nat :=
  if command = ascii "HELLO" then some 2
  else if command = ascii "REPORT" then some 7
  else if command = ascii "GET_LAST" then some 1
  else if command = ascii "STATS" then some (if argCount ≤ 1 then argCount else 0)
  else if command = ascii "BYE" ∨ command = ascii "GET_STATUS" ∨ command = ascii "GET_NODES" ∨
      command = ascii "GET_ALERTS" ∨ command = ascii "SUBSCRIBE" then some 0
  else none

/-- The `REPORT` branch; `values` are the five arguments after the session. -/
def handleReport (s : ServerState) (nodeId session : Bytes) (values : List Bytes) :
    CommandResult :=
  match values with
  | [attempts, sent, omitted, errors, final] =>
      if isValidNodeId nodeId ∧ isValidSession session then
        match parseUint attempts sessionLimit, parseUint sent sessionLimit,
          parseUint omitted sessionLimit, parseUint errors sessionLimit, parseUint final 1 with
        | some attempts, some sent, some omitted, some errors, some final =>
            s.calls (registryReport s.registry nodeId session attempts sent omitted errors
              (final ≠ 0)) (ascii "OK|REPORTED")
        | _, _, _, _, _ => s.answers (replyError .badFormat)
      else s.answers (replyError .badFormat)
  | _ => s.answers (replyError .badFormat)

/-- The commands that need a valid identifier as first argument. -/
def handleNodeCommand (s : ServerState) (command : Bytes) (args : List Bytes) : CommandResult :=
  let known := command = ascii "HELLO" ∨ command = ascii "GET_LAST"
  match args with
  | [] => s.answers (replyError (if known then .badFormat else .unknownCmd))
  | firstArg :: rest =>
      if ¬ isValidNodeId firstArg then
        s.answers (replyError (if known then .badFormat else .unknownCmd))
      else if command = ascii "HELLO" then
        match rest with
        | [] => s.answers (replyError .badFormat)
        | session :: _ =>
            if ¬ isValidSession session then s.answers (replyError .badFormat)
            else s.calls (registryRegisterNode s.registry firstArg session)
              (ascii "OK|REGISTERED")
      else if command = ascii "GET_LAST" then
        s.answers (replyLastMeasurement s.registry firstArg)
      else s.answers (replyError .unknownCmd)

/-- `fd` is the client's connection. -/
def handleCommand (s : ServerState) (fd : ClientFd) (readings : Readings) (line : Bytes) :
    CommandResult :=
  match parseMessage line with
  | none => s.answers (replyError .badFormat)
  | some message =>
      let command := message.command
      match expectedArgs command message.args.length with
      | none => s.answers (replyError .unknownCmd)
      | some expected =>
          if message.args.length ≠ expected then s.answers (replyError .badFormat)
          else if command = ascii "STATS" then
            match message.args.head? with
            | none => s.answers (replyStats s.registry none)
            | some id =>
                if isValidNodeId id then s.answers (replyStats s.registry (some id))
                else s.answers (replyError .badFormat)
          else if command = ascii "REPORT" then
            match message.args with
            | nodeId :: session :: values => handleReport s nodeId session values
            | _ => s.answers (replyError .badFormat)
          else if command = ascii "BYE" then ⟨sendTextLine (ascii "OK|BYE"), true, s⟩
          else if command = ascii "GET_STATUS" then s.answers (replyStatus s.registry readings)
          else if command = ascii "GET_NODES" then s.answers (replyNodeList s.registry readings)
          else if command = ascii "GET_ALERTS" then s.answers (replyAlertList s.registry)
          else if command = ascii "SUBSCRIBE" then
            let (result, subscribers) := subscribersAdd s.subscribers fd.val
            ⟨if result < 0 then replyError .serverFull else sendTextLine (ascii "OK|SUBSCRIBED"),
              false, { s with subscribers := subscribers }⟩
          else handleNodeCommand s command message.args

end Telep
