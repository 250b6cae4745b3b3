import Telep.Misc.BitRow
import Telep.Misc.Machine
import Telep.Server.TelepProtocol

/-!
# The node registry (`node_registry.c`)

The registered nodes, the bitmap of received sequences and the ring of alerts. Every function
runs under the registry mutex, so each is one step on the whole state; `time(NULL)` is read
from a `Clock`, reading by reading.
-/

namespace Telep

/-- The successive values of `time(NULL)` inside one operation. -/
abbrev Clock := Nat → Int

structure TelemetryNode where
  inUse : Bool
  nodeId : Bytes
  /-- 0 while there is no telemetry yet -/
  lastSeen : Int
  measurements : List Measurement
  /-- -1 while there is none -/
  lastSequence : Int
  datagramsReceived : Nat
  datagramsLost : Nat
  session : Bytes
  duplicates : Nat
  reordered : Nat
  attempts : Nat
  sent : Nat
  omitted : Nat
  sendErrors : Nat
  reportSeen : Bool
  finalReport : Bool
  deriving DecidableEq

structure Alert where
  timestamp : Int
  nodeId : Bytes
  alertType : Bytes
  value : ℚ
  deriving DecidableEq

structure RegistrySnapshot where
  nodes : Fin maxNodes → TelemetryNode
  /-- The ring: alert number `k` is in slot `k % maxAlerts`. -/
  alerts : Fin maxAlerts → Alert
  totalAlerts : Nat
  bootId : Int
  startedAt : Int
  datagramsTotal : Nat
  datagramsUnknownNode : Nat
  datagramsInvalid : Nat

/-- The static state of the module: `registry` and the bitmap `seen`. -/
structure Registry extends RegistrySnapshot where
  seen : Fin maxNodes → BitRow

/-- A slot after `memset(slot, 0, sizeof *slot)`. -/
def TelemetryNode.zero : TelemetryNode where
  inUse := false
  nodeId := []
  lastSeen := 0
  measurements := []
  lastSequence := 0
  datagramsReceived := 0
  datagramsLost := 0
  session := []
  duplicates := 0
  reordered := 0
  attempts := 0
  sent := 0
  omitted := 0
  sendErrors := 0
  reportSeen := false
  finalReport := false

def registryInit (startedAt bootId : Int) : Registry where
  nodes := fun _ => .zero
  alerts := fun _ => ⟨0, [], [], 0⟩
  totalAlerts := 0
  bootId := bootId
  startedAt := startedAt
  datagramsTotal := 0
  datagramsUnknownNode := 0
  datagramsInvalid := 0
  seen := fun _ => .empty

namespace Registry

def setNode (r : Registry) (i : Fin maxNodes) (node : TelemetryNode) : Registry :=
  { r with nodes := Function.update r.nodes i node }

def setRow (r : Registry) (i : Fin maxNodes) (row : BitRow) : Registry :=
  { r with seen := Function.update r.seen i row }

/-- `datagrams_total++` -/
def countTotal (r : Registry) : Registry := { r with datagramsTotal := r.datagramsTotal + 1 }

/-- `datagrams_unknown_node++` -/
def countUnknown (r : Registry) : Registry :=
  { r with datagramsUnknownNode := r.datagramsUnknownNode + 1 }

/-- `datagrams_invalid++` -/
def countInvalid (r : Registry) : Registry :=
  { r with datagramsInvalid := r.datagramsInvalid + 1 }

end Registry

def findNode (r : RegistrySnapshot) (nodeId : Bytes) : Option (Fin maxNodes) :=
  (List.finRange maxNodes).find? fun i => (r.nodes i).inUse && (r.nodes i).nodeId == nodeId

/-- Creates the node in the first free slot; `none` if there is no room. -/
def createNode (r : Registry) (nodeId : Bytes) : Option (Fin maxNodes × Registry) :=
  match (List.finRange maxNodes).find? fun i => !(r.nodes i).inUse with
  | none => none
  | some i =>
      some (i, r.setNode i
        { TelemetryNode.zero with nodeId := nodeId, inUse := true, lastSequence := -1 })

/-- The error code, or `none` for the result 0, and the state after the call. -/
def registryRegisterNode (r : Registry) (nodeId session : Bytes) : Option ErrorCode × Registry :=
  match findNode r.toRegistrySnapshot nodeId with
  | some i => if (r.nodes i).session ≠ session then (some .idInUse, r) else (none, r)
  | none =>
      match createNode r nodeId with
      | none => (some .serverFull, r)
      | some (i, r') => (none, r'.setNode i { r'.nodes i with session := session })

def registryInvalidDatagram (r : Registry) : Registry := r.countInvalid

/-- `row` is the node's row of the bitmap. -/
def updateLoss (row : BitRow) (node : TelemetryNode) : TelemetryNode :=
  let receivedInReport := row.count node.attempts
  { node with
    datagramsLost := if receivedInReport < node.sent then node.sent - receivedInReport else 0 }

def registryReport (r : Registry) (id session : Bytes) (attempts sent omitted errors : Nat)
    (final : Bool) : Option ErrorCode × Registry :=
  match findNode r.toRegistrySnapshot id with
  | none => (some .unknownNode, r)
  | some i =>
      let n := r.nodes i
      if n.session ≠ session then (some .unknownNode, r)
      else if attempts ≠ sent + omitted + errors ∨ attempts < n.attempts ∨ sent < n.sent ∨
          omitted < n.omitted ∨ errors < n.sendErrors ∨
          (final ∧ (attempts : Int) ≤ n.lastSequence) ∨
          (n.finalReport ∧ (attempts ≠ n.attempts ∨ sent ≠ n.sent ∨ omitted ≠ n.omitted ∨
            errors ≠ n.sendErrors ∨ ¬ final)) then (some .badFormat, r)
      else
        let received := (r.seen i).count attempts
        if sent < received then (some .badFormat, r)
        else
          (none, r.setNode i (updateLoss (r.seen i)
            { n with attempts := attempts, sent := sent, omitted := omitted, sendErrors := errors,
                     reportSeen := true, finalReport := final }))

/-- Upper threshold per variable; 0 means that the variable never raises an alert. -/
def alertThreshold (variableName : Bytes) : ℚ :=
  if variableName = ascii "TEMP" then tempMax
  else if variableName = ascii "HUM" then humMax
  else if variableName = ascii "POWER" then powerMax
  else if variableName = ascii "VIB" then vibMax
  else 0

def isAnomalousValue (measurement : Measurement) : Bool :=
  if measurement.name = ascii "STATUS" then measurement.value = 0
  else
    let limit := alertThreshold measurement.name
    0 < limit ∧ limit < measurement.value

/-- Whether the last stored value of the variable was already in alert. -/
def wasAnomalous (node : TelemetryNode) (variableName : Bytes) : Bool :=
  match node.measurements.find? fun m => m.name = variableName with
  | some m => isAnomalousValue m
  | none => false

/-- Stores the alert in the ring and returns it; `now` is the reading of `time(NULL)`. -/
def addAlert (r : RegistrySnapshot) (now : Int) (nodeId variableName suffix : Bytes) (value : ℚ) :
    Alert × RegistrySnapshot :=
  let alert : Alert :=
    { timestamp := now, nodeId := nodeId,
      alertType := snprintf (maxVarName + 8) (variableName ++ ascii "_" ++ suffix),
      value := value }
  (alert, { r with
    alerts := Function.update r.alerts (Fin.ofNat maxAlerts r.totalAlerts) alert,
    totalAlerts := r.totalAlerts + 1 })

/-- The alert loop of `registry_record_telemetry`. `node` still holds the previous
measurements; `readings` counts the calls of `time(NULL)` made so far. -/
def raiseAlerts (node : TelemetryNode) (nodeId : Bytes) (clock : Clock) (readings : Nat)
    (r : RegistrySnapshot) : List Measurement → List Alert × RegistrySnapshot
  | [] => ([], r)
  | current :: values =>
      if isAnomalousValue current && !wasAnomalous node current.name then
        let (alert, r') :=
          if current.name = ascii "STATUS" then
            addAlert r (clock readings) nodeId (ascii "STATUS") (ascii "FAIL") 0
          else addAlert r (clock readings) nodeId current.name (ascii "HIGH") current.value
        let (alerts, r'') := raiseAlerts node nodeId clock (readings + 1) r' values
        (alert :: alerts, r'')
      else raiseAlerts node nodeId clock readings r values

/-- The new alerts, or `none` for the result -1, and the state after the call. -/
def registryRecordTelemetry (r : Registry) (clock : Clock) (nodeId session : Bytes)
    (sequence : Nat) (values : List Measurement) : Option (List Alert) × Registry :=
  let r := r.countTotal
  match findNode r.toRegistrySnapshot nodeId with
  | none => (none, r.countUnknown)
  | some i =>
      let node := r.nodes i
      if node.session ≠ session then (none, r.countUnknown)
      else if node.finalReport ∧ node.attempts ≤ sequence then (none, r.countInvalid)
      else if (r.seen i).test sequence then
        (some [], r.setNode i { node with duplicates := node.duplicates + 1 })
      else
        let row := (r.seen i).set sequence
        let r := r.setRow i row
        let node := updateLoss row
          { node with datagramsReceived := node.datagramsReceived + 1, lastSeen := clock 0 }
        if (sequence : Int) < node.lastSequence then
          (some [], r.setNode i { node with reordered := node.reordered + 1 })
        else
          let node := { node with lastSequence := sequence }
          let (newAlerts, s) := raiseAlerts node nodeId clock 1 r.toRegistrySnapshot values
          let r := { r with toRegistrySnapshot := s }
          (some newAlerts, r.setNode i { node with measurements := values })

def nodeIsActive (node : TelemetryNode) (now : Int) : Bool :=
  node.inUse ∧ node.lastSeen ≠ 0 ∧ now - node.lastSeen < activeTimeout

/-! ## Runs of the registry -/

/-- The counters of a `REPORT` that `handle_command` lets through. -/
structure ReportCounters where
  attempts : Nat
  sent : Nat
  omitted : Nat
  errors : Nat
  attempts_le : attempts ≤ sessionLimit
  sent_le : sent ≤ sessionLimit
  omitted_le : omitted ≤ sessionLimit
  errors_le : errors ≤ sessionLimit
  deriving DecidableEq

/-- The calls the servers make, with arguments as their callers let them through. -/
inductive RegistryOp where
  | hello (id : NodeId) (session : Session)
  | report (id : NodeId) (session : Session) (counters : ReportCounters) (final : Bool)
  | telemetry (id : NodeId) (session : Session) (sequence : Fin sessionLimit)
      (values : MeasurementSet) (clock : Clock)
  | invalidDatagram

/-- The answer to a call: the result code of a `HELLO` or `REPORT`, the new alerts of a
datagram (`none` when it is rejected), nothing for `registry_invalid_datagram`. -/
inductive RegistryAnswer where
  | result (code : Option ErrorCode)
  | recorded (newAlerts : Option (List Alert))
  | counted
  deriving DecidableEq

def registryStep (r : Registry) : RegistryOp → RegistryAnswer × Registry
  | .hello id session =>
      let (code, r') := registryRegisterNode r id.val session.val
      (.result code, r')
  | .report id session c final =>
      let (code, r') := registryReport r id.val session.val c.attempts c.sent c.omitted c.errors
        final
      (.result code, r')
  | .telemetry id session sequence values clock =>
      let (newAlerts, r') := registryRecordTelemetry r clock id.val session.val sequence.val
        values.val
      (.recorded newAlerts, r')
  | .invalidDatagram => (.counted, registryInvalidDatagram r)

/-- The registry of a server process started at `startedAt` with identity `bootId`. -/
def registryMachine (startedAt bootId : Int) : Machine Registry RegistryOp RegistryAnswer where
  init := registryInit startedAt bootId
  step := registryStep

end Telep
