import Telep.Server.TcpCommandServer

/-!
# The registry with its array indices checked

The functions of `node_registry.c` that index an array, once more, over arrays of the sizes they
are declared with: `none` stands for an index out of range and for an overflow of the `int`
`total_alerts`. `Proofs.Bounds` shows that no run of the server gets there.
-/

namespace Telep

/-- `INT_MAX` -/
def intMax : Nat := 2 ^ 31 - 1

/-- The bytes of a row of `seen`. -/
abbrev rowBytes : Nat := sessionLimit / 8

/-- The bit of `q`, in byte `q / 8`. -/
def testChecked (row : BitRow) (q : Nat) : Option Bool :=
  if q / 8 < rowBytes then some (row.test q) else none

def setChecked (row : BitRow) (q : Nat) : Option BitRow :=
  if q / 8 < rowBytes then some (row.set q) else none

/-- The counting loop of `update_loss` and `registry_report`. -/
def countChecked (row : BitRow) : Nat → Option Nat
  | 0 => some 0
  | q + 1 => do
      let n ← countChecked row q
      let bit ← testChecked row q
      return n + bit.toNat

def updateLossChecked (row : BitRow) (node : TelemetryNode) : Option TelemetryNode := do
  let receivedInReport ← countChecked row node.attempts
  return { node with
    datagramsLost := if receivedInReport < node.sent then node.sent - receivedInReport else 0 }

def registryReportChecked (r : Registry) (id session : Bytes)
    (attempts sent omitted errors : Nat) (final : Bool) :
    Option (Option ErrorCode × Registry) :=
  match findNode r.toRegistrySnapshot id with
  | none => some (some .unknownNode, r)
  | some i =>
      let n := r.nodes i
      if n.session ≠ session then some (some .unknownNode, r)
      else if attempts ≠ sent + omitted + errors ∨ attempts < n.attempts ∨ sent < n.sent ∨
          omitted < n.omitted ∨ errors < n.sendErrors ∨
          (final ∧ (attempts : Int) ≤ n.lastSequence) ∨
          (n.finalReport ∧ (attempts ≠ n.attempts ∨ sent ≠ n.sent ∨ omitted ≠ n.omitted ∨
            errors ≠ n.sendErrors ∨ ¬ final)) then some (some .badFormat, r)
      else do
        let received ← countChecked (r.seen i) attempts
        if sent < received then return (some .badFormat, r)
        else
          let node ← updateLossChecked (r.seen i)
            { n with attempts := attempts, sent := sent, omitted := omitted, sendErrors := errors,
                     reportSeen := true, finalReport := final }
          return (none, r.setNode i node)

/-- The slot `index % MAX_ALERTS` of the `int` `index`; `%` takes the sign of `index`. -/
def ringIndex (index : Int) : Option (Fin maxAlerts) :=
  if h : 0 ≤ index.tmod maxAlerts ∧ index.tmod maxAlerts < maxAlerts then
    some ⟨(index.tmod maxAlerts).toNat, (Int.toNat_lt h.1).mpr h.2⟩
  else none

def addAlertChecked (r : RegistrySnapshot) (now : Int) (nodeId variableName suffix : Bytes)
    (value : ℚ) : Option (Alert × RegistrySnapshot) := do
  let slot ← ringIndex r.totalAlerts
  let alert : Alert :=
    { timestamp := now, nodeId := nodeId,
      alertType := snprintf (maxVarName + 8) (variableName ++ ascii "_" ++ suffix),
      value := value }
  if r.totalAlerts < intMax then
    return (alert, { r with
      alerts := Function.update r.alerts slot alert, totalAlerts := r.totalAlerts + 1 })
  else none

/-- `newAlertCount` is the index of the next entry of `new_alerts`. -/
def raiseAlertsChecked (node : TelemetryNode) (nodeId : Bytes) (clock : Clock) (readings : Nat)
    (newAlertCount : Nat) (r : RegistrySnapshot) :
    List Measurement → Option (List Alert × RegistrySnapshot)
  | [] => some ([], r)
  | current :: values =>
      if isAnomalousValue current && !wasAnomalous node current.name then
        (if current.name = ascii "STATUS" then
          addAlertChecked r (clock readings) nodeId (ascii "STATUS") (ascii "FAIL") 0
        else
          addAlertChecked r (clock readings) nodeId current.name (ascii "HIGH")
            current.value).bind fun (alert, r') =>
          if newAlertCount < maxVars then
            (raiseAlertsChecked node nodeId clock (readings + 1) (newAlertCount + 1) r' values).map
              fun (alerts, r'') => (alert :: alerts, r'')
          else none
      else raiseAlertsChecked node nodeId clock readings newAlertCount r values

def registryRecordTelemetryChecked (r : Registry) (clock : Clock) (nodeId session : Bytes)
    (sequence : Nat) (values : List Measurement) : Option (Option (List Alert) × Registry) :=
  let r := r.countTotal
  match findNode r.toRegistrySnapshot nodeId with
  | none => some (none, r.countUnknown)
  | some i =>
      let node := r.nodes i
      if node.session ≠ session then some (none, r.countUnknown)
      else if node.finalReport ∧ node.attempts ≤ sequence then some (none, r.countInvalid)
      else do
        let seen ← testChecked (r.seen i) sequence
        if seen then
          return (some [], r.setNode i { node with duplicates := node.duplicates + 1 })
        else
          let row ← setChecked (r.seen i) sequence
          let r := r.setRow i row
          let node ← updateLossChecked row
            { node with datagramsReceived := node.datagramsReceived + 1, lastSeen := clock 0 }
          if (sequence : Int) < node.lastSequence then
            return (some [], r.setNode i { node with reordered := node.reordered + 1 })
          else
            let node := { node with lastSequence := (sequence : Int) }
            let (newAlerts, s) ←
              raiseAlertsChecked node nodeId clock 1 0 r.toRegistrySnapshot values
            let r := { r with toRegistrySnapshot := s }
            -- the `memcpy` fills an array of `MAX_VARS` measurements
            if values.length ≤ maxVars then
              return (some newAlerts, r.setNode i { node with measurements := values })
            else none

def registryStepChecked (r : Registry) : RegistryOp → Option (RegistryAnswer × Registry)
  | .hello id session =>
      let (code, r') := registryRegisterNode r id.val session.val
      some (.result code, r')
  | .report id session c final =>
      (registryReportChecked r id.val session.val c.attempts c.sent c.omitted c.errors final).map
        fun (code, r') => (.result code, r')
  | .telemetry id session sequence values clock =>
      (registryRecordTelemetryChecked r clock id.val session.val sequence.val values.val).map
        fun (newAlerts, r') => (.recorded newAlerts, r')
  | .invalidDatagram => some (.counted, registryInvalidDatagram r)

/-- The alerts a reader shows: the last `window` ones, oldest first. `GET_ALERTS` and the JSON page
show `MAX_ALERTS`, the HTML page the last 20. -/
def shownAlertsChecked (snapshot : RegistrySnapshot) (window : Nat) : Option (List Alert) :=
  let shown := if snapshot.totalAlerts < window then snapshot.totalAlerts else window
  (List.range shown).mapM fun k : Nat =>
    (ringIndex ((snapshot.totalAlerts : Int) - shown + k)).map snapshot.alerts

end Telep
