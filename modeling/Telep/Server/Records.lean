import Telep.Misc.SlotTable
import Telep.Server.NodeRegistry

/-!
# The registry as a map from identifiers to records

What the registry is for, said without slots: each identifier has at most one record, created
by its first `HELLO` and never removed, and a call reads and writes only the record of the
identifier it names. `stepRecord` and `answerRecord` say what a call does to that record and
what it answers; the only other thing they depend on is whether a slot was free.
-/

namespace Telep

/-- A node and its row of the bitmap. -/
structure Record where
  node : TelemetryNode
  row : BitRow

namespace Record

/-- The record of an identifier right after its first `HELLO`. -/
def created (id session : Bytes) : Record where
  node := { TelemetryNode.zero with
    nodeId := id, inUse := true, lastSequence := -1, session := session }
  row := .empty

/-- The reports of the bound session that are answered `BAD_FORMAT`. -/
def Refuses (x : Record) (attempts sent omitted errors : Nat) (final : Bool) : Prop :=
  (attempts ≠ sent + omitted + errors ∨ attempts < x.node.attempts ∨ sent < x.node.sent ∨
    omitted < x.node.omitted ∨ errors < x.node.sendErrors ∨
    (final ∧ (attempts : Int) ≤ x.node.lastSequence) ∨
    (x.node.finalReport ∧ (attempts ≠ x.node.attempts ∨ sent ≠ x.node.sent ∨
      omitted ≠ x.node.omitted ∨ errors ≠ x.node.sendErrors ∨ ¬ final))) ∨
  sent < x.row.count attempts

instance (x : Record) (attempts sent omitted errors : Nat) (final : Bool) :
    Decidable (x.Refuses attempts sent omitted errors final) := by
  unfold Refuses
  infer_instance

/-- The record after an accepted report. -/
def reported (x : Record) (attempts sent omitted errors : Nat) (final : Bool) : Record where
  node := updateLoss x.row
    { x.node with attempts := attempts, sent := sent, omitted := omitted, sendErrors := errors,
                  reportSeen := true, finalReport := final }
  row := x.row

/-- The sequences that a final report has excluded. -/
def Late (x : Record) (sequence : Nat) : Prop :=
  x.node.finalReport = true ∧ x.node.attempts ≤ sequence

instance (x : Record) (sequence : Nat) : Decidable (x.Late sequence) :=
  inferInstanceAs (Decidable (_ ∧ _))

/-- The record after a repeated sequence. -/
def duplicated (x : Record) : Record :=
  { x with node := { x.node with duplicates := x.node.duplicates + 1 } }

/-- The part of accepting a new sequence that does not depend on its order. -/
def counted (x : Record) (now : Int) (sequence : Nat) : TelemetryNode :=
  updateLoss (x.row.set sequence)
    { x.node with datagramsReceived := x.node.datagramsReceived + 1, lastSeen := now }

/-- The record after a new sequence below the highest one. -/
def overtaken (x : Record) (now : Int) (sequence : Nat) : Record where
  node := { x.counted now sequence with reordered := x.node.reordered + 1 }
  row := x.row.set sequence

/-- The record after a new highest sequence. -/
def advanced (x : Record) (now : Int) (sequence : Nat) (values : List Measurement) : Record where
  node := { x.counted now sequence with lastSequence := sequence, measurements := values }
  row := x.row.set sequence

/-- The record after a datagram of its session. -/
def telemetry (x : Record) (now : Int) (sequence : Nat) (values : List Measurement) : Record :=
  if x.Late sequence then x
  else if x.row.test sequence then x.duplicated
  else if (sequence : Int) < x.node.lastSequence then x.overtaken now sequence
  else x.advanced now sequence values

end Record

/-- Whether the last of the `stored` values of the variable was in alert. -/
def storedAnomalous (stored : List Measurement) (variableName : Bytes) : Bool :=
  match stored.find? fun m => m.name = variableName with
  | some m => isAnomalousValue m
  | none => false

/-- The alerts that `values` raise over the `stored` measurements. -/
def raisedAlerts (stored : List Measurement) (nodeId : Bytes) (clock : Clock) (readings : Nat) :
    List Measurement → List Alert
  | [] => []
  | current :: values =>
      if isAnomalousValue current && !storedAnomalous stored current.name then
        (if current.name = ascii "STATUS" then
          ⟨clock readings, nodeId, snprintf (maxVarName + 8) (ascii "STATUS_FAIL"), 0⟩
        else
          ⟨clock readings, nodeId,
            snprintf (maxVarName + 8) (current.name ++ ascii "_" ++ ascii "HIGH"),
            current.value⟩) :: raisedAlerts stored nodeId clock (readings + 1) values
      else raisedAlerts stored nodeId clock readings values

/-- The new alerts of a datagram of the record's session, or `none` when it is rejected. -/
def Record.recorded (x : Record) (id : Bytes) (clock : Clock) (sequence : Nat)
    (values : List Measurement) : Option (List Alert) :=
  if x.Late sequence then none
  else if x.row.test sequence ∨ (sequence : Int) < x.node.lastSequence then some []
  else some (raisedAlerts x.node.measurements id clock 1 values)

/-- The identifier a call names. -/
def RegistryOp.nodeId : RegistryOp → Option Bytes
  | .hello id _ => some id.val
  | .report id _ _ _ => some id.val
  | .telemetry id _ _ _ _ => some id.val
  | .invalidDatagram => none

/-- What a call does to the record of the identifier it names. -/
def stepRecord (room : Bool) : RegistryOp → Option Record → Option Record
  | .hello id session, none => if room then some (.created id.val session.val) else none
  | .report _ session c final, some x =>
      if x.node.session = session.val ∧ ¬ x.Refuses c.attempts c.sent c.omitted c.errors final then
        some (x.reported c.attempts c.sent c.omitted c.errors final)
      else some x
  | .telemetry _ session sequence values clock, some x =>
      if x.node.session = session.val then some (x.telemetry (clock 0) sequence.val values.val)
      else some x
  | _, record => record

/-- What a call answers, given the record of the identifier it names. -/
def answerRecord (room : Bool) : RegistryOp → Option Record → RegistryAnswer
  | .hello _ _, none => .result (if room then none else some .serverFull)
  | .hello _ session, some x =>
      .result (if x.node.session = session.val then none else some .idInUse)
  | .report _ _ _ _, none => .result (some .unknownNode)
  | .report _ session c final, some x =>
      .result (if x.node.session = session.val then
        if x.Refuses c.attempts c.sent c.omitted c.errors final then some .badFormat else none
      else some .unknownNode)
  | .telemetry _ _ _ _ _, none => .recorded none
  | .telemetry id session sequence values clock, some x =>
      .recorded (if x.node.session = session.val then
        x.recorded id.val clock sequence.val values.val else none)
  | .invalidDatagram, _ => .counted

end Telep
