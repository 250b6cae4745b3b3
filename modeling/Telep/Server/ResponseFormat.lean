import Telep.Server.NodeRegistry

/-!
# The text of the replies (`response_format.c`)

`%ld` and `%d` of a counter are `decimal`, of a time `formatInt`. The health of the services
and the number of slow subscribers are readings taken while the reply is built.
-/

namespace Telep

/-- The readings a reply depends on besides the registry. -/
structure Readings where
  clock : Clock
  tcpOk : Bool
  udpOk : Bool
  /-- What `subscribers_dropped` returns, in a section of its own. -/
  dropped : Nat

/-- The text of one measurement in `GET_LAST`. -/
def formatMeasurement (m : Measurement) : Bytes :=
  if m.name = ascii "STATUS" then
    m.name ++ ascii "=" ++ if m.value ≠ 0 then ascii "OK" else ascii "FAIL"
  else m.name ++ ascii "=" ++ formatFixed2 m.value

/-- The loop of `format_measurements`: `written` counts the bytes of the texts written so far,
cut or not, and `separator` is empty before the first one. -/
def formatMeasurementsFrom (outSize : Nat) (out : Bytes) (written : Nat) (separator : Bytes) :
    List Measurement → Bytes
  | [] => out
  | m :: ms =>
      if written < outSize then
        let text := separator ++ formatMeasurement m
        formatMeasurementsFrom outSize (out ++ snprintf (outSize - written) text)
          (written + text.length) (ascii ";") ms
      else out

def formatMeasurements (node : TelemetryNode) (outSize : Nat) : Bytes :=
  formatMeasurementsFrom outSize [] 0 [] node.measurements

def snapshotFindNode (snapshot : RegistrySnapshot) (nodeId : Bytes) : Option TelemetryNode :=
  ((List.finRange maxNodes).find? fun i =>
    (snapshot.nodes i).inUse && (snapshot.nodes i).nodeId == nodeId).map snapshot.nodes

/-- The nodes of the slots in use, in the order of the slots. -/
def registeredNodes (snapshot : RegistrySnapshot) : List TelemetryNode :=
  ((List.finRange maxNodes).map snapshot.nodes).filter TelemetryNode.inUse

def countRegisteredNodes (snapshot : RegistrySnapshot) : Nat := (registeredNodes snapshot).length

def countActiveNodes (snapshot : RegistrySnapshot) (now : Int) : Nat :=
  ((List.finRange maxNodes).map snapshot.nodes).countP fun node => nodeIsActive node now

/-- The sum of a counter over the slots in use. -/
def sumNodes (snapshot : RegistrySnapshot) (counter : TelemetryNode → Nat) : Nat :=
  ((registeredNodes snapshot).map counter).sum

def sumLostDatagrams (snapshot : RegistrySnapshot) : Nat :=
  sumNodes snapshot TelemetryNode.datagramsLost

/-- `key=value` -/
def statField (key : String) (value : Bytes) : Bytes := ascii key ++ ascii "=" ++ value

def formatNodeStats (n : TelemetryNode) (size : Nat) : Bytes :=
  snprintf size <| List.intercalate (ascii ";")
    [statField "attempts" (decimal n.attempts), statField "sent" (decimal n.sent),
      statField "omitted" (decimal n.omitted), statField "send_errors" (decimal n.sendErrors),
      statField "unique" (decimal n.datagramsReceived),
      statField "duplicates" (decimal n.duplicates), statField "reordered" (decimal n.reordered),
      statField "loss_estimated" (decimal n.datagramsLost),
      statField "report_seen" (decimal n.reportSeen.toNat),
      statField "final_report" (decimal n.finalReport.toNat)]

/-- `time(NULL)` is read once for the uptime and once for the active nodes. -/
def formatSystemStatus (s : RegistrySnapshot) (readings : Readings) (size : Nat) : Bytes :=
  snprintf size <| List.intercalate (ascii ";")
    [statField "boot_id" (formatInt s.bootId),
      statField "uptime" (formatInt (readings.clock 0 - s.startedAt)),
      statField "registered" (decimal (countRegisteredNodes s)),
      statField "active" (decimal (countActiveNodes s (readings.clock 1))),
      statField "tcp_ok" (decimal readings.tcpOk.toNat),
      statField "udp_ok" (decimal readings.udpOk.toNat),
      statField "udp_rx" (decimal s.datagramsTotal),
      statField "udp_invalid" (decimal s.datagramsInvalid),
      statField "udp_unknown" (decimal s.datagramsUnknownNode),
      statField "attempts" (decimal (sumNodes s TelemetryNode.attempts)),
      statField "sent" (decimal (sumNodes s TelemetryNode.sent)),
      statField "omitted" (decimal (sumNodes s TelemetryNode.omitted)),
      statField "send_errors" (decimal (sumNodes s TelemetryNode.sendErrors)),
      statField "unique" (decimal (sumNodes s TelemetryNode.datagramsReceived)),
      statField "duplicates" (decimal (sumNodes s TelemetryNode.duplicates)),
      statField "reordered" (decimal (sumNodes s TelemetryNode.reordered)),
      statField "loss_estimated" (decimal (sumLostDatagrams s)),
      statField "reports" (decimal (sumNodes s fun n => n.reportSeen.toNat)),
      statField "final_reports" (decimal (sumNodes s fun n => n.finalReport.toNat)),
      statField "alerts" (decimal s.totalAlerts),
      statField "slow_disconnected" (decimal readings.dropped)]

end Telep
