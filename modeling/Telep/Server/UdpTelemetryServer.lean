import Telep.Server.AlertSubscribers
import Telep.Server.TcpCommandServer

/-!
# The telemetry server (`udp_telemetry_server.c`) and the whole server

The body of the receive loop for one datagram of any content. `serverMachine` interleaves
datagrams with the commands of the connected clients; the sections of the registry and of the
subscribers run under different locks, and here each datagram and each command is one step.
-/

namespace Telep

/-- The text of a frame: one line feed, at its end, and no zero byte. -/
def datagramText (datagram : Bytes) : Option Bytes :=
  if datagram.length = 0 ∨ maxLine < datagram.length ∨ datagram.getLast? ≠ some lineFeed ∨
      0 ∈ datagram ∨ lineFeed ∈ datagram.dropLast then none
  else some datagram.dropLast

/-- The arguments of a well-formed `TELEMETRY` message. -/
structure TelemetryMessage where
  nodeId : Bytes
  session : Bytes
  sequence : Nat
  values : List Measurement

/-- The condition `well_formed`, with what it stores. -/
def parseTelemetry (strtod : Bytes → StrtodResult) (text : Bytes) : Option TelemetryMessage :=
  match parseMessage text with
  | none => none
  | some message =>
      if message.command ≠ ascii "TELEMETRY" then none
      else
        match message.args with
        | [nodeId, session, sequenceText, field] =>
            if ¬ isValidNodeId nodeId ∨ ¬ isValidSession session then none
            else
              match parseUint sequenceText (sessionLimit - 1) with
              | none => none
              | some sequence =>
                  (parseMeasurements strtod field maxVars).map fun values =>
                    ⟨nodeId, session, sequence, values⟩
        | _ => none

/-- What a datagram contains when it is syntactically well formed. -/
def wellFormedDatagram (strtod : Bytes → StrtodResult) (datagram : Bytes) :
    Option TelemetryMessage :=
  (datagramText datagram).bind (parseTelemetry strtod)

/-- One round of the receive loop: the alerts to broadcast and the registry after it. -/
def udpTelemetryServer (strtod : Bytes → StrtodResult) (r : Registry) (clock : Clock)
    (datagram : Bytes) : List Alert × Registry :=
  match datagramText datagram with
  | none => ([], registryInvalidDatagram r)
  | some text =>
      match parseTelemetry strtod text with
      | none => ([], registryInvalidDatagram r)
      | some m =>
          let (newAlerts, r') := registryRecordTelemetry r clock m.nodeId m.session m.sequence
            m.values
          (newAlerts.getD [], r')

/-! ## The whole server -/

/-- What reaches the server: a datagram of any content, or a line of a client. -/
inductive ServerInput where
  | datagram (clock : Clock) (bytes : Bytes)
  | command (fd : ClientFd) (readings : Readings) (line : Bytes)

/-- The lines put on the connection of the client, nothing for a datagram. -/
def serverStep (strtod : Bytes → StrtodResult) (s : ServerState) :
    ServerInput → List Bytes × ServerState
  | .datagram clock bytes =>
      let (newAlerts, r) := udpTelemetryServer strtod s.registry clock bytes
      ([], ⟨r, newAlerts.foldl (fun subs alert => (subscribersBroadcast subs alert).2)
        s.subscribers⟩)
  | .command fd readings line =>
      let result := handleCommand s fd readings line
      (result.reply, result.state)

def serverInit (startedAt bootId : Int) : ServerState :=
  ⟨registryInit startedAt bootId, subscribersInit⟩

def serverMachine (strtod : Bytes → StrtodResult) (startedAt bootId : Int) :
    Machine ServerState ServerInput (List Bytes) where
  init := serverInit startedAt bootId
  step := serverStep strtod

end Telep
