import Telep.Misc.Machine
import Telep.Misc.SlotTable
import Telep.Misc.RingQueue
import Telep.Misc.BitRow
import Telep.Misc.ArrivalLog
import Telep.Misc.Text
import Telep.Misc.Rounding
import Telep.Misc.Frames
import Telep.Misc.Tokens
import Telep.Misc.Json
import Telep.Misc.Ledger
import Telep.Misc.FloorSteps
import Telep.Misc.Simulation
import Telep.Misc.Recency
import Telep.Misc.Decoders
import Telep.Misc.Actions
import Telep.Misc.HttpResponses
import Telep.Server.Config
import Telep.Server.TelepProtocol
import Telep.Server.NodeRegistry
import Telep.Server.AlertSubscribers
import Telep.Server.ResponseFormat
import Telep.Server.SocketHelpers
import Telep.Server.LineBuffer
import Telep.Server.TcpCommandServer
import Telep.Server.StatusPageCss
import Telep.Server.HttpStatusServer
import Telep.Server.HttpWire
import Telep.Server.ServiceHealth
import Telep.Server.UdpTelemetryServer
import Telep.Server.CheckedRegistry
import Telep.Server.AcceptLoops
import Telep.Server.ServerThreads
import Telep.Server.Records
import Telep.Server.Proofs.Records
import Telep.Server.Proofs.Server
import Telep.Server.Proofs.Messages
import Telep.Server.Proofs.Conservation
import Telep.Server.Proofs.Binding
import Telep.Server.Proofs.Subscriptions
import Telep.Server.Proofs.Statistics
import Telep.Server.Proofs.FinalReport
import Telep.Server.Proofs.Counters
import Telep.Server.Proofs.Bounds
import Telep.Server.Proofs.AlertLog
import Telep.Server.Proofs.Isolation
import Telep.Server.Proofs.AlertEdges
import Telep.Server.Proofs.Datagrams
import Telep.Server.Proofs.Hundredths
import Telep.Server.Proofs.Convergence
import Telep.Server.Proofs.Commands
import Telep.Server.Proofs.ThreadLinks
import Telep.Server.Proofs.PushedAlerts
import Telep.Server.Proofs.ThreadRegistry
import Telep.Server.Proofs.AlertGap
import Telep.Server.Proofs.Connections
import Telep.Server.Proofs.Streams
import Telep.Server.Proofs.ShownData
import Telep.Server.Proofs.ReplyText
import Telep.Server.Proofs.StoredMeasurements
import Telep.Server.Proofs.Activity
import Telep.Server.Proofs.ShownAlerts
import Telep.Server.Proofs.JsonBodies
import Telep.Server.Proofs.StatusPage
import Telep.Server.Proofs.Highlights
import Telep.Server.Proofs.RouteRequests
import Telep.Server.Proofs.ServiceHealth
import Telep.Server.Proofs.HttpWire
import Telep.Server.Proofs.Replies
import Telep.Server.Proofs.Lines
import Telep.Server.Proofs.Refusals
import Telep.Server.Proofs.Progress
import Telep.Server.Proofs.AcceptLoops
import Telep.Server.Proofs.Wire
import Telep.Client.Telep
import Telep.Client.OperatorSession
import Telep.Client.OperatorLink
import Telep.Client.Node
import Telep.Client.Measurements
import Telep.Client.OperatorCli
import Telep.Client.OperatorGui
import Telep.Client.Proofs.Measurements
import Telep.Client.Proofs.NodeInvariant
import Telep.Client.Proofs.NodeServer
import Telep.Client.Proofs.NodeSteps
import Telep.Client.Proofs.NodeExchanges
import Telep.Client.Proofs.HonestNode
import Telep.Client.Proofs.DropSchedule
import Telep.Client.Proofs.Interrupt
import Telep.Client.Proofs.RoundTrips
import Telep.Client.Proofs.ReplyKinds
import Telep.Client.Proofs.OperatorSessions
import Telep.Client.Proofs.OperatorLinks
import Telep.Client.Proofs.DecodedReplies
import Telep.Client.Proofs.LinkedReplies
import Telep.Client.Proofs.LinkedAlerts
import Telep.Client.Proofs.OperatorCli
import Telep.Client.Proofs.LinkedCalls
import Telep.Client.Proofs.CliSessions
import Telep.Client.Proofs.OperatorGui
import Telep.Client.Proofs.WindowTables
