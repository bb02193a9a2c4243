import Herald.Cluster.Channel
import Herald.Cluster.Scheduler
import Herald.Cluster.Services
import Herald.Cluster.State
import Herald.Cluster.Tasks
import Herald.Cluster.Transport
import Herald.Core.Auth
import Herald.Core.Backplane
import Herald.Core.Hub
import Herald.Core.Recall
import Herald.Core.Service
import Herald.Core.Store
import Herald.Core.Topic
import Herald.Error.Chain
import Herald.Http.MediaType
import Herald.Http.Message
import Herald.Ident.Uuid
import Herald.Json.Read
import Herald.Json.Record
import Herald.Json.Value
import Herald.Json.Write
import Herald.Main
import Herald.Markup.Builder
import Herald.Markup.Dom
import Herald.Markup.Entities
import Herald.Markup.Sanitize
import Herald.Markup.Tokenizer
import Herald.Markup.TreeRules
import Herald.Net.Host
import Herald.Net.SocketAddr
import Herald.Number.Binary64
import Herald.Pack.Read
import Herald.Pack.Write
import Herald.Proofs.Broadcast
import Herald.Proofs.ChatSend
import Herald.Proofs.ClusterRun
import Herald.Proofs.HubDelivery
import Herald.Proofs.HubRegistry
import Herald.Proofs.PackRoundTrip
import Herald.Proofs.UuidText
import Herald.Proofs.FieldDecoding
import Herald.Proofs.BinaryFrames
import Herald.Proofs.JsonScanning
import Herald.Proofs.JsonReadBack
import Herald.Proofs.StoreRuns
import Herald.Proofs.HistoryPages
import Herald.Protocol.BinaryCodec
import Herald.Protocol.Envelope
import Herald.Protocol.Error
import Herald.Protocol.Frame
import Herald.Protocol.Model
import Herald.Protocol.TextCodec
import Herald.Protocol.WireFormat
import Herald.Scenario.Answer
import Herald.Scenario.Api
import Herald.Scenario.Frames
import Herald.Scenario.Http
import Herald.Scenario.Identity
import Herald.Scenario.Live
import Herald.Scenario.Markup
import Herald.Scenario.Normalize
import Herald.Scenario.Request
import Herald.Scenario.Server
import Herald.Scenario.Settings
import Herald.Scenario.World
import Herald.Scenario.WorldState
import Herald.Scenario.WorldSteps
import Herald.Server.App
import Herald.Server.Extract
import Herald.Server.Launch
import Herald.Server.Program
import Herald.Server.Router
import Herald.Server.Socket
import Herald.Settings.Config
import Herald.Settings.FromLayers
import Herald.Settings.FromToml
import Herald.Settings.Layered
import Herald.Settings.Load
import Herald.Text.CaseMap
import Herald.Text.CodeRanges
import Herald.Text.Escaped
import Herald.Text.Hex
import Herald.Text.Unicode
import Herald.Text.Utf8
import Herald.Time.Civil
import Herald.Time.Timestamp
import Herald.Toml.Failure
import Herald.Toml.Reader
import Herald.Toml.Tree
import Herald.Wire.Content
import Herald.Wire.Decode
import Herald.Proofs.QueueDelivery
import Herald.Proofs.SocketReading
import Herald.Proofs.TextFrames
import Herald.Proofs.CodecRoundTrip
import Herald.Proofs.HubCounters
import Herald.Proofs.FrameSize
import Herald.Proofs.BufferedDecoding
import Herald.Proofs.PagingBack
import Herald.Proofs.MarkReadOnce
import Herald.Proofs.MessageText
import Herald.Proofs.RecallLatest
import Herald.Proofs.TransportContents
import Herald.Proofs.BackplaneReplication
import Herald.Proofs.RecallExpiry
import Herald.Proofs.MeshFrames
import Herald.Proofs.BackplanePublish
import Herald.Proofs.ConsumerLoop
import Herald.Proofs.SessionSteps
import Herald.Proofs.SessionWrites
import Herald.Proofs.RoomNames
import Herald.Proofs.ReadBuffer
import Herald.Proofs.BackplaneStart
import Herald.Proofs.EscapedText
import Herald.Proofs.EscapeReading
import Herald.Proofs.StripTwice
import Herald.Proofs.SendInterleaving
import Herald.Proofs.MarkReadInterleaving
import Herald.Proofs.HubInterleaving
import Herald.Proofs.SessionLifecycle
