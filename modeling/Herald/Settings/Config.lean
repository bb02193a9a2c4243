import Herald.Json.Value
import Herald.Net.SocketAddr
import Herald.Protocol.WireFormat
import Herald.Core.Service
import Herald.Core.Backplane
import Herald.Error.Chain

set_option autoImplicit false

/-!
Server configuration: where to listen, per-session limits, the services'
limits, replication between processes, and metrics export.

Every setting has a default, so an empty configuration is complete. A
configuration is valid when sessions have a non-zero keepalive and the
recall lifetime is between one second and thirty days.
-/

namespace Herald.Settings

open Json Net

/-- Per-connection settings. -/
structure SessionSettings where
  outboundCapacity : Nat := 256
  keepaliveMs : Nat := 30000
  maxMessageSize : Nat := 65536
  wireFormat : WireFormat := .text
  deriving Inhabited

/-- Chat settings. -/
structure ChatSettings where
  maxContentLength : Nat := 4000
  defaultHistoryLimit : Nat := 50
  maxHistoryLimit : Nat := 100
  recallEnabled : Bool := true
  recallTtlSecs : Nat := 3600
  deriving Inhabited

/-- Notification settings. -/
structure NotificationSettings where
  maxContentLength : Nat := 1000
  defaultHistoryLimit : Nat := 50
  maxHistoryLimit : Nat := 100
  deriving Inhabited

/-- The kinds of replication transport. -/
inductive TransportKind where
  | bus | queue | mesh
  deriving DecidableEq, Repr, Inhabited

def TransportKind.name : TransportKind → String
  | .bus => "bus"
  | .queue => "queue"
  | .mesh => "mesh"

def TransportKind.all : List TransportKind := [.bus, .queue, .mesh]

/-- Replication settings. -/
structure BackplaneSettings where
  transports : List TransportKind := []
  subjectPrefix : String := "courier"
  meshListen : Option SocketAddr := none
  meshPeers : List SocketAddr := []
  meshReconnectDelayMs : Nat := 1000
  resubscribeAttempts : Nat := 5
  resubscribeDelayMs : Nat := 100
  deriving Inhabited

/-- Metrics settings. -/
structure MetricsSettings where
  enabled : Bool := true
  port : Nat := 9090
  deriving Inhabited

/-- The server configuration. -/
structure Config where
  host : String := "127.0.0.1"
  port : Nat := 8080
  session : SessionSettings := {}
  chat : ChatSettings := {}
  notifications : NotificationSettings := {}
  backplane : BackplaneSettings := {}
  metrics : MetricsSettings := {}
  deriving Inhabited

/-- The longest recall lifetime accepted, in seconds. -/
def maxRecallTtlSecs : Nat := 30 * 24 * 60 * 60

namespace Config

/-- The configuration as it is written out. -/
def toJson (c : Config) : Json :=
  .obj [("host", .str c.host), ("port", .nat c.port),
    ("session", .obj [("outbound_capacity", .nat c.session.outboundCapacity),
      ("keepalive_ms", .nat c.session.keepaliveMs), ("max_message_size", .nat c.session.maxMessageSize),
      ("wire_format", .str c.session.wireFormat.name)]),
    ("chat", .obj [("max_content_length", .nat c.chat.maxContentLength),
      ("default_history_limit", .nat c.chat.defaultHistoryLimit),
      ("max_history_limit", .nat c.chat.maxHistoryLimit), ("recall_enabled", .bool c.chat.recallEnabled),
      ("recall_ttl_secs", .nat c.chat.recallTtlSecs)]),
    ("notifications", .obj [("max_content_length", .nat c.notifications.maxContentLength),
      ("default_history_limit", .nat c.notifications.defaultHistoryLimit),
      ("max_history_limit", .nat c.notifications.maxHistoryLimit)]),
    ("backplane", .obj [("transports", .arr (c.backplane.transports.map fun t => .str t.name)),
      ("subject_prefix", .str c.backplane.subjectPrefix),
      ("mesh_listen", Json.ofOption (fun a => .str a.render) c.backplane.meshListen),
      ("mesh_peers", .arr (c.backplane.meshPeers.map fun a => .str a.render)),
      ("mesh_reconnect_delay_ms", .nat c.backplane.meshReconnectDelayMs),
      ("resubscribe_attempts", .nat c.backplane.resubscribeAttempts),
      ("resubscribe_delay_ms", .nat c.backplane.resubscribeDelayMs)]),
    ("metrics", .obj [("enabled", .bool c.metrics.enabled), ("port", .nat c.metrics.port)])]

/-- Reject settings the services cannot run with, naming the first. -/
def validate (c : Config) : Except String Unit :=
  if c.session.keepaliveMs == 0 then .error "session.keepalive_ms must be greater than zero"
  else if c.chat.recallTtlSecs == 0 || c.chat.recallTtlSecs > maxRecallTtlSecs then
    .error s!"chat.recall_ttl_secs must be between 1 and {maxRecallTtlSecs}"
  else .ok ()

/-- The address to listen on: `host:port` read as a socket address. -/
def bindAddress (c : Config) : Except ErrorChain SocketAddr :=
  match SocketAddr.parse s!"{c.host}:{c.port}" with
  | some a => .ok a
  | none => .error ⟨s!"Invalid bind address {c.host}:{c.port}", [invalidSocketAddr]⟩

/-- The address to listen on, or why there is none, on one line. -/
def bindAddr (c : Config) : Except String SocketAddr := c.bindAddress.mapError (·.inline)

/-- The chat service settings this configuration gives. -/
def chatConfig (c : Config) : ChatConfig :=
  { maxContentLength := c.chat.maxContentLength, defaultHistoryLimit := c.chat.defaultHistoryLimit,
    maxHistoryLimit := c.chat.maxHistoryLimit, recallEnabled := c.chat.recallEnabled,
    recallTtl := ⟨c.chat.recallTtlSecs, 0⟩ }

/-- The notification service settings this configuration gives. -/
def notificationConfig (c : Config) : NotificationConfig :=
  { maxContentLength := c.notifications.maxContentLength,
    defaultHistoryLimit := c.notifications.defaultHistoryLimit,
    maxHistoryLimit := c.notifications.maxHistoryLimit }

def backplaneConfig (c : Config) : BackplaneConfig :=
  { subjectPrefix := c.backplane.subjectPrefix, resubscribeAttempts := c.backplane.resubscribeAttempts,
    initialDelay := c.backplane.resubscribeDelayMs * 1000000 }

/-- What the `config` answer shows of a configuration. -/
def summary (c : Config) : Json :=
  let bp := c.backplaneConfig
  .obj [("config", c.toJson),
    ("validate", match c.validate with
      | .ok () => .str "ok"
      | .error m => .obj [("error", .str "invalid"), ("message", .str m)]),
    ("bind_addr", match c.bindAddr with
      | .ok a => .str a.render
      | .error m => .obj [("error", .str "bind_addr"), ("message", .str m)]),
    ("session", .obj [("outbound_capacity", .nat c.session.outboundCapacity), ("reply_capacity", .nat 32),
      ("keepalive_ms", .nat c.session.keepaliveMs)]),
    ("chat", .obj [("max_content_length", .nat c.chat.maxContentLength),
      ("default_history_limit", .nat c.chat.defaultHistoryLimit),
      ("max_history_limit", .nat c.chat.maxHistoryLimit), ("recall_enabled", .bool c.chat.recallEnabled),
      ("recall_ttl_secs", .nat c.chat.recallTtlSecs)]),
    ("notifications", .obj [("max_content_length", .nat c.notifications.maxContentLength),
      ("default_history_limit", .nat c.notifications.defaultHistoryLimit),
      ("max_history_limit", .nat c.notifications.maxHistoryLimit)]),
    ("backplane", .obj [("subject", .str bp.subject), ("resubscribe_attempts", .nat bp.resubscribeAttempts),
      ("initial_delay_ms", .nat (bp.initialDelay / 1000000)), ("max_delay_ms", .nat (bp.maxDelay / 1000000))]),
    ("mesh", .obj [("listen", Json.ofOption (fun a => .str a.render) c.backplane.meshListen),
      ("peers", .arr (c.backplane.meshPeers.map fun a => .str a.render)),
      ("reconnect_delay_ms", .nat c.backplane.meshReconnectDelayMs)])]

end Config

end Herald.Settings
