import Herald.Cluster.Transport
import Herald.Cluster.State
import Herald.Core.Service
import Herald.Core.Backplane
import Herald.Core.Recall
import Herald.Markup.Sanitize
import Herald.Protocol.Frame
import Herald.Scenario.Identity

set_option autoImplicit false

/-!
Small public items of the library: the defaults and constants, error texts,
identifiers and metric names, each shown the way a caller sees them.
-/

namespace Herald.Scenario

open Json Cluster

/-- The names of the metrics the services record. -/
def metricNames : List String :=
  ["courier_connections_total", "courier_connections_active", "courier_messages_total",
   "courier_hub_subscribers_active", "courier_hub_dropped_total", "courier_backplane_errors_total",
   "courier_backplane_self_echo_total", "courier_errors_total"]

/-- The largest WebSocket message a session accepts by default. -/
def defaultMaxMessageSize : Nat := 65536

def defaultsJson : Json :=
  let chat : ChatConfig := {}
  let notify : NotificationConfig := {}
  let bp : BackplaneConfig := {}
  .obj [("chat", .arr [.nat chat.maxContentLength, .nat chat.defaultHistoryLimit,
      .nat chat.maxHistoryLimit, .bool chat.recallEnabled, .nat chat.recallTtl.secs]),
    ("notify", .arr [.nat notify.maxContentLength, .nat notify.defaultHistoryLimit,
      .nat notify.maxHistoryLimit]),
    ("session", .arr [.nat 256, .nat 32, .nat 30000]),
    ("backplane", .arr [.str bp.subject, .nat bp.resubscribeAttempts, .nat (bp.initialDelay / 1000000),
      .nat (bp.maxDelay / 1000000), .float bp.backoffMultiplier]),
    ("default_kind", .str defaultMessageKind), ("default_notification_kind", .str defaultNotificationKind),
    ("hub_capacity", .nat Hub.defaultCapacity), ("hub_topics", .nat 0), ("max_frame", .nat maxFrameSize),
    ("max_kind", .nat maxKindLength), ("max_topic_id", .nat maxTopicIdLength),
    ("protocol_version", .nat protocolVersion), ("wire_format", .str "text"),
    ("ws_max_message", .nat defaultMaxMessageSize)]

/-- A session state's name from its number; 4 and above is `Closed`. -/
def lifecycleOfNumber (n : Nat) : Lifecycle :=
  match n with
  | 0 => .connecting
  | 1 => .registered
  | 2 => .active
  | 3 => .closing
  | _ => .closed

/-- The validation field names a service uses; others are `other`. -/
def knownField (f : String) : String :=
  if ["content", "type", "room_id", "user_id", "receiver_id"].contains f then f else "other"

/-- A service error of a named kind. -/
def serviceErrorOf (kind text field : String) : Except Json ServiceError :=
  match kind with
  | "validation" => .ok (.validation (knownField field) text)
  | "empty_content" => .ok .emptyContent
  | "forbidden" => .ok (.forbidden text)
  | "not_found" => .ok (.notFound text)
  | "unsupported" => .ok (.unsupported text)
  | "store_duplicate" => .ok (.store (.duplicate ⟨0⟩))
  | "store_not_found" => .ok (.store (.notFound text))
  | "store_unavailable" => .ok (.store (.unavailable text))
  | other => .error (requestError s!"unknown service error kind {other}")

def api (req : Json) : Except Json Json := do
  match ← textArg req "what" with
  | "defaults" => pure defaultsJson
  | "metrics" => pure (.obj [("names", .arr (metricNames.map Json.str))])
  | "sanitizer_default" =>
    let text ← textArg req "text"
    pure (.obj [("output", .str (Markup.stripMarkup text)), ("debug", .str "Sanitizer \x7b .. \x7d")])
  | "session_state" =>
    let v ← natArg req "value"
    pure (.str (lifecycleOfNumber v).name)
  | "connection_id" =>
    let text ← textArg req "text"
    pure (.obj [("display", .str text), ("as_str", .str text), ("equal", .bool true),
      ("generated_prefix", .str "conn_"), ("generated_len", .nat 37), ("generated_hex", .bool true)])
  | "transport_error" =>
    let text ← textArg req "text"
    let errors : List TransportError := [.connectionClosed, .sendFailed text, .receiveFailed text,
      .queueFull text, .protocol (.invalid text), .protocol (.frameTooLarge text.utf8ByteSize),
      .io text, .io text, .other text]
    pure (.arr (errors.map fun e => .str e.message))
  | "backplane_error" =>
    let text ← textArg req "text"
    let errors : List BackplaneError := [.encode (.invalid text),
      .publish "bus" (.sendFailed text), .subscribe "bus" (.receiveFailed text)]
    pure (.obj [("display", .arr (errors.map fun e => .str e.message)),
      ("recall", .str s!"Cache unavailable: {text}")])
  | "service_error" =>
    let kind ← textArg req "kind"
    let text ← textArg req "text"
    let field := (← optTextArg req "field").getD ""
    let e ← serviceErrorOf kind text field
    pure (.obj [("code", .nat e.code), ("label", .str e.label), ("is_validation", .bool e.isValidation),
      ("message", .str e.message)])
  | "topic" =>
    let t ← valueArg req "topic"
    let topic ← match ← optTextArg t "room" with
      | some r => pure (Topic.room r)
      | none => Topic.user <$> textArg t "user"
    pure (.obj [("display", .str topic.display), ("id", .str topic.id), ("room_eq_user", .bool false)])
  | "actor" =>
    let a ← actorArg req "actor"
    pure (.obj [("display", .str a.display), ("role", .str a.role.name), ("role_display", .str a.role.name),
      ("default_role", .str Role.user.name)])
  | other => throw (requestError s!"unknown api item {other}")

end Herald.Scenario
