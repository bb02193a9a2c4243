import Herald.Settings.Config
import Herald.Toml.Reader
import Herald.Wire.Content

set_option autoImplicit false

/-!
Reading a configuration out of a TOML document.

Each setting takes the value its key gives and keeps its default when the
key is absent; unknown keys are ignored. A value of the wrong kind is
reported with the value underlined: `invalid type: string "no", expected a
boolean`, `invalid value: integer \`-1\`, expected u16`. When the value has
no place in the text (an implicit table), its key is underlined instead.
A table may also be given as an array, its settings then taken in order.
-/

namespace Herald.Settings

open Toml Net

/-- A failure to read a setting: its message, where it points, and the keys
leading to it. -/
structure SettingError where
  message : String
  span : Option Toml.Span := none
  keys : List String := []
  deriving Inhabited

abbrev Decode := Except SettingError

/-- Point a failure at `item` unless it points somewhere already. -/
def pointAt {α : Type} (item : Item) (r : Decode α) : Decode α :=
  r.mapError fun e => if e.span.isNone then { e with span := item.span? } else e

/-- How an error text names a value of the document. -/
def describe : Item → String
  | .str s _ => "string " ++ quoteForError s
  | .int i _ => s!"integer `{i}`"
  | .float f _ => s!"floating point `{Binary64.renderPositional f}`"
  | .bool b _ => s!"boolean `{b}`"
  | .array .. | .tables .. => "sequence"
  | .datetime .. | .table .. => "map"

def wrongType {α : Type} (item : Item) (expected : String) : Decode α :=
  throw { message := s!"invalid type: {describe item}, expected {expected}", span := item.span? }

/-- An unsigned integer of at most `max`, named `typeName` in errors. -/
def decodeUnsigned (typeName : String) (max : Nat) (item : Item) : Decode Nat :=
  pointAt item <|
  match item with
  | .int i _ =>
    if 0 ≤ i && i.toNat ≤ max then pure i.toNat
    else throw { message := s!"invalid value: integer `{i}`, expected {typeName}" }
  | other => wrongType other typeName

def decodeUsize : Item → Decode Nat := decodeUnsigned "usize" 18446744073709551615

def decodeU64 : Item → Decode Nat := decodeUnsigned "u64" 18446744073709551615

def decodeU32 : Item → Decode Nat := decodeUnsigned "u32" 4294967295

def decodeU16 : Item → Decode Nat := decodeUnsigned "u16" 65535

def decodeBool (item : Item) : Decode Bool :=
  match item with
  | .bool b _ => pure b
  | other => wrongType other "a boolean"

def decodeString (item : Item) : Decode String :=
  match item with
  | .str s _ => pure s
  | other => wrongType other "a string"

/-- A socket address setting, written as text. -/
def decodeSocketAddr (item : Item) : Decode SocketAddr :=
  match item with
  | .str s _ =>
    match SocketAddr.parse s with
    | some a => pure a
    | none => throw { message := invalidSocketAddr, span := item.span? }
  | other => wrongType other "socket address"

/-- A list setting: an array, or an array of tables. -/
def decodeList {α : Type} (decodeItem : Item → Decode α) (item : Item) : Decode (List α) :=
  pointAt item <|
  match item with
  | .array items _ | .tables items _ => items.mapM fun i => pointAt i (decodeItem i)
  | other => wrongType other "a sequence"

/-- A unit-only enumeration setting: a name among `names`, or a table whose
single key is that name and whose value is empty. -/
def decodeChoice {α : Type} (names : List (String × α)) (item : Item) : Decode α :=
  let byName (name : String) (span : Option Toml.Span) : Decode α :=
    match names.lookup name with
    | some a => pure a
    | none => throw { message := unknownVariant name (names.map (·.1)), span }
  let emptyUnit (v : Item) : Decode Unit :=
    match v with
    | .array [] _ | .tables [] _ | .table [] .. => pure ()
    | .array .. | .tables .. => throw { message := "expected empty array", span := v.span? }
    | .table .. => throw { message := "expected empty table", span := v.span? }
    | other => throw { message := s!"expected table, found {other.typeName}", span := other.span? }
  pointAt item <|
  match item with
  | .str s _ => byName s item.span?
  | .table entries _ _ _ sp =>
    match entries with
    | [] => throw { message := "wanted exactly 1 element, found 0 elements", span := sp }
    | [(k, v)] => do
      let a ← byName k.name k.span
      emptyUnit v
      pure a
    | _ => throw { message := "wanted exactly 1 element, more than 1 element", span := sp }
  | other => throw { message := "wanted string or table", span := other.span? }

/-- A group of settings: a table whose known keys set fields of `init` in
the order they are written, or an array giving fields in declaration order. -/
def decodeGroup {α : Type} (name : String) (fields : List String) (init : α)
    (set : α → String → Item → Decode α) (item : Item) : Decode α :=
  pointAt item <|
  match item with
  | .table entries .. =>
    entries.foldlM (fun acc (k, v) =>
      if fields.contains k.name then
        (set acc k.name v).mapError fun e =>
          { e with span := e.span <|> v.span? <|> k.span, keys := k.name :: e.keys }
      else pure acc) init
  | .array items _ | .tables items _ =>
    (items.zip fields).foldlM (fun acc (v, f) => set acc f v) init
  | .datetime .. => pure init
  | other => wrongType other s!"struct {name}"

def decodeSession : Item → Decode SessionSettings :=
  decodeGroup "SessionSettings" ["outbound_capacity", "keepalive_ms", "max_message_size", "wire_format"] {}
    fun s f v => match f with
      | "outbound_capacity" => do return { s with outboundCapacity := ← decodeUsize v }
      | "keepalive_ms" => do return { s with keepaliveMs := ← decodeU64 v }
      | "max_message_size" => do return { s with maxMessageSize := ← decodeUsize v }
      | _ => do return { s with wireFormat := ← decodeChoice [("text", .text), ("binary", .binary)] v }

def decodeChat : Item → Decode ChatSettings :=
  decodeGroup "ChatSettings"
    ["max_content_length", "default_history_limit", "max_history_limit", "recall_enabled", "recall_ttl_secs"] {}
    fun s f v => match f with
      | "max_content_length" => do return { s with maxContentLength := ← decodeUsize v }
      | "default_history_limit" => do return { s with defaultHistoryLimit := ← decodeUsize v }
      | "max_history_limit" => do return { s with maxHistoryLimit := ← decodeUsize v }
      | "recall_enabled" => do return { s with recallEnabled := ← decodeBool v }
      | _ => do return { s with recallTtlSecs := ← decodeU64 v }

def decodeNotifications : Item → Decode NotificationSettings :=
  decodeGroup "NotificationSettings" ["max_content_length", "default_history_limit", "max_history_limit"] {}
    fun s f v => match f with
      | "max_content_length" => do return { s with maxContentLength := ← decodeUsize v }
      | "default_history_limit" => do return { s with defaultHistoryLimit := ← decodeUsize v }
      | _ => do return { s with maxHistoryLimit := ← decodeUsize v }

def decodeBackplane : Item → Decode BackplaneSettings :=
  decodeGroup "BackplaneSettings"
    ["transports", "subject_prefix", "mesh_listen", "mesh_peers", "mesh_reconnect_delay_ms",
     "resubscribe_attempts", "resubscribe_delay_ms"] {}
    fun s f v => match f with
      | "transports" => do
        return { s with transports := ← decodeList (decodeChoice (TransportKind.all.map fun t => (t.name, t))) v }
      | "subject_prefix" => do return { s with subjectPrefix := ← decodeString v }
      | "mesh_listen" => do return { s with meshListen := some (← pointAt v (decodeSocketAddr v)) }
      | "mesh_peers" => do return { s with meshPeers := ← decodeList decodeSocketAddr v }
      | "mesh_reconnect_delay_ms" => do return { s with meshReconnectDelayMs := ← decodeU64 v }
      | "resubscribe_attempts" => do return { s with resubscribeAttempts := ← decodeU32 v }
      | _ => do return { s with resubscribeDelayMs := ← decodeU64 v }

def decodeMetrics : Item → Decode MetricsSettings :=
  decodeGroup "MetricsConfig" ["enabled", "port"] {}
    fun s f v => match f with
      | "enabled" => do return { s with enabled := ← decodeBool v }
      | _ => do return { s with port := ← decodeU16 v }

def decodeConfig : Item → Decode Config :=
  decodeGroup "Config" ["host", "port", "session", "chat", "notifications", "backplane", "metrics"] {}
    fun c f v => match f with
      | "host" => do return { c with host := ← decodeString v }
      | "port" => do return { c with port := ← decodeU16 v }
      | "session" => do return { c with session := ← decodeSession v }
      | "chat" => do return { c with chat := ← decodeChat v }
      | "notifications" => do return { c with notifications := ← decodeNotifications v }
      | "backplane" => do return { c with backplane := ← decodeBackplane v }
      | _ => do return { c with metrics := ← decodeMetrics v }

/-- Read a configuration from TOML text, or give the report of what is
wrong with it. -/
def Config.ofToml (text : String) : Except String Config := do
  let root ← readDocument text
  match decodeConfig root.toItem with
  | .ok c => pure c
  | .error e => throw (report text e.span e.message e.keys)

end Herald.Settings
