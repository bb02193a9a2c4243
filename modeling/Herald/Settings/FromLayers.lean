import Herald.Settings.Config
import Herald.Settings.Layered
import Herald.Wire.Content

set_option autoImplicit false

/-!
Reading a configuration out of layered settings.

Layered settings are read leniently: a number setting accepts an integer, a
float (rounded half away from zero, negatives giving zero), a boolean, or
text holding digits or one of `true`, `on`, `yes`, `false`, `off`, `no`; a
boolean setting accepts numbers (non-zero is true) and the same words; a
text setting accepts any scalar written out. Each setting keeps its default
when absent, and unknown keys are ignored.

A value of the wrong kind is reported with the key path that leads to it and
the source it came from: `invalid type: string "abc", expected an integer
for key \`port\` in the environment`. A number too large for its setting is
reported without a source; lists, groups and choices report their own
complaints without a key.
-/

namespace Herald.Settings

open Net

/-- A failure to read layered settings. -/
inductive LayerError where
  /-- A value of the wrong kind: its source, how it looks, what was wanted,
  and the key path leading to it. -/
  | mismatch (origin : Option String) (found expected : String) (key : Option String)
  /-- Any other complaint. -/
  | message (text : String)
  deriving Inhabited

namespace LayerError

/-- Put a segment in front of the key path of a mismatch; a dot joins them
unless the path starts with an index. -/
def prependSegment (segment : String) (dot : Bool) : LayerError → LayerError
  | .mismatch o found expected key =>
    let rest := key.getD ""
    let sep := if dot && !rest.isEmpty && !rest.startsWith "[" then "." else ""
    .mismatch o found expected (some (segment ++ sep ++ rest))
  | other => other

/-- The failure as seen from the table entry `name` it happened under. -/
def underKey (name : String) : LayerError → LayerError := prependSegment name true

/-- The failure as seen from list slot `i` it happened in. -/
def atIndex (i : Nat) : LayerError → LayerError := prependSegment s!"[{i}]" false

def render : LayerError → String
  | .mismatch o found expected key =>
    let forKey := match key with
      | some k => s!" for key `{k}`"
      | none => ""
    let source := match o with
      | some s => " in " ++ s
      | none => ""
    s!"invalid type: {found}, expected {expected}" ++ forKey ++ source
  | .message t => t

end LayerError

abbrev Layered := Except LayerError

namespace Setting

def found : Setting → String
  | .nil _ => "unit value"
  | .bool _ b => s!"boolean `{b}`"
  | .int _ i => s!"64-bit integer `{i}`"
  | .float _ f => s!"floating point `{Binary64.renderPlain f}`"
  | .str _ s => "string " ++ quoteForError s
  | .list .. => "sequence"
  | .table .. => "map"

/-- How a list, group or choice complaint names a value. -/
def shape : Setting → String
  | .nil _ => "unit value"
  | .bool _ b => s!"boolean `{b}`"
  | .int _ i => s!"integer `{i}`"
  | .float _ f => s!"floating point `{Binary64.renderPositional f}`"
  | .str _ s => "string " ++ quoteForError s
  | .list .. => "sequence"
  | .table .. => "map"

/-- A value of the wrong kind for a setting that wanted `expected`. -/
def mismatch {α : Type} (v : Setting) (expected : String) : Layered α :=
  throw (.mismatch v.origin v.found expected none)

/-- A value that is not the list, group or choice wanted. -/
def misshapen {α : Type} (v : Setting) (expected : String) : Layered α :=
  throw (.message s!"invalid type: {v.shape}, expected {expected}")

end Setting

/-- Unsigned decimal digits with an optional plus sign, below `2 ^ 64`. -/
def readWord? (s : String) : Option Nat :=
  let ds := match s.toList with
    | '+' :: rest => rest
    | rest => rest
  if ds.isEmpty || !ds.all Char.isDigit then none
  else
    let n := digitsValue ds
    if n < Nat.pow 2 64 then some n else none

/-- Lowercase for comparing words, by the full Unicode case mappings. -/
def lowerWord (s : String) : String := Text.toLowerFull s

/-- A setting as an unsigned 64-bit number. -/
def toWord (v : Setting) : Layered Nat :=
  match v with
  | .int _ i => if 0 ≤ i then pure i.toNat else v.mismatch "an unsigned 64 bit or less integer"
  | .str _ s =>
    let w := lowerWord s
    if w == "true" || w == "on" || w == "yes" then pure 1
    else if w == "false" || w == "off" || w == "no" then pure 0
    else match readWord? s with
      | some n => pure n
      | none => v.mismatch "an integer"
  | .bool _ b => pure (if b then 1 else 0)
  | .float _ f => pure (Binary64.roundToWord f)
  | _ => v.mismatch "an integer"

/-- A setting as an unsigned number of `bits` bits. -/
def decodeWord (bits : Nat) (v : Setting) : Layered Nat := do
  let n ← toWord v
  if n < Nat.pow 2 bits then pure n
  else throw (.mismatch none s!"64-bit unsigned integer `{n}`" s!"an unsigned {bits} bit integer" none)

def decodeFlag (v : Setting) : Layered Bool :=
  match v with
  | .bool _ b => pure b
  | .int _ i => pure (i != 0)
  | .float _ f => pure (f != 0.0)
  | .str o s =>
    let w := lowerWord s
    if w == "1" || w == "true" || w == "on" || w == "yes" then pure true
    else if w == "0" || w == "false" || w == "off" || w == "no" then pure false
    else throw (.mismatch o ("string " ++ quoteForError w) "a boolean" none)
  | _ => v.mismatch "a boolean"

/-- A setting as text; scalars are written out. -/
def decodeText (v : Setting) : Layered String :=
  match v with
  | .str _ s => pure s
  | .bool _ b => pure (toString b)
  | .int _ i => pure (toString i)
  | .float _ f => pure (Binary64.renderPlain f)
  | _ => v.mismatch "a string"

/-- A setting as a socket address, written as text. -/
def decodeAddress (v : Setting) : Layered SocketAddr := do
  let s ← decodeText v
  match SocketAddr.parse s with
  | some a => pure a
  | none => throw (.message invalidSocketAddr)

/-- An optional setting: `nil` is absent. -/
def decodeOptional {α : Type} (decode : Setting → Layered α) (v : Setting) : Layered (Option α) :=
  match v with
  | .nil _ => pure none
  | _ => some <$> decode v

/-- Decode each item with its slot named on failure. -/
def decodeItems {α : Type} (decode : Setting → Layered α) (items : List Setting) : Layered (List α) :=
  ((List.range items.length).zip items).mapM fun (i, item) =>
    (decode item).mapError (·.atIndex i)

def decodeSequence {α : Type} (decode : Setting → Layered α) (v : Setting) : Layered (List α) :=
  match v with
  | .list _ items => decodeItems decode items
  | _ => v.misshapen "a sequence"

/-- One of a fixed set of names, given as text or as a table with a single
entry whose key is the name; names compare without case. -/
def decodeVariant {α : Type} (typeName : String) (names : List (String × α)) (v : Setting) :
    Layered α :=
  let byName (name : String) : Layered α :=
    match names.find? (fun (n, _) => lowerWord n == lowerWord name) with
    | some (_, a) => pure a
    | none => throw (.message s!"enum {typeName} does not have variant constructor {name}")
  match v with
  | .str _ s => byName s
  | .table _ [(k, _)] => byName k
  | _ => throw (.message
      s!"value of enum {typeName} should be represented by either string or table with exactly one key")

/-- A group of settings: a table whose known keys set fields of `init`, or a
list giving the fields in declaration order. -/
def decodeFields {α : Type} (name : String) (fields : List String) (init : α)
    (set : α → String → Setting → Layered α) (v : Setting) : Layered α :=
  match v with
  | .table _ entries =>
    entries.foldlM (fun acc (k, item) =>
      if fields.contains k then (set acc k item).mapError (·.underKey k) else pure acc) init
  | .list _ items =>
    (((List.range items.length).zip items).zip fields).foldlM (fun acc ((i, item), f) =>
      (set acc f item).mapError (·.atIndex i)) init
  | _ => v.misshapen s!"struct {name}"

def layeredSession : Setting → Layered SessionSettings :=
  decodeFields "SessionSettings" ["outbound_capacity", "keepalive_ms", "max_message_size", "wire_format"] {}
    fun s f v => match f with
      | "outbound_capacity" => do return { s with outboundCapacity := ← decodeWord 64 v }
      | "keepalive_ms" => do return { s with keepaliveMs := ← decodeWord 64 v }
      | "max_message_size" => do return { s with maxMessageSize := ← decodeWord 64 v }
      | _ => do return { s with wireFormat := ← decodeVariant "WireFormat" [("text", .text), ("binary", .binary)] v }

def layeredChat : Setting → Layered ChatSettings :=
  decodeFields "ChatSettings"
    ["max_content_length", "default_history_limit", "max_history_limit", "recall_enabled", "recall_ttl_secs"] {}
    fun s f v => match f with
      | "max_content_length" => do return { s with maxContentLength := ← decodeWord 64 v }
      | "default_history_limit" => do return { s with defaultHistoryLimit := ← decodeWord 64 v }
      | "max_history_limit" => do return { s with maxHistoryLimit := ← decodeWord 64 v }
      | "recall_enabled" => do return { s with recallEnabled := ← decodeFlag v }
      | _ => do return { s with recallTtlSecs := ← decodeWord 64 v }

def layeredNotifications : Setting → Layered NotificationSettings :=
  decodeFields "NotificationSettings" ["max_content_length", "default_history_limit", "max_history_limit"] {}
    fun s f v => match f with
      | "max_content_length" => do return { s with maxContentLength := ← decodeWord 64 v }
      | "default_history_limit" => do return { s with defaultHistoryLimit := ← decodeWord 64 v }
      | _ => do return { s with maxHistoryLimit := ← decodeWord 64 v }

def layeredBackplane : Setting → Layered BackplaneSettings :=
  decodeFields "BackplaneSettings"
    ["transports", "subject_prefix", "mesh_listen", "mesh_peers", "mesh_reconnect_delay_ms",
     "resubscribe_attempts", "resubscribe_delay_ms"] {}
    fun s f v => match f with
      | "transports" => do
        return { s with transports :=
          ← decodeSequence (decodeVariant "TransportKind" (TransportKind.all.map fun t => (t.name, t))) v }
      | "subject_prefix" => do return { s with subjectPrefix := ← decodeText v }
      | "mesh_listen" => do return { s with meshListen := ← decodeOptional decodeAddress v }
      | "mesh_peers" => do return { s with meshPeers := ← decodeSequence decodeAddress v }
      | "mesh_reconnect_delay_ms" => do return { s with meshReconnectDelayMs := ← decodeWord 64 v }
      | "resubscribe_attempts" => do return { s with resubscribeAttempts := ← decodeWord 32 v }
      | _ => do return { s with resubscribeDelayMs := ← decodeWord 64 v }

def layeredMetrics : Setting → Layered MetricsSettings :=
  decodeFields "MetricsConfig" ["enabled", "port"] {}
    fun s f v => match f with
      | "enabled" => do return { s with enabled := ← decodeFlag v }
      | _ => do return { s with port := ← decodeWord 16 v }

def Config.ofLayers : Setting → Layered Config :=
  decodeFields "Config" ["host", "port", "session", "chat", "notifications", "backplane", "metrics"] {}
    fun c f v => match f with
      | "host" => do return { c with host := ← decodeText v }
      | "port" => do return { c with port := ← decodeWord 16 v }
      | "session" => do return { c with session := ← layeredSession v }
      | "chat" => do return { c with chat := ← layeredChat v }
      | "notifications" => do return { c with notifications := ← layeredNotifications v }
      | "backplane" => do return { c with backplane := ← layeredBackplane v }
      | _ => do return { c with metrics := ← layeredMetrics v }

end Herald.Settings
