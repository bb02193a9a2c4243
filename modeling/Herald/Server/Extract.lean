import Herald.Http.Message
import Herald.Http.MediaType
import Herald.Json.Record
import Herald.Core.Auth
import Herald.Core.Service
import Herald.Protocol.WireFormat
import Herald.Time.Timestamp

set_option autoImplicit false

/-!
What the server's handlers take from a request, and how a request that does
not provide it is turned away.

* The caller is named by the `x-user-id` header, trimmed and not empty
  (else 401), with an optional role in `x-user-role` (a bad one is 400).
* Path parameters are percent-decoded and must then be UTF-8.
* Query parameters are read as a form: a parameter named twice, or a value
  that does not read as its type, is 400.
* A JSON body needs a JSON content type (else 415) and at most 2 MiB; text
  that is not JSON is 400, and JSON of the wrong shape is 422, both with the
  reader's error and where in the body it happened.
* A WebSocket handshake needs `GET`, a `Connection` header containing
  `upgrade`, `Upgrade: websocket`, version 13 and a key, and a connection
  that can be upgraded.
-/

namespace Herald.Server

open Http Json

/-- Reading part of a request, or the response that turns it away. -/
abbrev Extract := Except Response

/-- The caller named by the identity headers. -/
def identity (r : Request) : Extract Actor := do
  let id := (r.header? "x-user-id").map Text.trim
  match id with
  | none | some "" => throw (.text 401 "missing x-user-id")
  | some id =>
    match r.header? "x-user-role" with
    | none => pure { id, role := .user }
    | some role =>
      match Role.parse (Text.trim role) with
      | .ok role => pure { id, role }
      | .error _ => throw (.text 400 "invalid x-user-role")

/-- A path parameter: its percent escapes decoded, which must give UTF-8. -/
def pathParam (key raw : String) : Extract String :=
  match String.fromUTF8? (percentBytes raw) with
  | some s => pure s
  | none => throw (.text 400 s!"Invalid URL: Invalid UTF-8 in `{key}`")

/-- A path parameter that names a UUID. -/
def uuidParam (key raw : String) : Extract Uuid := do
  let s ← pathParam key raw
  match Uuid.parse s with
  | .ok u => pure u
  | .error e => throw (.text 400 s!"Invalid URL: UUID parsing failed: {e}")

/-! ### Query parameters -/

/-- Accumulate decimal digits from the left into a number below `bound`:
a character that is not a digit, or a value reaching the bound, is an
error, whichever comes first. -/
def accumulateDigits (bound : Nat) : Nat → List Char → Except String Nat
  | n, [] => .ok n
  | n, c :: rest =>
    if !c.isDigit then .error "invalid digit found in string"
    else
      let next := n * 10 + (c.toNat - 48)
      if next < bound then accumulateDigits bound next rest
      else .error "number too large to fit in target type"

/-- An unsigned number of `bits` bits written in decimal with an optional
plus sign, or the reason it is not one. -/
def readUnsignedText (bits : Nat) (s : String) : Except String Nat :=
  match s.toList with
  | [] => .error "cannot parse integer from empty string"
  | ['+'] => .error "invalid digit found in string"
  | '+' :: rest => accumulateDigits (Nat.pow 2 bits) 0 rest
  | cs => accumulateDigits (Nat.pow 2 bits) 0 cs

/-- Fields read from a query, in the order they are met; a known field met
twice is an error, and unknown fields are skipped. -/
def queryFields {α : Type} (query : String) (init : α) (known : List String)
    (set : α → String → String → Except String α) : Except String α := do
  let mut acc := init
  let mut seen : List String := []
  for (k, v) in formPairs query do
    if known.contains k then
      if seen.contains k then throw (duplicateField k)
      seen := k :: seen
      acc ← set acc k v
  return acc

/-- Read the query of a request; a failure is 400 with its reason. -/
def withQuery {α : Type} (r : Request) (read : String → Except String α) : Extract α :=
  match read (r.query?.getD "") with
  | .ok a => pure a
  | .error e => throw (.text 400 s!"Failed to deserialize query string: {e}")

/-- Paging of a history: before an instant, and how many. -/
structure Page where
  before : Option Timestamp := none
  limit : Option Nat := none
  deriving Inhabited

def pageOf (query : String) : Except String Page :=
  queryFields query {} ["before", "limit"] fun p k v =>
    if k == "before" then do return { p with before := some (← Timestamp.parseText v) }
    else do return { p with limit := some (← readUnsignedText 32 v) }

/-- The wire format asked for by a query, if any. -/
def formatOf (query : String) : Except String (Option WireFormat) :=
  queryFields query none ["format"] fun _ _ v =>
    match v with
    | "text" => .ok (some .text)
    | "binary" => .ok (some .binary)
    | other => .error (unknownVariant other ["text", "binary"])

/-! ### JSON bodies -/

def bodyLimit : Nat := 2 * 1024 * 1024

/-- Whether a content type names JSON: a well-formed media type that is
`application/json` or an `application` type with a `json` suffix, in any
case, parameters allowed. -/
def isJsonType (value : String) : Bool :=
  match MediaType.parse? value with
  | some m => m.isJson
  | none => false

/-- Read a JSON body with `reader`. -/
def jsonBody {α : Type} (r : Request) (reader : ReadM α) : Extract α := do
  match r.header? "content-type" with
  | some t => if !isJsonType t then throw (.text 415 "Expected request with `Content-Type: application/json`")
  | none => throw (.text 415 "Expected request with `Content-Type: application/json`")
  let bytes := r.body.toUTF8
  if bytes.size > bodyLimit then throw (.text 413 "Failed to buffer the body: length limit exceeded")
  match runReader reader bytes with
  | .ok a => pure a
  | .error e =>
    if e.isSyntax then throw (.text 400 s!"Failed to parse the request body as JSON: {e.renderAtPath}")
    else throw (.text 422 s!"Failed to deserialize the JSON body into the target type: {e.renderAtPath}")

/-- A string field of a JSON record. -/
def textField (name : String) : StreamField :=
  { name, read := do return .str (← readString) }

/-- An optional string field of a JSON record, absent or `null` for none. -/
def optionalTextField (name : String) : StreamField :=
  { name, optional := true, defaulted := true,
    read := do
      match ← readOption readString with
      | some s => return .str s
      | none => return .none }

def slotText (slots : Array (Option Content)) (i : Nat) : Option String :=
  match slots.getD i none with
  | some (.str s) => some s
  | _ => none

/-- A message to post: its content, receiver and kind. -/
structure SendBody where
  content : String
  receiver : Option String := none
  kind : Option String := none

def sendBody : ReadM SendBody := do
  let slots ← readRecord "struct SendRequest"
    [textField "content", optionalTextField "receiver_id", optionalTextField "type"]
  return { content := (slotText slots 0).getD "", receiver := slotText slots 1, kind := slotText slots 2 }

/-- A notification to publish: its user, kind and content. -/
structure PublishBody where
  user : String
  kind : String
  content : String

def publishBody : ReadM PublishBody := do
  let slots ← readRecord "struct PublishRequest" [textField "user_id", textField "type", textField "content"]
  return { user := (slotText slots 0).getD "", kind := (slotText slots 1).getD "",
           content := (slotText slots 2).getD "" }

/-! ### WebSocket handshakes -/

/-- Whether a header's text, lowercased, contains `word`. -/
def headerHas (r : Request) (name word : String) : Bool :=
  match r.rawHeader? name with
  | some v => ((Text.asciiLower v).splitOn word).length > 1
  | none => false

/-- Whether a header equals `word` without regard to case. -/
def headerIs (r : Request) (name word : String) : Bool :=
  match r.rawHeader? name with
  | some v => Text.asciiLower v == word
  | none => false

def handshake (r : Request) : Extract Unit := do
  if r.method != "GET" then throw (.text 405 "Request method must be `GET`")
  if !headerHas r "connection" "upgrade" then throw (.text 400 "Connection header did not include 'upgrade'")
  if !headerIs r "upgrade" "websocket" then throw (.text 400 "`Upgrade` header did not include 'websocket'")
  if !headerIs r "sec-websocket-version" "13" then
    throw (.text 400 "`Sec-WebSocket-Version` header did not include '13'")
  if (r.rawHeader? "sec-websocket-key").isNone then throw (.text 400 "`Sec-WebSocket-Key` header missing")
  if !r.upgradable then
    throw (.text 426 "WebSocket request couldn't be upgraded since no upgrade state was present")

end Herald.Server
