import Herald.Protocol.TextCodec
import Herald.Protocol.BinaryCodec
import Herald.Protocol.WireFormat
import Herald.Protocol.Envelope
import Herald.Scenario.Request
import Herald.Text.Hex

set_option autoImplicit false

/-!
Scenario operations on frames and entities: decoding text, building frames,
and summarizing a frame by its kind, direction and both encodings.
-/

namespace Herald.Scenario

open Json

def protocolFailure (e : ProtocolError) : Json := failure e.kind e.message

mutual

/-- Content of a JSON value, as the text reader would have produced it. -/
def contentOfJson : Json → Content
  | .null => .unit
  | .bool b => .bool b
  | .num (.nat n) => .unsigned .w64 n
  | .num (.neg i) => .signed .w64 i
  | .num (.float f) => .float f
  | .str s => .str s
  | .arr items => .seq (contentOfItems items)
  | .obj members => .map (contentOfMembers members)

def contentOfItems : List Json → List Content
  | [] => []
  | j :: rest => contentOfJson j :: contentOfItems rest

/-- `contentOfJson` over object members, keys becoming text. -/
def contentOfMembers : List (String × Json) → List (Content × Content)
  | [] => []
  | (k, v) :: rest => (.str k, contentOfJson v) :: contentOfMembers rest

end

/-- A frame's kind, direction and both encodings. -/
def frameSummary (f : Frame) : Json :=
  let text := match encodeFrameText f with
    | .ok t => ("text", Json.str t)
    | .error e => ("text_error", protocolFailure e)
  let binary := match encodeFrameBinary f with
    | .ok b => ("binary", Json.str (Text.hexOf b))
    | .error e => ("binary_error", protocolFailure e)
  .obj [("frame_type", .str f.frameType.name), ("inbound", .bool f.frameType.inbound), text, binary]

def wireFormat (req : Json) : Except Json Json := do
  let input ← textArg req "input"
  match WireFormat.parse input with
  | .ok f => pure (.obj [("format", .str f.name)])
  | .error e => pure (protocolFailure e)

/-- `frame_decode_text`: decode a JSON text frame. -/
def frameDecodeText (req : Json) : Except Json Json := do
  let text ← textArg req "text"
  match decodeFrameText text with
  | .ok f => pure (frameSummary f)
  | .error e => pure (protocolFailure e)

/-- An event argument, decoded as an event text would be. -/
def eventArg (req : Json) (key : String) : Except Json Event := do
  let v ← valueArg req key
  match Event.decoder Dialect.json (contentOfJson v) with
  | .ok e => pure e
  | .error m => throw (requestError s!"bad event: {m}")

def timestampArg (req : Json) (key : String) : Except Json Timestamp := do
  let s ← textArg req key
  match Timestamp.parseText s with
  | .ok t => pure t
  | .error m => throw (requestError s!"bad timestamp {s}: {m}")

/-- A natural-number argument with a default and an upper bound. -/
def boundedArg (req : Json) (key : String) (dflt bound : Nat) : Except Json Nat := do
  let n := (← optNatArg req key).getD dflt
  if n < bound then pure n else throw (requestError s!"field {key} out of range")

/-- `frame_build`: call one frame constructor and summarize the frame. -/
def frameBuild (req : Json) : Except Json Json := do
  let kind ← textArg req "kind"
  let id ← boundedArg req "id" 0 (Nat.pow 2 64)
  let frame ← match kind with
    | "send" => pure (Frame.send none (← textArg req "content") none none)
    | "send_with_ack" => pure (Frame.send (some id) (← textArg req "content") none none)
    | "history" => do
      let before ← match ← optTextArg req "before" with
        | none => pure none
        | some _ => some <$> timestampArg req "before"
      let limit ← match ← optNatArg req "limit" with
        | none => pure none
        | some _ => some <$> boundedArg req "limit" 0 (Nat.pow 2 32)
      pure (Frame.history id before limit)
    | "mark_read" => do
      let s ← textArg req "notification_id"
      match Uuid.parse s with
      | .ok u => pure (Frame.markRead id u)
      | .error m => throw (requestError m)
    | "ack" => pure (Frame.ack id none)
    | "ack_with" => pure (Frame.ackWith id (← eventArg req "event"))
    | "error" => pure (Frame.error id (← boundedArg req "code" 0 65536) (← textArg req "message"))
    | "ping" => pure (Frame.ping none)
    | "pong" => do
      match ← optNatArg req "timestamp" with
      | none => pure (Frame.pong none)
      | some _ => pure (Frame.pong (some (← boundedArg req "timestamp" 0 (Nat.pow 2 64))))
    | "connected" =>
      pure (Frame.connectedNow (← textArg req "connection_id") (← textArg req "topic")
        (← boundedArg req "heartbeat" 0 (Nat.pow 2 32)))
    | "deliver" => pure (Frame.deliver (← eventArg req "event"))
    | other => throw (requestError s!"unknown frame kind {other}")
  pure (frameSummary frame)

/-- `event_decode`: decode an event from text and show it three ways. -/
def eventDecode (req : Json) : Except Json Json := do
  let text ← textArg req "text"
  match decodeEventText text with
  | .error e => pure (failure "json" e.render)
  | .ok e => pure (.obj [("label", .str e.label), ("id", .str e.id.render),
      ("topic", .str e.topic.display), ("text", .str (render e.toJson)),
      ("delivery", frameSummary (Frame.deliver e)), ("ack", frameSummary (Frame.ackWith 1 e))])

/-- Bytes given as `hex` or as `text`. -/
def bytesArg (req : Json) : Except Json ByteArray := do
  match ← optTextArg req "hex" with
  | some h =>
    match Text.bytesOfHex h with
    | some b => pure b
    | none => throw (requestError "bad hex")
  | none => pure (← textArg req "text").toUTF8

/-- `frame_decode_binary`: decode one length-prefixed binary frame. -/
def frameDecodeBinary (req : Json) : Except Json Json := do
  let bytes ← bytesArg req
  match decodeFrameBinary bytes with
  | .ok f => pure (frameSummary f)
  | .error e => pure (protocolFailure e)

/-- `frame_decode_stream`: take frames off one buffer until it runs short or fails. -/
def frameDecodeStream (req : Json) : Except Json Json := do
  let bytes ← bytesArg req
  let (frames, rest, err) := decodeFrameStream bytes
  pure (.obj [("frames", .arr (frames.map frameSummary)), ("remaining", .nat rest.size),
    ("stream_error", match err with | some e => protocolFailure e | none => .null)])

def envelopeDecode (req : Json) : Except Json Json := do
  let bytes ← bytesArg req
  let check ← optTextArg req "check"
  match Envelope.decode bytes with
  | .error e => pure (protocolFailure e)
  | .ok env =>
    let text := match env.encode with
      | .ok t => Json.str t
      | .error e => protocolFailure e
    pure (.obj [("source", .str env.source), ("label", .str env.payload.label),
      ("id", .str env.payload.id.render),
      ("is_from", match check with | some c => .bool (env.isFrom c) | none => .null),
      ("topic", .str env.payload.topic.display), ("text", text)])

/-- How a notification's fields are read from text. -/
def notificationFields : List StreamField :=
  let uuidField := readStringWith "a formatted UUID string"
    fun s => (Uuid.parse s).map (fun _ => Content.str s) |>.mapError fun e => s!"UUID parsing failed: {e}"
  let timeField := readStringWith "an RFC 3339 formatted date and time string"
    fun s => (Timestamp.parseText s).map fun _ => Content.str s
  [{ name := "id", read := uuidField },
   { name := "user_id", read := Content.str <$> readString },
   { name := "type", read := Content.str <$> readString },
   { name := "content", read := Content.str <$> readString },
   { name := "read", read := Content.bool <$> readBool, optional := true, defaulted := true },
   { name := "created_at", read := timeField },
   { name := "updated_at", read := timeField }]

def notificationOfText (text : String) : Except String Notification :=
  match readAll (readRecord "struct Notification" notificationFields) text.toUTF8 with
  | .error e => .error e.render
  | .ok slots => do
    let d := Dialect.json
    let id ← takeField d slots 0 "id" Decoder.uuid none
    let userId ← takeField d slots 1 "user_id" Decoder.string none
    let kind ← takeField d slots 2 "type" Decoder.string none
    let content ← takeField d slots 3 "content" Decoder.string none
    let read ← takeField d slots 4 "read" Decoder.bool (some false)
    let createdAt ← takeField d slots 5 "created_at" Decoder.timestamp none
    let updatedAt ← takeField d slots 6 "updated_at" Decoder.timestamp none
    return { id, userId, kind, content, read, createdAt, updatedAt }

/-- `notification_mark_read`: mark a notification read at each instant in turn. -/
def notificationMarkRead (req : Json) : Except Json Json := do
  let text ← textArg req "notification"
  let ats ← match req.get? "at" with
    | some (.arr items) => items.mapM fun j => match j with
      | .str s => match Timestamp.parseText s with
        | .ok t => pure t
        | .error m => throw (requestError m)
      | _ => throw (requestError "bad instant")
    | _ => pure []
  match notificationOfText text with
  | .error m => pure (failure "json" m)
  | .ok n =>
    let (_, steps) := ats.foldl (fun (acc : Notification × List Json) at_ =>
      let (n', changed) := acc.1.markRead at_
      (n', acc.2 ++ [.obj [("changed", .bool changed),
        ("text", .str (render (ofContent (n'.encode true))))]])) (n, [])
    pure (.obj [("steps", .arr steps)])

end Herald.Scenario
