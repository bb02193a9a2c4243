import Herald.Pack.Write
import Herald.Pack.Read
import Herald.Protocol.TextCodec
import Herald.Protocol.Error
import Herald.Protocol.WireFormat
import Herald.Text.Utf8

set_option autoImplicit false

/-!
Frames as length-prefixed binary messages: a 4-byte big-endian payload
length, then the payload, the frame's record in the binary encoding with
field names as keys and identifiers as 16-byte strings.

A payload is decoded as a frame like JSON text is: the whole record is read
first with its `type` entry taken out, and the fields are decoded after.
In binary form the kind may also be given by its index (0 for `send` up to
10 for `error`) or as a byte string. Bytes after the record are ignored.
-/

namespace Herald

open Pack

/-- The binary payload of a frame, without its length prefix. -/
def framePayload (f : Frame) : ByteArray := Pack.encode (f.encode false)

/-- Encode a frame with its length prefix. -/
def encodeFrameBinary (f : Frame) : Except ProtocolError ByteArray :=
  let payload := framePayload f
  if payload.size > maxFrameSize then .error (.frameTooLarge payload.size)
  else .ok (ByteArray.mk (Pack.beBytes 4 payload.size).toArray ++ payload)

/-- The text of a string that is not UTF-8. -/
def badTextMessage (b : ByteArray) : String :=
  match Text.firstProblem b with
  | some p => s!"string found to be invalid utf8: {p.message}"
  | none => "string found to be invalid utf8"

/-- The frame kind named by a value. -/
def readBinaryFrameType : PackM FrameType := do
  let expected := "variant identifier"
  let bad (c : Content) : PackM FrameType := throw (invalidType Dialect.plain c expected)
  match ← readHead with
  | .value (.str s) => match FrameType.ofTag s with
    | .ok t => pure t
    | .error m => throw m
  | .value (.bytes b) =>
    match FrameType.all.find? (fun t => t.tag.toUTF8 == b) with
    | some t => pure t
    | none => throw (unknownVariant (Text.decodeLossy b) FrameType.tags)
  | .value (.unsigned w n) =>
    match FrameType.all[n]? with
    | some t => pure t
    | none => throw (invalidValue Dialect.plain (.unsigned w n) "variant index 0 <= i < 11")
  | .value c => bad c
  | .badText b => throw (badTextMessage b)
  | .array _ => bad (.seq [])
  | .map _ => bad (.map [])
  | .ext _ => bad (.newtype .unit)

/-- Whether a map key names the kind. -/
def isTypeKey : Content → Bool
  | .str s => s == "type"
  | .bytes b => b == "type".toUTF8
  | _ => false

/-- The kind of a frame and its remaining content, from a payload. -/
def readBinaryTaggedFrame : PackM (FrameType × Content) := do
  let depth := depthLimit - 1
  match ← readHead with
  | .map n => do
    let mut tag : Option FrameType := none
    let mut entries : Array (Content × Content) := #[]
    for _ in [0:n] do
      let k ← readContent depth
      if isTypeKey k then
        if tag.isSome then throw (duplicateField "type")
        tag := some (← readBinaryFrameType)
      else
        let v ← readContent depth
        entries := entries.push (k, v)
    match tag with
    | some t => pure (t, .map entries.toList)
    | none => throw (missingField "type")
  | .array n => do
    if n == 0 then throw (missingField "type")
    let t ← readBinaryFrameType
    let mut items : Array Content := #[]
    for _ in [1:n] do
      items := items.push (← readContent depth)
    pure (t, .seq items.toList)
  | .value c => throw (invalidType Dialect.plain c frameExpecting)
  | .badText b => throw (badTextMessage b)
  | .ext _ => throw (invalidType Dialect.plain (.newtype .unit) frameExpecting)

def decodeFramePayload (payload : ByteArray) : Except ProtocolError Frame :=
  let r : Except String Frame := do
    let (t, c) ← runPack readBinaryTaggedFrame payload
    Frame.decodeFields t Dialect.plain c
  r.mapError ProtocolError.decode

/-- The payload length announced by a buffer's first four bytes. -/
def announcedLength (data : ByteArray) : Nat := Pack.beNat (data.extract 0 4)

/-- Decode one frame from the start of a buffer; bytes after it are ignored. -/
def decodeFrameBinary (data : ByteArray) : Except ProtocolError Frame :=
  if data.size < lengthPrefixSize then .error (.incomplete (lengthPrefixSize - data.size))
  else
    let length := announcedLength data
    if length > maxFrameSize then .error (.frameTooLarge length)
    else if data.size < lengthPrefixSize + length then
      .error (.incomplete (lengthPrefixSize + length - data.size))
    else decodeFramePayload (data.extract lengthPrefixSize (lengthPrefixSize + length))

/-- Take one frame off the front of a buffer: `none` when the buffer holds
too little; a frame that fails to decode is still consumed, a frame too
large is not. -/
def decodeFrameFrom (buf : ByteArray) :
    Except (ProtocolError × ByteArray) (Option (Frame × ByteArray)) :=
  if buf.size < lengthPrefixSize then .ok none
  else
    let length := announcedLength buf
    if length > maxFrameSize then .error (.frameTooLarge length, buf)
    else if buf.size < lengthPrefixSize + length then .ok none
    else
      let rest := buf.extract (lengthPrefixSize + length) buf.size
      match decodeFramePayload (buf.extract lengthPrefixSize (lengthPrefixSize + length)) with
      | .ok f => .ok (some (f, rest))
      | .error e => .error (e, rest)

/-- Take frames off a buffer until it holds too little or one fails: the
frames, what is left, and the failure if any. -/
def decodeFrameStream (buf : ByteArray) : List Frame × ByteArray × Option ProtocolError :=
  let rec go (buf : ByteArray) (acc : List Frame) : Nat → List Frame × ByteArray × Option ProtocolError
    | 0 => (acc.reverse, buf, none)
    | fuel + 1 =>
      match decodeFrameFrom buf with
      | .ok none => (acc.reverse, buf, none)
      | .ok (some (f, rest)) => go rest (f :: acc) fuel
      | .error (e, rest) => (acc.reverse, rest, some e)
  go buf [] (buf.size + 1)

/-- Whether a frame encodes in a wire format within the frame size limit. -/
def WireFormat.encodes (format : WireFormat) (f : Frame) : Bool :=
  match format with
  | .text => (encodeFrameText f).isOk
  | .binary => (encodeFrameBinary f).isOk

end Herald
