import Herald.Json.Record
import Herald.Json.Write
import Herald.Protocol.Model
import Herald.Protocol.Error

set_option autoImplicit false

/-!
The replication envelope.

Every event a process publishes to the backplane is wrapped with the
publishing process's source name and the time it was sent, so that a
process can recognise and discard its own echo. An envelope travels as JSON
text of at most 1 MiB: `{"source": ..., "payload": <event>, "sent_at": ...}`.
-/

namespace Herald

open Json

/-- One replicated event. -/
structure Envelope where
  source : String
  payload : Event
  sentAt : Timestamp
  deriving DecidableEq, Repr, Inhabited

namespace Envelope

/-- Whether this envelope was published by `source`. -/
def isFrom (e : Envelope) (source : String) : Bool := e.source == source

def toJson (e : Envelope) : Json :=
  .obj [("source", .str e.source), ("payload", ofContent (e.payload.encode true)),
    ("sent_at", .str e.sentAt.render)]

/-- Encode as JSON text, refusing more than 1 MiB. -/
def encode (e : Envelope) : Except ProtocolError String :=
  let text := render e.toJson
  if text.utf8ByteSize > maxFrameSize then .error (.frameTooLarge text.utf8ByteSize) else .ok text

/-- How the envelope's fields are read from text. -/
def fields : List StreamField :=
  [{ name := "source", read := Content.str <$> readString },
   { name := "payload", read := do
       let c ← readContent 1000000000
       let _ ← ReadM.ofExcept (Event.decoder Dialect.json c)
       pure c },
   { name := "sent_at",
     read := readStringWith "an RFC 3339 formatted date and time string"
       fun s => (Timestamp.parseText s).map fun _ => Content.str s }]

/-- Decode from JSON bytes, refusing more than 1 MiB. -/
def decode (bytes : ByteArray) : Except ProtocolError Envelope :=
  if bytes.size > maxFrameSize then .error (.frameTooLarge bytes.size)
  else
    match readAll (readRecord "struct Envelope" fields) bytes with
    | .error e => .error (.json e.render)
    | .ok slots =>
      let d := Dialect.json
      let built : Except String Envelope := do
        let source ← takeField d slots 0 "source" Decoder.string none
        let payload ← takeField d slots 1 "payload" Event.decoder none
        let sentAt ← takeField d slots 2 "sent_at" Decoder.timestamp none
        return { source, payload, sentAt }
      built.mapError ProtocolError.json

end Envelope

end Herald
