import Herald.Wire.Decode
import Herald.Json.Record
import Herald.Core.Topic

set_option autoImplicit false

/-!
The entities a broadcast carries.

A `Message` is a chat line posted into a room; a `Notification` is an event
addressed to one user. An `Event` is either, and is written as the entity
itself with no marker saying which: a reader takes it as a message when the
message fields decode, and as a notification otherwise.

A message's `type` defaults to `text` and its receiver may be absent (and is
then left out when written); a notification's `read` flag defaults to
false. Fields are written in declaration order. In binary form an
identifier is its 16 bytes; in text form it is the hyphenated string. A
message read straight from text skips the members it does not know by their
syntax alone, without building their values.
-/

namespace Herald

/-- The type tag a message gets when none is given. -/
def defaultMessageKind : String := "text"

/-- A chat message. -/
structure Message where
  id : Uuid
  senderId : String
  receiverId : Option String := none
  roomId : String
  content : String
  kind : String := defaultMessageKind
  createdAt : Timestamp
  deriving DecidableEq, Repr, Inhabited

/-- A user notification. -/
structure Notification where
  id : Uuid
  userId : String
  kind : String
  content : String
  read : Bool := false
  createdAt : Timestamp
  updatedAt : Timestamp
  deriving DecidableEq, Repr, Inhabited

/-- Either entity, as fanned out and replicated. -/
inductive Event where
  | message (m : Message)
  | notification (n : Notification)
  deriving DecidableEq, Repr, Inhabited

namespace Notification

/-- Mark as read at `at`: only the unread-to-read change happens, and it
moves `updatedAt`; the flag says whether anything changed. -/
def markRead (n : Notification) (at_ : Timestamp) : Notification × Bool :=
  if n.read then (n, false) else ({ n with read := true, updatedAt := at_ }, true)

end Notification

/-- An identifier as written: text when `readable`, else its bytes. -/
def uuidContent (readable : Bool) (u : Uuid) : Content :=
  if readable then .str u.render else .bytes u.toBytes

/-- A record as written: a map from field names to values, in order. -/
def recordContent (fields : List (String × Content)) : Content :=
  .map (fields.map fun (k, v) => (.str k, v))

namespace Message

def encode (readable : Bool) (m : Message) : Content :=
  recordContent ([("id", uuidContent readable m.id), ("sender_id", .str m.senderId)] ++
    (match m.receiverId with | some r => [("receiver_id", .str r)] | none => []) ++
    [("room_id", .str m.roomId), ("content", .str m.content), ("type", .str m.kind),
     ("created_at", .str m.createdAt.render)])

def shape : RecordShape :=
  { expecting := "struct Message",
    fields := [FieldSpec.of "id" Decoder.uuid false false,
      FieldSpec.of "sender_id" Decoder.string false false,
      FieldSpec.of "receiver_id" (Decoder.option Decoder.string) true true,
      FieldSpec.of "room_id" Decoder.string false false,
      FieldSpec.of "content" Decoder.string false false,
      FieldSpec.of "type" Decoder.string true true,
      FieldSpec.of "created_at" Decoder.timestamp false false] }

/-- A message from the values of its fields, in the order of `shape`. -/
def ofSlots (d : Dialect) (slots : Array (Option Content)) : Except String Message := do
  let id ← takeField d slots 0 "id" Decoder.uuid none
  let senderId ← takeField d slots 1 "sender_id" Decoder.string none
  let receiverId ← takeField d slots 2 "receiver_id" (Decoder.option Decoder.string) (some none)
  let roomId ← takeField d slots 3 "room_id" Decoder.string none
  let content ← takeField d slots 4 "content" Decoder.string none
  let kind ← takeField d slots 5 "type" Decoder.string (some defaultMessageKind)
  let createdAt ← takeField d slots 6 "created_at" Decoder.timestamp none
  return { id, senderId, receiverId, roomId, content, kind, createdAt }

def decoder : Decoder Message := fun d c => do
  ofSlots d (← shape.slots d c)

/-- How a message's fields are read from text: each as a whole value, which
`ofSlots` then checks. -/
def textFields : List Json.StreamField :=
  shape.fields.map fun f =>
    { name := f.name, read := Json.readContent 1000000000, optional := f.optional,
      defaulted := f.defaulted }

/-- Read a message from JSON bytes. Members it does not know are skipped by
their syntax alone: their numbers may be of any size, their strings may hold
lone surrogates, and their nesting is not limited. -/
def ofBytes (bytes : ByteArray) : Except String Message := do
  let slots ← (Json.readAll (Json.readRecord shape.expecting textFields) bytes).mapError (·.render)
  ofSlots Dialect.json slots

end Message

namespace Notification

def encode (readable : Bool) (n : Notification) : Content :=
  recordContent [("id", uuidContent readable n.id), ("user_id", .str n.userId),
    ("type", .str n.kind), ("content", .str n.content), ("read", .bool n.read),
    ("created_at", .str n.createdAt.render), ("updated_at", .str n.updatedAt.render)]

def shape : RecordShape :=
  { expecting := "struct Notification",
    fields := [FieldSpec.of "id" Decoder.uuid false false,
      FieldSpec.of "user_id" Decoder.string false false,
      FieldSpec.of "type" Decoder.string false false,
      FieldSpec.of "content" Decoder.string false false,
      FieldSpec.of "read" Decoder.bool true true,
      FieldSpec.of "created_at" Decoder.timestamp false false,
      FieldSpec.of "updated_at" Decoder.timestamp false false] }

def decoder : Decoder Notification := fun d c => do
  let slots ← shape.slots d c
  let id ← takeField d slots 0 "id" Decoder.uuid none
  let userId ← takeField d slots 1 "user_id" Decoder.string none
  let kind ← takeField d slots 2 "type" Decoder.string none
  let content ← takeField d slots 3 "content" Decoder.string none
  let read ← takeField d slots 4 "read" Decoder.bool (some false)
  let createdAt ← takeField d slots 5 "created_at" Decoder.timestamp none
  let updatedAt ← takeField d slots 6 "updated_at" Decoder.timestamp none
  return { id, userId, kind, content, read, createdAt, updatedAt }

end Notification

namespace Event

def label : Event → String
  | .message _ => "message"
  | .notification _ => "notification"

def id : Event → Uuid
  | .message m => m.id
  | .notification n => n.id

def createdAt : Event → Timestamp
  | .message m => m.createdAt
  | .notification n => n.createdAt

/-- The topic the event fans out on: its room or its user. -/
def topic : Event → Topic
  | .message m => .room m.roomId
  | .notification n => .user n.userId

def encode (readable : Bool) : Event → Content
  | .message m => m.encode readable
  | .notification n => n.encode readable

/-- The error when content is neither entity. -/
def noVariant : String := "data did not match any variant of untagged enum Event"

/-- Decode an event: a message if that decodes, else a notification. -/
def decoder : Decoder Event := fun d c =>
  match Message.decoder d c with
  | .ok m => .ok (.message m)
  | .error _ =>
    match Notification.decoder d c with
    | .ok n => .ok (.notification n)
    | .error _ => .error noVariant

end Event

end Herald
