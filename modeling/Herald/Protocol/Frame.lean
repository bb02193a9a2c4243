import Herald.Protocol.Model

set_option autoImplicit false

/-!
Frames: what a session and its client exchange.

Inbound frames carry the client's commands (`send`, `history`,
`mark_read`) and keepalives; outbound frames carry deliveries and replies.
A frame is written as a record whose first member `type` names its kind,
followed by its fields in declaration order, with absent optional fields
left out.

Reading a frame first reads the whole value, finds `type` (which must occur
once, as a kind name or, in binary form, as the kind's index), and then
reads the remaining members as the fields of that kind.
-/

namespace Herald

def protocolVersion : Nat := 1

/-- A protocol frame. -/
inductive Frame where
  | send (id : Option Nat) (content : String) (receiverId : Option String) (kind : Option String)
  | history (id : Nat) (before : Option Timestamp) (limit : Option Nat)
  | markRead (id : Nat) (notificationId : Uuid)
  | ping (timestamp : Option Nat)
  | pong (timestamp : Option Nat)
  | connected (connectionId : String) (topic : String) (version : Nat) (heartbeat : Nat)
  | message (message : Message)
  | notification (notification : Notification)
  | historyResult (id : Nat) (items : List Event)
  | ack (id : Nat) (event : Option Event)
  | error (id : Nat) (code : Nat) (message : String)
  deriving DecidableEq, Repr, Inhabited

/-- The kinds of frames. -/
inductive FrameType where
  | send | history | markRead | ping | pong | connected | message | notification
  | historyResult | ack | error
  deriving DecidableEq, Repr, Inhabited

namespace FrameType

/-- All kinds, in the order their indices count. -/
def all : List FrameType :=
  [.send, .history, .markRead, .ping, .pong, .connected, .message, .notification,
    .historyResult, .ack, .error]

/-- The name a frame's `type` member carries. -/
def tag : FrameType → String
  | .send => "send"
  | .history => "history"
  | .markRead => "mark_read"
  | .ping => "ping"
  | .pong => "pong"
  | .connected => "connected"
  | .message => "message"
  | .notification => "notification"
  | .historyResult => "history_result"
  | .ack => "ack"
  | .error => "error"

def name : FrameType → String
  | .send => "Send"
  | .history => "History"
  | .markRead => "MarkRead"
  | .ping => "Ping"
  | .pong => "Pong"
  | .connected => "Connected"
  | .message => "Message"
  | .notification => "Notification"
  | .historyResult => "HistoryResult"
  | .ack => "Ack"
  | .error => "Error"

/-- Whether frames of this kind travel from the client to the server. -/
def inbound : FrameType → Bool
  | .send | .history | .markRead | .ping | .pong => true
  | _ => false

def tags : List String := all.map tag

end FrameType

namespace Frame

def frameType : Frame → FrameType
  | .send .. => .send
  | .history .. => .history
  | .markRead .. => .markRead
  | .ping .. => .ping
  | .pong .. => .pong
  | .connected .. => .connected
  | .message .. => .message
  | .notification .. => .notification
  | .historyResult .. => .historyResult
  | .ack .. => .ack
  | .error .. => .error

/-- A delivery frame for a fanned-out event. -/
def deliver : Event → Frame
  | .message m => .message m
  | .notification n => .notification n

def ackWith (id : Nat) (e : Event) : Frame := .ack id (some e)

/-- A connected frame at the current protocol version. -/
def connectedNow (connectionId topic : String) (heartbeat : Nat) : Frame :=
  .connected connectionId topic protocolVersion heartbeat

/-- A field written only when it has a value. -/
def opt {α : Type} (key : String) (f : α → Content) : Option α → List (String × Content)
  | some a => [(key, f a)]
  | none => []

def num (n : Nat) : Content := .unsigned .w64 n

/-- The fields of a frame as written, after its `type`. -/
def fields (readable : Bool) : Frame → List (String × Content)
  | .send id content receiverId kind =>
    opt "id" num id ++ [("content", .str content)] ++ opt "receiver_id" .str receiverId ++
      opt "kind" .str kind
  | .history id before limit =>
    [("id", num id)] ++ opt "before" (fun t => .str t.render) before ++ opt "limit" num limit
  | .markRead id nid => [("id", num id), ("notification_id", uuidContent readable nid)]
  | .ping ts => opt "timestamp" num ts
  | .pong ts => opt "timestamp" num ts
  | .connected cid topic version heartbeat =>
    [("connection_id", .str cid), ("topic", .str topic), ("version", num version),
      ("heartbeat", num heartbeat)]
  | .message m => [("message", m.encode readable)]
  | .notification n => [("notification", n.encode readable)]
  | .historyResult id items => [("id", num id), ("items", .seq (items.map (·.encode readable)))]
  | .ack id event => [("id", num id)] ++ opt "event" (Event.encode readable) event
  | .error id code text => [("id", num id), ("code", num code), ("message", .str text)]

/-- The written form: `type` first, then the fields. -/
def encode (readable : Bool) (f : Frame) : Content :=
  recordContent (("type", .str f.frameType.tag) :: f.fields readable)

end Frame

namespace FrameType

/-- How errors name the record of a kind. -/
def expecting (t : FrameType) : String := s!"struct variant Frame::{t.name}"

end FrameType

/-- The record shape of a kind: its fields as a reader checks them. -/
def FrameType.shape (t : FrameType) : RecordShape :=
  let optU64 := Decoder.option Decoder.u64
  { expecting := t.expecting,
    fields := match t with
      | .send => [FieldSpec.of "id" optU64 true true, FieldSpec.of "content" Decoder.string false false,
          FieldSpec.of "receiver_id" (Decoder.option Decoder.string) true true,
          FieldSpec.of "kind" (Decoder.option Decoder.string) true true]
      | .history => [FieldSpec.of "id" Decoder.u64 false false,
          FieldSpec.of "before" (Decoder.option Decoder.timestamp) true true,
          FieldSpec.of "limit" (Decoder.option Decoder.u32) true true]
      | .markRead => [FieldSpec.of "id" Decoder.u64 false false,
          FieldSpec.of "notification_id" Decoder.uuid false false]
      | .ping | .pong => [FieldSpec.of "timestamp" optU64 true true]
      | .connected => [FieldSpec.of "connection_id" Decoder.string false false,
          FieldSpec.of "topic" Decoder.string false false, FieldSpec.of "version" Decoder.u8 false false,
          FieldSpec.of "heartbeat" Decoder.u32 false false]
      | .message => [FieldSpec.of "message" Message.decoder false false]
      | .notification => [FieldSpec.of "notification" Notification.decoder false false]
      | .historyResult => [FieldSpec.of "id" Decoder.u64 false false,
          FieldSpec.of "items" (Decoder.list Event.decoder) false false]
      | .ack => [FieldSpec.of "id" Decoder.u64 false false,
          FieldSpec.of "event" (Decoder.option Event.decoder) true true]
      | .error => [FieldSpec.of "id" Decoder.u64 false false,
          FieldSpec.of "code" Decoder.u16 false false, FieldSpec.of "message" Decoder.string false false] }

/-- Decode the fields of a frame of a known kind: the record is checked
against the kind's shape, then each field is taken from its slot. -/
def Frame.decodeFields (t : FrameType) : Decoder Frame := fun d c => do
  let s ← t.shape.slots d c
  let optU64 := Decoder.option Decoder.u64
  match t with
  | .send =>
    return .send (← takeField d s 0 "id" optU64 (some none))
      (← takeField d s 1 "content" Decoder.string none)
      (← takeField d s 2 "receiver_id" (Decoder.option Decoder.string) (some none))
      (← takeField d s 3 "kind" (Decoder.option Decoder.string) (some none))
  | .history =>
    return .history (← takeField d s 0 "id" Decoder.u64 none)
      (← takeField d s 1 "before" (Decoder.option Decoder.timestamp) (some none))
      (← takeField d s 2 "limit" (Decoder.option Decoder.u32) (some none))
  | .markRead =>
    return .markRead (← takeField d s 0 "id" Decoder.u64 none)
      (← takeField d s 1 "notification_id" Decoder.uuid none)
  | .ping => return .ping (← takeField d s 0 "timestamp" optU64 (some none))
  | .pong => return .pong (← takeField d s 0 "timestamp" optU64 (some none))
  | .connected =>
    return .connected (← takeField d s 0 "connection_id" Decoder.string none)
      (← takeField d s 1 "topic" Decoder.string none) (← takeField d s 2 "version" Decoder.u8 none)
      (← takeField d s 3 "heartbeat" Decoder.u32 none)
  | .message => return .message (← takeField d s 0 "message" Message.decoder none)
  | .notification => return .notification (← takeField d s 0 "notification" Notification.decoder none)
  | .historyResult =>
    return .historyResult (← takeField d s 0 "id" Decoder.u64 none)
      (← takeField d s 1 "items" (Decoder.list Event.decoder) none)
  | .ack =>
    return .ack (← takeField d s 0 "id" Decoder.u64 none)
      (← takeField d s 1 "event" (Decoder.option Event.decoder) (some none))
  | .error =>
    return .error (← takeField d s 0 "id" Decoder.u64 none) (← takeField d s 1 "code" Decoder.u16 none)
      (← takeField d s 2 "message" Decoder.string none)

end Herald
