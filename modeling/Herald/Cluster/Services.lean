import Herald.Cluster.State
import Herald.Markup.Sanitize
import Herald.Protocol.Envelope
import Herald.Protocol.TextCodec

set_option autoImplicit false

/-!
The chat and notification services of a node, and the fan-out they share.

A request is validated, authorized and sanitized before anything happens;
then the entity is stored, and only a stored entity is fanned out: first to
the subscribers on the node's own hub, then to the other processes through
every backplane transport. A backplane failure does not fail the request:
the entity is already stored and delivered locally.

Both services also answer the frames of their sessions: a chat session
must be on a room topic and a notification session on a user topic.
-/

namespace Herald.Cluster

open Json

/-- Offer an event to the subscribers of a topic on a node's hub, without
waiting: a full buffer is a drop, a closed one is skipped. Returns the
numbers delivered and dropped. -/
def offerEvent (n : Nat) (t : Topic) (e : Event) : ClusterM (Nat × Nat) := do
  let entries := ((← get).node n).hub.entries t
  let mut delivered := 0
  let mut dropped := 0
  for (_, ch) in entries do
    let w ← get
    let ec := w.eventChannels.getD ch default
    match ec.channel.trySend e with
    | .ok c =>
      set { w with eventChannels := w.eventChannels.set! ch { ec with channel := c } }
      delivered := delivered + 1
      match ec.owner with
      | some s => wakeWriterSelecting s
      | none => pure ()
    | .error .full => dropped := dropped + 1
    | .error .closed => pure ()
  return (delivered, dropped)

/-- Add deliveries dropped to a node's hub count. -/
def countDrops (n : Nat) (dropped : Nat) : ClusterM Unit :=
  if dropped > 0 then
    modifyNode n fun nd => { nd with hub := { nd.hub with dropped := nd.hub.dropped + dropped } }
  else pure ()

/-- Deliver an event to the subscribers of a topic on a node's hub: the
offers, then the drops counted. Returns the numbers delivered and dropped. -/
def broadcast (n : Nat) (t : Topic) (e : Event) : ClusterM (Nat × Nat) := do
  let (delivered, dropped) ← offerEvent n t e
  countDrops n dropped
  return (delivered, dropped)

/-- Publish a payload on a named transport, waking the readers it reaches. -/
def publishPayload (name subject : String) (p : ByteArray) : ClusterM (Except TransportError Unit) := do
  let (ts, pub) := (← get).transports.publish name subject p
  modify fun w => { w with transports := ts }
  for s in pub.touched do wakeStreamReaders s
  return pub.result

/-- Replicate an event through every transport of a node: each is tried,
and the first failure is returned. -/
def publishEvent (n : Nat) (e : Event) : ClusterM (Except BackplaneError Unit) := do
  let nd := (← get).node n
  if nd.transports.isEmpty then return .ok ()
  let sentAt ← readClock
  let env : Envelope := { source := nd.source, payload := e, sentAt }
  match env.encode with
  | .error pe => return .error (.encode pe)
  | .ok text =>
    let mut first : Option BackplaneError := none
    for name in nd.transports do
      let label := (((← get).transports.get? name).map Transport.name).getD name
      match ← publishPayload name nd.backplane.subject text.toUTF8 with
      | .ok () => pure ()
      | .error err => if first.isNone then first := some (.publish label err)
    return match first with
      | some err => .error err
      | none => .ok ()

/-- Fan a stored entity out: locally, then to other processes. -/
def fanOut (n : Nat) (e : Event) : ClusterM Unit := do
  let _ ← broadcast n e.topic e
  let _ ← publishEvent n e

def serviceStore (n : Nat) : ClusterM (Except ServiceError MemoryStore) := do
  let nd := (← get).node n
  return if nd.storeDown then .error (.store (.unavailable "connection refused")) else .ok nd.store

def setStore (n : Nat) (s : MemoryStore) : ClusterM Unit := modifyNode n fun nd => { nd with store := s }

/-- A message from JSON bytes, if they hold one. -/
def decodeMessage (bytes : ByteArray) : Option Message := (Message.ofBytes bytes).toOption

def messageText (m : Message) : String := render (ofContent (m.encode true))

/-- Whether a node's chat service uses its recall cache. -/
def recallOn (n : Nat) : ClusterM Bool := do
  let nd := (← get).node n
  return nd.recallAttached && nd.chat.recallEnabled

/-- Keep a room's latest message in the recall cache (failures are ignored). -/
def remember (n : Nat) (m : Message) : ClusterM Unit := do
  if !(← recallOn n) then return
  let w ← get
  let nd := w.node n
  match nd.recallCache.set w.instant (recallKey m.roomId) (messageText m).toUTF8 nd.chat.recallTtl with
  | .ok c => modifyNode n fun nd => { nd with recallCache := c }
  | .error _ => pure ()

/-- A node's recall lookup for a key. -/
def recallGet (n : Nat) (key : String) : ClusterM (Option ByteArray) := do
  let w ← get
  let (hit, c) := (w.node n).recallCache.get w.instant key
  modifyNode n fun nd => { nd with recallCache := c }
  return hit

/-- The last message of a room, if still cached; an undecodable entry is a miss. -/
def chatRecall (n : Nat) (room : String) : ClusterM (Option Message) := do
  if !(← recallOn n) then return none
  return (← recallGet n (recallKey room)).bind decodeMessage

def chatSend (n : Nat) (actor : Actor) (room content : String) (receiver kind : Option String) :
    ClusterM (Except ServiceError Message) := do
  let cfg := ((← get).node n).chat
  let checks : Except ServiceError String := do
    validateId "room_id" room
    validateContent content cfg.maxContentLength
    match receiver with
    | some r => validateId "receiver_id" r
    | none => pure ()
    let kind := kind.getD defaultMessageKind
    validateKind kind
    if !actor.canPost room receiver then
      throw (.forbidden s!"{actor.id} may not post to room {room}")
    let clean := Markup.stripMarkup content
    if clean.isEmpty then throw .emptyContent
    return clean
  match checks with
  | .error e => return .error e
  | .ok clean =>
    let id ← freshUuid
    let createdAt ← readClock
    let m : Message := { id, senderId := actor.id, receiverId := receiver, roomId := room,
                         content := clean, kind := kind.getD defaultMessageKind, createdAt }
    match ← serviceStore n with
    | .error e => return .error e
    | .ok store =>
      match store.createMessage m with
      | .error e => return .error (.ofStore e)
      | .ok (store, _) =>
        setStore n store
        remember n m
        fanOut n (.message m)
        return .ok m

def chatHistory (n : Nat) (room : String) (before : Option Timestamp) (limit : Option Nat) :
    ClusterM (Except ServiceError (List Message)) := do
  match validateId "room_id" room with
  | .error e => return .error e
  | .ok () =>
    let cfg := ((← get).node n).chat
    let l := clampLimit limit cfg.defaultHistoryLimit cfg.maxHistoryLimit
    match ← serviceStore n with
    | .error e => return .error e
    | .ok store => return .ok (store.listMessages room before l)

def notifyPublish (n : Nat) (actor : Actor) (user kind content : String) :
    ClusterM (Except ServiceError Notification) := do
  let cfg := ((← get).node n).notify
  let checks : Except ServiceError String := do
    validateId "user_id" user
    validateKind kind
    validateContent content cfg.maxContentLength
    if !actor.canNotify user then throw (.forbidden s!"{actor.id} may not notify {user}")
    let clean := Markup.stripMarkup content
    if clean.isEmpty then throw .emptyContent
    return clean
  match checks with
  | .error e => return .error e
  | .ok clean =>
    let id ← freshUuid
    let now ← readClock
    let note : Notification := { id, userId := user, kind, content := clean, createdAt := now,
                                 updatedAt := now }
    match ← serviceStore n with
    | .error e => return .error e
    | .ok store =>
      match store.createNotification note with
      | .error e => return .error (.ofStore e)
      | .ok (store, _) =>
        setStore n store
        fanOut n (.notification note)
        return .ok note

def notifyHistory (n : Nat) (user : String) (before : Option Timestamp) (limit : Option Nat) :
    ClusterM (Except ServiceError (List Notification)) := do
  match validateId "user_id" user with
  | .error e => return .error e
  | .ok () =>
    let cfg := ((← get).node n).notify
    let l := clampLimit limit cfg.defaultHistoryLimit cfg.maxHistoryLimit
    match ← serviceStore n with
    | .error e => return .error e
    | .ok store => return .ok (store.listNotifications user before l)

/-- Mark a user's notification read in the store: the row as it ends up and
whether this call changed it. -/
def markReadStored (n : Nat) (id : Uuid) (user : String) :
    ClusterM (Except ServiceError (Notification × Bool)) := do
  match validateId "user_id" user with
  | .error e => return .error e
  | .ok () =>
    match ← serviceStore n with
    | .error e => return .error e
    | .ok store =>
      let now ← readClock
      match store.markRead id user now with
      | .error e => return .error (.ofStore e)
      | .ok (store, note, changed) =>
        setStore n store
        return .ok (note, changed)

/-- Mark a user's notification read; the change is fanned out once. -/
def notifyMarkRead (n : Nat) (id : Uuid) (user : String) :
    ClusterM (Except ServiceError Notification) := do
  match ← markReadStored n id user with
  | .error e => return .error e
  | .ok (note, changed) =>
    if changed then fanOut n (.notification note)
    return .ok note

/-- The number of a user's unread notifications. -/
def notifyUnread (n : Nat) (user : String) : ClusterM (Except ServiceError Nat) := do
  match validateId "user_id" user with
  | .error e => return .error e
  | .ok () =>
    match ← serviceStore n with
    | .error e => return .error e
    | .ok store => return .ok (store.unreadCount user)

/-- The error frame answering request `id` (0 when absent). -/
def errorFrame (id : Option Nat) (e : ServiceError) : Frame := .error (id.getD 0) e.code e.message

/-- Who a session is and where it is registered. -/
structure SessionContext where
  actor : Actor
  topic : Topic
  deriving Inhabited

/-- A service's answer to one frame of a session. -/
def handleFrame (n : Nat) (svc : ServiceKind) (ctx : SessionContext) (f : Frame) :
    ClusterM (Option Frame) := do
  match svc, ctx.topic with
  | .chat, .user _ => return some (errorFrame none (.unsupported "not a chat session"))
  | .notify, .room _ => return some (errorFrame none (.unsupported "not a notification session"))
  | .chat, .room room =>
    match f with
    | .send id content receiver kind =>
      match ← chatSend n ctx.actor room content receiver kind with
      | .ok m => return id.map fun i => Frame.ackWith i (.message m)
      | .error e => return some (errorFrame id e)
    | .history id before limit =>
      match ← chatHistory n room before limit with
      | .ok items => return some (.historyResult id (items.map Event.message))
      | .error e => return some (errorFrame (some id) e)
    | .markRead id _ =>
      return some (errorFrame (some id) (.unsupported "mark_read on a chat session"))
    | _ => return none
  | .notify, .user user =>
    match f with
    | .send id content receiver kind =>
      let target := receiver.getD user
      match ← notifyPublish n ctx.actor target (kind.getD defaultNotificationKind) content with
      | .ok note => return id.map fun i => Frame.ackWith i (.notification note)
      | .error e => return some (errorFrame id e)
    | .history id before limit =>
      match ← notifyHistory n user before limit with
      | .ok items => return some (.historyResult id (items.map Event.notification))
      | .error e => return some (errorFrame (some id) e)
    | .markRead id nid =>
      match ← notifyMarkRead n nid user with
      | .ok note => return some (Frame.ackWith id (.notification note))
      | .error e => return some (errorFrame (some id) e)
    | _ => return none

/-- The frames a session gets when it joins: a chat room's recalled message. -/
def joinFrames (n : Nat) (svc : ServiceKind) (ctx : SessionContext) : ClusterM (List Frame) := do
  match svc, ctx.topic with
  | .chat, .room room =>
    match ← chatRecall n room with
    | some m => return [Frame.deliver (.message m)]
    | none => return []
  | _, _ => return []

end Herald.Cluster
