import Herald.Scenario.WorldState
import Herald.Text.Utf8

set_option autoImplicit false

/-!
The steps of a `world` scenario.

Each step addresses one node (the `node` field, default 0) or one named
client-side object, calls into the cluster, and answers a JSON value or an
error object. Steps that wait for the cluster (a client send into a full
buffer, waiting for the next event a client receives, joining a session)
move the virtual clock; a wait that does not end in time answers
`blocked`.
-/

namespace Herald.Scenario

open Json Cluster

/-- The answer of a wait that did not end in time. -/
def blockedFailure : Json := .obj [("error", .str "blocked")]

/-- A transport error as a step error. -/
def transportFailure (e : TransportError) : Json := failure "transport" e.message

/-- What the client side of a session sees, as JSON. -/
def PeerEvent.toJson : PeerEvent → Json
  | .frame f => f.toJson
  | .ping => .str "ping"
  | .closed => .str "closed"

/-- A payload as JSON when it is JSON, else as its text. -/
def payloadJson (p : ByteArray) : Json :=
  let text := Text.decodeLossy p
  match String.fromUTF8? p with
  | some s =>
    match Json.parse s with
    | .ok j => j
    | .error _ => .obj [("raw", .str text)]
  | none => .obj [("raw", .str text)]

def sessionArg (req : Json) : StepM Nat := do
  let name ← arg (textArg req "name")
  match (← get).sessions.lookup name with
  | some s => pure s
  | none => throw (requestError s!"no session {name}")

/-- The hub channel a name refers to. -/
def listenerArg (req : Json) : StepM Listener := do
  let name ← arg (textArg req "name")
  match (← get).listeners.lookup name with
  | some l => pure l
  | none => throw (requestError s!"no subscription {name}")

/-- Take the next event waiting for a session's client, if any. -/
def takePeerEvent (s : Nat) : RunM (Option PeerEvent) := do
  let ses := (← get).world.session s
  match ses.outbound.tryRecv with
  | (.item e, c) =>
    onCluster do
      modifySession s fun x => { x with outbound := c }
      wakeWriterSending s
    match e with
    | .frame f => noteFrame f
    | _ => pure ()
    return some e
  | _ => return none

/-- Take up to `max` events waiting for a session's client. -/
def takePeerEvents (s : Nat) : Nat → RunM (List PeerEvent)
  | 0 => pure []
  | max + 1 => do
    match ← takePeerEvent s with
    | some e => return e :: (← takePeerEvents s max)
    | none => return []

/-- Everything waiting for the clients of auto-draining sessions, by name. -/
def drainPeers : RunM (List (String × Json)) := do
  let mut out := []
  for (name, s) in (← get).sessions.reverse do
    let ses := (← get).world.session s
    if ses.autoDrain && ses.outbound.receiverOpen then
      let events ← takePeerEvents s (ses.outbound.items.length)
      if !events.isEmpty then out := out ++ [(name, Json.arr (events.map PeerEvent.toJson))]
  return out

/-- The client sends one input into a session, waiting up to 5 s for room. -/
def peerSend (s : Nat) (input : PeerInput) : StepM Unit := do
  if !((← get).world.session s).inbound.senderOpen then
    throw (transportFailure .connectionClosed)
  let room ← cluster (waitFor (fun w => let c := (w.session s).inbound; !c.receiverOpen || c.hasRoom) 5000)
  if !room then throw blockedFailure
  match ((← get).world.session s).inbound.trySend input with
  | .ok c =>
    cluster do
      modifySession s fun x => { x with inbound := c }
      wakeReaderReceiving s
  | .error _ => throw (transportFailure .connectionClosed)

/-- Wait up to 5 s for the next event a session's client receives. -/
def peerReceive (s : Nat) (deadline : Nat) : StepM (Option PeerEvent) := do
  let ready ← cluster (waitUntil (fun w => (w.session s).outbound.ready) deadline (2 * 5000 + 16))
  if !ready then throw blockedFailure
  ExceptT.lift (takePeerEvent s)

/-- The next frame a session's client receives, skipping pings. -/
def nextFrame (s : Nat) (deadline : Nat) : Nat → StepM (Option Frame)
  | 0 => pure none
  | fuel + 1 => do
    match ← peerReceive s deadline with
    | some (.frame f) => pure (some f)
    | some .ping => nextFrame s deadline fuel
    | some .closed | none => pure none

/-- The debug text of a topic: its kind, then its identifier quoted in brackets. -/
def topicDebug : Topic → String
  | .room r => "Room(" ++ quoteForError r ++ ")"
  | .user u => "User(" ++ quoteForError u ++ ")"

/-- `session.start`: register a client session on a node's hub. -/
def sessionStart (req : Json) : StepM Json := do
  let n ← nodeArg req
  let name ← arg (textArg req "name")
  let service ← match ← arg (textArg req "service") with
    | "chat" => pure ServiceKind.chat
    | "notify" => pure ServiceKind.notify
    | other => throw (requestError s!"unknown service {other}")
  let actor ← arg (actorArg req "actor")
  let topic ← arg (topicArg req "topic")
  let outboundCapacity := (← arg (optNatArg req "outbound_capacity")).getD 256
  let replyCapacity := (← arg (optNatArg req "reply_capacity")).getD 32
  let keepalive := (← arg (optNatArg req "keepalive_ms")).getD 30000
  let peerCapacity := (← arg (optNatArg req "peer_capacity")).getD 64
  let autoDrain := (← arg (optBoolArg req "auto_drain")).getD true
  let link : SessionLink :=
    { name := some name, inbound := Channel.bounded peerCapacity,
      outbound := Channel.bounded peerCapacity, autoDrain }
  let s ← cluster (startSession n service actor topic link outboundCapacity replyCapacity keepalive)
  modify fun r => { r with sessions := (name, s) :: r.sessions.filter (·.1 != name) }
  let w := (← get).world
  let ses := w.session s
  pure (.obj [("connection", .str ses.connectionId), ("state", .str ses.lifecycle.name),
    ("subscribers", .nat ((w.node n).hub.subscriberCount topic))])

/-- `subscribe`: register a client channel on a node's hub. -/
def subscribeStep (req : Json) : StepM Json := do
  let n ← nodeArg req
  let name ← arg (textArg req "name")
  let topic ← arg (topicArg req "topic")
  let capacity ← match ← arg (optNatArg req "capacity") with
    | some c => pure c
    | none => pure ((← get).world.node n).hub.capacity
  let old := (← get).listeners.lookup name
  let listener ← cluster do
    match old with
    | some l =>
      modify fun w => { w with eventChannels := w.eventChannels.modify l.channel fun ec =>
        { ec with channel := ec.channel.dropReceiver } }
    | none => pure ()
    let w ← get
    let ch := w.eventChannels.size
    let (hub, subscription) := (w.node n).hub.register topic ch
    set { w with eventChannels := w.eventChannels.push { channel := Channel.bounded capacity } }
    modifyNode n fun nd => { nd with hub }
    return ({ node := n, channel := ch, subscription } : Listener)
  modify fun r => { r with listeners := (name, listener) :: r.listeners.filter (·.1 != name) }
  pure (.obj [("subscription", .nat listener.subscription.id)])

/-- Drop the hub's sender of a channel. -/
def closeChannelSender (ch : Nat) : ClusterM Unit :=
  modify fun w => { w with eventChannels := w.eventChannels.modify ch fun ec =>
    { ec with channel := ec.channel.dropSender } }

/-- `unsubscribe`: take a client channel off its hub. -/
def unsubscribeStep (req : Json) : StepM Json := do
  let l ← listenerArg req
  cluster do
    let (hub, ch) := ((← get).node l.node).hub.unregister l.subscription
    modifyNode l.node fun nd => { nd with hub }
    match ch with
    | some c =>
      closeChannelSender c
      return Json.bool true
    | none => return Json.bool false

/-- `drain`: everything waiting in a client channel. -/
def drainStep (req : Json) : StepM Json := do
  let l ← listenerArg req
  let ec := ((← get).world.eventChannels.getD l.channel default)
  let events := ec.channel.items
  let disconnected := !ec.channel.senderOpen
  cluster (modify fun w => { w with eventChannels := w.eventChannels.modify l.channel fun ec =>
    { ec with channel := { ec.channel with items := [] } } })
  pure (.obj [("events", .arr (events.map Event.toJson)), ("disconnected", .bool disconnected)])

/-- `drop_receiver`: the client drops a channel's receiving end. -/
def dropReceiverStep (req : Json) : StepM Json := do
  let name ← arg (textArg req "name")
  match (← get).listeners.lookup name with
  | none => pure (.bool false)
  | some l =>
    cluster (modify fun w => { w with eventChannels := w.eventChannels.modify l.channel fun ec =>
      { ec with channel := ec.channel.dropReceiver } })
    pure (.bool true)

/-- `hub.topic`: one topic of a node's hub. -/
def hubTopicStep (req : Json) : StepM Json := do
  let n ← nodeArg req
  let topic ← arg (topicArg req "topic")
  let hub := ((← get).world.node n).hub
  pure (.obj [("exists", .bool (hub.topicExists topic)), ("subscribers", .nat (hub.subscriberCount topic)),
    ("display", .str topic.display), ("id", .str topic.id)])

/-- A store error as a step error. -/
def storeFailure (e : StoreError) : Json := failure e.kind e.message

/-- A message argument, decoded as message text would be. -/
def messageArg (req : Json) (key : String) : StepM Message := do
  let v ← arg (valueArg req key)
  match Message.decoder Dialect.json (contentOfJson v) with
  | .ok m => pure m
  | .error m => throw (requestError s!"bad message: {m}")

/-- A notification argument, decoded as notification text would be. -/
def notificationArg (req : Json) (key : String) : StepM Notification := do
  let v ← arg (valueArg req key)
  match Notification.decoder Dialect.json (contentOfJson v) with
  | .ok m => pure m
  | .error m => throw (requestError s!"bad notification: {m}")

def modifyStore (n : Nat) (f : MemoryStore → MemoryStore) : StepM Unit :=
  cluster (modifyNode n fun nd => { nd with store := f nd.store })

/-- Steps on a node's own store, which a store failure never reaches. -/
def storeStep (op : String) (req : Json) : StepM Json := do
  let n ← nodeArg req
  let store := ((← get).world.node n).store
  match op with
  | "store.create_message" =>
    let m ← messageArg req "message"
    match store.createMessage m with
    | .ok (s, id) =>
      modifyStore n fun _ => s
      ExceptT.lift (noteEntity m.id m.createdAt)
      pure (.str id.render)
    | .error e => throw (storeFailure e)
  | "store.create_notification" =>
    let note ← notificationArg req "notification"
    match store.createNotification note with
    | .ok (s, id) =>
      modifyStore n fun _ => s
      ExceptT.lift (noteEntity note.id note.createdAt)
      pure (.str id.render)
    | .error e => throw (storeFailure e)
  | "store.list_messages" =>
    let room ← arg (textArg req "room")
    let before ← beforeArg req
    let limit := (← arg (optNatArg req "limit")).getD 10
    pure (.arr ((store.listMessages room before limit).map Message.toJson))
  | "store.list_notifications" =>
    let user ← arg (textArg req "user_id")
    let before ← beforeArg req
    let limit := (← arg (optNatArg req "limit")).getD 10
    pure (.arr ((store.listNotifications user before limit).map Notification.toJson))
  | "store.mark_read" =>
    let id ← idArg req
    let user ← arg (textArg req "user_id")
    let now ← cluster readClock
    match store.markRead id user now with
    | .ok (s, note, changed) =>
      modifyStore n fun _ => s
      pure (.obj [("notification", note.toJson), ("changed", .bool changed)])
    | .error e => throw (storeFailure e)
  | "store.unread" =>
    let user ← arg (textArg req "user_id")
    pure (.nat (store.unreadCount user))
  | _ =>
    pure (.obj [("messages", .nat store.messageCount), ("notifications", .nat store.notificationCount)])

def recallStep (op : String) (req : Json) : StepM Json := do
  let n ← nodeArg req
  match op with
  | "recall.set" =>
    let key ← arg (textArg req "key")
    let value ← arg (textArg req "value")
    let secs ← arg (natArg req "ttl_secs")
    let nanos := (← arg (optNatArg req "ttl_nanos")).getD 0
    let ttl : Span := ⟨secs + nanos / 1000000000, nanos % 1000000000⟩
    let w := (← get).world
    match (w.node n).recallCache.set w.instant key value.toUTF8 ttl with
    | .ok c =>
      cluster (modifyNode n fun nd => { nd with recallCache := c })
      pure .null
    | .error m => throw (failure "recall" m)
  | "recall.get" =>
    let key ← arg (textArg req "key")
    match ← cluster (recallGet n key) with
    | none => pure (.obj [("value", .null)])
    | some bytes =>
      match (String.fromUTF8? bytes).map Json.parse with
      | some (.ok j) => pure (.obj [("json", j)])
      | _ => pure (.obj [("value", .str (Text.decodeLossy bytes))])
  | "recall.spawn_purge" =>
    let interval := max ((← arg (optNatArg req "interval_ms")).getD 0) 10
    cluster do
      let p := (← get).purges.size
      modify fun w => { w with purges := w.purges.push { node := n, interval, nextTick := 0 } }
      wake (.purge p)
    pure .null
  | "recall.purge" =>
    let w := (← get).world
    let (removed, c) := (w.node n).recallCache.purge w.instant
    cluster (modifyNode n fun nd => { nd with recallCache := c })
    pure (.nat removed)
  | _ =>
    let size := ((← get).world.node n).recallCache.size
    pure (.obj [("len", .nat size), ("empty", .bool (size == 0))])

def transportArg (req : Json) : StepM String := do
  let name ← arg (textArg req "transport")
  match (← get).world.transports.get? name with
  | some _ => pure name
  | none => throw (requestError s!"no transport {name}")

/-- The subject a step names, default `courier.events`. -/
def subjectArg (req : Json) : StepM String := do
  return (← arg (optTextArg req "subject")).getD "courier.events"

/-- A payload given as `payload` text or `payload_hex`. -/
def payloadArg (req : Json) : StepM ByteArray := do
  match ← arg (optTextArg req "payload") with
  | some p => pure p.toUTF8
  | none =>
    match Text.bytesOfHex (← arg (textArg req "payload_hex")) with
    | some b => pure b
    | none => throw (requestError "bad hex")

def transportStep (op : String) (req : Json) : StepM Json := do
  match op with
  | "transport.publish_raw" =>
    let name ← transportArg req
    let subject ← subjectArg req
    let p ← payloadArg req
    match ← cluster (publishPayload name subject p) with
    | .ok () => pure .null
    | .error e => throw (transportFailure e)
  | "transport.listen" =>
    let name ← arg (textArg req "name")
    let t ← transportArg req
    let subject ← subjectArg req
    let (ts, got) := (← get).world.transports.subscribe t subject
    cluster (modify fun w => { w with transports := ts })
    match got with
    | .ok stream =>
      modify fun r => { r with taps := (name, stream) :: r.taps.filter (·.1 != name) }
      pure .null
    | .error e => throw (transportFailure e)
  | "transport.take" =>
    let name ← arg (textArg req "name")
    match (← get).taps.lookup name with
    | none => throw (requestError s!"no listener {name}")
    | some stream =>
      let (payloads, closed, stream, ts) := takeAll stream ((← get).world.transports) 100000
      cluster (modify fun w => { w with transports := ts })
      modify fun r => { r with taps := r.taps.map fun (k, s) => if k == name then (k, stream) else (k, s) }
      pure (.obj [("payloads", .arr payloads), ("closed", .bool closed)])
  | "transport.backlog" =>
    let name ← transportArg req
    pure (.nat ((← get).world.transports.backlog name (← subjectArg req)))
  | "transport.shutdown" =>
    let name ← transportArg req
    cluster do
      let (ts, ended) := (← get).transports.shutdown name
      modify fun w => { w with transports := ts }
      for s in ended do wakeStreamReaders s
    pure .null
  | _ =>
    let name ← transportArg req
    match (← get).world.transports.get? name with
    | some (.faulty f) => pure (.obj [("subscribes", .nat f.subscribes)])
    | _ => throw (requestError s!"{name} is not a faulty transport")
where
  /-- Read a raw stream until it has nothing more; tell whether it ended. -/
  takeAll (stream : Stream) (ts : Transports) : Nat → List Json × Bool × Stream × Transports
    | 0 => ([], false, stream, ts)
    | fuel + 1 =>
      match ts.next stream with
      | (ts, stream, .ok (.item p)) =>
        let (rest, closed, stream, ts) := takeAll stream ts fuel
        (payloadJson p :: rest, closed, stream, ts)
      | (ts, stream, .ok .finished) => ([], true, stream, ts)
      | (ts, stream, .ok .empty) => ([], false, stream, ts)
      | (ts, stream, .error _) => ([], true, stream, ts)

end Herald.Scenario
