import Herald.Scenario.WorldSteps
import Herald.Scenario.Normalize

set_option autoImplicit false

/-!
The `world` scenario: build a cluster, run its steps, and answer what each
step did and what the clients of auto-draining sessions received during it.

After the setup and after every step, virtual time moves on by one
millisecond so that the tasks the step woke get to run; then the events
waiting for auto-draining clients are taken. The answer's made-up values
are labelled at the end (see `labelAnswer`).
-/

namespace Herald.Scenario

open Json Cluster

def serviceArg (req : Json) : StepM ServiceKind := do
  match ← arg (textArg req "service") with
  | "chat" => pure .chat
  | "notify" => pure .notify
  | other => throw (requestError s!"unknown service {other}")

/-- A frame argument given as text, after `$REF` substitution. -/
def frameArg (req : Json) : StepM Frame := do
  let text ← substituteRefs (← arg (textArg req "text"))
  match decodeFrameText text with
  | .ok f => pure f
  | .error e => throw (protocolFailure e)

/-- Steps of the chat and notification services. -/
def serviceStep (op : String) (req : Json) : StepM Json := do
  let n ← nodeArg req
  match op with
  | "chat.send" =>
    let actor ← arg (actorArg req "actor")
    let room ← arg (textArg req "room")
    let content ← arg (textArg req "content")
    let receiver ← arg (optTextArg req "receiver_id")
    let kind ← arg (optTextArg req "type")
    let m ← serviceResult (← cluster (chatSend n actor room content receiver kind))
    ExceptT.lift (noteEntity m.id m.createdAt)
    pure m.toJson
  | "chat.history" =>
    let room ← arg (textArg req "room")
    let before ← beforeArg req
    let limit ← arg (optNatArg req "limit")
    let items ← serviceResult (← cluster (chatHistory n room before limit))
    pure (.arr (items.map Message.toJson))
  | "chat.recall" =>
    let room ← arg (textArg req "room")
    pure (Json.ofOption Message.toJson (← cluster (chatRecall n room)))
  | "notify.publish" =>
    let actor ← arg (actorArg req "actor")
    let user ← arg (textArg req "user_id")
    let kind := (← arg (optTextArg req "type")).getD defaultNotificationKind
    let content ← arg (textArg req "content")
    let note ← serviceResult (← cluster (notifyPublish n actor user kind content))
    ExceptT.lift (noteEntity note.id note.createdAt)
    pure note.toJson
  | "notify.history" =>
    let user ← arg (textArg req "user_id")
    let before ← beforeArg req
    let limit ← arg (optNatArg req "limit")
    let items ← serviceResult (← cluster (notifyHistory n user before limit))
    pure (.arr (items.map Notification.toJson))
  | "notify.mark_read" =>
    let id ← idArg req
    let user ← arg (textArg req "user_id")
    let note ← serviceResult (← cluster (notifyMarkRead n id user))
    pure note.toJson
  | _ =>
    let user ← arg (textArg req "user_id")
    pure (.nat (← serviceResult (← cluster (notifyUnread n user))))

/-- `handle` and `on_join`: a service answering one frame, or a join. -/
def handlerStep (op : String) (req : Json) : StepM Json := do
  let n ← nodeArg req
  let svc ← serviceArg req
  let actor ← arg (actorArg req "actor")
  let topic ← arg (topicArg req "topic")
  let ctx : SessionContext := { actor, topic }
  if op == "on_join" then
    let frames ← cluster (joinFrames n svc ctx)
    return .arr (frames.map Frame.toJson)
  let f ← frameArg req
  match ← cluster (handleFrame n svc ctx f) with
  | some reply =>
    ExceptT.lift (noteFrame reply)
    pure reply.toJson
  | none => pure .null

/-- Steps on a session and its client. -/
def sessionStep (op : String) (req : Json) : StepM Json := do
  if op == "session.start" then return ← sessionStart req
  let s ← sessionArg req
  match op with
  | "session.send" =>
    let f ← frameArg req
    peerSend s (.frame f)
    pure .null
  | "session.fail" =>
    peerSend s (.failure (← arg (textArg req "reason")))
    pure .null
  | "session.disconnect" =>
    cluster do
      modifySession s fun x => { x with inbound := x.inbound.dropSender }
      wakeReaderReceiving s
    pure .null
  | "session.close" => pure (.bool (← cluster (closeSession s)))
  | "session.state" =>
    let ses := (← get).world.session s
    pure (.obj [("state", .str ses.lifecycle.name), ("closed", .bool ses.closed)])
  | "session.join" =>
    let done ← cluster (waitFor (fun w =>
      let x := w.session s
      (match x.reader with
       | .done => true
       | _ => false) &&
      (match x.writer with
       | .done => true
       | _ => false)) 10000)
    if !done then throw blockedFailure
    cluster (storeLifecycle s .closed)
    pure (.str "joined")
  | "session.drain" =>
    let ses := (← get).world.session s
    let max := (← arg (optNatArg req "max")).getD ses.outbound.items.length
    let events ← ExceptT.lift (takePeerEvents s max)
    pure (.arr (events.map PeerEvent.toJson))
  | "session.next_frame" =>
    let deadline := (← get).world.clock + 5000
    let f ← nextFrame s deadline 100000
    pure (Json.ofOption Frame.toJson f)
  | "session.recv" =>
    let deadline := (← get).world.clock + 5000
    pure (Json.ofOption PeerEvent.toJson (← peerReceive s deadline))
  | "session.drop_peer" =>
    cluster do
      modifySession s fun x => { x with inbound := x.inbound.dropSender,
                                        outbound := x.outbound.dropReceiver, autoDrain := false }
      wakeReaderReceiving s
      wakeWriterSending s
    pure .null
  | _ =>
    let ses := (← get).world.session s
    let debug := "Session \x7b connection: ConnectionId(" ++ quoteForError ses.connectionId ++
      "), topic: " ++ topicDebug ses.topic ++ ", state: " ++ ses.lifecycle.name ++ " \x7d"
    pure (.obj [("debug", .str debug), ("id", .str ses.connectionId),
      ("actor", .str ses.actor.display), ("topic", .str ses.topic.display)])

/-- Steps on a node's hub and backplane. -/
def nodeStep (op : String) (req : Json) : StepM Json := do
  let n ← nodeArg req
  let nd := (← get).world.node n
  let ts := (← get).world.transports
  match op with
  | "broadcast" =>
    let topic ← arg (topicArg req "topic")
    let e ← arg (eventArg req "event")
    let (delivered, dropped) ← cluster (broadcast n topic e)
    pure (.obj [("delivered", .nat delivered), ("dropped", .nat dropped)])
  | "hub.stats" =>
    pure (.obj [("topic_count", .nat nd.hub.topicCount), ("subscriber_count", .nat nd.hub.subscribers),
      ("dropped_total", .nat nd.hub.dropped)])
  | "backplane.publish" =>
    let e ← arg (eventArg req "event")
    match ← cluster (publishEvent n e) with
    | .ok () => pure .null
    | .error err => throw (failure "backplane" err.message)
  | "backplane.info" =>
    pure (.obj [("enabled", .bool !nd.transports.isEmpty),
      ("transports", .arr (nd.transports.map fun t => .str (transportName ts t))),
      ("source", .str nd.source)])
  | "backplane.debug" =>
    let names := ", ".intercalate (nd.transports.map fun t => quoteForError (transportName ts t))
    pure (.str ("Backplane \x7b source: " ++ quoteForError nd.source ++ ", subject: " ++
      quoteForError nd.backplane.subject ++ ", transports: [" ++ names ++ "] \x7d"))
  | _ =>
    let c := nd.chat
    pure (.obj [("max_content_length", .nat c.maxContentLength),
      ("default_history_limit", .nat c.defaultHistoryLimit), ("max_history_limit", .nat c.maxHistoryLimit),
      ("recall_enabled", .bool c.recallEnabled), ("recall_ttl_secs", .nat c.recallTtl.secs)])
where
  /-- The name a transport reports. -/
  transportName (ts : Transports) (t : String) : String :=
    match ts.get? t with
    | some tr => tr.name
    | none => t

def worldStep (req : Json) : StepM Json := do
  let op ← arg (textArg req "op")
  if op.startsWith "chat." || op.startsWith "notify." then
    if op == "chat.config" then nodeStep op req else serviceStep op req
  else if op == "handle" || op == "on_join" then handlerStep op req
  else if op.startsWith "session." then sessionStep op req
  else if op.startsWith "store." then storeStep op req
  else if op.startsWith "recall." then recallStep op req
  else if op.startsWith "transport." || op == "faulty.stats" then transportStep op req
  else match op with
    | "subscribe" => subscribeStep req
    | "unsubscribe" => unsubscribeStep req
    | "drain" => drainStep req
    | "drop_receiver" => dropReceiverStep req
    | "subscription" => do
      let l ← listenerArg req
      pure (.obj [("id", .nat l.subscription.id), ("topic", .str l.subscription.topic.display),
        ("topic_id", .str l.subscription.topic.id)])
    | "hub.topic" => hubTopicStep req
    | "advance" => do
      cluster (sleepFor (← arg (natArg req "ms")))
      pure .null
    | "cancel" => do
      cluster do
        modify fun w => { w with cancelled := true }
        let w ← get
        for c in List.range w.consumers.size do
          match (w.consumers.getD c default).step with
          | .done => pure ()
          | _ => wake (.consumer c)
        for p in List.range w.purges.size do
          if !(w.purges.getD p default).done then wake (.purge p)
      pure .null
    | "broadcast" | "hub.stats" | "backplane.publish" | "backplane.info" | "backplane.debug" =>
      nodeStep op req
    | other => throw (requestError s!"unknown step {other}")

/-- One step's entry in the answer: its result, and the clients' events. -/
def stepEntry (req : Json) : RunM Json := do
  let result ← (worldStep req).run
  onCluster (sleepFor 1)
  let peers ← drainPeers
  let base := match result with
    | .ok v => [("ok", v)]
    | .error (.obj members) => members
    | .error j => [("error", j)]
  return .obj (if peers.isEmpty then base else base ++ [("peers", .obj peers)])

def runSteps : List Json → RunM (List Json)
  | [] => pure []
  | req :: rest => do
    let entry ← stepEntry req
    return entry :: (← runSteps rest)

/-- `world`: run a scenario on a simulated cluster. `raw` is the request
as written, whose identifiers stay unlabelled. -/
def world (raw req : Json) : Json :=
  let start : RunM (Except Json Unit) := (do setup req; cluster (sleepFor 1)).run
  let (ready, run) := start.run {}
  let (answer, run) := match ready with
    | .error e => (e, run)
    | .ok () =>
      let steps := match req.get? "ops" with
        | some (.arr ops) => ops
        | _ => []
      let (entries, run) := (runSteps steps).run run
      (Json.obj [("steps", .arr entries)], run)
  labelAnswer raw answer wallStart run.world.wallNow

end Herald.Scenario
