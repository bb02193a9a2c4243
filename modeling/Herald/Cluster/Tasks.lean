import Herald.Cluster.Services
import Herald.Protocol.BinaryCodec

set_option autoImplicit false

/-!
The tasks of a cluster, each run until it has to wait.

*Session reader.* It first queues the join frames, then takes inbound
frames one at a time: a ping is answered with a pong, a pong is dropped, a
frame only a server sends is answered with an error frame, and anything
else goes to the session's service; a reply is queued for the writer. The
end of the client's stream, a read failure or the session's cancellation
ends it, and it closes the session.

*Session writer.* It writes the `connected` frame, then loops: of a queued
reply, a hub delivery and the keepalive deadline, the first available in
that order is written (a ping at the deadline), and the deadline starts
again after every write. A write is abandoned if the session closes, and
fails when the connection cannot encode the frame; either ends the loop, as
a client gone away does. At the end it closes the session and sends the
client a close notice, giving up after 500 ms.

*Backplane consumer.* It hands every envelope that decodes and was not
published by its own node to the node's hub. When its stream fails it
resubscribes after the configured backoff, and gives up after the
configured number of attempts; cancellation stops it.

*Purge task.* It removes expired recall entries at once and then every
interval.
-/

namespace Herald.Cluster

/-- Swap a session's closed flag in, answering whether it was set already. -/
def swapClosed (s : Nat) : ClusterM Bool := do
  let was := ((← get).session s).closed
  modifySession s fun x => { x with closed := true }
  return was

/-- Take a session's subscription off its hub. The hub channel loses its
sender, which wakes a writer waiting for deliveries. -/
def unregisterSession (s : Nat) : ClusterM Unit := do
  let ses := (← get).session s
  let (hub, ch) := ((← get).node ses.node).hub.unregister ses.subscription
  modifyNode ses.node fun nd => { nd with hub }
  match ch with
  | some c =>
    modify fun w => { w with eventChannels := w.eventChannels.modify c fun ec =>
      { ec with channel := ec.channel.dropSender } }
    wakeWriterSelecting s
  | none => pure ()

def cancelSession (s : Nat) : ClusterM Unit := do
  modifySession s fun x => { x with cancelled := true }
  wakeReaderReceiving s
  wakeWriterOnCancel s

/-- Close a session: the call that swaps the closed flag in marks the session
closing, takes its channel off the hub and cancels its tasks. Returns whether
this call did it. -/
def closeSession (s : Nat) : ClusterM Bool := do
  if ← swapClosed s then return false
  storeLifecycle s .closing
  unregisterSession s
  cancelSession s
  return true

/-- The reader's reply to one inbound frame. -/
def respond (s : Nat) (f : Frame) : ClusterM (Option Frame) := do
  let ses := (← get).session s
  match f with
  | .ping ts => return some (.pong ts)
  | .pong _ => return none
  | f =>
    if !f.frameType.inbound then return some (.error 0 400 "unexpected server frame")
    else handleFrame ses.node ses.service { actor := ses.actor, topic := ses.topic } f

/-- The reader ends: the session closes and the reader's ends of its
channels go away. -/
def finishReader (s : Nat) : ClusterM Unit := do
  let _ ← closeSession s
  modifySession s fun x => { x with replies := x.replies.dropSender,
                                    inbound := x.inbound.dropReceiver, reader := .done }
  wakeWriterSelecting s

/-- One turn of a session's reader: it computes the join frames, queues one
of them, takes an inbound frame, or queues a reply. It answers whether the
reader goes on at once; it does not when it has to wait or is done. -/
def readerTurn (s : Nat) : ClusterM Bool := do
  let ses := (← get).session s
  match ses.reader with
  | .done => return false
  | .fresh =>
    let frames ← joinFrames ses.node ses.service { actor := ses.actor, topic := ses.topic }
    modifySession s fun x => { x with reader := .joining frames }
    return true
  | .joining [] =>
    modifySession s fun x => { x with reader := .receiving }
    return true
  | .joining (f :: rest) =>
    match ses.replies.trySend f with
    | .ok c =>
      modifySession s fun x => { x with replies := c, reader := .joining rest }
      wakeWriterSelecting s
      return true
    | .error .closed =>
      finishReader s
      return false
    | .error .full => return false
  | .receiving =>
    if ses.cancelled then
      finishReader s
      return false
    else
      match ses.inbound.tryRecv with
      | (.item input, c) =>
        modifySession s fun x => { x with inbound := c }
        match input with
        | .failure _ =>
          finishReader s
          return false
        | .frame f =>
          match ← respond s f with
          | none => return true
          | some r =>
            modifySession s fun x => { x with reader := .replying r }
            return true
      | (.finished, _) =>
        finishReader s
        return false
      | (.empty, _) => return false
  | .replying r =>
    match ses.replies.trySend r with
    | .ok c =>
      modifySession s fun x => { x with replies := c, reader := .receiving }
      wakeWriterSelecting s
      return true
    | .error .closed =>
      finishReader s
      return false
    | .error .full => return false

/-- Run a session's reader until it waits. -/
def pollReader (s : Nat) : Nat → ClusterM Unit
  | 0 => pure ()
  | fuel + 1 => do
    if ← readerTurn s then pollReader s fuel

/-- The writer leaves its loop: the session closes, the writer stops taking
deliveries and replies, and starts the close notice. -/
def finishWriter (s : Nat) : ClusterM Unit := do
  let _ ← closeSession s
  let ses := (← get).session s
  modify fun w => { w with eventChannels := w.eventChannels.modify ses.events fun ec =>
    { ec with channel := ec.channel.dropReceiver } }
  let deadline := (← get).clock + 500
  modifySession s fun x => { x with replies := x.replies.dropReceiver, writer := .closing deadline }
  wakeReaderReplying s

/-- The writer is done: the client's stream ends and the session is closed. -/
def retireWriter (s : Nat) : ClusterM Unit :=
  modifySession s fun x => { x with outbound := x.outbound.dropSender, lifecycle := .closed,
                                    writer := .done }

/-- Whether a session's connection takes an event: over a WebSocket, a frame
that does not encode fails its write. -/
def Session.carries (ses : Session) : PeerEvent → Bool
  | .frame f =>
    match ses.wireFormat with
    | some format => format.encodes f
    | none => true
  | _ => true

/-- One turn of a session's writer: it writes its pending event, takes the
next one (a reply before a delivery before a keepalive ping), or sends the
close notice. It answers whether the writer goes on at once; it does not when
it has to wait or is done. -/
def writerTurn (s : Nat) : ClusterM Bool := do
  let w ← get
  let ses := w.session s
  match ses.writer with
  | .done => return false
  | .writing e =>
    if ses.cancelled then
      finishWriter s
      return true
    else if !ses.carries e then
      -- the write fails before anything reaches the client, and the writer leaves its loop
      finishWriter s
      return true
    else
      match ses.outbound.trySend e with
      | .ok c =>
        modifySession s fun x => { x with outbound := c, writer := .selecting (waitDeadline w.clock x.keepalive) }
        return true
      | .error .closed =>
        finishWriter s
        return true
      | .error .full => return false
  | .selecting deadline =>
    if ses.cancelled then
      finishWriter s
      return true
    else
      match ses.replies.tryRecv with
      | (.item r, c) =>
        modifySession s fun x => { x with replies := c, writer := .writing (.frame r) }
        wakeReaderReplying s
        return true
      | _ =>
        let ec := w.eventChannels.getD ses.events default
        match ec.channel.tryRecv with
        | (.item e, c) =>
          set { w with eventChannels := w.eventChannels.set! ses.events { ec with channel := c } }
          modifySession s fun x => { x with writer := .writing (.frame (Frame.deliver e)) }
          return true
        | (.finished, _) =>
          finishWriter s
          return true
        | (.empty, _) =>
          if w.clock ≥ deadline then
            modifySession s fun x => { x with writer := .writing .ping }
            return true
          else return false
  | .closing deadline =>
    match ses.outbound.trySend .closed with
    | .ok c =>
      modifySession s fun x => { x with outbound := c, sinkClosed := true }
      retireWriter s
      return false
    | .error .closed =>
      modifySession s fun x => { x with sinkClosed := true }
      retireWriter s
      return false
    | .error .full =>
      if w.clock ≥ deadline then retireWriter s
      return false

/-- Run a session's writer until it waits. -/
def pollWriter (s : Nat) : Nat → ClusterM Unit
  | 0 => pure ()
  | fuel + 1 => do
    if ← writerTurn s then pollWriter s fuel

/-- Milliseconds covering a span of nanoseconds, rounded up. -/
def ceilMillis (ns : Nat) : Nat := (ns + 999999) / 1000000

/-- The consumer stops and lets go of its stream. -/
def retireConsumer (c : Nat) : ClusterM Unit := do
  let con := (← get).consumers.getD c default
  modify fun w => { w with transports := w.transports.release con.stream }
  modifyConsumer c fun x => { x with step := .done }

/-- Hand a received envelope to the consumer's hub, unless it does not
decode or is the node's own. -/
def dispatchEnvelope (n : Nat) (p : ByteArray) : ClusterM Unit := do
  match Envelope.decode p with
  | .error _ => pure ()
  | .ok env =>
    if env.isFrom ((← get).node n).source then pure ()
    else
      let _ ← broadcast n env.payload.topic env.payload

def startBackoff (c : Nat) : ClusterM Unit := do
  let w ← get
  let con := w.consumers.getD c default
  let cfg := (w.node con.node).backplane
  if cfg.resubscribeAttempts == 0 then retireConsumer c
  else
    let step := ConsumerStep.backoff 1 cfg.initialDelay (waitDeadline w.clock (ceilMillis cfg.initialDelay))
    modifyConsumer c fun x => { x with step }

/-- What one turn of a consumer's loop did. -/
inductive ConsumerTurn where
  /-- It read a payload from its stream and dispatched it. -/
  | handed (p : ByteArray)
  /-- It started or advanced a backoff, or resubscribed, and goes on. -/
  | moved
  /-- It waits, or it has ended. -/
  | rests
  deriving Inhabited

/-- One turn of a backplane consumer's loop. -/
def consumerTurn (c : Nat) : ClusterM ConsumerTurn := do
  let w ← get
  let con := w.consumers.getD c default
  match con.step with
  | .done => return .rests
  | .receiving =>
    if w.cancelled then
      retireConsumer c
      return .rests
    else
      let (ts, stream, got) := w.transports.next con.stream
      set { w with transports := ts }
      modifyConsumer c fun x => { x with stream }
      match got with
      | .error _ =>
        startBackoff c
        return .moved
      | .ok (.item p) =>
        dispatchEnvelope con.node p
        return .handed p
      | .ok .finished =>
        retireConsumer c
        return .rests
      | .ok .empty => return .rests
  | .backoff attempt delay deadline =>
    if w.cancelled then
      retireConsumer c
      return .rests
    else if w.clock < deadline then return .rests
    else
      let cfg := (w.node con.node).backplane
      let (ts, got) := w.transports.subscribe con.transport cfg.subject
      set { w with transports := ts }
      match got with
      | .ok stream =>
        modify fun w => { w with transports := w.transports.release con.stream }
        modifyConsumer c fun x => { x with stream, step := .receiving }
        return .moved
      | .error _ =>
        -- a delay that cannot be waited ends the consumer like the last attempt
        match cfg.nextDelay? delay with
        | none =>
          retireConsumer c
          return .rests
        | some delay =>
          if attempt ≥ cfg.resubscribeAttempts then
            retireConsumer c
            return .rests
          else
            let step := ConsumerStep.backoff (attempt + 1) delay
              (waitDeadline (← get).clock (ceilMillis delay))
            modifyConsumer c fun x => { x with step }
            return .moved

/-- Run a backplane consumer until it waits. -/
def pollConsumer (c : Nat) : Nat → ClusterM Unit
  | 0 => pure ()
  | fuel + 1 => do
    match ← consumerTurn c with
    | .rests => pure ()
    | _ => pollConsumer c fuel

/-- Start a consumer of node `n` on a stream of a named transport and
queue it to run; returns its index. -/
def startConsumer (n : Nat) (name : String) (stream : Stream) : ClusterM Nat := do
  let c := (← get).consumers.size
  modify fun w => { w with consumers := w.consumers.push { node := n, transport := name, stream } }
  wake (.consumer c)
  return c

/-- Subscribe on each named transport in turn, starting a consumer of node
`n` on every stream got. The first refused subscribe ends the loop with its
error, under its transport's name: later transports are not tried, and the
consumers already started keep running. Returns the consumers started. -/
def startConsumers (n : Nat) (subject : String) :
    List String → ClusterM (Except BackplaneError (List Nat))
  | [] => return .ok []
  | name :: rest => do
    let (ts, got) := (← get).transports.subscribe name subject
    modify fun w => { w with transports := ts }
    match got with
    | .error e => return .error (.subscribe (((ts.get? name).map Transport.name).getD name) e)
    | .ok stream =>
      let c ← startConsumer n name stream
      return (← startConsumers n subject rest).map (c :: ·)

/-- Start node `n`'s backplane: one consumer per transport, in order, on the
backplane subject. -/
def startBackplane (n : Nat) : ClusterM (Except BackplaneError (List Nat)) := do
  let nd := (← get).node n
  startConsumers n nd.backplane.subject nd.transports

/-- Run a purge task until it waits. -/
def pollPurge (p : Nat) : ClusterM Unit := do
  let w ← get
  let task := w.purges.getD p default
  if task.done then return
  if w.cancelled then
    modify fun w => { w with purges := w.purges.modify p fun x => { x with done := true } }
    return
  let next := if task.started then task.nextTick else w.clock
  if w.clock ≥ next then
    let (_, cache) := (w.node task.node).recallCache.purge w.instant
    modifyNode task.node fun nd => { nd with recallCache := cache }
    modify fun w => { w with purges := w.purges.modify p fun x =>
      { x with started := true, nextTick := w.clock + x.interval } }
  else
    modify fun w => { w with purges := w.purges.modify p fun x => { x with started := true, nextTick := next } }

/-- The most steps one task runs before it waits. -/
def pollBudget : Nat := 100000

def pollTask : TaskRef → ClusterM Unit
  | .reader s => pollReader s pollBudget
  | .writer s => pollWriter s pollBudget
  | .consumer c => pollConsumer c pollBudget
  | .purge p => pollPurge p

end Herald.Cluster
