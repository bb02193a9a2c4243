import Herald.Core.Auth
import Herald.Core.Hub
import Herald.Core.Service
import Herald.Core.Backplane
import Herald.Protocol.Frame
import Herald.Protocol.WireFormat

set_option autoImplicit false

/-!
The state of a simulated cluster: processes ("nodes") with their hub,
store, recall cache and backplane; the transports they share; the client
sessions; and the tasks that move data between them.

Time is a virtual clock in milliseconds that only moves when every task
waits; no wait lasts longer than thirty years. Each task is a small state machine whose state says what it waits
for: the session reader for an inbound frame or for room to queue a reply,
the session writer for something to write, room to write it, or its
keepalive deadline, a backplane consumer for its stream or its resubscribe
delay, a purge task for its next tick. Woken tasks run in the order they
were woken.

Wall-clock times and fresh identifiers come from counters, so that a run
is a function of its inputs: times advance by one microsecond per reading
from a fixed start, and identifiers are numbered.
-/

namespace Herald.Cluster

/-- What the client side of a session's connection sees. -/
inductive PeerEvent where
  | frame (f : Frame)
  | ping
  | closed
  deriving DecidableEq, Repr, Inhabited

/-- What the client side sends: a frame, or a failure the server will read. -/
inductive PeerInput where
  | frame (f : Frame)
  | failure (reason : String)
  deriving DecidableEq, Repr, Inhabited

/-- Which service handles a session's requests. -/
inductive ServiceKind where
  | chat
  | notify
  deriving DecidableEq, Repr, Inhabited

/-- A session's lifecycle. -/
inductive Lifecycle where
  | connecting | registered | active | closing | closed
  deriving DecidableEq, Repr, Inhabited

def Lifecycle.name : Lifecycle → String
  | .connecting => "Connecting"
  | .registered => "Registered"
  | .active => "Active"
  | .closing => "Closing"
  | .closed => "Closed"

/-- Where a session's reader stands. -/
inductive ReaderStep where
  /-- Not yet run: the join frames are still to be computed. -/
  | fresh
  /-- Queueing the join frames. -/
  | joining (frames : List Frame)
  /-- Waiting for the next inbound frame. -/
  | receiving
  /-- Waiting for room to queue a reply. -/
  | replying (f : Frame)
  | done
  deriving Inhabited

/-- Where a session's writer stands. -/
inductive WriterStep where
  /-- Writing an event to the client (abandoned if the session closes). -/
  | writing (e : PeerEvent)
  /-- Waiting for a reply, a delivery, or the keepalive deadline. -/
  | selecting (deadline : Nat)
  /-- Sending the close notice, until the deadline. -/
  | closing (deadline : Nat)
  | done
  deriving Inhabited

/-- A client session. -/
structure Session where
  name : String
  node : Nat
  service : ServiceKind
  connectionId : String
  actor : Actor
  topic : Topic
  subscription : Subscription
  /-- The hub channel the writer reads deliveries from. -/
  events : Nat
  replies : Channel Frame
  inbound : Channel PeerInput
  outbound : Channel PeerEvent
  /-- Keepalive interval in milliseconds. -/
  keepalive : Nat
  lifecycle : Lifecycle := .active
  closed : Bool := false
  cancelled : Bool := false
  reader : ReaderStep := .fresh
  writer : WriterStep
  sinkClosed : Bool := false
  /-- Whether the driver takes the client's events after every step. -/
  autoDrain : Bool := true
  joined : Bool := false
  /-- The wire format of a session served over a WebSocket, whose writes
  encode each frame; `none` for a connection that carries frames as they are. -/
  wireFormat : Option WireFormat := none
  deriving Inhabited

/-- One process. -/
structure Node where
  hub : Hub := {}
  store : MemoryStore := {}
  /-- The services see a store that refuses every call. -/
  storeDown : Bool := false
  recallCache : RecallCache := {}
  /-- Whether the chat service uses the recall cache. -/
  recallAttached : Bool := true
  chat : ChatConfig := {}
  notify : NotificationConfig := {}
  source : String := ""
  backplane : BackplaneConfig := {}
  /-- Transport names, in publishing order. -/
  transports : List String := []
  deriving Inhabited

/-- Where a backplane consumer stands. -/
inductive ConsumerStep where
  | receiving
  /-- Waiting before resubscribe attempt `attempt`, with the current delay. -/
  | backoff (attempt : Nat) (delay : Nat) (deadline : Nat)
  | done
  deriving Inhabited

/-- A backplane consumer: one per node and transport. -/
structure Consumer where
  node : Nat
  transport : String
  stream : Stream
  step : ConsumerStep := .receiving
  deriving Inhabited

/-- A task purging a node's expired recall entries every `interval` ms. -/
structure Purge where
  node : Nat
  interval : Nat
  nextTick : Nat
  started : Bool := false
  done : Bool := false
  deriving Inhabited

/-- A task. -/
inductive TaskRef where
  | reader (s : Nat)
  | writer (s : Nat)
  | consumer (c : Nat)
  | purge (p : Nat)
  deriving DecidableEq, Repr, Inhabited

/-- A hub channel and the session whose writer reads it, if any. -/
structure EventChannel where
  channel : Channel Event
  owner : Option Nat := none
  deriving Inhabited

/-- The cluster. -/
structure World where
  /-- Virtual time in milliseconds. -/
  clock : Nat := 0
  wallTicks : Nat := 0
  uuidCount : Nat := 0
  connCount : Nat := 0
  nodes : Array Node := #[]
  transports : Transports := {}
  eventChannels : Array EventChannel := #[]
  sessions : Array Session := #[]
  consumers : Array Consumer := #[]
  purges : Array Purge := #[]
  runQueue : List TaskRef := []
  /-- The cancellation token shared by consumers and purge tasks. -/
  cancelled : Bool := false
  deriving Inhabited

abbrev ClusterM := StateM World

def wallStart : Timestamp := Timestamp.ofCivil 2026 1 1 0 0 0 0

/-- The monotonic clock's reading at virtual time zero, in nanoseconds. -/
def instantBase : Nat := 1000000 * 1000000000

/-- The longest a timer waits, in milliseconds: thirty years of 365 days.
A wait asked for longer ends then, the clock's far future standing in for
any later deadline. -/
def longestWait : Nat := 86400 * 365 * 30 * 1000

/-- The deadline of a wait of `ms` milliseconds from `now`. -/
def waitDeadline (now ms : Nat) : Nat := now + min ms longestWait

namespace World

def node (w : World) (n : Nat) : Node := w.nodes.getD n default

def session (w : World) (s : Nat) : Session := w.sessions.getD s default

def instant (w : World) : Nat := instantBase + w.clock * 1000000

/-- The latest wall-clock time handed out. Readings carry nanoseconds, as
a real clock's do, so their text has nine fraction digits. -/
def wallNow (w : World) : Timestamp := wallStart.addNanos (w.wallTicks * 1000 + 1)

end World

/-- Read the wall clock: every reading is one microsecond after the last. -/
def readClock : ClusterM Timestamp := do
  modify fun w => { w with wallTicks := w.wallTicks + 1 }
  return (← get).wallNow

def freshUuid : ClusterM Uuid := do
  modify fun w => { w with uuidCount := w.uuidCount + 1 }
  let k := (← get).uuidCount
  return ⟨0xe3b0c442_98fc_4c14_9afb_f4c800000000 + k⟩

/-- A fresh connection identifier: `conn_` and 32 hex digits. -/
def freshConnectionId : ClusterM String := do
  let u ← freshUuid
  return "conn_" ++ String.ofList u.hexDigits

def modifyNode (n : Nat) (f : Node → Node) : ClusterM Unit :=
  modify fun w => { w with nodes := w.nodes.modify n f }

def modifySession (s : Nat) (f : Session → Session) : ClusterM Unit :=
  modify fun w => { w with sessions := w.sessions.modify s f }

def modifyConsumer (c : Nat) (f : Consumer → Consumer) : ClusterM Unit :=
  modify fun w => { w with consumers := w.consumers.modify c f }

/-- Queue a task to run, unless it is queued already. -/
def wake (t : TaskRef) : ClusterM Unit :=
  modify fun w => if w.runQueue.contains t then w else { w with runQueue := w.runQueue ++ [t] }

/-- Wake a session's writer if it waits in its select (deliveries, replies,
keepalive). -/
def wakeWriterSelecting (s : Nat) : ClusterM Unit := do
  match (← get).session s |>.writer with
  | .selecting _ => wake (.writer s)
  | _ => pure ()

/-- Wake a session's writer if it waits for room in the client's buffer. -/
def wakeWriterSending (s : Nat) : ClusterM Unit := do
  match (← get).session s |>.writer with
  | .writing _ | .closing _ => wake (.writer s)
  | _ => pure ()

/-- Wake a session's writer if it watches the session's cancellation. -/
def wakeWriterOnCancel (s : Nat) : ClusterM Unit := do
  match (← get).session s |>.writer with
  | .selecting _ | .writing _ => wake (.writer s)
  | _ => pure ()

/-- Wake a session's reader if it waits for an inbound frame. -/
def wakeReaderReceiving (s : Nat) : ClusterM Unit := do
  match (← get).session s |>.reader with
  | .receiving => wake (.reader s)
  | _ => pure ()

/-- Wake a session's reader if it waits for room to queue a reply. -/
def wakeReaderReplying (s : Nat) : ClusterM Unit := do
  match (← get).session s |>.reader with
  | .joining _ | .replying _ => wake (.reader s)
  | _ => pure ()

/-- Wake the consumers reading a stream's source. -/
def wakeStreamReaders (src : Stream) : ClusterM Unit := do
  let w ← get
  for h : c in [0:w.consumers.size] do
    let con := w.consumers[c]
    match con.step with
    | .receiving => if Transports.sameSource con.stream src then wake (.consumer c)
    | _ => pure ()

/-- The connection a session is started on, as the session uses it: the
channel its client's inputs arrive on, the pipe its writes go to, how they are
encoded, and whether the driver takes them after every step. A session goes by
its connection id unless it is given a name. -/
structure SessionLink where
  name : Option String := none
  inbound : Channel PeerInput
  outbound : Channel PeerEvent
  wireFormat : Option WireFormat := none
  autoDrain : Bool := true

def storeLifecycle (s : Nat) (l : Lifecycle) : ClusterM Unit :=
  modifySession s fun x => { x with lifecycle := l }

/-- Register a session's hub channel on its topic and keep the subscription. -/
def registerSession (s : Nat) : ClusterM Unit := do
  let ses := (← get).session s
  let (hub, subscription) := ((← get).node ses.node).hub.register ses.topic ses.events
  modifyNode ses.node fun nd => { nd with hub }
  modifySession s fun x => { x with subscription }

/-- Move a registered session on to active, unless one of its tasks has
closed it already: a compare-and-swap of the state. -/
def activateSession (s : Nat) : ClusterM Unit :=
  modifySession s fun x => if x.lifecycle = .registered then { x with lifecycle := .active } else x

/-- Register a client session on node `n`'s hub and start its reader and
writer. The session gets a fresh connection id, a hub channel of
`outboundCapacity` items registered on `topic`, a reply channel of
`replyCapacity` items, and a writer whose first write is Connected with the
keepalive in milliseconds saturated to 32 bits. The session is registered
before its tasks are started, and made active after. The writer runs first. -/
def startSession (n : Nat) (service : ServiceKind) (actor : Actor) (topic : Topic) (link : SessionLink)
    (outboundCapacity replyCapacity keepalive : Nat) : ClusterM Nat := do
  let conn ← freshConnectionId
  let w ← get
  let ch := w.eventChannels.size
  let s := w.sessions.size
  let connected := Frame.connectedNow conn topic.display (min keepalive 4294967295)
  let ses : Session :=
    { name := link.name.getD conn, node := n, service, connectionId := conn, actor, topic,
      subscription := default, events := ch, replies := Channel.bounded replyCapacity,
      inbound := link.inbound, outbound := link.outbound, keepalive, lifecycle := .connecting,
      writer := .writing (.frame connected), autoDrain := link.autoDrain, wireFormat := link.wireFormat }
  let events : EventChannel := { channel := Channel.bounded outboundCapacity, owner := some s }
  set { w with eventChannels := w.eventChannels.push events, sessions := w.sessions.push ses }
  registerSession s
  storeLifecycle s .registered
  wake (.writer s)
  wake (.reader s)
  activateSession s
  return s

end Herald.Cluster
