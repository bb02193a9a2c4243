import Herald.Cluster.Scheduler
import Herald.Server.Router
import Herald.Protocol.BinaryCodec

set_option autoImplicit false

/-!
A session's WebSocket: how the messages a client sends become the inputs of
the session's reader, and how what the session's writer sends becomes
messages to the client.

Inbound, a text message is one JSON frame, and a binary message adds its
bytes to a buffer from which length-prefixed frames are taken, so one
frame may span messages and one message may hold several. A message larger
than the session's limit, or a frame that does not decode, is a read
failure and ends the reader. A ping is answered at once with a pong of the
same bytes, and a pong is ignored. A close ends the reader and is answered
with a close; nothing is read after a close or a failure.

Outbound, a frame is written in the session's wire format, a keepalive is a
ping without payload, and the writer's close notice is a close without a
code. Once the socket has sent or answered a close it writes nothing more:
later events of the session are lost. A frame too large to encode fails the
writer's write, which ends the session.

A session opened on a socket is registered on the server's hub with the
configured buffer, queues 32 replies, pings after the configured keepalive
and reads messages up to the configured size. The socket's two ends go away
with the session: once both of its tasks are done, the pipe to the client
is gone.
-/

namespace Herald.Server

open Cluster Settings

/-- A WebSocket message. -/
inductive SocketMessage where
  | text (s : String)
  | binary (data : ByteArray)
  | ping (data : ByteArray)
  | pong (data : ByteArray)
  /-- A close without a status code. -/
  | close
  deriving Inhabited

/-- The server's reading side of a socket. -/
structure SocketReader where
  /-- The largest message read, in bytes. -/
  limit : Nat
  /-- Bytes of binary messages not yet taken as frames. -/
  buffer : ByteArray := ByteArray.empty
  /-- Whether reading has stopped, after a close or a failure. -/
  stopped : Bool := false
  deriving Inhabited

/-- What one client message comes to on the server's side. -/
structure Intake where
  /-- Inputs for the session's reader, in order. -/
  inputs : List PeerInput := []
  /-- Whether the client's stream ends after them. -/
  ends : Bool := false
  /-- A message the socket sends straight back. -/
  answer : Option SocketMessage := none

namespace SocketReader

/-- Stop reading after handing over `inputs`, the last a failure. -/
def fail (r : SocketReader) (inputs : List PeerInput) (e : ProtocolError) : SocketReader × Intake :=
  ({ r with stopped := true }, { inputs := inputs ++ [.failure e.message] })

def take (r : SocketReader) (m : SocketMessage) : SocketReader × Intake :=
  if r.stopped then (r, {})
  else
    match m with
    | .text s =>
      if s.utf8ByteSize > r.limit then r.fail [] (.frameTooLarge s.utf8ByteSize)
      else
        match decodeFrameText s with
        | .ok f => (r, { inputs := [.frame f] })
        | .error e => r.fail [] e
    | .binary d =>
      if d.size > r.limit then r.fail [] (.frameTooLarge d.size)
      else
        let (frames, rest, failure) := decodeFrameStream (r.buffer ++ d)
        let inputs := frames.map PeerInput.frame
        match failure with
        | some e => { r with buffer := rest }.fail inputs e
        | none => ({ r with buffer := rest }, { inputs })
    | .ping d => (r, { answer := some (.pong d) })
    | .pong _ => (r, {})
    | .close => ({ r with stopped := true }, { ends := true, answer := some .close })

end SocketReader

/-- The message that carries what a session's writer sends, in a wire
format; `none` for a frame too large to encode. -/
def SocketMessage.ofEvent (format : WireFormat) : PeerEvent → Option SocketMessage
  | .frame f =>
    match format with
    | .text => (encodeFrameText f).toOption.map SocketMessage.text
    | .binary => (encodeFrameBinary f).toOption.map SocketMessage.binary
  | .ping => some (.ping ByteArray.empty)
  | .closed => some .close

/-- Why a client's send fails. -/
inductive SendRefusal where
  /-- The client already sent or read a close. -/
  | afterClosing
  /-- The server's end of the pipe is gone. -/
  | brokenPipe
  deriving DecidableEq, Repr

/-- The text a client reports for a refused send. -/
def SendRefusal.message : SendRefusal → String
  | .afterClosing => "Sending after closing is not allowed"
  | .brokenPipe => "IO error: broken pipe"

/-- What a client finds when it reads its socket. -/
inductive ClientRead where
  | message (m : SocketMessage)
  /-- The stream ended after a close. -/
  | ended
  /-- The pipe went away without a close. -/
  | reset
  deriving Inhabited

/-- The socket between a client and a server session. -/
structure Socket where
  session : Nat
  format : WireFormat
  reader : SocketReader
  /-- Messages on their way to the client, oldest first. -/
  toClient : List SocketMessage := []
  /-- Whether the server has sent or answered a close. -/
  serverClosed : Bool := false
  /-- Whether the client has sent a close. -/
  clientClosed : Bool := false
  /-- Whether the client has read a close. -/
  clientSawClose : Bool := false
  /-- Whether the client has read the end of a pipe that went away. -/
  clientSawReset : Bool := false
  deriving Inhabited

namespace Socket

/-- Whether both of the session's tasks are done, so that the server's end
of the pipe is gone. -/
def pipeGone (k : Socket) (w : World) : Bool :=
  let ses := w.session k.session
  (match ses.reader with
   | .done => true
   | _ => false) &&
  (match ses.writer with
   | .done => true
   | _ => false)

/-- Whether the server has written something the socket has not yet
carried, or its end of the pipe is gone. -/
def pending (k : Socket) (w : World) : Bool :=
  !(w.session k.session).outbound.items.isEmpty || k.pipeGone w

/-- Put a message on the way to the client, unless the server has closed. -/
def write (k : Socket) (m : SocketMessage) : Socket :=
  if k.serverClosed then k
  else
    match m with
    | .close => { k with toClient := k.toClient ++ [m], serverClosed := true }
    | _ => { k with toClient := k.toClient ++ [m] }

/-- Write everything the session's writer has sent. -/
def collect (k : Socket) : ClusterM Socket := do
  let ses := (← get).session k.session
  let events := ses.outbound.items
  if events.isEmpty then return k
  modifySession k.session fun x => { x with outbound := { x.outbound with items := [] } }
  wakeWriterSending k.session
  return events.foldl (fun k e =>
    match SocketMessage.ofEvent k.format e with
    | some m => k.write m
    | none => k) k

def clientSend (k : Socket) (m : SocketMessage) : ClusterM (Socket × Except SendRefusal Unit) := do
  if k.clientClosed || k.clientSawClose then return (k, .error .afterClosing)
  if k.pipeGone (← get) then return (k, .error .brokenPipe)
  let k ← k.collect
  let (reader, intake) := k.reader.take m
  let k := { k with reader, clientClosed := k.clientClosed || m matches .close }
  for input in intake.inputs do
    modifySession k.session fun x => { x with inbound := { x.inbound with items := x.inbound.items ++ [input] } }
  if intake.ends then
    modifySession k.session fun x => { x with inbound := x.inbound.dropSender }
  wakeReaderReceiving k.session
  let k := match intake.answer with
    | some a => k.write a
    | none => k
  return (k, .ok ())

/-- The client drops its end of the pipe without a close: the server's
reader fails and nothing written reaches the client any more. -/
def clientDrop (k : Socket) : ClusterM Unit := do
  modifySession k.session fun x =>
    { x with inbound := { x.inbound with items := x.inbound.items ++ [.failure "connection reset"] },
             outbound := x.outbound.dropReceiver }
  wakeReaderReceiving k.session
  wakeWriterSending k.session

/-- The client reads the next message, if one is there. -/
def clientRead (k : Socket) : ClusterM (Socket × Option ClientRead) := do
  let k ← k.collect
  match k.toClient with
  | m :: rest =>
    let k := { k with toClient := rest }
    match m with
    | .close => return ({ k with clientSawClose := true }, some (.message m))
    | _ => return (k, some (.message m))
  | [] =>
    if k.clientSawClose || k.clientSawReset then return (k, some .ended)
    else if k.pipeGone (← get) then return ({ k with clientSawReset := true }, some .reset)
    else return (k, none)

end Socket

/-- How many messages the pipe to a client holds before the session's
writer waits. -/
def pipeMessages : Nat := 4096

/-- Start the session a handshake asked for, and the socket that serves it. -/
def openSocket (c : Config) (plan : SessionPlan) : ClusterM Socket := do
  let link : SessionLink :=
    { inbound := Channel.unbounded, outbound := Channel.bounded pipeMessages,
      wireFormat := some plan.format, autoDrain := false }
  let s ← startSession serverNode plan.service plan.actor plan.topic link c.session.outboundCapacity 32
    c.session.keepaliveMs
  runQueued runBudget
  return { session := s, format := plan.format, reader := { limit := c.session.maxMessageSize } }

end Herald.Server
