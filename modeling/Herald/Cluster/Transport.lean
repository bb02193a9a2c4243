import Herald.Cluster.Channel
import Herald.Protocol.Error
import Herald.Pack.Read
import Herald.Pack.Write

set_option autoImplicit false

/-!
Backplane transports: carriers of opaque payloads on named subjects.

- A *bus* keeps, per subject, a ring of the last `capacity` payloads (the
  capacity rounded up to a power of two). Each subscriber reads from the
  point where it subscribed; one that falls more than a ring behind skips
  the oldest payloads. A payload published while nobody subscribes is lost.
  Shutting the bus down ends every open stream once it is read out.
- A *queue* hands each payload to every bound consumer, or, while none is
  bound, keeps it in a bounded backlog that the next consumer receives
  first. Shutting it down unbinds every consumer.
- A *faulty* transport wraps a bus and follows a script: each subscribe
  takes the next entry (`ok`, `fail` or `broken`), and publishing may be
  made to fail.
- A *mesh* whose links to its peers never connect: each publish is framed
  (the subject's length, the subject, the payload) and queued on every peer
  link, a full link refusing it, and a subject longer than 65535 bytes is
  refused outright; nothing ever arrives, so its streams only wait. Once
  its token is cancelled it takes no new subscriber, its streams end, and as
  soon as its link tasks have run they let go of their queues, so that a
  publish finds every link closed.
-/

namespace Herald.Cluster

/-- Transport failures. -/
inductive TransportError where
  | connectionClosed
  | sendFailed (reason : String)
  | receiveFailed (reason : String)
  | queueFull (what : String)
  | protocol (e : ProtocolError)
  | io (reason : String)
  | other (reason : String)
  deriving DecidableEq, Repr

def TransportError.message : TransportError → String
  | .connectionClosed => "Connection closed"
  | .sendFailed r => s!"Send failed: {r}"
  | .receiveFailed r => s!"Receive failed: {r}"
  | .queueFull w => s!"Queue full: {w}"
  | .protocol e => s!"Protocol error: {e.message}"
  | .io r => s!"I/O error: {r}"
  | .other r => r

/-- One ring of a bus subject. -/
structure Ring where
  bound : Nat
  /-- The retained payloads with their sequence numbers, oldest first. -/
  buffer : List (Nat × ByteArray) := []
  nextSeq : Nat := 0
  senderOpen : Bool := true
  receivers : Nat := 0
  deriving Inhabited

namespace Ring

/-- The sequence number of the oldest retained payload. -/
def oldest (r : Ring) : Nat := r.nextSeq - r.buffer.length

def send (r : Ring) (p : ByteArray) : Ring :=
  if r.receivers == 0 then r
  else
    let buffer := r.buffer ++ [(r.nextSeq, p)]
    { r with buffer := buffer.drop (buffer.length - r.bound), nextSeq := r.nextSeq + 1 }

/-- Read from position `next`: a payload and the following position, the
end, or nothing yet. A position older than the ring moves to the oldest. -/
def read (r : Ring) (next : Nat) : Received (ByteArray × Nat) :=
  let next := max next r.oldest
  match r.buffer.find? (·.1 == next) with
  | some (_, p) => .item (p, next + 1)
  | none => if r.senderOpen then .empty else .finished

end Ring

/-- The smallest power of two at least `n` (and at least one). -/
def nextPowerOfTwo (n : Nat) : Nat :=
  let rec go (p : Nat) : Nat → Nat
    | 0 => p
    | fuel + 1 => if p ≥ n then p else go (2 * p) fuel
  go 1 64

/-- A bus: subjects with their current ring. -/
structure Bus where
  capacity : Nat
  subjects : List (String × Nat) := []
  deriving Inhabited

/-- The default ring size of a bus. -/
def defaultBusCapacity : Nat := 1024

/-- One queue subject. -/
structure QueueSubject where
  consumers : List Nat := []
  backlog : List ByteArray := []
  deriving Inhabited

/-- A queue. -/
structure Queue where
  maxBacklog : Nat
  subjects : List (String × QueueSubject) := []
  deriving Inhabited

/-- The default backlog bound of a queue. -/
def defaultBacklog : Nat := 10000

/-- What a scripted subscribe does. -/
inductive ScriptStep where
  | ok | fail | broken
  deriving DecidableEq, Repr

/-- A scripted transport over a bus. -/
structure Faulty where
  script : List ScriptStep := []
  publishFails : Bool := false
  subscribes : Nat := 0
  inner : Bus
  deriving Inhabited

/-- The longest subject a mesh frame can carry, in bytes. -/
def meshSubjectLimit : Nat := 65535

/-- The longest frame a peer's length-delimited codec takes, in bytes. -/
def maxMeshFrame : Nat := 2 * 1024 * 1024

/-- A mesh frame: the subject's length in two big-endian bytes, the subject,
then the payload. A subject over 65535 bytes has no frame. -/
def encodeMeshFrame (subject : String) (payload : ByteArray) : Except TransportError ByteArray :=
  let length := subject.utf8ByteSize
  if length > meshSubjectLimit then .error (.other s!"subject too long: {length} bytes")
  else .ok (ByteArray.mk (Pack.beBytes 2 length).toArray ++ subject.toUTF8 ++ payload)

/-- Split a mesh frame into its subject and payload. A frame too short for
the length bytes, one whose subject runs past its end, and one whose
subject is not UTF-8 are refused. -/
def decodeMeshFrame (frame : ByteArray) : Except TransportError (String × ByteArray) :=
  if frame.size < 2 then .error (.receiveFailed "mesh frame too short")
  else
    let length := Pack.beNat (frame.extract 0 2)
    if frame.size - 2 < length then .error (.receiveFailed "mesh subject truncated")
    else
      let subject := frame.extract 2 (2 + length)
      match String.fromUTF8? subject with
      | some s => .ok (s, frame.extract (2 + length) frame.size)
      | none => .error (.receiveFailed (((Text.firstProblem subject).map Text.Utf8Problem.message).getD ""))

/-- A mesh: the frames queued on each peer link, with the peer's address;
the listener's address, when it listens; and whether its token was
cancelled. -/
structure Mesh where
  links : List (String × Channel ByteArray) := []
  listening : Option String := none
  cancelled : Bool := false
  deriving Inhabited

namespace Mesh

/-- A mesh linked to `peers`, each link queueing at most `capacity` frames. -/
def linked (peers : List String) (capacity : Nat) : Mesh :=
  { links := peers.map fun addr => (addr, Channel.bounded capacity) }

/-- Offer a frame once to each link, without waiting: the links after, and
the first refusal, a full link's as `QueueFull` with its address and a
stopped one's as `ConnectionClosed`. -/
def offerLinks (frame : ByteArray) :
    List (String × Channel ByteArray) → List (String × Channel ByteArray) × Option TransportError
  | [] => ([], none)
  | (addr, queue) :: rest =>
    let (later, failure) := offerLinks frame rest
    match queue.trySend frame with
    | .ok taken => ((addr, taken) :: later, failure)
    | .error .full => ((addr, queue) :: later, some (.queueFull addr))
    | .error .closed => ((addr, queue) :: later, some .connectionClosed)

/-- Publish: frame the payload under the subject and offer the frame to
every link; the first refusal is the answer. -/
def publish (m : Mesh) (subject : String) (payload : ByteArray) : Mesh × Except TransportError Unit :=
  match encodeMeshFrame subject payload with
  | .error e => (m, .error e)
  | .ok frame =>
    let (links, failure) := offerLinks frame m.links
    ({ m with links }, match failure with
      | some e => .error e
      | none => .ok ())

def cancel (m : Mesh) : Mesh := { m with cancelled := true }

/-- Let the mesh's tasks run: after a cancellation the link tasks stop and
let go of their queues. -/
def settle (m : Mesh) : Mesh :=
  if m.cancelled then { m with links := m.links.map fun (addr, queue) => (addr, queue.dropReceiver) } else m

/-- Whether a subscriber can still be taken. -/
def subscribe (m : Mesh) : Except TransportError Unit :=
  if m.cancelled then .error .connectionClosed else .ok ()

end Mesh

/-- A transport. -/
inductive Transport where
  | bus (b : Bus)
  | queue (q : Queue)
  | faulty (f : Faulty)
  | mesh (m : Mesh)
  deriving Inhabited

def Transport.name : Transport → String
  | .bus _ => "bus"
  | .queue _ => "queue"
  | .faulty _ => "faulty"
  | .mesh _ => "mesh"

/-- A subscription's stream of payloads. -/
inductive Stream where
  /-- A bus reader: its ring and its next position. -/
  | ring (ring : Nat) (next : Nat)
  /-- A queue consumer's own channel. -/
  | inbox (channel : Nat)
  /-- A stream whose first read fails. -/
  | broken
  /-- A stream nothing is ever sent to. -/
  | silent
  deriving DecidableEq, Repr, Inhabited

/-- All transports by name, with the rings and consumer channels they use. -/
structure Transports where
  named : List (String × Transport) := []
  rings : Array Ring := #[]
  inboxes : Array (Channel ByteArray) := #[]
  deriving Inhabited

namespace Transports

def get? (ts : Transports) (name : String) : Option Transport := ts.named.lookup name

def put (ts : Transports) (name : String) (t : Transport) : Transports :=
  { ts with named := ts.named.map fun (n, t') => if n == name then (n, t) else (n, t') }

/-- The ring of a bus subject, made on first use. -/
def busRing (ts : Transports) (b : Bus) (subject : String) : Transports × Bus × Nat :=
  match b.subjects.lookup subject with
  | some r => (ts, b, r)
  | none =>
    let r := ts.rings.size
    ({ ts with rings := ts.rings.push { bound := nextPowerOfTwo b.capacity } },
      { b with subjects := b.subjects ++ [(subject, r)] }, r)

/-- Publish on a bus; returns the ring touched. -/
def busPublish (ts : Transports) (b : Bus) (subject : String) (p : ByteArray) :
    Transports × Bus × Nat :=
  let (ts, b, r) := ts.busRing b subject
  ({ ts with rings := ts.rings.modify r (·.send p) }, b, r)

def busSubscribe (ts : Transports) (b : Bus) (subject : String) : Transports × Bus × Stream :=
  let (ts, b, r) := ts.busRing b subject
  let ring := ts.rings.getD r default
  ({ ts with rings := ts.rings.set! r { ring with receivers := ring.receivers + 1 } }, b,
    .ring r ring.nextSeq)

/-- Shut a bus down; returns the rings that ended. -/
def busShutdown (ts : Transports) (b : Bus) : Transports × Bus × List Nat :=
  let ended := b.subjects.map (·.2)
  let rings := ended.foldl (fun rs r => rs.modify r fun ring => { ring with senderOpen := false }) ts.rings
  ({ ts with rings }, { b with subjects := [] }, ended)

def queueSubject (q : Queue) (subject : String) : QueueSubject := (q.subjects.lookup subject).getD {}

def setQueueSubject (q : Queue) (subject : String) (s : QueueSubject) : Queue :=
  if q.subjects.any (·.1 == subject) then
    { q with subjects := q.subjects.map fun (n, s') => if n == subject then (n, s) else (n, s') }
  else { q with subjects := q.subjects ++ [(subject, s)] }

/-- What a publish did: the error, if any, and the streams that got data. -/
structure Published where
  result : Except TransportError Unit := .ok ()
  touched : List Stream := []

/-- Publish a payload on a named transport's subject. -/
def publish (ts : Transports) (name subject : String) (p : ByteArray) : Transports × Published :=
  match ts.get? name with
  | none => (ts, {})
  | some (.bus b) =>
    let (ts, b, r) := ts.busPublish b subject p
    (ts.put name (.bus b), { touched := [.ring r 0] })
  | some (.faulty f) =>
    if f.publishFails then (ts, { result := .error (.sendFailed "injected") })
    else
      let (ts, b, r) := ts.busPublish f.inner subject p
      (ts.put name (.faulty { f with inner := b }), { touched := [.ring r 0] })
  | some (.queue q) =>
    let s := queueSubject q subject
    let live := s.consumers.filter fun c => (ts.inboxes.getD c default).receiverOpen
    if live.isEmpty then
      if s.backlog.length ≥ q.maxBacklog then
        (ts.put name (.queue (setQueueSubject q subject { s with consumers := live })),
          { result := .error (.queueFull subject) })
      else
        (ts.put name (.queue (setQueueSubject q subject { consumers := live, backlog := s.backlog ++ [p] })), {})
    else
      let inboxes := live.foldl (fun ib c => ib.modify c fun ch =>
        match ch.trySend p with
        | .ok ch => ch
        | .error _ => ch) ts.inboxes
      ({ (ts.put name (.queue (setQueueSubject q subject { s with consumers := live }))) with inboxes },
        { touched := live.map Stream.inbox })
  | some (.mesh m) =>
    let (m, result) := m.publish subject p
    (ts.put name (.mesh m), { result })

def subscribe (ts : Transports) (name subject : String) : Transports × Except TransportError Stream :=
  match ts.get? name with
  | none => (ts, .error .connectionClosed)
  | some (.bus b) =>
    let (ts, b, s) := ts.busSubscribe b subject
    (ts.put name (.bus b), .ok s)
  | some (.faulty f) =>
    let f := { f with subscribes := f.subscribes + 1 }
    match f.script with
    | [] | .ok :: _ =>
      let f := { f with script := f.script.drop 1 }
      let (ts, b, s) := ts.busSubscribe f.inner subject
      (ts.put name (.faulty { f with inner := b }), .ok s)
    | .fail :: rest => (ts.put name (.faulty { f with script := rest }), .error .connectionClosed)
    | .broken :: rest => (ts.put name (.faulty { f with script := rest }), .ok .broken)
  | some (.queue q) =>
    let s := queueSubject q subject
    let c := ts.inboxes.size
    let inbox : Channel ByteArray := { items := s.backlog }
    let q := setQueueSubject q subject { consumers := s.consumers ++ [c], backlog := [] }
    ({ (ts.put name (.queue q)) with inboxes := ts.inboxes.push inbox }, .ok (.inbox c))
  | some (.mesh _) => (ts, .ok .silent)

/-- Shut a named transport down; returns the streams that ended. -/
def shutdown (ts : Transports) (name : String) : Transports × List Stream :=
  match ts.get? name with
  | none => (ts, [])
  | some (.bus b) =>
    let (ts, b, ended) := ts.busShutdown b
    (ts.put name (.bus b), ended.map fun r => .ring r 0)
  | some (.faulty f) =>
    let (ts, b, ended) := ts.busShutdown f.inner
    (ts.put name (.faulty { f with inner := b }), ended.map fun r => .ring r 0)
  | some (.queue q) =>
    let consumers := q.subjects.foldl (fun acc (_, s) => acc ++ s.consumers) []
    let inboxes := consumers.foldl (fun ib c => ib.modify c Channel.dropSender) ts.inboxes
    let q := { q with subjects := q.subjects.map fun (n, s) => (n, { s with consumers := [] }) }
    ({ (ts.put name (.queue q)) with inboxes }, consumers.map Stream.inbox)
  | some (.mesh _) => (ts, [])

/-- The backlog length of a queue subject. -/
def backlog (ts : Transports) (name subject : String) : Nat :=
  match ts.get? name with
  | some (.queue q) => (queueSubject q subject).backlog.length
  | _ => 0

/-- Read the next payload of a stream. -/
def next (ts : Transports) (s : Stream) :
    Transports × Stream × Except TransportError (Received ByteArray) :=
  match s with
  | .silent => (ts, s, .ok .empty)
  | .broken => (ts, s, .error (.receiveFailed "reset"))
  | .ring r pos =>
    match (ts.rings.getD r default).read pos with
    | .item (p, pos') => (ts, .ring r pos', .ok (.item p))
    | .empty => (ts, s, .ok .empty)
    | .finished => (ts, s, .ok .finished)
  | .inbox c =>
    let (got, ch) := (ts.inboxes.getD c default).tryRecv
    ({ ts with inboxes := ts.inboxes.set! c ch }, s, .ok got)

def ready (ts : Transports) (s : Stream) : Bool :=
  match s with
  | .silent => false
  | .broken => true
  | .ring r pos =>
    match (ts.rings.getD r default).read pos with
    | .empty => false
    | _ => true
  | .inbox c => (ts.inboxes.getD c default).ready

def release (ts : Transports) (s : Stream) : Transports :=
  match s with
  | .silent | .broken => ts
  | .ring r _ => { ts with rings := ts.rings.modify r fun ring => { ring with receivers := ring.receivers - 1 } }
  | .inbox c => { ts with inboxes := ts.inboxes.modify c Channel.dropReceiver }

/-- Whether two streams read the same source. -/
def sameSource : Stream → Stream → Bool
  | .ring a _, .ring b _ => a == b
  | .inbox a, .inbox b => a == b
  | _, _ => false

end Transports

end Herald.Cluster
