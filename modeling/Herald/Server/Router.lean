import Herald.Server.App
import Herald.Server.Extract
import Herald.Protocol.TextCodec

set_option autoImplicit false

/-!
The server's HTTP routes and what each answers.

| path | methods |
|---|---|
| `/health` | GET |
| `/rooms/:room/messages` | GET (history), POST (send) |
| `/notifications` | GET (history), POST (publish) |
| `/notifications/unread` | GET |
| `/notifications/:id/read` | POST |
| `/ws/rooms/:room` | GET (chat session) |
| `/ws/notifications` | GET (notification session) |

A path no route matches is 404 and a method a route does not take is 405,
both empty. `HEAD` is answered as `GET` without the body. A handler reads
what it needs in order (the handshake, then the caller, the path, the
query, the body) and the first failure is the answer. Service failures are
JSON `{"code", "error"}` with the code as status; a successful post is 201.
A chat session's room is checked before the session starts.
-/

namespace Herald.Server

open Http Json Cluster Settings

/-- A route of the server. -/
inductive Route where
  | health
  | roomMessages (room : String)
  | notifications
  | unread
  | markRead (id : String)
  | roomSocket (room : String)
  | notificationSocket
  deriving Inhabited

namespace Route

/-- The route a path matches: each parameter is one segment, still
percent-encoded, which may be empty unless it ends the path. -/
def ofPath (path : String) : Option Route :=
  match path.splitOn "/" with
  | ["", "health"] => some .health
  | ["", "rooms", room, "messages"] => some (.roomMessages room)
  | ["", "notifications"] => some .notifications
  | ["", "notifications", "unread"] => some .unread
  | ["", "notifications", id, "read"] => some (.markRead id)
  | ["", "ws", "rooms", room] => if room.isEmpty then none else some (.roomSocket room)
  | ["", "ws", "notifications"] => some .notificationSocket
  | _ => none

def methods : Route → List String
  | .roomMessages _ | .notifications => ["GET", "POST"]
  | .markRead _ => ["POST"]
  | _ => ["GET"]

end Route

/-- A session a handshake asks for: who, on which topic, served by which
service, writing which format. -/
structure SessionPlan where
  actor : Actor
  topic : Topic
  service : ServiceKind
  format : WireFormat
  deriving Inhabited

/-- What a request comes to: a response, or a session to start. -/
inductive Outcome where
  | reply (r : Response)
  | upgrade (plan : SessionPlan)
  deriving Inhabited

def failureResponse (e : ServiceError) : Response :=
  .json e.code (.obj [("code", .nat e.code), ("error", .str e.message)])

/-- A service result as a response with `status`. -/
def serviceResponse {α : Type} (status : Nat) (toJson : α → Json) : Except ServiceError α → Response
  | .ok a => .json status (toJson a)
  | .error e => failureResponse e

/-- Run the extraction steps of a handler; a rejection is the answer. -/
def extracting {α : Type} (e : Extract α) (k : α → ClusterM Response) : ClusterM Response :=
  match e with
  | .ok a => k a
  | .error r => pure r

/-- The health report: status, version, hub counts and transport names. -/
def healthReport : ClusterM Response := do
  let w ← get
  let nd := w.node serverNode
  let names := nd.transports.map fun n => ((w.transports.get? n).map Transport.name).getD n
  return .json 200 (.obj [("backplane", .arr (names.map Json.str)),
    ("hub", .obj [("dropped", .nat nd.hub.dropped), ("subscribers", .nat nd.hub.subscribers),
      ("topics", .nat nd.hub.topicCount)]),
    ("status", .str "ok"), ("version", .str "0.1.0")])

/-- Answer a request on a route that takes its method. -/
def answerRoute (c : Config) (route : Route) (method : String) (r : Request) : ClusterM Outcome := do
  match route, method with
  | .health, _ => return .reply (← healthReport)
  | .roomMessages room, "GET" =>
    return .reply (← extracting (do
        let _ ← identity r
        let room ← pathParam "room" room
        let page ← withQuery r pageOf
        pure (room, page)) fun (room, page) => do
      return serviceResponse 200 (fun ms => .arr (ms.map Message.toJson))
        (← chatHistory serverNode room page.before page.limit))
  | .roomMessages room, _ =>
    return .reply (← extracting (do
        let actor ← identity r
        let room ← pathParam "room" room
        let body ← jsonBody r sendBody
        pure (actor, room, body)) fun (actor, room, body) => do
      return serviceResponse 201 Message.toJson
        (← chatSend serverNode actor room body.content body.receiver body.kind))
  | .notifications, "GET" =>
    return .reply (← extracting (do
        let actor ← identity r
        let page ← withQuery r pageOf
        pure (actor, page)) fun (actor, page) => do
      return serviceResponse 200 (fun ns => .arr (ns.map Notification.toJson))
        (← notifyHistory serverNode actor.id page.before page.limit))
  | .notifications, _ =>
    return .reply (← extracting (do
        let actor ← identity r
        let body ← jsonBody r publishBody
        pure (actor, body)) fun (actor, body) => do
      return serviceResponse 201 Notification.toJson
        (← notifyPublish serverNode actor body.user body.kind body.content))
  | .unread, _ =>
    return .reply (← extracting (identity r) fun actor => do
      return serviceResponse 200 (fun n => .obj [("unread", .nat n)]) (← notifyUnread serverNode actor.id))
  | .markRead id, _ =>
    return .reply (← extracting (do
        let actor ← identity r
        let id ← uuidParam "id" id
        pure (actor, id)) fun (actor, id) => do
      return serviceResponse 200 Notification.toJson (← notifyMarkRead serverNode id actor.id))
  | .roomSocket room, _ =>
    let plan : Extract SessionPlan := do
      handshake r
      let actor ← identity r
      let room ← pathParam "room" room
      let format ← withQuery r formatOf
      match validateTopicId room with
      | .error m => throw (failureResponse (.validation "room_id" m))
      | .ok () =>
        pure { actor, topic := .room room, service := .chat, format := format.getD c.session.wireFormat }
    return match plan with
      | .ok p => .upgrade p
      | .error resp => .reply resp
  | .notificationSocket, _ =>
    let plan : Extract SessionPlan := do
      handshake r
      let actor ← identity r
      let format ← withQuery r formatOf
      pure { actor, topic := .user actor.id, service := .notify, format := format.getD c.session.wireFormat }
    return match plan with
      | .ok p => .upgrade p
      | .error resp => .reply resp

def route (c : Config) (r : Request) : ClusterM Outcome := do
  match Route.ofPath r.path with
  | none => return .reply (.empty 404)
  | some rt =>
    let head := r.method == "HEAD" && rt.methods.contains "GET"
    let method := if head then "GET" else r.method
    if !rt.methods.contains method then return .reply (.empty 405)
    match ← answerRoute c rt method r with
    | .reply resp => return .reply (if head then { resp with body := "" } else resp)
    | other => return other

end Herald.Server
