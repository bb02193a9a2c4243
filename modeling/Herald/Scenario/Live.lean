import Herald.Scenario.Http
import Herald.Scenario.WorldSteps
import Herald.Server.Socket
import Herald.Text.Hex

set_option autoImplicit false

/-!
The `live` scenario: WebSocket clients of a running server, HTTP requests
to the same server, and stand-alone mesh nodes, driven step by step.

*Sockets.* `ws.connect` sends a WebSocket handshake (the given headers over
the usual handshake headers) through the server's routes: an upgrade starts
a session on a fresh socket, anything else is the HTTP answer. `ws.send`
writes a text, binary, ping, pong or close message; `ws.recv` reads up to a
number of messages before a deadline, where the end of the stream after a
close ends the list; `ws.drop` lets go of the client's end of the pipe.

*Meshes.* A mesh listens or not and queues every publish on a link per
peer, a peer being another mesh's listener or an address nothing listens
on. No link ever connects, so a subscriber receives nothing: it waits out
its time, or finds its stream closed once its mesh was cancelled or
dropped. Addresses are written as labels: a mesh `n` listens on
`<mesh:n>`, and the unused address is `<dead>`. A plain client cannot reach
any listener.

Time is the cluster's virtual clock. A step that waits (receiving, taking
from a mesh, sleeping) lets it run, and so do the steps that talk to the
server; only then do cancelled meshes stop their links.
-/

namespace Herald.Scenario

open Json Http Server Cluster Settings

/-- The state of a live run. -/
structure Live where
  config : Option Config := none
  world : World := {}
  /-- The WebSocket clients by name. -/
  sockets : List (String × Socket) := []
  /-- Every mesh started, in order. -/
  meshes : Array Mesh := #[]
  /-- The meshes still held, by name. -/
  held : List (String × Nat) := []
  /-- Mesh subscriptions by name, with the mesh they came from. -/
  subscriptions : List (String × Nat) := []
  deriving Inhabited

/-- A step of a live run that may fail with an error object. -/
abbrev LiveM := ExceptT Json (StateM Live)

/-- Run a cluster computation on the server's world. -/
def onServer {α : Type} (m : ClusterM α) : LiveM α := do
  let r ← get
  let (a, w) := m r.world
  set { r with world := w }
  pure a

/-- Let the tasks of every mesh run. -/
def settleMeshes : LiveM Unit :=
  modify fun r => { r with meshes := r.meshes.map Mesh.settle }

/-- Let time pass for `ms` milliseconds. -/
def pause (ms : Nat) : LiveM Unit := do
  onServer (sleepFor ms)
  settleMeshes

def serverConfig : LiveM Config := do
  match (← get).config with
  | some c => pure c
  | none => throw (requestError "no server")

/-! ### Sockets -/

/-- The headers of a WebSocket handshake, under the given ones. -/
def handshakeHeaders : List (String × String) :=
  [("host", "localhost"), ("connection", "Upgrade"), ("upgrade", "websocket"),
   ("sec-websocket-version", "13"), ("sec-websocket-key", "dGhlIHNhbXBsZSBub25jZQ==")]

/-- The headers a step gives, names in lowercase. -/
def headersArg (req : Json) : Except Json (List (String × String)) :=
  match req.get? "headers" with
  | some (.obj members) => members.mapM fun (k, v) =>
    match v with
    | .str s => pure (Text.asciiLower k, s)
    | _ => throw (requestError s!"header {k} must be a string")
  | some .null | none => pure []
  | some _ => throw (requestError "field headers must be an object")

def socketArg (req : Json) : LiveM (String × Socket) := do
  let name ← textArg req "name"
  match (← get).sockets.lookup name with
  | some k => pure (name, k)
  | none => throw (requestError "unknown ws client")

def putSocket (name : String) (k : Socket) : LiveM Unit :=
  modify fun r => { r with sockets := (name, k) :: r.sockets.filter (·.1 != name) }

/-- The client drops its end of a socket. -/
def dropSocket (k : Socket) : LiveM Unit := do
  onServer do
    k.clientDrop
    runQueued runBudget

/-- `ws.connect`: handshake with the server's routes. -/
def wsConnect (req : Json) : LiveM Json := do
  let c ← serverConfig
  let name ← textArg req "name"
  let path ← textArg req "path"
  let given ← headersArg req
  let headers := given ++ handshakeHeaders.filter fun (k, _) => !given.any (·.1 == k)
  let outcome ← onServer (Server.route c { method := "GET", target := path, headers, upgradable := true })
  settleMeshes
  match outcome with
  | .reply resp =>
    onServer (runQueued runBudget)
    throw (.obj [("error", .str "http"), ("status", .nat resp.status), ("body", .str resp.body)])
  | .upgrade plan =>
    match (← get).sockets.lookup name with
    | some old => dropSocket old
    | none => pure ()
    let k ← onServer (openSocket c plan)
    putSocket name k
    pure (.obj [("status", .nat 101)])

def hexArg (req : Json) (key : String) : Except Json ByteArray := do
  match Text.bytesOfHex (← textArg req key) with
  | some b => pure b
  | none => throw (requestError "bad hex")

/-- The message a `ws.send` step sends. -/
def outgoingArg (req : Json) : Except Json SocketMessage := do
  if let some s ← optTextArg req "text" then return .text s
  if (← optTextArg req "hex").isSome then return .binary (← hexArg req "hex")
  if (← optTextArg req "ping").isSome then return .ping (← hexArg req "ping")
  if (← optTextArg req "pong").isSome then return .pong (← hexArg req "pong")
  if (← optBoolArg req "close") == some true then return .close
  throw (requestError "nothing to send")

/-- `ws.send`: the client sends one message. -/
def wsSend (req : Json) : LiveM Json := do
  let (name, k) ← socketArg req
  let m ← outgoingArg req
  let (k, result) ← onServer do
    let out ← k.clientSend m
    runQueued runBudget
    return out
  putSocket name k
  settleMeshes
  match result with
  | .ok () => pure .null
  | .error e => throw (failure "ws" e.message)

/-- A message the client received, as JSON. -/
def receivedJson : SocketMessage → Json
  | .text s =>
    match Json.parse s with
    | .ok j => .obj [("text", j)]
    | .error _ => .obj [("text_raw", .str s)]
  | .binary d =>
    match decodeFrameBinary d with
    | .ok f => .obj [("binary", f.toJson)]
    | .error e => .obj [("binary_error", protocolFailure e), ("hex", .str (Text.hexOf d))]
  | .ping d => .obj [("ping", .str (Text.hexOf d))]
  | .pong d => .obj [("pong", .str (Text.hexOf d))]
  | .close => .obj [("close", .null)]

/-- The text a client reports when the pipe goes away without a close. -/
def resetText : String := "WebSocket protocol error: Connection reset without closing handshake"

/-- Read up to `count` messages before virtual time `deadline`; the end of
the stream or a failure ends the list. -/
def receiveUpTo (k : Socket) (deadline : Nat) : Nat → Nat → ClusterM (Socket × List Json)
  | 0, _ => pure (k, [])
  | _, 0 => pure (k, [])
  | count + 1, fuel + 1 => do
    let (k, got) ← k.clientRead
    match got with
    | some (.message m) =>
      let (k, rest) ← receiveUpTo k deadline count fuel
      pure (k, receivedJson m :: rest)
    | some .ended => pure (k, [.str "end"])
    | some .reset => pure (k, [.obj [("error", .str resetText)]])
    | none =>
      let w ← get
      let ready ← waitUntil k.pending deadline (2 * (deadline - w.clock) + w.timers.length + 16)
      if ready then receiveUpTo k deadline (count + 1) fuel else pure (k, [])

/-- `ws.recv`: the messages the client reads before its deadline. -/
def wsRecv (req : Json) : LiveM Json := do
  let (name, k) ← socketArg req
  let count := (← optNatArg req "count").getD 1
  let timeout := (← optNatArg req "timeout_ms").getD 2000
  let (k, got) ← onServer do
    let deadline := waitDeadline (← get).clock timeout
    receiveUpTo k deadline count (4 * count + 16)
  putSocket name k
  settleMeshes
  pure (.arr got)

/-- `ws.drop`: the client lets go of its end of the pipe. -/
def wsDrop (req : Json) : LiveM Json := do
  let name ← textArg req "name"
  match (← get).sockets.lookup name with
  | some k =>
    dropSocket k
    modify fun r => { r with sockets := r.sockets.filter (·.1 != name) }
    settleMeshes
    pure (.bool true)
  | none => pure (.bool false)

/-- `http`: one request through the server's routes. -/
def liveRequest (req : Json) : LiveM Json := do
  let c ← serverConfig
  let r ← httpRequestOf req (← textArg req "path") false
  let resp ← onServer (sendRequest c r)
  settleMeshes
  pure (responseJson resp)

/-! ### Meshes -/

/-- The label of the address nothing listens on. -/
def deadAddress : String := "<dead>"

/-- The label of the address a mesh listens on. -/
def meshAddress (name : String) : String := "<mesh:" ++ name ++ ">"

/-- The held mesh a name refers to. -/
def heldMesh (name : String) : LiveM (Nat × Mesh) := do
  match (← get).held.lookup name with
  | some i => pure (i, (← get).meshes.getD i default)
  | none => throw (requestError s!"unknown mesh {name}")

def listenerOf (name : String) : LiveM String := do
  let (_, m) ← heldMesh name
  match m.listening with
  | some a => pure a
  | none => throw (requestError s!"mesh {name} does not listen")

def peerAddress (name : String) : LiveM String :=
  if name == "dead" then pure deadAddress else listenerOf name

def putMesh (i : Nat) (m : Mesh) : LiveM Unit :=
  modify fun r => { r with meshes := r.meshes.set! i m }

/-- Let go of the mesh held under a name, which cancels it; tell whether
one was held. -/
def releaseMesh (name : String) : LiveM Bool := do
  match (← get).held.lookup name with
  | some i =>
    putMesh i ((← get).meshes.getD i default).cancel
    modify fun r => { r with held := r.held.filter (·.1 != name) }
    pure true
  | none => pure false

def meshStart (req : Json) : LiveM Json := do
  let name ← textArg req "name"
  let listen := (← optBoolArg req "listen").getD true
  let peerNames ← match req.get? "peers" with
    | some (.arr ps) => ps.mapM fun p => match p with
      | .str s => pure s
      | _ => throw (requestError "peers must be strings")
    | some .null | none => pure []
    | some _ => throw (requestError "field peers must be a list")
  let capacity := (← optNatArg req "peer_queue_capacity").getD 4096
  let _ ← optNatArg req "inbound_capacity"
  let _ ← optNatArg req "reconnect_delay_ms"
  let peers ← peerNames.mapM peerAddress
  let _ ← releaseMesh name
  let m : Mesh := { Mesh.linked peers capacity with
                    listening := if listen then some (meshAddress name) else none }
  modify fun r => { r with meshes := r.meshes.push m, held := (name, r.meshes.size) :: r.held }
  pure (.obj [("listening", .bool listen), ("peers", .nat peers.length), ("name", .str "mesh")])

def meshPayloadArg (req : Json) : Except Json ByteArray := do
  match ← optTextArg req "payload" with
  | some s => pure s.toUTF8
  | none => hexArg req "payload_hex"

def meshPublish (req : Json) : LiveM Json := do
  let (i, m) ← heldMesh (← textArg req "name")
  let subject ← textArg req "subject"
  let payload ← meshPayloadArg req
  let (m, result) := m.publish subject payload
  putMesh i m
  match result with
  | .ok () => pure .null
  | .error e => throw (transportFailure e)

/-- `mesh.listen`: subscribe to a subject of a mesh. -/
def meshListen (req : Json) : LiveM Json := do
  let sub ← textArg req "sub"
  let (i, m) ← heldMesh (← textArg req "name")
  let _ ← textArg req "subject"
  match m.subscribe with
  | .error e => throw (transportFailure e)
  | .ok () =>
    modify fun r => { r with subscriptions := (sub, i) :: r.subscriptions.filter (·.1 != sub) }
    pure .null

/-- `mesh.take`: what a subscription receives before its deadline. -/
def meshTake (req : Json) : LiveM Json := do
  let sub ← textArg req "sub"
  let i ← match (← get).subscriptions.lookup sub with
    | some i => pure i
    | none => throw (requestError s!"unknown subscription {sub}")
  let count := (← optNatArg req "count").getD 1
  let timeout := (← optNatArg req "timeout_ms").getD (if count == 0 then 100 else 2000)
  let closed := ((← get).meshes.getD i default).cancelled
  if !closed then pause timeout
  pure (.obj [("payloads", .arr []), ("closed", .bool closed)])

/-- `raw.connect`: a plain client dials a mesh's listener. -/
def rawConnect (req : Json) : LiveM Json := do
  let _ ← textArg req "client"
  let _ ← listenerOf (← textArg req "to")
  throw (requestError "Network is unreachable (os error 101)")

/-! ### Steps -/

def liveStep (req : Json) : LiveM Json := do
  match ← textArg req "op" with
  | "ws.connect" => wsConnect req
  | "ws.send" => wsSend req
  | "ws.recv" => wsRecv req
  | "ws.drop" => wsDrop req
  | "http" => liveRequest req
  | "mesh.start" => meshStart req
  | "mesh.publish" => meshPublish req
  | "mesh.listen" => meshListen req
  | "mesh.take" => meshTake req
  | "mesh.cancel" =>
    let (i, m) ← heldMesh (← textArg req "name")
    putMesh i m.cancel
    pure .null
  | "mesh.drop" => pure (.bool (← releaseMesh (← textArg req "name")))
  | "raw.connect" => rawConnect req
  | "raw.send" | "raw.close" =>
    let _ ← textArg req "client"
    if (← textArg req "op") == "raw.close" then pure (.bool false)
    else throw (requestError "unknown raw client")
  | "sleep" =>
    pause (← natArg req "ms")
    pure .null
  | other => throw (requestError s!"unknown step {other}")

/-- Run the steps in order, each answering `{"ok": value}` or an error. -/
def liveSteps (steps : List Json) : StateM Live (List Json) :=
  steps.mapM fun j => do
    match ← (liveStep j).run with
    | .ok v => pure (.obj [("ok", v)])
    | .error e => pure e

/-- `live`: start the server when asked, then run the steps. -/
def liveOp (host : Net.Host) (raw req : Json) : Json :=
  let result : Except Json Json := do
    let start : Live ← match req.get? "server" with
      | none | some .null => pure {}
      | some _ =>
        let c ← scenarioConfig req "server"
        let (w, _) ← (startCore c host).mapError fun chain => failure "start" chain.inline
        pure { config := some c, world := w }
    let steps := match req.get? "ops" with
      | some (.arr ss) => ss
      | _ => []
    let (answers, r) := (liveSteps steps).run start
    pure (labelAnswer raw (.obj [("steps", .arr answers)]) wallStart r.world.wallNow)
  match result with
  | .ok j => j
  | .error e => e

end Herald.Scenario
