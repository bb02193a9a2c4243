import Herald.Json.Read
import Herald.Json.Write
import Herald.Protocol.WireFormat
import Herald.Scenario.Request
import Herald.Scenario.Identity
import Herald.Scenario.Frames
import Herald.Scenario.Markup
import Herald.Scenario.World
import Herald.Scenario.Api
import Herald.Scenario.Settings
import Herald.Scenario.Server
import Herald.Scenario.Http
import Herald.Scenario.Live

set_option autoImplicit false

/-!
The scenario runner: one request line in, one answer line out.

A request is a JSON object whose `op` member names the operation. Repeat
objects are expanded first. The answer is the operation's JSON value, or
an error object `{"error": kind, "message": text}`.
-/

namespace Herald.Scenario

open Json

/-- Run the operation a request names on a machine `host`; `raw` is the
request as written, before its repeat objects were expanded. -/
def dispatch (host : Net.Host) (raw req : Json) : Json :=
  let result : Except Json Json :=
    match req.strAt? "op" with
    | some "role_parse" => roleParse req
    | some "auth" => authRules req
    | some "topic_id" => topicId req
    | some "wire_format" => wireFormat req
    | some "frame_decode_text" => frameDecodeText req
    | some "frame_build" => frameBuild req
    | some "event_decode" => eventDecode req
    | some "envelope_decode" => envelopeDecode req
    | some "frame_decode_binary" => frameDecodeBinary req
    | some "frame_decode_stream" => frameDecodeStream req
    | some "notification_mark_read" => notificationMarkRead req
    | some "sanitize" => sanitize req
    | some "world" => .ok (world raw req)
    | some "api" => if req.strAt? "what" == some "config_default" then .ok ({} : Settings.Config).summary else api req
    | some "config" => configOp req
    | some "config_file" => configFileOp req
    | some "config_load" => configLoadOp req
    | some "run_server" => runServerOp host req
    | some "cli" => cliOp host req
    | some "http" => .ok (httpOp host raw req)
    | some "live" => .ok (liveOp host raw req)
    | some op => .error (requestError s!"unknown op: {op}")
    | none => .error (requestError "missing op")
  match result with
  | .ok j => j
  | .error j => j

/-- The loopback port another program holds while a request that mentions
`$BUSY` runs. -/
def heldPort : Nat := 39153

/-- The placeholder a request writes for the held port. -/
def heldPortMark : String := "$BUSY"

/-- Answer one request line. Where the request mentions the held port by
its placeholder, the port is held while it runs, and the answer writes the
port's loopback address back with the placeholder. -/
def answer (line : String) : String :=
  let holds := (line.splitOn heldPortMark).length > 1
  let line := line.replace heldPortMark (toString heldPort)
  let host : Net.Host := if holds then { held := [heldPort] } else {}
  let out := match Json.parseWithDepth line 100000 with
    | .error e => render (requestError s!"bad request: {e.render}")
    | .ok req => render (dispatch host req (expand req))
  if holds then out.replace s!"127.0.0.1:{heldPort}" ("127.0.0.1:" ++ heldPortMark) else out

end Herald.Scenario
