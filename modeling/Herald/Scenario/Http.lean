import Herald.Server.Router
import Herald.Scenario.Normalize
import Herald.Scenario.Request
import Herald.Settings.FromToml
import Herald.Json.Read

set_option autoImplicit false

/-!
The `http` scenario: requests sent one at a time to the server's routes,
all against one running delivery core.

A request gives a method, a path, headers, and either a JSON value (sent as
its text with a JSON content type) or a raw body. A path may name an id an
earlier answer gave: `$ID<k>` is the `k`-th id from the start, or from the
end when `k` is negative, where every answer whose JSON body is an object
with a string `id` adds that id. Each answer is its status, content type and
body, the body as JSON when it reads as JSON and as text otherwise.
-/

namespace Herald.Scenario

open Json Http Server Cluster Settings

def httpRequestOf (j : Json) (path : String) (upgradable : Bool) : Except Json Request := do
  let method ← textArg j "method"
  let headers ← match j.get? "headers" with
    | some (.obj members) => members.mapM fun (k, v) =>
      match v with
      | .str s => pure (Text.asciiLower k, s)
      | _ => throw (requestError s!"header {k} must be a string")
    | some .null | none => pure []
    | some _ => throw (requestError "field headers must be an object")
  match j.get? "json", j.get? "body" with
  | some v, _ =>
    pure { method, target := path, headers := headers ++ [("content-type", "application/json")],
           body := render v, upgradable }
  | none, some (.str b) => pure { method, target := path, headers, body := b, upgradable }
  | none, _ => pure { method, target := path, headers, upgradable }

def responseJson (r : Response) : Json :=
  let body := match Json.parse r.body with
    | .ok j => .obj [("json", j)]
    | .error _ => .obj [("text", .str r.body)]
  .obj [("status", .nat r.status), ("content_type", Json.ofOption Json.str r.contentType), ("body", body)]

/-- The id an answer adds to the list `$ID<k>` refers to. -/
def answerId? (r : Response) : Option String :=
  match Json.parse r.body with
  | .ok (.obj members) =>
    match members.lookup "id" with
    | some (.str s) => some s
    | _ => none
  | _ => none

/-- Replace each `$ID<k>` in a path by the id it refers to. -/
def resolveIds (ids : List String) (path : String) : Except Json String := do
  match path.splitOn "$ID" with
  | [] => pure path
  | first :: rest =>
    let mut out := first
    for part in rest do
      let cs := part.toList
      let (negative, digitsFrom) := match cs with
        | '-' :: more => (true, more)
        | more => (false, more)
      let digits := digitsFrom.takeWhile Char.isDigit
      if digits.isEmpty then out := out ++ "$ID" ++ part
      else
        let k := (String.ofList digits).toNat!
        let chosen :=
          if negative then (if k ≥ 1 && k ≤ ids.length then ids[ids.length - k]? else none)
          else if k ≥ 1 then ids[k - 1]? else none
        match chosen with
        | some id =>
          out := out ++ id ++ String.ofList (digitsFrom.drop digits.length)
        | none =>
          let sign := if negative then "-" else ""
          throw (requestError s!"unknown id reference $ID{sign}{k}")
    pure out

/-- Send one request to the server and run its tasks until they wait. -/
def sendRequest (c : Config) (r : Request) : ClusterM Response := do
  let out ← Server.route c r
  runQueued runBudget
  match out with
  | .reply resp => return resp
  | .upgrade _ => return .empty 101

/-- The configuration a scenario gives as TOML text, the defaults when it
gives none. -/
def scenarioConfig (req : Json) (key : String) : Except Json Config := do
  match ← optTextArg req key with
  | none => pure {}
  | some text =>
    match Config.ofToml text with
    | .ok c => pure c
    | .error m => throw (failure "toml" m)

/-- `http`: start the server's core and send the requests in order. -/
def httpOp (host : Net.Host) (raw req : Json) : Json :=
  let result : Except Json Json := do
    let c ← scenarioConfig req "toml"
    let (w, _) ← (startCore c host).mapError fun chain => failure "start" chain.inline
    let requests := match req.get? "requests" with
      | some (.arr rs) => rs
      | _ => []
    let (steps, _, w) := requests.foldl (fun (acc : List Json × List String × World) j =>
      let (steps, ids, w) := acc
      let step : Except Json Request := do
        let path ← resolveIds ids (← textArg j "path")
        httpRequestOf j path false
      match step with
      | .error e => (steps ++ [e], ids, w)
      | .ok r =>
        let (resp, w) := (sendRequest c r).run w
        let ids := match answerId? resp with
          | some id => ids ++ [id]
          | none => ids
        (steps ++ [responseJson resp], ids, w)) ([], [], w)
    pure (labelAnswer raw (.obj [("steps", .arr steps)]) wallStart w.wallNow)
  match result with
  | .ok j => j
  | .error e => e

end Herald.Scenario
