import Herald.Server.Launch
import Herald.Settings.FromToml
import Herald.Server.Program
import Herald.Scenario.Settings

set_option autoImplicit false

/-!
Scenario operations that start the whole server.

`run_server` starts it from TOML text and stops it once it listens. `cli`
runs the server program: it loads its configuration from `courier.toml`,
when one is given, and the environment, and is interrupted once it listens.
The program's answer is whether it listened, its exit code, and the failure
report it wrote.
-/

namespace Herald.Scenario

open Json Settings Net

/-- `run_server`: start from TOML text and stop once listening. -/
def runServerOp (host : Host) (req : Json) : Except Json Json := do
  let text ← textArg req "toml"
  match Config.ofToml text with
  | .error m => pure (failure "toml" m)
  | .ok c =>
    match Server.launch c host with
    | .ok _ => pure (.obj [("ok", .str "stopped")])
    | .error chain => pure (failure "server" chain.inline)

/-- How the server program ended: whether it listened, its exit code, and
the failure it reported. -/
def programOutcome (listening : Bool) (code : Nat) (report : Option String) : Json :=
  .obj [("listening", .bool listening), ("exit_code", .nat code), ("signal", .null),
    ("error", match report with
      | some r => .str r
      | none => .null)]

/-- `cli`: run the server program in a directory holding `courier.toml`
when `toml` is given. -/
def cliOp (host : Host) (req : Json) : Except Json Json := do
  let text ← optTextArg req "toml"
  let env ← envArg req
  let file : Option ConfigFile := text.map fun t => { path := "courier.toml", text := some t }
  match Server.startProgram file env host with
  | .ok _ => pure (programOutcome true 0 none)
  | .error chain => pure (programOutcome false 1 (some chain.report))

end Herald.Scenario
