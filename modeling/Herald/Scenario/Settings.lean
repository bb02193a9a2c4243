import Herald.Settings.FromToml
import Herald.Settings.Load
import Herald.Scenario.Request

set_option autoImplicit false

/-!
Scenario operations on the server configuration: reading it from TOML text
alone, and loading it from a file and the environment.
-/

namespace Herald.Scenario

open Json Settings

/-- `config`: read a configuration from TOML and show it with its checks and
the settings derived from it. -/
def configOp (req : Json) : Except Json Json := do
  let text ← textArg req "toml"
  match Settings.Config.ofToml text with
  | .ok c => pure c.summary
  | .error m => pure (failure "toml" m)

/-- The variables an operation runs with: the members of `env`. -/
def envArg (req : Json) : Except Json (List (String × String)) :=
  match req.get? "env" with
  | none | some .null => pure []
  | some (.obj members) => members.mapM fun (k, v) =>
    match v with
    | .str s => pure (k, s)
    | _ => throw (requestError s!"env value {k} must be a string")
  | some _ => throw (requestError "field env must be an object")

/-- The answer to a load: the configuration's summary, or the failure on
one line. -/
def loadAnswer (r : Except ErrorChain Settings.Config) : Json :=
  match r with
  | .ok c => c.summary
  | .error chain => failure "config" chain.inline

/-- `config_file`: load from a file, absent when no `toml` is given, and the
environment. The file is named `<file>`. -/
def configFileOp (req : Json) : Except Json Json := do
  let text ← optTextArg req "toml"
  let env ← envArg req
  pure (loadAnswer (Settings.Config.load (some { path := "<file>", text }) env))

/-- `config_load`: load from the environment alone. -/
def configLoadOp (req : Json) : Except Json Json := do
  let env ← envArg req
  pure (loadAnswer (Settings.Config.load none env))

end Herald.Scenario
