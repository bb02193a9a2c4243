import Herald.Settings.FromLayers
import Herald.Toml.Reader
import Herald.Error.Chain

set_option autoImplicit false

/-!
Loading the server configuration from its sources.

The defaults come first, then the configuration file when there is one, then
the environment: `COURIER__SECTION__KEY=value`, with `backplane.transports`
and `backplane.mesh_peers` read as comma-separated lists. Keys of both
sources compare without case, and so do the names of choices. A file that does
not exist, a file that is not TOML, or a setting of the wrong kind fails the
load; a configuration that loads but does not validate fails after it. Both
failures name the file, or `defaults` when there is none.
-/

namespace Herald.Settings

/-- How the server reads its settings from the environment. -/
def serverEnvironment : EnvironmentRules :=
  { scope := "COURIER", separator := "__", listSeparator := ",",
    listKeys := ["backplane.transports", "backplane.mesh_peers"] }

/-- A configuration file: the path it is named by, and its text when it
exists. -/
structure ConfigFile where
  path : String
  text : Option String

/-- The settings a file gives, each marked with the file's path. -/
def ConfigFile.entries (f : ConfigFile) : Except String (List (String × Setting)) :=
  match f.text with
  | none => .error s!"configuration file \"{f.path}\" not found"
  | some text =>
    match Toml.readDocument text with
    | .ok root => .ok (Setting.lowercaseKeys (Setting.ofEntries (some f.path) root.entries))
    | .error report => .error (report ++ " in " ++ f.path)

/-- Gather the settings of every source, later sources over earlier ones. -/
def gatherSettings (file : Option ConfigFile) (env : List (String × String)) : Except String Setting := do
  let fromFile ← match file with
    | some f => f.entries
    | none => pure []
  pure ((Setting.emptyTable.layer fromFile).layer (serverEnvironment.collect env))

/-- Load the configuration from an optional file and the environment, and
validate it. A failure says which source it concerns and why. -/
def Config.load (file : Option ConfigFile) (env : List (String × String)) : Except ErrorChain Config :=
  let source := (file.map (·.path)).getD "defaults"
  let loaded : Except String Config := do
    let settings ← gatherSettings file env
    (Config.ofLayers settings).mapError (·.render)
  match loaded with
  | .error cause => .error ⟨s!"Failed to load configuration from {source}", [cause]⟩
  | .ok c =>
    match c.validate with
    | .error cause => .error ⟨s!"Invalid configuration in {source}", [cause]⟩
    | .ok () => .ok c

end Herald.Settings
