import Herald.Server.Program

set_option autoImplicit false

/-!
The server program's command line: find and read the configuration file,
read the environment, start, and report.
-/

namespace Herald.Server

open Settings

/-- The first configuration file of `paths` that can be read. -/
def findConfigFile : List String → IO (Option ConfigFile)
  | [] => pure none
  | p :: rest => do
    match ← (IO.FS.readFile p).toBaseIO with
    | .ok text => pure (some { path := p, text := some text })
    | .error _ => findConfigFile rest

/-- The process's environment block, empty when it cannot be read. -/
def environmentBlock : IO ByteArray := do
  match ← (IO.FS.readBinFile "/proc/self/environ").toBaseIO with
  | .ok b => pure b
  | .error _ => pure ByteArray.empty

end Herald.Server

open Herald.Server in
/-- Start the server from the configuration found and the environment. -/
def main : IO UInt32 := do
  let file ← findConfigFile (configSearchPaths (← IO.getEnv "HOME"))
  let env := environmentOf (← environmentBlock)
  match startProgram file env {} with
  | .ok addr =>
    IO.println s!"Courier server listening on {addr.render}"
    pure 0
  | .error e =>
    IO.eprintln (failureLine e)
    pure 1
