import Herald.Server.Launch
import Herald.Settings.Load

set_option autoImplicit false

/-!
The server program as a whole.

It looks for its configuration file in the working directory, then under
`/etc/courier`, then in the user's configuration directory, and loads the
first one found under the environment's `COURIER__` settings. It then
starts the server. A failure ends the program with exit code 1, after it
writes `Error: ` and the failure's report.
-/

namespace Herald.Server

open Settings Net

/-- The places the program looks for its configuration file, in order; a
leading `~` stands for the home directory when it is known. -/
def configSearchPaths (home : Option String) : List String :=
  let expand (p : String) : String :=
    match home, p.toList with
    | some h, '~' :: '/' :: rest => h ++ "/" ++ String.ofList rest
    | _, _ => p
  ["courier.toml", "/etc/courier/courier.toml", "~/.config/courier/courier.toml"].map expand

def splitAtZero (bytes : List UInt8) : List (List UInt8) :=
  bytes.foldr (fun b acc =>
    if b == 0 then [] :: acc
    else match acc with
      | first :: rest => (b :: first) :: rest
      | [] => [[b]]) [[]]

/-- The variables of an environment block: entries separated by zero
bytes, each a name and a value split at the first `=`. Empty entries,
entries without `=` and entries that are not UTF-8 are skipped. -/
def environmentOf (block : ByteArray) : List (String × String) :=
  (splitAtZero block.toList).filterMap fun entry =>
    match String.fromUTF8? ⟨entry.toArray⟩ with
    | none => none
    | some text =>
      match text.splitOn "=" with
      | name :: rest@(_ :: _) => if name.isEmpty then none else some (name, "=".intercalate rest)
      | _ => none

/-- Start the server program on a host: the address it listens on, or the
failure it stops with. -/
def startProgram (file : Option ConfigFile) (env : List (String × String)) (h : Host) :
    Except ErrorChain SocketAddr := do
  let c ← Config.load file env
  let (addr, _) ← launch c h
  pure addr

/-- The line a failed start writes to standard error. -/
def failureLine (e : ErrorChain) : String := "Error: " ++ e.report

end Herald.Server
