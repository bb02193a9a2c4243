import Herald.Settings.Config
import Herald.Net.Host

set_option autoImplicit false

/-!
Starting the server, up to the point where it listens.

Starting takes three steps, and the first failure ends it: the listen
address must read as a socket address; the delivery core starts its
replication transports in the order configured, each mesh transport binding
its own listener when one is configured; and the server binds its listener.
Once it listens the server runs until it is told to stop, and then stops
cleanly.
-/

namespace Herald.Server

open Settings Net

/-- A mesh transport that could not bind its listener. -/
def meshFailure (e : BindError) : ErrorChain :=
  ⟨"Failed to start mesh backplane", [s!"I/O error: {e.message}", e.message]⟩

/-- Start the configured transports in order, binding a listener for each
mesh transport that has a listen address. Gives the addresses the mesh
listeners got. -/
def startTransports (c : Config) (h : Host) : Except ErrorChain (List SocketAddr × Host) :=
  c.backplane.transports.foldlM (fun (acc : List SocketAddr × Host) t =>
    match t, c.backplane.meshListen with
    | .mesh, some addr =>
      match acc.2.bind addr with
      | .ok (got, h') => .ok (acc.1 ++ [got], h')
      | .error e => .error (meshFailure e)
    | _, _ => .ok acc) ([], h)

/-- Start the server: check the listen address, start the transports, and
bind the listener. Gives the address listened on. -/
def launch (c : Config) (h : Host) : Except ErrorChain (SocketAddr × Host) := do
  let addr ← c.bindAddress
  let (_, h) ← startTransports c h
  match h.bind addr with
  | .ok r => pure r
  | .error e => throw ⟨s!"Failed to bind {addr.render}", [e.message]⟩

end Herald.Server
