import Herald.Net.SocketAddr

set_option autoImplicit false

/-!
The listening sockets of the machine a server runs on.

Binding an address fails when its port is privileged (below 1024, for an
unprivileged process), or when the port is already taken at an address that
overlaps it: the same address, or the unspecified address on either side.
Other programs may hold loopback ports. Port zero asks for a free port,
which is handed out from a counter.
-/

namespace Herald.Net

/-- Why a listening socket could not be bound. -/
inductive BindError where
  | addressInUse
  | permissionDenied
  deriving DecidableEq, Repr

/-- The operating system's text for a bind failure. -/
def BindError.message : BindError → String
  | .addressInUse => "Address already in use (os error 98)"
  | .permissionDenied => "Permission denied (os error 13)"

namespace SocketAddr

def port : SocketAddr → Nat
  | .v4 _ p | .v6 _ p _ => p

def withPort (a : SocketAddr) (p : Nat) : SocketAddr :=
  match a with
  | .v4 o _ => .v4 o p
  | .v6 g _ s => .v6 g p s

/-- Whether an address is the unspecified one, which listens on every
interface. -/
def isUnspecified : SocketAddr → Bool
  | .v4 o _ => o.all (· == 0)
  | .v6 g _ _ => g.all (· == 0)

/-- Whether an address is the IPv4 loopback address, written either way. -/
def isLoopback4 : SocketAddr → Bool
  | .v4 o _ => o == [127, 0, 0, 1]
  | .v6 g _ _ => g == [0, 0, 0, 0, 0, 0xffff, 0x7f00, 1]

/-- The interface part of an address, for comparing two addresses. -/
def host : SocketAddr → List Nat
  | .v4 o _ => o
  | .v6 g _ _ => g

end SocketAddr

/-- The listening sockets of a machine. -/
structure Host where
  /-- Loopback ports other programs hold. -/
  held : List Nat := []
  /-- The addresses bound so far, with the ports they got. -/
  bound : List SocketAddr := []
  /-- The next port handed out for port zero. -/
  nextPort : Nat := 41000
  deriving Inhabited

namespace Host

/-- Whether binding `addr` would clash with a port already in use. -/
def inUse (h : Host) (addr : SocketAddr) : Bool :=
  let p := addr.port
  (h.held.contains p && (addr.isLoopback4 || addr.isUnspecified)) ||
    h.bound.any fun b => b.port == p && (b.host == addr.host || b.isUnspecified || addr.isUnspecified)

/-- Bind a listening socket: the address it got, with the port filled in
when zero was asked for. -/
def bind (h : Host) (addr : SocketAddr) : Except BindError (SocketAddr × Host) :=
  let p := addr.port
  if 0 < p && p < 1024 then .error .permissionDenied
  else if p != 0 && h.inUse addr then .error .addressInUse
  else
    let (given, next) := if p == 0 then (h.nextPort, h.nextPort + 1) else (p, h.nextPort)
    let got := addr.withPort given
    .ok (got, { h with bound := got :: h.bound, nextPort := next })

end Host

end Herald.Net
