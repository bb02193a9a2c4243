set_option autoImplicit false

/-!
Channels between the parties of a cluster: first-in first-out buffers with
an optional bound.

A send appends at the tail and a receive takes the head. A bounded channel
refuses a send while it holds as many items as its bound. Each end can go
away: without a receiver every send fails, and once the sender is gone and
the buffer is empty a receive reports the end of the channel.
-/

namespace Herald.Cluster

/-- A channel's state. -/
structure Channel (α : Type) where
  items : List α := []
  bound : Option Nat := none
  senderOpen : Bool := true
  receiverOpen : Bool := true
  deriving Inhabited

/-- Why a send failed. -/
inductive SendFailure where
  | full
  | closed
  deriving DecidableEq, Repr

/-- What a receive found. -/
inductive Received (α : Type) where
  | item (a : α)
  | empty
  | finished

namespace Channel

variable {α : Type}

/-- A channel holding at most `n` items (at least one). -/
def bounded (n : Nat) : Channel α := { bound := some (max n 1) }

def unbounded : Channel α := {}

def hasRoom (c : Channel α) : Bool :=
  match c.bound with
  | some n => c.items.length < n
  | none => true

def trySend (c : Channel α) (a : α) : Except SendFailure (Channel α) :=
  if !c.receiverOpen then .error .closed
  else if c.hasRoom then .ok { c with items := c.items ++ [a] }
  else .error .full

def tryRecv (c : Channel α) : Received α × Channel α :=
  match c.items with
  | a :: rest => (.item a, { c with items := rest })
  | [] => (if c.senderOpen then .empty else .finished, c)

/-- Whether a receive would report the end. -/
def finished (c : Channel α) : Bool := c.items.isEmpty && !c.senderOpen

/-- Whether a receive would find an item or the end. -/
def ready (c : Channel α) : Bool := !c.items.isEmpty || !c.senderOpen

def dropSender (c : Channel α) : Channel α := { c with senderOpen := false }

/-- The receiver goes away (or closes): sends fail from now on. -/
def dropReceiver (c : Channel α) : Channel α := { c with receiverOpen := false }

end Channel

end Herald.Cluster
