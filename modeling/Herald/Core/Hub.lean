import Herald.Core.Topic

set_option autoImplicit false

/-!
The in-process fan-out registry.

The hub maps each topic to the subscriber channels registered on it.
Registration numbers count 1, 2, ... per hub. A topic is listed while it has
at least one registration and goes away with its last one. The hub also
keeps the running count of registrations and of deliveries dropped because
a subscriber's buffer was full.

The channels themselves are named here by number; delivering into them is
the cluster's work.
-/

namespace Herald

/-- A registration: the topic and its number. -/
structure Subscription where
  topic : Topic
  id : Nat
  deriving DecidableEq, Repr, Inhabited

/-- The registry. -/
structure Hub where
  /-- Topics with their registrations: number and channel. -/
  topics : List (Topic × List (Nat × Nat)) := []
  nextId : Nat := 1
  subscribers : Nat := 0
  dropped : Nat := 0
  /-- The buffer size of channels made for this hub (at least one). -/
  capacity : Nat := 256
  deriving Inhabited

namespace Hub

def defaultCapacity : Nat := 256

/-- A hub whose channels buffer `capacity` events (zero counts as one). -/
def withCapacity (capacity : Nat) : Hub := { capacity := max capacity 1 }

def entries (h : Hub) (t : Topic) : List (Nat × Nat) := (h.topics.lookup t).getD []

def drawId (h : Hub) : Hub × Nat := ({ h with nextId := h.nextId + 1 }, h.nextId)

/-- Put a registration into its topic's row, listing the topic first if it
has none. -/
def insertEntry (h : Hub) (t : Topic) (id channel : Nat) : Hub :=
  { h with topics :=
      if h.topics.any (·.1 == t) then
        h.topics.map fun (t', es) => if t' == t then (t', es ++ [(id, channel)]) else (t', es)
      else h.topics ++ [(t, [(id, channel)])] }

def countUp (h : Hub) : Hub := { h with subscribers := h.subscribers + 1 }

/-- Register channel `channel` on a topic: draw a number, put the
registration in the topic's row, count it. Each stage is one atomic step of
its own. -/
def register (h : Hub) (t : Topic) (channel : Nat) : Hub × Subscription :=
  let (drawn, id) := h.drawId
  ((drawn.insertEntry t id channel).countUp, { topic := t, id })

/-- Take a registration out of its topic's row, which stays listed even when
left empty; answers the channel the registration held. -/
def removeEntry (h : Hub) (s : Subscription) : Hub × Option Nat :=
  match (h.entries s.topic).find? (·.1 == s.id) with
  | none => (h, none)
  | some (_, channel) =>
    ({ h with topics := h.topics.map fun (t, es) =>
        if t == s.topic then (t, es.filter (·.1 != s.id)) else (t, es) }, some channel)

/-- Drop the row of a topic if it is empty. -/
def dropEmptyRow (h : Hub) (t : Topic) : Hub :=
  { h with topics := h.topics.filter fun (t', es) => !(t' == t && es.isEmpty) }

def countDown (h : Hub) : Hub := { h with subscribers := h.subscribers - 1 }

/-- Remove a registration; returns the channel it held, if it was there. The
topic goes away with its last registration. Taking the registration out,
dropping an emptied row and counting down are separate atomic steps. -/
def unregister (h : Hub) (s : Subscription) : Hub × Option Nat :=
  match h.removeEntry s with
  | (removed, some channel) => ((removed.dropEmptyRow s.topic).countDown, some channel)
  | (removed, none) => (removed, none)

def topicExists (h : Hub) (t : Topic) : Bool := h.topics.any (·.1 == t)

/-- The number of registrations on a topic. -/
def subscriberCount (h : Hub) (t : Topic) : Nat := (h.entries t).length

def topicCount (h : Hub) : Nat := h.topics.length

end Hub

end Herald
