import Herald.Protocol.Model

set_option autoImplicit false

/-!
The durable record of messages and notifications.

Messages are kept per room in the order they were written; an identifier
may repeat across rooms but not within one. Notifications are kept by
identifier, which is unique across users, and each user's are listed in
the order they were written. A page is the newest `limit` rows created
strictly before a given instant, returned oldest first.

Marking a notification read needs the owner: another user's notification
is reported as not found. Only the first unread-to-read change moves its
`updatedAt`.
-/

namespace Herald

/-- Why a store call failed. -/
inductive StoreError where
  | notFound (what : String)
  | duplicate (id : Uuid)
  | unavailable (reason : String)
  deriving DecidableEq, Repr

namespace StoreError

def message : StoreError → String
  | .notFound what => s!"Not found: {what}"
  | .duplicate id => s!"Duplicate id: {id.render}"
  | .unavailable reason => s!"Store unavailable: {reason}"

/-- A short name of the error's kind. -/
def kind : StoreError → String
  | .notFound _ => "not_found"
  | .duplicate _ => "duplicate"
  | .unavailable _ => "unavailable"

end StoreError

/-- The newest `limit` rows created strictly before `before` (all rows when
absent), oldest first. -/
def page {α : Type} (rows : List α) (createdAt : α → Timestamp) (before : Option Timestamp)
    (limit : Nat) : List α :=
  let eligible := rows.filter fun r =>
    match before with
    | some b => Timestamp.lt (createdAt r) b
    | none => true
  eligible.drop (eligible.length - limit)

/-- The in-memory store. -/
structure MemoryStore where
  /-- Rooms with their messages, in writing order. -/
  messages : List (String × List Message) := []
  /-- Notifications in writing order. -/
  notifications : List Notification := []
  deriving Inhabited

namespace MemoryStore

def roomMessages (s : MemoryStore) (room : String) : List Message :=
  (s.messages.lookup room).getD []

/-- Add a message; an identifier already used in the same room is refused. -/
def createMessage (s : MemoryStore) (m : Message) : Except StoreError (MemoryStore × Uuid) :=
  let rows := s.roomMessages m.roomId
  if rows.any (·.id == m.id) then .error (.duplicate m.id)
  else
    let messages :=
      if s.messages.any (·.1 == m.roomId) then
        s.messages.map fun (r, ms) => if r == m.roomId then (r, ms ++ [m]) else (r, ms)
      else s.messages ++ [(m.roomId, [m])]
    .ok ({ s with messages }, m.id)

def listMessages (s : MemoryStore) (room : String) (before : Option Timestamp) (limit : Nat) :
    List Message :=
  page (s.roomMessages room) (·.createdAt) before limit

/-- Add a notification; an identifier already used by anyone is refused. -/
def createNotification (s : MemoryStore) (n : Notification) :
    Except StoreError (MemoryStore × Uuid) :=
  if s.notifications.any (·.id == n.id) then .error (.duplicate n.id)
  else .ok ({ s with notifications := s.notifications ++ [n] }, n.id)

/-- The notifications of a user, in writing order. -/
def userNotifications (s : MemoryStore) (user : String) : List Notification :=
  s.notifications.filter (·.userId == user)

def listNotifications (s : MemoryStore) (user : String) (before : Option Timestamp)
    (limit : Nat) : List Notification :=
  page (s.userNotifications user) (·.createdAt) before limit

/-- Mark a user's notification read at `now`; returns the row and whether
it changed. -/
def markRead (s : MemoryStore) (id : Uuid) (user : String) (now : Timestamp) :
    Except StoreError (MemoryStore × Notification × Bool) :=
  match s.notifications.find? (fun n => n.id == id && n.userId == user) with
  | none => .error (.notFound s!"notification {id.render}")
  | some n =>
    let (n', changed) := n.markRead now
    let notifications := s.notifications.map fun m => if m.id == id then n' else m
    .ok ({ s with notifications }, n', changed)

/-- How many of a user's notifications are unread. -/
def unreadCount (s : MemoryStore) (user : String) : Nat :=
  (s.userNotifications user).countP (!·.read)

def messageCount (s : MemoryStore) : Nat :=
  s.messages.foldl (fun acc (_, ms) => acc + ms.length) 0

def notificationCount (s : MemoryStore) : Nat := s.notifications.length

end MemoryStore

end Herald
