import Herald.Core.Store
import Mathlib

set_option autoImplicit false

/-!
# Runs of the in-memory store

A run is a list of calls on the store's interface (`MemoryStore.Call`), each
performed on the store the previous one left.  A create or a mark-read that
fails answers its error and leaves the store as it was.

A create is refused when its identifier is already taken: a message's within
its room, a notification's anywhere among the notifications.  So along every
run from the empty store no identifier repeats within a room or among the
notifications (`Consistent`), each room holds exactly the messages stored
into it and each user's list exactly the notifications stored for that
user, both in the order they were stored, and the message count is the
number of messages stored.

A mark-read finds the one notification with its identifier and checks the
owner.  It changes the row only on the unread-to-read change; a row once
read never changes again, so every later mark-read by its owner answers the
very same row and leaves the store as it is (`markRead_after_read`).
-/

namespace Herald.MemoryStore

/-! ## Storing a message -/

/-- Appending a message to the rows of one room keeps every other room's
rows. -/
theorem lookup_appendAt (rows : List (String × List Message)) (key room : String) (m : Message) :
    (rows.map fun (r, ms) => if r == key then (r, ms ++ [m]) else (r, ms)).lookup room =
      (rows.lookup room).map fun ms => if room = key then ms ++ [m] else ms := by
  induction rows with
  | nil => rfl
  | cons row rest inductionHypothesis =>
      obtain ⟨r, ms⟩ := row
      simp only [List.map_cons]
      have extended : (if (r == key) = true then (r, ms ++ [m]) else (r, ms)) =
          (r, if r = key then ms ++ [m] else ms) := by
        by_cases same : r = key <;> simp [same]
      rw [extended, List.lookup_cons, List.lookup_cons]
      by_cases here : room = r
      · subst here
        simp
      · rw [beq_false_of_ne here]
        exact inductionHypothesis

/-- A stored message lands at the end of its room's rows; the other rooms
and the notifications stay as they were. -/
theorem roomMessages_createMessage {s s' : MemoryStore} {m : Message} {id : Uuid}
    (created : s.createMessage m = .ok (s', id)) (room : String) :
    s'.roomMessages room =
      if room = m.roomId then s.roomMessages room ++ [m] else s.roomMessages room := by
  unfold createMessage at created
  dsimp only at created
  split at created
  · cases created
  · cases created
    unfold roomMessages
    dsimp only
    split
    · next listed =>
        rw [lookup_appendAt]
        by_cases same : room = m.roomId
        · -- the room has rows already, so they are found and extended
          subst same
          obtain ⟨row, present, named⟩ := List.any_eq_true.mp listed
          have found : (s.messages.lookup m.roomId).isSome = true :=
            List.lookup_isSome_iff.mpr ⟨row, present, beq_iff_eq.mpr (beq_iff_eq.mp named).symm⟩
          obtain ⟨ms, hasRows⟩ := Option.isSome_iff_exists.mp found
          simp [hasRows]
        · simp [same]
    · next unlisted =>
        rw [List.lookup_append]
        by_cases same : room = m.roomId
        · -- a room without rows gets its first one
          subst same
          have absent : s.messages.lookup m.roomId = none := by
            refine List.lookup_eq_none_iff.mpr fun row present => bne_iff_ne.mpr fun named => ?_
            exact unlisted (List.any_eq_true.mpr ⟨row, present, beq_iff_eq.mpr named.symm⟩)
          simp [absent]
        · cases s.messages.lookup room <;> simp [same, List.lookup_cons, beq_false_of_ne same]

theorem notifications_createMessage {s s' : MemoryStore} {m : Message} {id : Uuid}
    (created : s.createMessage m = .ok (s', id)) : s'.notifications = s.notifications := by
  unfold createMessage at created
  dsimp only at created
  split at created
  · cases created
  · cases created
    rfl

def roomIds (s : MemoryStore) (room : String) : List Uuid := (s.roomMessages room).map (·.id)

theorem createMessage_eq_error {s : MemoryStore} {m : Message} {e : StoreError} :
    s.createMessage m = .error e ↔ m.id ∈ s.roomIds m.roomId ∧ e = .duplicate m.id := by
  unfold createMessage
  dsimp only
  split
  · next taken =>
      have held : m.id ∈ s.roomIds m.roomId := by
        obtain ⟨row, present, same⟩ := List.any_eq_true.mp taken
        exact List.mem_map.mpr ⟨row, present, beq_iff_eq.mp same⟩
      simp [held, eq_comm]
  · next free =>
      have fresh : m.id ∉ s.roomIds m.roomId := fun held => by
        obtain ⟨row, present, same⟩ := List.mem_map.mp held
        exact free (List.any_eq_true.mpr ⟨row, present, beq_iff_eq.mpr same⟩)
      simp [fresh]

theorem createMessage_eq_ok {s s' : MemoryStore} {m : Message} {id : Uuid}
    (created : s.createMessage m = .ok (s', id)) : id = m.id ∧ m.id ∉ s.roomIds m.roomId := by
  refine ⟨?_, fun held => ?_⟩
  · unfold createMessage at created
    dsimp only at created
    split at created
    · cases created
    · cases created
      rfl
  · have refused := createMessage_eq_error.mpr ⟨held, rfl⟩
    rw [created] at refused
    cases refused

theorem rooms_createMessage {s s' : MemoryStore} {m : Message} {id : Uuid}
    (created : s.createMessage m = .ok (s', id)) :
    s'.messages.map (·.1) =
      if m.roomId ∈ s.messages.map (·.1) then s.messages.map (·.1)
      else s.messages.map (·.1) ++ [m.roomId] := by
  unfold createMessage at created
  dsimp only at created
  split at created
  · cases created
  · cases created
    dsimp only
    have listedIff : (s.messages.any (·.1 == m.roomId)) = true ↔ m.roomId ∈ s.messages.map (·.1) := by
      simp [List.any_eq_true, List.mem_map]
    split
    · next listed =>
        rw [if_pos (listedIff.mp listed), List.map_map]
        congr 1
        funext row
        obtain ⟨r, ms⟩ := row
        by_cases same : r = m.roomId <;> simp [same]
    · next unlisted =>
        rw [if_neg (fun present => unlisted (listedIff.mpr present))]
        simp

theorem messageCount_eq (s : MemoryStore) : s.messageCount = (s.messages.map (·.2.length)).sum := by
  suffices general : ∀ (rows : List (String × List Message)) (acc : Nat),
      rows.foldl (fun acc (_, ms) => acc + ms.length) acc = acc + (rows.map (·.2.length)).sum from
    (general s.messages 0).trans (Nat.zero_add _)
  intro rows
  induction rows with
  | nil => simp
  | cons row rest inductionHypothesis =>
      intro acc
      rw [List.foldl_cons, inductionHypothesis, List.map_cons, List.sum_cons, Nat.add_assoc]

theorem sum_lengths_appendAt (rows : List (String × List Message)) (key : String) (m : Message)
    (nodup : (rows.map (·.1)).Nodup) (present : key ∈ rows.map (·.1)) :
    ((rows.map fun (r, ms) => if r == key then (r, ms ++ [m]) else (r, ms)).map (·.2.length)).sum =
      (rows.map (·.2.length)).sum + 1 := by
  induction rows with
  | nil => simp at present
  | cons row rest inductionHypothesis =>
      obtain ⟨r, ms⟩ := row
      simp only [List.map_cons, List.nodup_cons, List.mem_cons] at nodup present
      by_cases same : r = key
      · subst same
        -- no other row has this room, so the rest is left alone
        have untouched : (rest.map fun (r', ms') => if r' == r then (r', ms' ++ [m]) else (r', ms')) =
            rest := by
          refine (List.map_congr_left fun row listed => ?_).trans (List.map_id rest)
          obtain ⟨r', ms'⟩ := row
          have other : r' ≠ r := fun same => nodup.1 (same ▸ List.mem_map_of_mem listed)
          simp [other]
        simp only [List.map_cons, beq_self_eq_true, if_true, untouched, List.sum_cons,
          List.length_append, List.length_singleton]
        omega
      · have inRest : key ∈ rest.map (·.1) := present.resolve_left (Ne.symm same)
        simp only [List.map_cons, beq_false_of_ne same, Bool.false_eq_true, if_false, List.sum_cons]
        rw [inductionHypothesis nodup.2 inRest]
        omega

theorem messageCount_createMessage {s s' : MemoryStore} {m : Message} {id : Uuid}
    (nodup : (s.messages.map (·.1)).Nodup) (created : s.createMessage m = .ok (s', id)) :
    s'.messageCount = s.messageCount + 1 := by
  rw [messageCount_eq, messageCount_eq]
  unfold createMessage at created
  dsimp only at created
  split at created
  · cases created
  · cases created
    dsimp only
    split
    · next listed =>
        have present : m.roomId ∈ s.messages.map (·.1) := by
          obtain ⟨row, listedRow, same⟩ := List.any_eq_true.mp listed
          exact List.mem_map.mpr ⟨row, listedRow, beq_iff_eq.mp same⟩
        exact sum_lengths_appendAt s.messages m.roomId m nodup present
    · simp

/-! ## Storing a notification -/

def notificationIds (s : MemoryStore) : List Uuid := s.notifications.map (·.id)

theorem createNotification_eq (s : MemoryStore) (n : Notification) :
    s.createNotification n =
      if n.id ∈ s.notificationIds then .error (.duplicate n.id)
      else .ok ({ s with notifications := s.notifications ++ [n] }, n.id) := by
  unfold createNotification notificationIds
  have takenIff : s.notifications.any (·.id == n.id) = true ↔ n.id ∈ s.notifications.map (·.id) := by
    simp [List.any_eq_true, List.mem_map]
  by_cases taken : n.id ∈ s.notifications.map (·.id)
  · rw [if_pos (takenIff.mpr taken), if_pos taken]
  · rw [if_neg (fun listed => taken (takenIff.mp listed)), if_neg taken]

/-! ## Marking a notification read -/

def row (s : MemoryStore) (id : Uuid) : Option Notification := s.notifications.find? (·.id == id)

/-- Among rows whose identifiers do not repeat, the row with an identifier
and an owner is the row with that identifier, when it has that owner. -/
theorem find?_id_owner (rows : List Notification) (nodup : (rows.map (·.id)).Nodup) (id : Uuid)
    (user : String) :
    rows.find? (fun n => n.id == id && n.userId == user) =
      (rows.find? (·.id == id)).filter (·.userId == user) := by
  induction rows with
  | nil => rfl
  | cons first rest inductionHypothesis =>
      simp only [List.map_cons, List.nodup_cons] at nodup
      by_cases same : first.id = id
      · -- no later row carries this identifier
        have absent : rest.find? (fun n => n.id == id && n.userId == user) = none := by
          refine List.find?_eq_none.mpr fun other listed found => nodup.1 ?_
          have : other.id = id := by simpa using (Bool.and_eq_true _ _).mp found |>.1
          exact same ▸ this ▸ List.mem_map_of_mem listed
        by_cases owner : first.userId = user
        · simp [same, owner, Option.filter_some]
        · simp [same, owner, absent, Option.filter_some]
      · simp [same, inductionHypothesis nodup.2]

/-- The store after a mark-read that found row `n`. -/
def marked (s : MemoryStore) (id : Uuid) (n : Notification) : MemoryStore :=
  { s with notifications := s.notifications.map fun m => if m.id == id then n else m }

theorem markRead_eq (s : MemoryStore) (nodup : s.notificationIds.Nodup) (id : Uuid) (user : String)
    (now : Timestamp) :
    s.markRead id user now =
      match s.row id with
      | some n =>
        if n.userId = user then .ok (s.marked id (n.markRead now).1, n.markRead now)
        else .error (.notFound s!"notification {id.render}")
      | none => .error (.notFound s!"notification {id.render}") := by
  unfold markRead row
  rw [find?_id_owner s.notifications nodup id user]
  cases s.notifications.find? (·.id == id) with
  | none => rfl
  | some n =>
      by_cases owner : n.userId = user
      · simp [owner, marked, Option.filter_some]
      · simp [owner, Option.filter_some]

theorem messages_markRead {s s' : MemoryStore} {id : Uuid} {user : String} {now : Timestamp}
    {n : Notification} {changed : Bool} (marked : s.markRead id user now = .ok (s', n, changed)) :
    s'.messages = s.messages := by
  unfold markRead at marked
  split at marked
  · cases marked
  · cases marked
    rfl

@[simp]
theorem id_markRead (n : Notification) (now : Timestamp) : (n.markRead now).1.id = n.id := by
  unfold Notification.markRead
  split <;> rfl

@[simp]
theorem userId_markRead (n : Notification) (now : Timestamp) :
    (n.markRead now).1.userId = n.userId := by
  unfold Notification.markRead
  split <;> rfl

@[simp]
theorem read_markRead (n : Notification) (now : Timestamp) : (n.markRead now).1.read = true := by
  unfold Notification.markRead
  split
  · next wasRead => exact wasRead
  · rfl

@[simp]
theorem changed_markRead (n : Notification) (now : Timestamp) : (n.markRead now).2 = !n.read := by
  unfold Notification.markRead
  cases n.read <;> rfl

theorem markRead_of_read {n : Notification} (wasRead : n.read = true) (now : Timestamp) :
    n.markRead now = (n, false) := by
  simp [Notification.markRead, wasRead]

theorem notificationIds_marked (s : MemoryStore) (id : Uuid) (n : Notification) (same : n.id = id) :
    (s.marked id n).notificationIds = s.notificationIds := by
  unfold marked notificationIds
  rw [List.map_map]
  refine List.map_congr_left fun m _ => ?_
  by_cases here : m.id = id
  · simp [here, same]
  · simp [here]

theorem row_marked (s : MemoryStore) (id key : Uuid) (n : Notification) (same : n.id = id) :
    (s.marked id n).row key = if key = id then (s.row key).map fun _ => n else s.row key := by
  unfold row marked
  rw [List.find?_map]
  have keyed : ((fun m => m.id == key) ∘ fun m => if m.id == id then n else m) = (·.id == key) := by
    funext m
    by_cases here : m.id = id
    · simp [here, same]
    · simp [here]
  rw [keyed]
  by_cases at_id : key = id
  · subst at_id
    rw [if_pos rfl]
    refine Option.map_congr fun m found => ?_
    have : m.id = key := by simpa using List.find?_some found
    simp [this]
  · rw [if_neg at_id]
    cases found : s.notifications.find? (·.id == key) with
    | none => rfl
    | some m =>
        have : m.id = key := by simpa using List.find?_some found
        simp [this, at_id]

theorem marked_self (s : MemoryStore) (nodup : s.notificationIds.Nodup) {id : Uuid} {n : Notification}
    (found : s.row id = some n) : s.marked id n = s := by
  have only : ∀ m ∈ s.notifications, m.id = id → m = n := by
    intro m listed same
    have nListed := List.mem_of_find?_eq_some found
    have nId : n.id = id := by simpa using List.find?_some found
    exact List.inj_on_of_nodup_map nodup listed nListed (same.trans nId.symm)
  have unchanged : (s.notifications.map fun m => if m.id == id then n else m) = s.notifications := by
    refine (List.map_congr_left fun m listed => ?_).trans (List.map_id _)
    by_cases here : m.id = id
    · simp [only m listed here]
    · simp [here]
  simp only [marked, unchanged]

/-! ## Calls and runs -/

/-- One call on the store.  A mark-read carries the instant it reads as now. -/
inductive Call where
  | createMessage (m : Message)
  | createNotification (n : Notification)
  | markRead (id : Uuid) (user : String) (now : Timestamp)
  | listMessages (room : String) (before : Option Timestamp) (limit : Nat)
  | listNotifications (user : String) (before : Option Timestamp) (limit : Nat)
  | unreadCount (user : String)
  deriving DecidableEq

/-- What a call answers. -/
inductive Reply where
  | created (result : Except StoreError Uuid)
  | marked (result : Except StoreError (Notification × Bool))
  | messages (rows : List Message)
  | notifications (rows : List Notification)
  | count (n : Nat)

/-- A call's reply and the store it leaves; a failed call leaves the store
as it was. -/
def Call.perform (s : MemoryStore) : Call → Reply × MemoryStore
  | .createMessage m =>
    match s.createMessage m with
    | .ok (s', id) => (.created (.ok id), s')
    | .error e => (.created (.error e), s)
  | .createNotification n =>
    match s.createNotification n with
    | .ok (s', id) => (.created (.ok id), s')
    | .error e => (.created (.error e), s)
  | .markRead id user now =>
    match s.markRead id user now with
    | .ok (s', n, changed) => (.marked (.ok (n, changed)), s')
    | .error e => (.marked (.error e), s)
  | .listMessages room before limit => (.messages (s.listMessages room before limit), s)
  | .listNotifications user before limit =>
    (.notifications (s.listNotifications user before limit), s)
  | .unreadCount user => (.count (s.unreadCount user), s)

/-- The store after performing calls in turn. -/
def run (s : MemoryStore) : List Call → MemoryStore
  | [] => s
  | c :: rest => run (c.perform s).2 rest

/-- The message a call stored: the one it created, if the store took it. -/
def Call.storedMessage (s : MemoryStore) : Call → List Message
  | .createMessage m =>
    match s.createMessage m with
    | .ok _ => [m]
    | .error _ => []
  | _ => []

def Call.storedNotification (s : MemoryStore) : Call → List Notification
  | .createNotification n =>
    match s.createNotification n with
    | .ok _ => [n]
    | .error _ => []
  | _ => []

/-- The messages a run stored, in order. -/
def storedMessages (s : MemoryStore) : List Call → List Message
  | [] => []
  | c :: rest => c.storedMessage s ++ storedMessages (c.perform s).2 rest

/-- The notifications a run stored, in order. -/
def storedNotifications (s : MemoryStore) : List Call → List Notification
  | [] => []
  | c :: rest => c.storedNotification s ++ storedNotifications (c.perform s).2 rest

/-- What every store reached from the empty one satisfies. -/
structure Consistent (s : MemoryStore) : Prop where
  rooms_nodup : (s.messages.map (·.1)).Nodup
  roomIds_nodup : ∀ room, (s.roomIds room).Nodup
  notificationIds_nodup : s.notificationIds.Nodup

theorem Consistent.empty : ({} : MemoryStore).Consistent where
  rooms_nodup := List.nodup_nil
  roomIds_nodup _ := List.nodup_nil
  notificationIds_nodup := List.nodup_nil

section Perform

variable {s : MemoryStore}

theorem perform_createMessage (m : Message) :
    (Call.createMessage m).perform s =
      match s.createMessage m with
      | .ok (s', id) => (.created (.ok id), s')
      | .error e => (.created (.error e), s) := rfl

theorem perform_createMessage_taken {m : Message} (taken : m.id ∈ s.roomIds m.roomId) :
    (Call.createMessage m).perform s = (.created (.error (.duplicate m.id)), s) := by
  rw [perform_createMessage, createMessage_eq_error.mpr ⟨taken, rfl⟩]

theorem perform_createMessage_free {m : Message} (free : m.id ∉ s.roomIds m.roomId) :
    ((Call.createMessage m).perform s).1 = .created (.ok m.id) ∧
    ∀ room, ((Call.createMessage m).perform s).2.roomMessages room =
      if room = m.roomId then s.roomMessages room ++ [m] else s.roomMessages room := by
  rw [perform_createMessage]
  cases created : s.createMessage m with
  | error e => exact absurd (createMessage_eq_error.mp created).1 free
  | ok result =>
    obtain ⟨s', id⟩ := result
    obtain ⟨rfl, -⟩ := createMessage_eq_ok created
    exact ⟨rfl, roomMessages_createMessage created⟩

theorem perform_createNotification (n : Notification) :
    (Call.createNotification n).perform s =
      if n.id ∈ s.notificationIds then (.created (.error (.duplicate n.id)), s)
      else (.created (.ok n.id), { s with notifications := s.notifications ++ [n] }) := by
  by_cases taken : n.id ∈ s.notificationIds <;> simp [Call.perform, createNotification_eq, taken]

theorem perform_markRead (nodup : s.notificationIds.Nodup) (id : Uuid) (user : String)
    (now : Timestamp) :
    (Call.markRead id user now).perform s =
      match s.row id with
      | some n =>
        if n.userId = user then (.marked (.ok (n.markRead now)), s.marked id (n.markRead now).1)
        else (.marked (.error (.notFound s!"notification {id.render}")), s)
      | none => (.marked (.error (.notFound s!"notification {id.render}")), s) := by
  simp only [Call.perform, markRead_eq s nodup]
  cases s.row id with
  | none => rfl
  | some n =>
      by_cases owner : n.userId = user
      · simp [owner, -changed_markRead]
      · simp [owner]

end Perform

/-! ## One step -/

theorem Consistent.perform {s : MemoryStore} (c : s.Consistent) (call : Call) :
    (call.perform s).2.Consistent := by
  cases call with
  | createMessage m =>
      rw [perform_createMessage]
      cases created : s.createMessage m with
      | error e => exact c
      | ok result =>
          obtain ⟨s', id⟩ := result
          have fresh := (createMessage_eq_ok created).2
          refine ⟨?_, fun room => ?_, ?_⟩
          · rw [rooms_createMessage created]
            split
            · exact c.rooms_nodup
            · next absent =>
                rw [← List.concat_eq_append]
                exact c.rooms_nodup.concat absent
          · unfold roomIds
            rw [roomMessages_createMessage created room]
            split
            · next here =>
                subst here
                rw [List.map_append, List.map_singleton, ← List.concat_eq_append]
                exact (c.roomIds_nodup m.roomId).concat fresh
            · exact c.roomIds_nodup room
          · unfold notificationIds
            rw [notifications_createMessage created]
            exact c.notificationIds_nodup
  | createNotification n =>
      rw [perform_createNotification]
      split
      · exact c
      · next fresh =>
          refine ⟨c.rooms_nodup, c.roomIds_nodup, ?_⟩
          unfold notificationIds
          rw [List.map_append, List.map_singleton, ← List.concat_eq_append]
          exact c.notificationIds_nodup.concat fresh
  | markRead id user now =>
      rw [perform_markRead c.notificationIds_nodup]
      cases found : s.row id with
      | none => exact c
      | some n =>
          dsimp only
          split
          · have sameId : (n.markRead now).1.id = id := by
              rw [id_markRead]
              simpa using List.find?_some found
            refine ⟨c.rooms_nodup, c.roomIds_nodup, ?_⟩
            rw [notificationIds_marked s id _ sameId]
            exact c.notificationIds_nodup
          · exact c
  | listMessages => exact c
  | listNotifications => exact c
  | unreadCount => exact c

theorem roomMessages_perform (s : MemoryStore) (call : Call) (room : String) :
    (call.perform s).2.roomMessages room =
      s.roomMessages room ++ (call.storedMessage s).filter (·.roomId == room) := by
  cases call with
  | createMessage m =>
      cases created : s.createMessage m with
      | error e => simp [perform_createMessage, Call.storedMessage, created]
      | ok result =>
          obtain ⟨s', id⟩ := result
          simp only [perform_createMessage, Call.storedMessage, created]
          rw [roomMessages_createMessage created room]
          by_cases here : room = m.roomId
          · simp [here]
          · simp [here, Ne.symm here]
  | createNotification n =>
      rw [perform_createNotification]
      split <;> simp [Call.storedMessage, roomMessages]
  | markRead id user now =>
      simp only [Call.perform, Call.storedMessage, List.filter_nil, List.append_nil]
      split
      · next s' marked found =>
          unfold roomMessages
          rw [messages_markRead found]
      · rfl
  | listMessages => simp [Call.perform, Call.storedMessage]
  | listNotifications => simp [Call.perform, Call.storedMessage]
  | unreadCount => simp [Call.perform, Call.storedMessage]

theorem messageCount_perform {s : MemoryStore} (c : s.Consistent) (call : Call) :
    (call.perform s).2.messageCount = s.messageCount + (call.storedMessage s).length := by
  cases call with
  | createMessage m =>
      cases created : s.createMessage m with
      | error e => simp [perform_createMessage, Call.storedMessage, created]
      | ok result =>
          obtain ⟨s', id⟩ := result
          simp only [perform_createMessage, Call.storedMessage, created, List.length_singleton]
          exact messageCount_createMessage c.rooms_nodup created
  | createNotification n =>
      rw [perform_createNotification]
      split <;> simp [Call.storedMessage, messageCount]
  | markRead id user now =>
      simp only [Call.perform, Call.storedMessage, List.length_nil, Nat.add_zero]
      split
      · next s' marked found =>
          unfold messageCount
          rw [messages_markRead found]
      · rfl
  | listMessages => simp [Call.perform, Call.storedMessage]
  | listNotifications => simp [Call.perform, Call.storedMessage]
  | unreadCount => simp [Call.perform, Call.storedMessage]

def owned (n : Notification) : Uuid × String := (n.id, n.userId)

theorem owned_marked {s : MemoryStore} (nodup : s.notificationIds.Nodup) {id : Uuid}
    {n : Notification} (found : s.row id = some n) (now : Timestamp) :
    (s.marked id (n.markRead now).1).notifications.map owned = s.notifications.map owned := by
  have nListed := List.mem_of_find?_eq_some found
  have nId : n.id = id := by simpa using List.find?_some found
  unfold marked
  rw [List.map_map]
  refine List.map_congr_left fun m listed => ?_
  by_cases here : m.id = id
  · -- the one row with this identifier is the row found
    have same : m = n := List.inj_on_of_nodup_map nodup listed nListed (here.trans nId.symm)
    subst same
    simp [owned, here]
  · simp [here]

/-- A call adds to the identifiers and owners of the notifications exactly
the one it stored. -/
theorem owned_perform {s : MemoryStore} (c : s.Consistent) (call : Call) :
    (call.perform s).2.notifications.map owned =
      s.notifications.map owned ++ (call.storedNotification s).map owned := by
  cases call with
  | createMessage m =>
      cases created : s.createMessage m with
      | error e => simp [perform_createMessage, Call.storedNotification, created]
      | ok result =>
          obtain ⟨s', id⟩ := result
          simp [perform_createMessage, Call.storedNotification, created,
            notifications_createMessage created]
  | createNotification n =>
      simp only [perform_createNotification, Call.storedNotification, createNotification_eq]
      split <;> simp
  | markRead id user now =>
      rw [perform_markRead c.notificationIds_nodup]
      simp only [Call.storedNotification, List.map_nil, List.append_nil]
      cases found : s.row id with
      | none => rfl
      | some n =>
          dsimp only
          split
          · exact owned_marked c.notificationIds_nodup found now
          · rfl
  | listMessages => simp [Call.perform, Call.storedNotification]
  | listNotifications => simp [Call.perform, Call.storedNotification]
  | unreadCount => simp [Call.perform, Call.storedNotification]

theorem row_perform_of_read {s : MemoryStore} (c : s.Consistent) {id : Uuid} {n : Notification}
    (found : s.row id = some n) (wasRead : n.read = true) (call : Call) :
    (call.perform s).2.row id = some n := by
  cases call with
  | createMessage m =>
      cases created : s.createMessage m with
      | error e => simpa [perform_createMessage, created] using found
      | ok result =>
          obtain ⟨s', id'⟩ := result
          simp only [perform_createMessage, created]
          unfold row
          rw [notifications_createMessage created]
          exact found
  | createNotification n' =>
      rw [perform_createNotification]
      split
      · exact found
      · unfold row at found ⊢
        rw [List.find?_append, found]
        rfl
  | markRead id' user now =>
      rw [perform_markRead c.notificationIds_nodup]
      cases found' : s.row id' with
      | none => exact found
      | some n' =>
          dsimp only
          split
          · have sameId : (n'.markRead now).1.id = id' := by
              rw [id_markRead]
              simpa using List.find?_some found'
            rw [row_marked s id' id _ sameId]
            split
            · -- marking this very row again finds it read and leaves it
              next here =>
                subst here
                rw [found'] at found
                cases found
                simp [found', markRead_of_read wasRead]
            · exact found
          · exact found
  | listMessages => exact found
  | listNotifications => exact found
  | unreadCount => exact found

/-! ## Whole runs -/

section Runs

variable (s : MemoryStore) (calls : List Call)

theorem Consistent.run {s : MemoryStore} (c : s.Consistent) (calls : List Call) :
    (run s calls).Consistent := by
  induction calls generalizing s with
  | nil => exact c
  | cons call rest inductionHypothesis => exact inductionHypothesis (c.perform call)

theorem roomMessages_run (room : String) :
    (run s calls).roomMessages room =
      s.roomMessages room ++ (storedMessages s calls).filter (·.roomId == room) := by
  induction calls generalizing s with
  | nil => simp [run, storedMessages]
  | cons call rest inductionHypothesis =>
      rw [run, storedMessages, inductionHypothesis, roomMessages_perform, List.filter_append,
        List.append_assoc]

theorem messageCount_run {s : MemoryStore} (c : s.Consistent) :
    (run s calls).messageCount = s.messageCount + (storedMessages s calls).length := by
  induction calls generalizing s with
  | nil => simp [run, storedMessages]
  | cons call rest inductionHypothesis =>
      rw [run, storedMessages, inductionHypothesis (c.perform call), messageCount_perform c,
        List.length_append, Nat.add_assoc]

theorem owned_run {s : MemoryStore} (c : s.Consistent) :
    (run s calls).notifications.map owned =
      s.notifications.map owned ++ (storedNotifications s calls).map owned := by
  induction calls generalizing s with
  | nil => simp [run, storedNotifications]
  | cons call rest inductionHypothesis =>
      rw [run, storedNotifications, inductionHypothesis (c.perform call), owned_perform c,
        List.map_append, List.append_assoc]

theorem row_run_of_read {s : MemoryStore} (c : s.Consistent) {id : Uuid} {n : Notification}
    (found : s.row id = some n) (wasRead : n.read = true) : (run s calls).row id = some n := by
  induction calls generalizing s with
  | nil => exact found
  | cons call rest inductionHypothesis =>
      exact inductionHypothesis (c.perform call) (row_perform_of_read c found wasRead call)

end Runs

theorem userNotifications_ids (s : MemoryStore) (user : String) :
    (s.userNotifications user).map (·.id) =
      ((s.notifications.map owned).filter (·.2 == user)).map (·.1) := by
  unfold userNotifications
  rw [List.filter_map, List.map_map]
  rfl

/-- Once a mark-read has succeeded, every later one by the owner answers the
same row, unchanged, and leaves the store as it is. -/
theorem markRead_after_read {s s' : MemoryStore} (c : s.Consistent) {id : Uuid} {user : String}
    {now : Timestamp} {n : Notification} {changed : Bool}
    (first : s.markRead id user now = .ok (s', n, changed)) (later : List Call) (now' : Timestamp) :
    (run s' later).markRead id user now' = .ok (run s' later, n, false) := by
  rw [markRead_eq s c.notificationIds_nodup] at first
  cases found : s.row id with
  | none => simp [found] at first
  | some old =>
      rw [found] at first
      dsimp only at first
      split at first
      · next owner =>
          obtain ⟨rfl, markedPair⟩ := Prod.mk.inj (Except.ok.inj first)
          have rowIs : (old.markRead now).1 = n := congrArg Prod.fst markedPair
          subst rowIs
          have oldId : old.id = id := by simpa using List.find?_some found
          have sameId : (old.markRead now).1.id = id := by rw [id_markRead, oldId]
          have rowAfter : (s.marked id (old.markRead now).1).row id = some (old.markRead now).1 := by
            rw [row_marked s id id _ sameId, if_pos rfl, found]
            rfl
          have markedConsistent : (s.marked id (old.markRead now).1).Consistent :=
            ⟨c.rooms_nodup, c.roomIds_nodup,
              (notificationIds_marked s id _ sameId).symm ▸ c.notificationIds_nodup⟩
          have final := markedConsistent.run later
          have stays := row_run_of_read later markedConsistent rowAfter (read_markRead old now)
          rw [markRead_eq _ final.notificationIds_nodup, stays]
          dsimp only
          rw [if_pos (by rw [userId_markRead, owner]), markRead_of_read (read_markRead old now),
            marked_self _ final.notificationIds_nodup stays]
      · cases first

/-! ## Identities along a run -/

/-- Along every run from the empty store: a create is refused exactly when
its identifier is taken and then changes nothing, a message's identifier
being taken within its room and a notification's among all notifications;
otherwise the message lands last in its room and the notification last among
the notifications. Identifiers never repeat there; each room holds exactly the messages stored into it and each user's
list exactly that user's stored notifications, in the order they were
stored; the message count counts the stored messages; a mark-read finds the
row by identifier and owner and changes it only while it is unread, and
once it has succeeded every later one answers the same row and changes
nothing. -/
theorem store_runs_keep_identities (calls : List Call) :
    let s := run {} calls
    (∀ m : Message,
      (m.id ∈ s.roomIds m.roomId →
        (Call.createMessage m).perform s = (.created (.error (.duplicate m.id)), s)) ∧
      (m.id ∉ s.roomIds m.roomId → ((Call.createMessage m).perform s).1 = .created (.ok m.id) ∧
        ∀ room, ((Call.createMessage m).perform s).2.roomMessages room =
          if room = m.roomId then s.roomMessages room ++ [m] else s.roomMessages room)) ∧
    (∀ n : Notification, (Call.createNotification n).perform s =
      if n.id ∈ s.notificationIds then (.created (.error (.duplicate n.id)), s)
      else (.created (.ok n.id), { s with notifications := s.notifications ++ [n] })) ∧
    (∀ room, (s.roomIds room).Nodup) ∧ s.notificationIds.Nodup ∧
    (∀ room, s.roomMessages room = (storedMessages {} calls).filter (·.roomId == room)) ∧
    s.messageCount = (storedMessages {} calls).length ∧
    (∀ user, (s.userNotifications user).map (·.id) =
      ((storedNotifications {} calls).filter (·.userId == user)).map (·.id)) ∧
    (∀ user, s.unreadCount user = ((s.userNotifications user).filter (!·.read)).length) ∧
    (∀ id user now, (Call.markRead id user now).perform s =
      match s.row id with
      | some n =>
        if n.userId = user then
          (.marked (.ok ((n.markRead now).1, !n.read)), s.marked id (n.markRead now).1)
        else (.marked (.error (.notFound s!"notification {id.render}")), s)
      | none => (.marked (.error (.notFound s!"notification {id.render}")), s)) ∧
    (∀ id user now s' n changed, s.markRead id user now = .ok (s', n, changed) →
      ∀ later now', (run s' later).markRead id user now' = .ok (run s' later, n, false)) := by
  intro s
  have c : s.Consistent := Consistent.empty.run calls
  refine ⟨fun m => ⟨perform_createMessage_taken, perform_createMessage_free⟩,
    fun n => perform_createNotification n, c.roomIds_nodup,
    c.notificationIds_nodup, fun room => ?_, ?_, fun user => ?_,
    fun user => List.countP_eq_length_filter, fun id user now => ?_,
    fun id user now s' n changed first => markRead_after_read c first⟩
  · simpa [roomMessages] using roomMessages_run {} calls room
  · simpa [messageCount] using messageCount_run calls Consistent.empty
  · rw [userNotifications_ids, owned_run calls Consistent.empty]
    simp [List.filter_map, owned, Function.comp_def]
  · rw [perform_markRead c.notificationIds_nodup]
    cases s.row id with
    | none => rfl
    | some n =>
        dsimp only
        rw [← changed_markRead n now]

/-- One identifier in two rooms: the room-scoped check takes both messages,
and the store counts two messages under a single identifier. -/
theorem identifier_stored_in_two_rooms :
    let first : Message :=
      { id := ⟨0x6f1c1f4e3b1a4c579a3e0c2d1f3e4a5b⟩, senderId := "alice", roomId := "r1",
        content := "one", createdAt := ⟨1704067200, 0⟩ }
    let second : Message := { first with roomId := "r2", content := "two", createdAt := ⟨1704067201, 0⟩ }
    let calls := [Call.createMessage first, .createMessage second]
    ((Call.createMessage second).perform (run {} [.createMessage first])).1 = .created (.ok first.id) ∧
    (run {} calls).messageCount = 2 ∧ ((storedMessages {} calls).map (·.id)).dedup = [first.id] := by
  refine ⟨rfl, rfl, ?_⟩
  decide

end Herald.MemoryStore
