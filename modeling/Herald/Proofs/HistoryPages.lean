import Herald.Proofs.StoreRuns
import Herald.Cluster.Services

set_option autoImplicit false

/-!
# Pages of history

A page is cut from the rows in the order they were stored: of the rows
created strictly before the bound, it keeps the last `limit` ones stored, in
storing order (`page_eq`).  It is therefore the newest rows, oldest first,
exactly when the rows were stored in the order of their creation instants
(`page_of_stored_in_order`); rows stored out of that order give a page that
is neither (`latest_page_of_rows_stored_out_of_order`).

The history calls of the services check the identifier, take the requested
size or the service's default, clamp it to between one and the service's
maximum (at least one), and answer that page of the store's rows.
-/

namespace Herald

/-- Whether an instant lies strictly before the bound, when there is one. -/
def createdBefore (before : Option Timestamp) (t : Timestamp) : Bool :=
  match before with
  | some b => t.lt b
  | none => true

section Page

variable {α : Type} (rows : List α) (createdAt : α → Timestamp) (before : Option Timestamp)
  (limit : Nat)

/-- The rows a page is cut from, in storing order. -/
def eligible : List α := rows.filter fun r => createdBefore before (createdAt r)

theorem page_eq :
    page rows createdAt before limit =
      (eligible rows createdAt before).drop ((eligible rows createdAt before).length - limit) := by
  cases before <;> rfl

theorem length_page :
    (page rows createdAt before limit).length = min limit (eligible rows createdAt before).length := by
  rw [page_eq, List.length_drop]
  omega

theorem page_suffix : page rows createdAt before limit <:+ eligible rows createdAt before := by
  rw [page_eq]
  exact List.drop_suffix _ _

/-- No row is created after the row stored next to it. -/
def StoredInOrder (rows : List α) (createdAt : α → Timestamp) : Prop :=
  rows.Pairwise fun a b => (createdAt b).lt (createdAt a) = false

/-- Rows stored in the order of their creation give the newest of them,
oldest first: the page is in order, and every row left out is created no
later than every row kept. -/
theorem page_of_stored_in_order (ordered : StoredInOrder rows createdAt) :
    StoredInOrder (page rows createdAt before limit) createdAt ∧
      ∀ older ∈ (eligible rows createdAt before).take
          ((eligible rows createdAt before).length - limit),
        ∀ kept ∈ page rows createdAt before limit, (createdAt kept).lt (createdAt older) = false := by
  have eligibleOrdered : StoredInOrder (eligible rows createdAt before) createdAt :=
    ordered.sublist List.filter_sublist
  rw [page_eq]
  refine ⟨eligibleOrdered.sublist (List.drop_sublist _ _), ?_⟩
  -- the rows left out come before the page in one ordered list
  have split : StoredInOrder ((eligible rows createdAt before).take
      ((eligible rows createdAt before).length - limit) ++
      (eligible rows createdAt before).drop ((eligible rows createdAt before).length - limit))
      createdAt := by
    rw [List.take_append_drop]
    exact eligibleOrdered
  exact (List.pairwise_append.mp split).2.2

/-- What a page of `size` rows cut from `rows` is: as many rows as are
eligible up to `size`, the last eligible ones stored, and, when the rows were
stored in the order of their creation, the newest of them, oldest first. -/
def PageOf (rows : List α) (createdAt : α → Timestamp) (before : Option Timestamp) (size : Nat)
    (result : List α) : Prop :=
  result.length = min size (eligible rows createdAt before).length ∧
  result <:+ eligible rows createdAt before ∧
  (StoredInOrder rows createdAt →
    StoredInOrder result createdAt ∧
      ∀ older ∈ (eligible rows createdAt before).take ((eligible rows createdAt before).length - size),
        ∀ kept ∈ result, (createdAt kept).lt (createdAt older) = false)

theorem page_pageOf : PageOf rows createdAt before limit (page rows createdAt before limit) :=
  ⟨length_page rows createdAt before limit, page_suffix rows createdAt before limit,
    page_of_stored_in_order rows createdAt before limit⟩

end Page

namespace MemoryStore

variable (calls : List Call) (room user : String) (before : Option Timestamp) (limit : Nat)

/-- A room's page after a run is cut from the messages stored into the room,
in the order they were stored. -/
theorem listMessages_run :
    (run {} calls).listMessages room before limit =
      page ((storedMessages {} calls).filter (·.roomId == room)) (·.createdAt) before limit := by
  unfold listMessages
  rw [roomMessages_run]
  rfl

end MemoryStore

namespace Cluster

variable (n : Nat) (before : Option Timestamp) (limit : Option Nat) (w : World)

/-- A room's history, for a valid room on a node whose store answers: the
page of the clamped size, with the cluster unchanged. -/
theorem chatHistory_run {room : String} (valid : validateTopicId room = .ok ())
    (up : (w.node n).storeDown = false) :
    (chatHistory n room before limit).run w =
      (.ok ((w.node n).store.listMessages room before
        (clampLimit limit (w.node n).chat.defaultHistoryLimit (w.node n).chat.maxHistoryLimit)), w) := by
  simp only [chatHistory, validateId, Except.mapError, valid, serviceStore, bind_pure_comp, bind_map_left,
    LawfulMonadStateOf.get_bind_get_bind, StateT.run_bind, StateT.run_get, pure_bind, up,
    Bool.false_eq_true, ↓reduceIte, StateT.run_pure]
  rfl

theorem notifyHistory_run {user : String} (valid : validateTopicId user = .ok ())
    (up : (w.node n).storeDown = false) :
    (notifyHistory n user before limit).run w =
      (.ok ((w.node n).store.listNotifications user before
        (clampLimit limit (w.node n).notify.defaultHistoryLimit (w.node n).notify.maxHistoryLimit)),
        w) := by
  simp only [notifyHistory, validateId, Except.mapError, valid, serviceStore, bind_pure_comp, bind_map_left,
    LawfulMonadStateOf.get_bind_get_bind, StateT.run_bind, StateT.run_get, pure_bind, up,
    Bool.false_eq_true, ↓reduceIte, StateT.run_pure]
  rfl

/-- The history a node's services answer for a valid identifier, when the
node's store was built by a run of store calls: for a room, the page of the
clamped size cut from the messages stored into the room, in storing order;
for a user, the page cut from that user's notifications; either way the
cluster is left as it was. -/
theorem history_pages_by_storing_order (calls : List MemoryStore.Call) (w : World) (n : Nat)
    (room user : String) (before : Option Timestamp) (limit : Option Nat)
    (stored : (w.node n).store = MemoryStore.run {} calls) (up : (w.node n).storeDown = false)
    (validRoom : validateTopicId room = .ok ()) (validUser : validateTopicId user = .ok ()) :
    let rooms := (MemoryStore.storedMessages {} calls).filter (·.roomId == room)
    let chatSize := clampLimit limit (w.node n).chat.defaultHistoryLimit (w.node n).chat.maxHistoryLimit
    let users := (w.node n).store.userNotifications user
    let notifySize :=
      clampLimit limit (w.node n).notify.defaultHistoryLimit (w.node n).notify.maxHistoryLimit
    (∃ messages, (chatHistory n room before limit).run w = (.ok messages, w) ∧
      PageOf rooms (·.createdAt) before chatSize messages) ∧
    (∃ notifications, (notifyHistory n user before limit).run w = (.ok notifications, w) ∧
      PageOf users (·.createdAt) before notifySize notifications) := by
  intro rooms chatSize users notifySize
  refine ⟨⟨_, chatHistory_run n before limit w validRoom up, ?_⟩,
    ⟨_, notifyHistory_run n before limit w validUser up, page_pageOf users _ before notifySize⟩⟩
  rw [stored, MemoryStore.listMessages_run]
  exact page_pageOf rooms _ before chatSize

/-- One message stored in the lobby: both histories are answered, and they
are pages of the default size. -/
theorem lobby_history_pages :
    let m : Message :=
      { id := ⟨1⟩, senderId := "alice", roomId := "lobby", content := "hi",
        createdAt := ⟨1704067200, 0⟩ }
    let calls := [MemoryStore.Call.createMessage m]
    let w : World := { nodes := #[{ store := MemoryStore.run {} calls }] }
    (w.node 0).store = MemoryStore.run {} calls ∧ (w.node 0).storeDown = false ∧
      validateTopicId "lobby" = .ok () ∧ validateTopicId "bob" = .ok () ∧
      (∃ messages, (chatHistory 0 "lobby" none none).run w = (.ok messages, w) ∧
        PageOf ((MemoryStore.storedMessages {} calls).filter (·.roomId == "lobby")) (·.createdAt)
          none (clampLimit none (w.node 0).chat.defaultHistoryLimit (w.node 0).chat.maxHistoryLimit)
          messages) ∧
      (∃ notifications, (notifyHistory 0 "bob" none none).run w = (.ok notifications, w) ∧
        PageOf ((w.node 0).store.userNotifications "bob") (·.createdAt) none
          (clampLimit none (w.node 0).notify.defaultHistoryLimit (w.node 0).notify.maxHistoryLimit)
          notifications) :=
  ⟨rfl, rfl, by decide, by decide,
    history_pages_by_storing_order _ _ 0 "lobby" "bob" none none rfl rfl (by decide) (by decide)⟩

end Cluster

namespace MemoryStore

/-- Two messages of a room stored newest first: the page of one answers the
older, the one stored last. -/
theorem latest_page_of_rows_stored_out_of_order :
    let newer : Message :=
      { id := ⟨1⟩, senderId := "alice", roomId := "r1", content := "newer",
        createdAt := ⟨1704153600, 0⟩ }
    let older : Message :=
      { id := ⟨2⟩, senderId := "alice", roomId := "r1", content := "older",
        createdAt := ⟨1704067200, 0⟩ }
    (run {} [.createMessage newer, .createMessage older]).listMessages "r1" none 1 = [older] := by
  rfl

end MemoryStore

end Herald
