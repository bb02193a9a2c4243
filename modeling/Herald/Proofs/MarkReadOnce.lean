import Herald.Proofs.ChatSend

set_option autoImplicit false

/-!
# Marking a notification read, any number of times

A notification is marked read by its owner, from a session or over the HTTP
interface; both make the same call.  The call takes the clock's reading, and
when the row was unread it stores the row read, stamped with that reading,
and fans it out: one offer to every registration on the owner's topic and one
envelope to every backplane transport.  A row that is read already comes
back as it is and nothing is fanned out; a caller that does not own the row
is told it is not there.

A call is the store's part under its lock (`markReadStored`), then the
fan-out of a row it changed (`notifyMarkRead_stages`).  Made one after
another, in any order and however many there are, as long as the owner is
among the callers: every call is answered from one and the same read row,
the row is changed, stored and fanned out once, every other node is as it
was, and the owner's unread count is one less (`mark_reads_fan_out_once`).
A row that is read or belongs to another caller makes a call a pure read of
the clock (`notifyMarkRead_unchanged`), so after the first of the owner's
calls every call is one.  Calls that overlap are taken step by step in
`Herald.Proofs.MarkReadInterleaving`.
-/

namespace Herald.MemoryStore

/-- Notifications of one owner, one of them read anew: the owner's unread
ones are one fewer. -/
theorem countP_unread_marked (rows : List Notification) (distinct : (rows.map (·.id)).Nodup) {id : Uuid}
    {note : Notification} (found : rows.find? (·.id == id) = some note) (unread : note.read = false)
    (at_ : Timestamp) :
    ((rows.map fun m => if m.id == id then { note with read := true, updatedAt := at_ } else m).filter
        (·.userId == note.userId)).countP (!·.read) + 1 =
      (rows.filter (·.userId == note.userId)).countP (!·.read) := by
  induction rows with
  | nil => cases found
  | cons r rest inductionHypothesis =>
    rw [List.map_cons, List.nodup_cons] at distinct
    by_cases here : r.id = id
    · -- the row found is `r`, and no later row carries its identifier
      have isNote : r = note := by simpa [List.find?_cons, here] using found
      subst isNote
      have untouched : (rest.map fun m => if m.id == id then { r with read := true, updatedAt := at_ } else m) =
          rest := by
        refine (List.map_congr_left fun m listed => ?_).trans (List.map_id _)
        have other : m.id ≠ id := fun same => distinct.1 (here ▸ same ▸ List.mem_map_of_mem listed)
        simp [other]
      have headMarked : (if r.id == id then { r with read := true, updatedAt := at_ } else r) =
          { r with read := true, updatedAt := at_ } := by simp [here]
      rw [List.map_cons, headMarked, untouched]
      -- the row leaves the owner's unread ones, the others stay
      simp only [List.filter_cons, beq_self_eq_true, if_true, List.countP_cons, unread, Bool.not_true,
        Bool.not_false, Bool.false_eq_true, if_false, if_true]
    · have later : rest.find? (·.id == id) = some note := by simpa [List.find?_cons, here] using found
      have step := inductionHypothesis distinct.2 later
      have headKept : (if r.id == id then { note with read := true, updatedAt := at_ } else r) = r := by
        simp [here]
      rw [List.map_cons, headKept]
      by_cases mine : (r.userId == note.userId) = true
      · simp only [List.filter_cons, mine, if_true, List.countP_cons]
        omega
      · simp only [List.filter_cons, mine, Bool.false_eq_true, if_false]
        exact step

theorem unreadCount_marked {s : MemoryStore} (distinct : s.notificationIds.Nodup) {id : Uuid}
    {note : Notification} (found : s.row id = some note) (unread : note.read = false) (at_ : Timestamp) :
    (s.marked id { note with read := true, updatedAt := at_ }).unreadCount note.userId + 1 =
      s.unreadCount note.userId :=
  countP_unread_marked s.notifications distinct found unread at_

end Herald.MemoryStore

namespace Herald.Cluster

/-- The store's part of a mark-read: the name checked, the store's verdict at
the clock's next reading, and the row stored. -/
theorem markReadStored_run (n : Nat) (id : Uuid) (user : String) (w : World) :
    (markReadStored n id user).run w =
      match validateId "user_id" user with
      | .error e => (.error e, w)
      | .ok () =>
        if (w.node n).storeDown then (.error (.store (.unavailable "connection refused")), w)
        else
          match (w.node n).store.markRead id user { w with wallTicks := w.wallTicks + 1 }.wallNow with
          | .error e => (.error (.ofStore e), { w with wallTicks := w.wallTicks + 1 })
          | .ok (store, note, changed) =>
            (.ok (note, changed), ((setStore n store).run { w with wallTicks := w.wallTicks + 1 }).2) := by
  unfold markReadStored
  cases validateId "user_id" user with
  | error e => rfl
  | ok _ =>
    simp only [StateT.run_bind, serviceStore_run, id_bind]
    by_cases down : (w.node n).storeDown = true
    · simp only [down, if_true]
      rfl
    · simp only [down, Bool.false_eq_true, if_false, StateT.run_bind, readClock_run, id_bind]
      cases (w.node n).store.markRead id user { w with wallTicks := w.wallTicks + 1 }.wallNow with
      | error e => rfl
      | ok marked =>
        obtain ⟨store, note, changed⟩ := marked
        simp only [StateT.run_bind, id_bind]
        -- the run of the store update stays unopened
        generalize StateT.run (setStore n store) _ = stored
        rfl

theorem notifyMarkRead_stages (n : Nat) (id : Uuid) (user : String) (w : World) :
    (notifyMarkRead n id user).run w =
      match (markReadStored n id user).run w with
      | (.error e, stored) => (.error e, stored)
      | (.ok (note, changed), stored) =>
        (.ok note, if changed then ((fanOut n (.notification note)).run stored).2 else stored) := by
  simp only [notifyMarkRead, StateT.run_bind]
  generalize (markReadStored n id user).run w = stored
  obtain ⟨answer, after⟩ := stored
  rcases answer with e | ⟨note, _ | _⟩
  · rfl
  · rfl
  · simp only [if_true, StateT.run_bind, id_bind]
    generalize StateT.run (fanOut n (Event.notification note)) after = fanned
    rfl

/-- A mark-read as one step of the cluster: the name checked, the store's
verdict at the clock's next reading, and the row stored, then fanned out when
it changed. -/
theorem notifyMarkRead_run (n : Nat) (id : Uuid) (user : String) (w : World) :
    (notifyMarkRead n id user).run w =
      match validateId "user_id" user with
      | .error e => (.error e, w)
      | .ok () =>
        if (w.node n).storeDown then (.error (.store (.unavailable "connection refused")), w)
        else
          match (w.node n).store.markRead id user { w with wallTicks := w.wallTicks + 1 }.wallNow with
          | .error e => (.error (.ofStore e), { w with wallTicks := w.wallTicks + 1 })
          | .ok (store, note, changed) =>
            (.ok note,
              if changed then
                ((fanOut n (.notification note)).run
                  ((setStore n store).run { w with wallTicks := w.wallTicks + 1 }).2).2
              else ((setStore n store).run { w with wallTicks := w.wallTicks + 1 }).2) := by
  rw [notifyMarkRead_stages, markReadStored_run]
  cases validateId "user_id" user with
  | error e => rfl
  | ok _ =>
    dsimp only
    by_cases down : (w.node n).storeDown = true
    · simp only [down, if_true]
    · simp only [down, Bool.false_eq_true, if_false]
      cases (w.node n).store.markRead id user { w with wallTicks := w.wallTicks + 1 }.wallNow with
      | error e => rfl
      | ok marked => rfl

theorem setStore_self (n : Nat) (w : World) : ((setStore n (w.node n).store).run w).2 = w := by
  have same : w.nodes.modify n (fun nd => { nd with store := (w.node n).store }) = w.nodes := by
    refine Array.ext (Array.size_modify ..) fun j inModified inOriginal => ?_
    rw [Array.getElem_modify]
    split
    · next here =>
      subst here
      have atIndex : w.node n = w.nodes[n] := by
        simp only [World.node, Array.getD_eq_getD_getElem?, Array.getElem?_eq_getElem inOriginal,
          Option.getD_some]
      simp only [atIndex]
    · rfl
  rw [setStore_run, same]

/-- What a mark-read of notification `id` by `user` answers while the row is
`row`: an invalid name is refused as such, the owner gets the row, anyone
else is told it is not there. -/
def markReadAnswer (id : Uuid) (row : Notification) (user : String) : Except ServiceError Notification :=
  match validateId "user_id" user with
  | .error e => .error e
  | .ok () => if row.userId = user then .ok row else .error (.notFound s!"notification {id.render}")

theorem markReadAnswer_owner (id : Uuid) (row : Notification) (validOwner : validateTopicId row.userId = .ok ()) :
    markReadAnswer id row row.userId = .ok row := by
  simp [markReadAnswer, validateId, validOwner, Except.mapError]

theorem markReadAnswer_stranger (id : Uuid) {row : Notification} {user : String}
    (valid : validateTopicId user = .ok ()) (other : row.userId ≠ user) :
    markReadAnswer id row user = .error (.notFound s!"notification {id.render}") := by
  simp [markReadAnswer, validateId, valid, Except.mapError, other]

theorem markReadAnswer_other {id : Uuid} {row : Notification} {user : String}
    (other : row.userId ≠ user) (row' : Notification) (sameOwner : row'.userId = row.userId) :
    markReadAnswer id row' user = markReadAnswer id row user := by
  unfold markReadAnswer
  cases validateId "user_id" user with
  | error e => rfl
  | ok _ => simp [sameOwner, other]

section Calls

variable {n : Nat} {w : World} {id : Uuid}

/-- A locked step that finds nothing to change, because the row is read
already or is not the caller's, answers from the row and only reads the
clock. -/
theorem markReadStored_unchanged (w : World) (up : (w.node n).storeDown = false)
    (distinct : (w.node n).store.notificationIds.Nodup) {row : Notification}
    (found : (w.node n).store.row id = some row) (user : String)
    (quiet : row.read = true ∨ row.userId ≠ user) :
    ∃ ticks, (markReadStored n id user).run w =
      ((markReadAnswer id row user).map (·, false), { w with wallTicks := ticks }) := by
  rw [markReadStored_run]
  unfold markReadAnswer
  cases validateId "user_id" user with
  | error e => exact ⟨w.wallTicks, rfl⟩
  | ok _ =>
    refine ⟨w.wallTicks + 1, ?_⟩
    simp only [up, Bool.false_eq_true, if_false]
    rw [MemoryStore.markRead_eq _ distinct, found]
    dsimp only
    by_cases owner : row.userId = user
    · have wasRead : row.read = true := quiet.resolve_right (not_not.mpr owner)
      rw [if_pos owner, if_pos owner, MemoryStore.markRead_of_read wasRead,
        MemoryStore.marked_self _ distinct found]
      exact congrArg _ (setStore_self n { w with wallTicks := w.wallTicks + 1 })
    · rw [if_neg owner, if_neg owner]
      rfl

/-- The owner's locked step on an unread row marks it read at the clock's
reading and stores it. -/
theorem markReadStored_first (w : World) (up : (w.node n).storeDown = false)
    (distinct : (w.node n).store.notificationIds.Nodup) {note : Notification}
    (found : (w.node n).store.row id = some note) (unread : note.read = false)
    (validOwner : validateTopicId note.userId = .ok ()) :
    let ticked := { w with wallTicks := w.wallTicks + 1 }
    let marked := { note with read := true, updatedAt := ticked.wallNow }
    (markReadStored n id note.userId).run w =
      (.ok (marked, true), ((setStore n ((w.node n).store.marked id marked)).run ticked).2) := by
  intro ticked marked
  have valid : validateId "user_id" note.userId = .ok () := by simp [validateId, validOwner, Except.mapError]
  have changing : note.markRead ticked.wallNow = (marked, true) := by simp [Notification.markRead, unread, marked]
  rw [markReadStored_run, valid]
  dsimp only
  simp only [up, Bool.false_eq_true, if_false]
  rw [MemoryStore.markRead_eq _ distinct, found]
  dsimp only
  rw [if_pos rfl, changing]

/-- A mark-read that finds nothing to change, because the row is read already
or is not the caller's, answers from the row and only reads the clock. -/
theorem notifyMarkRead_unchanged (up : (w.node n).storeDown = false)
    (distinct : (w.node n).store.notificationIds.Nodup) {row : Notification}
    (found : (w.node n).store.row id = some row) {user : String}
    (quiet : row.read = true ∨ row.userId ≠ user) :
    ∃ ticks, (notifyMarkRead n id user).run w = (markReadAnswer id row user, { w with wallTicks := ticks }) := by
  obtain ⟨ticks, locked⟩ := markReadStored_unchanged w up distinct found user quiet
  refine ⟨ticks, ?_⟩
  rw [notifyMarkRead_stages, locked]
  cases markReadAnswer id row user <;> rfl

/-- The owner's mark-read of an unread row marks it read at the clock's
reading, stores it and fans it out. -/
theorem notifyMarkRead_first (up : (w.node n).storeDown = false)
    (distinct : (w.node n).store.notificationIds.Nodup) {note : Notification}
    (found : (w.node n).store.row id = some note) (unread : note.read = false) {owner : String}
    (owned : note.userId = owner) (validOwner : validateTopicId owner = .ok ()) :
    let ticked := { w with wallTicks := w.wallTicks + 1 }
    let marked := { note with read := true, updatedAt := ticked.wallNow }
    (notifyMarkRead n id owner).run w =
      (.ok marked, ((fanOut n (.notification marked)).run
        ((setStore n ((w.node n).store.marked id marked)).run ticked).2).2) := by
  subst owned
  rw [notifyMarkRead_stages, markReadStored_first w up distinct found unread validOwner]
  simp

end Calls

/-- Running calls one after another: the first, then the rest from where it
left the cluster. -/
theorem mapM_run_cons {β γ : Type} (f : β → ClusterM γ) (x : β) (xs : List β) (w : World) :
    ((x :: xs).mapM f).run w =
      (((f x).run w).1 :: ((xs.mapM f).run ((f x).run w).2).1, ((xs.mapM f).run ((f x).run w).2).2) := by
  rw [List.mapM_cons]
  rfl

section Runs

variable {n : Nat} {id : Uuid}

theorem fanOut_other_node {m : Nat} (other : m ≠ n) (e : Event) (w : World) :
    ((fanOut n e).run w).2.node m = w.node m := by
  have broadcasted := congrArg Prod.snd (broadcast_run n e.topic e w)
  generalize middle : ((broadcast n e.topic e).run w).2 = between at broadcasted
  have fanned : ((fanOut n e).run w).2 = ((publishEvent n e).run between).2 := middle ▸ fanOut_run n e w
  rw [fanned, World.node, (nodes_publishEvent n e between).1, broadcasted]
  exact (getD_modify w.nodes default n m _).trans (if_neg fun same => other same.1.symm)

/-- The cluster `after` a notification's change was stored and fanned out
once, beside the cluster `w` before: the node holds its store with the row
replaced and has counted the broadcast's drops, every registration on the
owner's topic was offered the row once, and every transport was handed it
once; every other node is as it was. -/
def ChangedOnce (w : World) (n : Nat) (id : Uuid) (marked : Notification) (after : World) : Prop :=
  let nd := w.node n
  let offered := offerAll (.notification marked) ((nd.hub.entries (.user marked.userId)).map (·.2))
    w.eventChannels
  after.node n = { nd with store := nd.store.marked id marked }.addDropped offered.2.2 ∧
    after.eventChannels = offered.1 ∧
    (∃ sentAt, after.transports = replicated nd (.notification marked) sentAt w.transports) ∧
    ∀ m ≠ n, after.node m = w.node m

theorem changedOnce_fanOut {w : World} (present : n < w.nodes.size) (marked : Notification)
    (store : MemoryStore) (stored : store = (w.node n).store.marked id marked) :
    ChangedOnce w n id marked ((fanOut n (.notification marked)).run ((setStore n store).run w).2).2 := by
  have storedPresent : n < ((setStore n store).run w).2.nodes.size := by
    rw [setStore_run]
    exact (Array.size_modify ..).symm ▸ present
  have storedNode : ((setStore n store).run w).2.node n = { w.node n with store } := by
    rw [setStore_run, World.node_modify, if_pos ⟨rfl, present⟩]
  obtain ⟨channels, node, transports⟩ := fanOut_after storedPresent (.notification marked)
  refine ⟨?_, ?_, ⟨{ w with wallTicks := w.wallTicks + 1 }.wallNow, ?_⟩, fun m other => ?_⟩
  · rw [node, storedNode, stored]
    rfl
  · rw [channels, storedNode]
    rfl
  · rw [transports, storedNode]
    rfl
  · rw [fanOut_other_node other, setStore_run, World.node_modify, if_neg fun same => other same.1.symm]

theorem ChangedOnce.clock_before {w after : World} {marked : Notification} {ticks : Nat}
    (once : ChangedOnce { w with wallTicks := ticks } n id marked after) : ChangedOnce w n id marked after :=
  once

theorem ChangedOnce.clock_after {w after : World} {marked : Notification}
    (once : ChangedOnce w n id marked after) (ticks : Nat) :
    ChangedOnce w n id marked { after with wallTicks := ticks } :=
  once

theorem ChangedOnce.node_store {w after : World} {marked : Notification}
    (once : ChangedOnce w n id marked after) :
    (after.node n).store = (w.node n).store.marked id marked ∧
      (after.node n).storeDown = (w.node n).storeDown := by
  rw [once.1]
  exact ⟨rfl, rfl⟩

/-- Mark-reads that find nothing to change answer from the row one by one and
only read the clock. -/
theorem mapM_notifyMarkRead_unchanged {row : Notification} (callers : List String) :
    ∀ w : World, (w.node n).storeDown = false → (w.node n).store.notificationIds.Nodup →
      (w.node n).store.row id = some row → (∀ u ∈ callers, row.read = true ∨ row.userId ≠ u) →
      ∃ ticks, (callers.mapM (notifyMarkRead n id)).run w =
        (callers.map (markReadAnswer id row), { w with wallTicks := ticks }) := by
  induction callers with
  | nil => intro w _ _ _ _; exact ⟨w.wallTicks, rfl⟩
  | cons u rest inductionHypothesis =>
    intro w up distinct found quiet
    obtain ⟨firstTicks, first⟩ := notifyMarkRead_unchanged up distinct found (quiet u List.mem_cons_self)
    -- the rest runs on the same nodes, only the clock has moved
    obtain ⟨ticks, later⟩ := inductionHypothesis { w with wallTicks := firstTicks } up distinct found
      fun v listed => quiet v (List.mem_cons_of_mem u listed)
    refine ⟨ticks, ?_⟩
    rw [mapM_run_cons, first]
    dsimp only
    rw [later]
    rfl

/-- Mark-reads of an unread notification one after another, the owner among
the callers: the owner's first call changes the row and fans it out, and
every call answers from the row as it ends up. -/
theorem mapM_notifyMarkRead_marks {note : Notification} (unread : note.read = false)
    (validOwner : validateTopicId note.userId = .ok ()) (callers : List String) :
    ∀ w : World, n < w.nodes.size → (w.node n).storeDown = false → (w.node n).store.notificationIds.Nodup →
      (w.node n).store.row id = some note → note.userId ∈ callers →
      ∃ updatedAt, ((callers.mapM (notifyMarkRead n id)).run w).1 =
          callers.map (markReadAnswer id { note with read := true, updatedAt }) ∧
        ChangedOnce w n id { note with read := true, updatedAt } ((callers.mapM (notifyMarkRead n id)).run w).2 := by
  induction callers with
  | nil => intro w _ _ _ _ calling; cases calling
  | cons u rest inductionHypothesis =>
    intro w present up distinct found calling
    by_cases first : note.userId = u
    · subst first
      -- the owner's first call changes the row; every later call finds it read
      have changing := notifyMarkRead_first up distinct found unread rfl validOwner
      set ticked := { w with wallTicks := w.wallTicks + 1 }
      set marked := { note with read := true, updatedAt := ticked.wallNow }
      set after := ((fanOut n (.notification marked)).run
        ((setStore n ((w.node n).store.marked id marked)).run ticked).2).2
      have once : ChangedOnce w n id marked after :=
        (changedOnce_fanOut (show n < ticked.nodes.size from present) marked _ rfl).clock_before
      obtain ⟨afterStore, afterDown⟩ := once.node_store
      have markedId : marked.id = id := by simpa using List.find?_some found
      have afterDistinct : (after.node n).store.notificationIds.Nodup := by
        rw [afterStore, MemoryStore.notificationIds_marked _ _ _ markedId]
        exact distinct
      have afterFound : (after.node n).store.row id = some marked := by
        rw [afterStore, MemoryStore.row_marked _ _ _ _ markedId, if_pos rfl, found]
        rfl
      obtain ⟨ticks, later⟩ := mapM_notifyMarkRead_unchanged rest after (afterDown.trans up) afterDistinct
        afterFound fun v _ => .inl rfl
      refine ⟨ticked.wallNow, ?_, ?_⟩
      · rw [mapM_run_cons, changing]
        dsimp only
        rw [later, List.map_cons, markReadAnswer_owner id marked validOwner]
      · rw [mapM_run_cons, changing]
        dsimp only
        rw [later]
        exact once.clock_after ticks
    · -- another caller finds nothing to change; the owner's call is still to come
      obtain ⟨ticks, quietCall⟩ := notifyMarkRead_unchanged up distinct found (.inr first)
      obtain ⟨updatedAt, answers, once⟩ := inductionHypothesis { w with wallTicks := ticks } present up distinct
        found ((List.mem_cons.mp calling).resolve_left first)
      refine ⟨updatedAt, ?_, ?_⟩
      · rw [mapM_run_cons, quietCall]
        dsimp only
        rw [answers, List.map_cons]
        exact congrArg (· :: _) (markReadAnswer_other first { note with read := true, updatedAt } rfl).symm
      · rw [mapM_run_cons, quietCall]
        exact once.clock_before

end Runs

/-- Mark-reads of one unread notification, any number of them and in any
order, the owner among the callers: each caller is answered from one and the
same read row, with a single stamp; the row is stored and fanned out once,
every other node is as it was, and the owner has one unread notification
fewer. -/
theorem mark_reads_fan_out_once (w : World) (n : Nat) (present : n < w.nodes.size)
    (up : (w.node n).storeDown = false) (distinct : (w.node n).store.notificationIds.Nodup)
    {id : Uuid} {note : Notification} (found : (w.node n).store.row id = some note) (unread : note.read = false)
    (validOwner : validateTopicId note.userId = .ok ()) (callers : List String) (calling : note.userId ∈ callers) :
    let run := (callers.mapM (notifyMarkRead n id)).run w
    ∃ updatedAt, let marked := { note with read := true, updatedAt }
      run.1 = callers.map (markReadAnswer id marked) ∧ ChangedOnce w n id marked run.2 ∧
      (run.2.node n).store.unreadCount note.userId + 1 = (w.node n).store.unreadCount note.userId := by
  intro run
  obtain ⟨updatedAt, answers, once⟩ :=
    mapM_notifyMarkRead_marks unread validOwner callers w present up distinct found calling
  refine ⟨updatedAt, answers, once, ?_⟩
  rw [once.node_store.1]
  exact MemoryStore.unreadCount_marked distinct found unread updatedAt

end Herald.Cluster
