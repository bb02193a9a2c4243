import Herald.Proofs.MarkReadOnce

set_option autoImplicit false

/-!
# Mark-reads of one notification that overlap

A mark-read takes the store's lock, reads the clock, marks the row and puts
the store back, all as one step; a call that changed the row then fans it out
in a step of its own, with no lock held (`markReadStored`, then `fanOut`).
Calls made at the same time, from sessions or over the HTTP interface, run
these steps interleaved in any order (`MarkPool.Step`).

The lock decides who changes the row: the owner's first locked step finds
it unread and marks it, and every locked step after it finds it read and
changes nothing; a caller who does not own it is told it is not there.  So
the calls on one unread notification pass through three phases
(`MarkPhase`): nothing changed yet, the row stored read but not yet fanned
out, and the row fanned out.  Once no call is in progress and the owner has
called, every call was answered from one and the same read row, the row was
fanned out once, and the owner has one unread notification fewer
(`overlapping_mark_reads_fan_out_once`).
-/

namespace Herald.Cluster

/-- Mark-reads of one notification in progress: the calls that changed the
row and have yet to fan it out, the answers of the calls that returned with
their callers, and the rows fanned out, in order. -/
structure MarkPool where
  world : World
  fanning : List (String × Notification) := []
  answered : List (String × Except ServiceError Notification) := []
  fannedOut : List Notification := []

/-- One atomic step of one of the mark-reads of notification `id` at node `n`. -/
inductive MarkPool.Step (n : Nat) (id : Uuid) : MarkPool → MarkPool → Prop
  | change {p : MarkPool} (user : String) {note : Notification} {stored : World}
      (changed : (markReadStored n id user).run p.world = (.ok (note, true), stored)) :
      Step n id p { p with world := stored, fanning := p.fanning ++ [(user, note)] }
  | answer {p : MarkPool} (user : String) {answer : Except ServiceError (Notification × Bool)}
      {stored : World} (run : (markReadStored n id user).run p.world = (answer, stored))
      (unchanged : ∀ note, answer ≠ .ok (note, true)) :
      Step n id p { p with world := stored, answered := p.answered ++ [(user, answer.map Prod.fst)] }
  | fan {p : MarkPool} (user : String) (note : Notification) (waiting : (user, note) ∈ p.fanning) :
      Step n id p
        { world := ((fanOut n (.notification note)).run p.world).2
          fanning := p.fanning.erase (user, note)
          answered := p.answered ++ [(user, .ok note)]
          fannedOut := p.fannedOut ++ [note] }

/-- The pools that mark-reads of `id` reach from world `w` with none in progress. -/
def MarkPool.Reachable (n : Nat) (id : Uuid) (w : World) : MarkPool → Prop :=
  Relation.ReflTransGen (MarkPool.Step n id) { world := w }

section Stored

variable {n : Nat} {id : Uuid}

theorem map_fst_false {ε α : Type} (r : Except ε α) : ((r.map (·, false)).map Prod.fst) = r := by
  cases r <;> rfl

theorem map_false_ne_changed {ε α : Type} (r : Except ε α) (a : α) : r.map (·, false) ≠ .ok (a, true) := by
  cases r <;> simp [Except.map]

end Stored

/-- Where the mark-reads of notification `id` stand, from world `w` in which
the row was `note`: nothing changed but the clock; or the owner's call has
stored the row read at `updatedAt` and not yet fanned it out; or the row has
been fanned out.  Every call that returned was answered from the row as it
stood. -/
inductive MarkPhase (n : Nat) (id : Uuid) (note : Notification) (w : World) (p : MarkPool) : Prop
  | before (ticks : Nat) (world : p.world = { w with wallTicks := ticks }) (fanning : p.fanning = [])
      (fanned : p.fannedOut = [])
      (answers : ∀ a ∈ p.answered, a.2 = markReadAnswer id note a.1 ∧ a.1 ≠ note.userId)
  | stored (ticks : Nat) (updatedAt : Timestamp)
      (world : p.world = ((setStore n ((w.node n).store.marked id { note with read := true, updatedAt })).run
        { w with wallTicks := ticks }).2)
      (fanning : p.fanning = [(note.userId, { note with read := true, updatedAt })]) (fanned : p.fannedOut = [])
      (answers : ∀ a ∈ p.answered, a.2 = markReadAnswer id { note with read := true, updatedAt } a.1)
  | fannedOut (updatedAt : Timestamp) (once : ChangedOnce w n id { note with read := true, updatedAt } p.world)
      (fanning : p.fanning = []) (fanned : p.fannedOut = [{ note with read := true, updatedAt }])
      (answers : ∀ a ∈ p.answered, a.2 = markReadAnswer id { note with read := true, updatedAt } a.1)

section Phases

variable {n : Nat} {w : World} {id : Uuid} {note : Notification} {p q : MarkPool}

/-- The store of `w` with the row of `note` read at `updatedAt`: its
identifiers stay distinct and the row found is the read one. -/
theorem marked_row (distinct : (w.node n).store.notificationIds.Nodup)
    (found : (w.node n).store.row id = some note) (updatedAt : Timestamp) :
    let marked : Notification := { note with read := true, updatedAt }
    ((w.node n).store.marked id marked).notificationIds.Nodup ∧
      ((w.node n).store.marked id marked).row id = some marked := by
  intro marked
  have markedId : marked.id = id := by simpa using List.find?_some found
  refine ⟨?_, ?_⟩
  · rw [MemoryStore.notificationIds_marked _ _ _ markedId]
    exact distinct
  · rw [MemoryStore.row_marked _ _ _ _ markedId, if_pos rfl, found]
    rfl

theorem not_changed_of_read (w : World) (up : (w.node n).storeDown = false)
    (distinct : (w.node n).store.notificationIds.Nodup) {row : Notification}
    (found : (w.node n).store.row id = some row) (read : row.read = true) (user : String)
    {note' : Notification} {stored : World} :
    (markReadStored n id user).run w ≠ (.ok (note', true), stored) := by
  obtain ⟨ticks, quiet⟩ := markReadStored_unchanged w up distinct found user (.inl read)
  rw [quiet]
  intro same
  exact map_false_ne_changed _ _ (congrArg Prod.fst same)

/-- Before the owner's call: the owner's locked step stores the row read, and
anyone else's is answered from the unread row and only reads the clock. -/
theorem MarkPhase.before_step (up : (w.node n).storeDown = false)
    (distinct : (w.node n).store.notificationIds.Nodup) (found : (w.node n).store.row id = some note)
    (unread : note.read = false) (validOwner : validateTopicId note.userId = .ok ()) (ticks : Nat)
    (answered : List (String × Except ServiceError Notification))
    (answers : ∀ a ∈ answered, a.2 = markReadAnswer id note a.1 ∧ a.1 ≠ note.userId)
    (step : MarkPool.Step n id { world := { w with wallTicks := ticks }, answered } q) :
    MarkPhase n id note w q := by
  cases step with
  | change user changed =>
    by_cases owner : user = note.userId
    · subst owner
      rw [markReadStored_first { w with wallTicks := ticks } up distinct found unread validOwner] at changed
      obtain ⟨answered, rfl⟩ := Prod.mk.inj changed
      obtain ⟨rfl, -⟩ := Prod.mk.inj (Except.ok.inj answered)
      refine .stored (ticks + 1) _ rfl rfl rfl fun a listed => ?_
      -- the others were answered alike from the unread row
      exact (answers a listed).1.trans (markReadAnswer_other (answers a listed).2.symm _ (by rfl)).symm
    · obtain ⟨_, quiet⟩ := markReadStored_unchanged { w with wallTicks := ticks } up distinct found user (.inr (Ne.symm owner))
      rw [quiet] at changed
      exact absurd (congrArg Prod.fst changed) (map_false_ne_changed _ _)
  | answer user run unchanged =>
    by_cases owner : user = note.userId
    · subst owner
      rw [markReadStored_first { w with wallTicks := ticks } up distinct found unread validOwner] at run
      exact absurd (congrArg Prod.fst run).symm (unchanged _)
    · obtain ⟨later, quiet⟩ := markReadStored_unchanged { w with wallTicks := ticks } up distinct found user (.inr (Ne.symm owner))
      rw [quiet] at run
      obtain ⟨rfl, rfl⟩ := Prod.mk.inj run
      refine .before later rfl rfl rfl fun a listed => ?_
      rcases List.mem_append.mp listed with old | new
      · exact answers a old
      · rw [List.mem_singleton.mp new]
        exact ⟨map_fst_false _, owner⟩
  | fan user note' waiting => cases waiting

/-- While the read row waits to be fanned out: every locked step is answered
from it and only reads the clock, and the owner's call fans it out. -/
theorem MarkPhase.stored_step (present : n < w.nodes.size) (up : (w.node n).storeDown = false)
    (distinct : (w.node n).store.notificationIds.Nodup) (found : (w.node n).store.row id = some note)
    (validOwner : validateTopicId note.userId = .ok ()) (ticks : Nat) (updatedAt : Timestamp) (stored : World)
    (shape : stored = ((setStore n ((w.node n).store.marked id { note with read := true, updatedAt })).run
      { w with wallTicks := ticks }).2)
    (answered : List (String × Except ServiceError Notification))
    (answers : ∀ a ∈ answered, a.2 = markReadAnswer id { note with read := true, updatedAt } a.1)
    (step : MarkPool.Step n id
      { world := stored, fanning := [(note.userId, { note with read := true, updatedAt })], answered } q) :
    MarkPhase n id note w q := by
  have node : stored.node n =
      { w.node n with store := (w.node n).store.marked id { note with read := true, updatedAt } } := by
    rw [shape, setStore_run, World.node_modify, if_pos ⟨rfl, present⟩]
    rfl
  obtain ⟨markedDistinct, markedFound⟩ := marked_row distinct found updatedAt
  have upNow : (stored.node n).storeDown = false := by rw [node]; exact up
  have distinctNow : (stored.node n).store.notificationIds.Nodup := by rw [node]; exact markedDistinct
  have foundNow : (stored.node n).store.row id = some { note with read := true, updatedAt } := by
    rw [node]; exact markedFound
  cases step with
  | change user changed => exact absurd changed (not_changed_of_read stored upNow distinctNow foundNow rfl user)
  | answer user run unchanged =>
    obtain ⟨later, quiet⟩ := markReadStored_unchanged stored upNow distinctNow foundNow user (.inl rfl)
    rw [quiet] at run
    obtain ⟨rfl, rfl⟩ := Prod.mk.inj run
    refine .stored later updatedAt (by rw [shape]; rfl) rfl rfl fun a listed => ?_
    rcases List.mem_append.mp listed with old | new
    · exact answers a old
    · rw [List.mem_singleton.mp new]
      exact map_fst_false _
  | fan user note' waiting =>
    obtain ⟨rfl, rfl⟩ := Prod.mk.inj (List.mem_singleton.mp waiting)
    have once : ChangedOnce w n id { note with read := true, updatedAt }
        ((fanOut n (.notification { note with read := true, updatedAt })).run stored).2 := by
      rw [shape]
      exact (changedOnce_fanOut (show n < ({ w with wallTicks := ticks } : World).nodes.size from present)
        { note with read := true, updatedAt } ((w.node n).store.marked id { note with read := true, updatedAt })
        rfl).clock_before
    generalize ((fanOut n (.notification { note with read := true, updatedAt })).run stored).2 = fanned at once ⊢
    refine .fannedOut updatedAt once (by simp) rfl fun a listed => ?_
    rcases List.mem_append.mp listed with old | new
    · exact answers a old
    · rw [List.mem_singleton.mp new]
      exact (markReadAnswer_owner id { note with read := true, updatedAt } validOwner).symm

/-- Once the row is fanned out: every locked step is answered from the read
row and only reads the clock. -/
theorem MarkPhase.fannedOut_step (up : (w.node n).storeDown = false)
    (distinct : (w.node n).store.notificationIds.Nodup) (found : (w.node n).store.row id = some note)
    (updatedAt : Timestamp) (world : World) (once : ChangedOnce w n id { note with read := true, updatedAt } world)
    (answered : List (String × Except ServiceError Notification))
    (answers : ∀ a ∈ answered, a.2 = markReadAnswer id { note with read := true, updatedAt } a.1)
    (fannedOut : List Notification)
    (step : MarkPool.Step n id { world, answered, fannedOut } q)
    (fanned : fannedOut = [{ note with read := true, updatedAt }]) : MarkPhase n id note w q := by
  obtain ⟨markedDistinct, markedFound⟩ := marked_row distinct found updatedAt
  obtain ⟨store, down⟩ := once.node_store
  have upNow : (world.node n).storeDown = false := by rw [down]; exact up
  have distinctNow : (world.node n).store.notificationIds.Nodup := by rw [store]; exact markedDistinct
  have foundNow : (world.node n).store.row id = some { note with read := true, updatedAt } := by
    rw [store]; exact markedFound
  cases step with
  | change user changed => exact absurd changed (not_changed_of_read world upNow distinctNow foundNow rfl user)
  | answer user run unchanged =>
    obtain ⟨later, quiet⟩ := markReadStored_unchanged world upNow distinctNow foundNow user (.inl rfl)
    rw [quiet] at run
    obtain ⟨rfl, rfl⟩ := Prod.mk.inj run
    refine .fannedOut updatedAt (once.clock_after later) rfl fanned fun a listed => ?_
    rcases List.mem_append.mp listed with old | new
    · exact answers a old
    · rw [List.mem_singleton.mp new]
      exact map_fst_false _
  | fan user note' waiting => cases waiting

theorem MarkPhase.step (present : n < w.nodes.size) (up : (w.node n).storeDown = false)
    (distinct : (w.node n).store.notificationIds.Nodup) (found : (w.node n).store.row id = some note)
    (unread : note.read = false) (validOwner : validateTopicId note.userId = .ok ())
    (phase : MarkPhase n id note w p) (step : MarkPool.Step n id p q) : MarkPhase n id note w q := by
  obtain ⟨world, fanning, answered, fannedOut⟩ := p
  cases phase with
  | before ticks shape noFanning noFanned answers =>
    dsimp only at shape noFanning noFanned
    subst shape noFanning noFanned
    exact MarkPhase.before_step up distinct found unread validOwner ticks answered answers step
  | stored ticks updatedAt shape waiting noFanned answers =>
    dsimp only at waiting noFanned
    subst waiting noFanned
    exact MarkPhase.stored_step present up distinct found validOwner ticks updatedAt world shape answered answers step
  | fannedOut updatedAt once noFanning fanned answers =>
    dsimp only at noFanning
    subst noFanning
    exact MarkPhase.fannedOut_step up distinct found updatedAt world once answered answers fannedOut step fanned

theorem MarkPhase.reachable (present : n < w.nodes.size) (up : (w.node n).storeDown = false)
    (distinct : (w.node n).store.notificationIds.Nodup) (found : (w.node n).store.row id = some note)
    (unread : note.read = false) (validOwner : validateTopicId note.userId = .ok ())
    (reached : MarkPool.Reachable n id w p) : MarkPhase n id note w p := by
  induction reached with
  | refl => exact .before w.wallTicks rfl rfl rfl (by simp)
  | tail _ step phase => exact phase.step present up distinct found unread validOwner step

end Phases

/-- A mark-read made alone is one schedule of the pool: its steps run back to
back answer what the call answers and leave the world it leaves. -/
theorem notifyMarkRead_schedule (n : Nat) (id : Uuid) (user : String) (w : World) :
    ∃ p, MarkPool.Reachable n id w p ∧ p.fanning = [] ∧
      p.answered = [(user, ((notifyMarkRead n id user).run w).1)] ∧
      p.world = ((notifyMarkRead n id user).run w).2 := by
  rw [notifyMarkRead_stages]
  generalize locked : (markReadStored n id user).run w = result
  obtain ⟨answer, stored⟩ := result
  rcases answer with e | ⟨note, _ | _⟩
  · exact ⟨_, .single (.answer user locked (by simp)), rfl, rfl, rfl⟩
  · exact ⟨_, .single (.answer user locked (by simp)), rfl, rfl, rfl⟩
  · have reach : MarkPool.Reachable n id w _ :=
      (Relation.ReflTransGen.single (.change user locked)).tail (.fan user note (by simp))
    exact ⟨_, reach, by simp, rfl, by simp⟩

/-- Mark-reads of one unread notification made at the same time, any number
of them by any callers, with their locked steps and fan-outs interleaved in
any order.  Once none is in progress and the owner has called: every call
was answered from one and the same read row with a single stamp (the owner
with the row, anyone else with not-found); the row was fanned out once,
stored read, offered once to every registration on the owner's topic and
handed once to every transport; every other node is as it was; and the owner
has one unread notification fewer. -/
theorem overlapping_mark_reads_fan_out_once (w : World) (n : Nat) (present : n < w.nodes.size)
    (up : (w.node n).storeDown = false) (distinct : (w.node n).store.notificationIds.Nodup)
    {id : Uuid} {note : Notification} (found : (w.node n).store.row id = some note) (unread : note.read = false)
    (validOwner : validateTopicId note.userId = .ok ())
    (p : MarkPool) (reached : MarkPool.Reachable n id w p) (done : p.fanning = [])
    (ownerCalled : note.userId ∈ p.answered.map Prod.fst) :
    ∃ updatedAt, let marked := { note with read := true, updatedAt }
      (∀ a ∈ p.answered, a.2 = markReadAnswer id marked a.1) ∧ p.fannedOut = [marked] ∧
      ChangedOnce w n id marked p.world ∧
      (p.world.node n).store.unreadCount note.userId + 1 = (w.node n).store.unreadCount note.userId := by
  cases MarkPhase.reachable present up distinct found unread validOwner reached with
  | before _ _ _ _ answers =>
    -- the owner's locked step would have changed the row
    obtain ⟨a, listed, owner⟩ := List.mem_map.mp ownerCalled
    exact absurd owner (answers a listed).2
  | stored _ _ _ waiting =>
    rw [done] at waiting
    cases waiting
  | fannedOut updatedAt once _ fanned answers =>
    refine ⟨updatedAt, answers, fanned, once, ?_⟩
    rw [once.node_store.1]
    exact MemoryStore.unreadCount_marked distinct found unread updatedAt

section Welcome

/-- Bob reads his welcome twice and Alice tries to in between: Bob's first
call stores the row read, Alice's and Bob's second are answered before it is
fanned out. -/
theorem welcome_reads_reach :
    let welcome : Notification :=
      { id := ⟨3⟩, userId := "bob", kind := "info", content := "welcome", createdAt := ⟨1704067200, 0⟩,
        updatedAt := ⟨1704067200, 0⟩ }
    let w : World := { nodes := #[{ store := { notifications := [welcome] } }] }
    ∃ p, MarkPool.Reachable 0 ⟨3⟩ w p ∧ p.fanning = [] ∧ p.answered.map Prod.fst = ["alice", "bob", "bob"] := by
  intro welcome w
  exact ⟨_, ((((Relation.ReflTransGen.refl).tail (.change "bob" rfl)).tail
    (.answer "alice" rfl (by simp))).tail (.answer "bob" rfl (by simp))).tail
    (.fan "bob" _ (List.mem_append_right [] (List.mem_singleton.mpr rfl))), by simp, rfl⟩

/-- The witness run: the interleaving above, on a node whose store holds Bob's
unread welcome. -/
theorem welcome_read_once :
    let welcome : Notification :=
      { id := ⟨3⟩, userId := "bob", kind := "info", content := "welcome", createdAt := ⟨1704067200, 0⟩,
        updatedAt := ⟨1704067200, 0⟩ }
    let w : World := { nodes := #[{ store := { notifications := [welcome] } }] }
    ∃ p : MarkPool, (0 < w.nodes.size ∧ (w.node 0).storeDown = false ∧ (w.node 0).store.notificationIds.Nodup ∧
        (w.node 0).store.row ⟨3⟩ = some welcome ∧ welcome.read = false ∧ validateTopicId welcome.userId = .ok () ∧
        MarkPool.Reachable 0 ⟨3⟩ w p ∧ p.fanning = [] ∧ welcome.userId ∈ p.answered.map Prod.fst) ∧
      ∃ updatedAt, let marked := { welcome with read := true, updatedAt }
        (∀ a ∈ p.answered, a.2 = markReadAnswer ⟨3⟩ marked a.1) ∧ p.fannedOut = [marked] ∧
        ChangedOnce w 0 ⟨3⟩ marked p.world ∧
        (p.world.node 0).store.unreadCount welcome.userId + 1 = (w.node 0).store.unreadCount welcome.userId := by
  intro welcome w
  obtain ⟨p, reached, done, callers⟩ := welcome_reads_reach
  have called : welcome.userId ∈ p.answered.map Prod.fst := by rw [callers]; decide
  exact ⟨p, ⟨by decide, rfl, by decide, rfl, rfl, by decide, reached, done, called⟩,
    overlapping_mark_reads_fan_out_once w 0 (by decide) rfl (by decide) rfl rfl (by decide) p reached done called⟩

end Welcome

end Herald.Cluster
