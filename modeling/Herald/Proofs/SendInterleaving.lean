import Herald.Proofs.RecallLatest

set_option autoImplicit false

/-!
# Sends into one room that overlap

A send passes its checks and stamps its message, then the store takes the
message under its lock, then, in a step of its own, the message is written as
the room's recall entry, and last it is fanned out.  Sends made at the same
time run these steps interleaved in any order (`SendPool.Step`): one send can
store its message before another and write the recall entry after it.

Once no send is in progress, every stored message has been remembered, the
room's last row is the message stored last, and the recall entry, read back
before its time to live has passed, is the message remembered last
(`overlapping_sends_recall_last_remembered`).  The two orders need not agree:
when two sends cross (store A, store B, remember B, remember A), the recall,
and the frame a joining session is primed with, is A while the room's last
row is B (`crossed_sends_recall_older_message`).  A send run alone is one
schedule of the pool (`chatSend_schedule`).
-/

namespace Herald.Cluster

/-- A send that passed its checks, at the step it takes next. -/
inductive SendCall where
  /-- The store takes its message, or refuses it. -/
  | stamped (m : Message)
  /-- Its message is written as the room's recall entry. -/
  | stored (m : Message)
  /-- Its message is fanned out, and the send answers it. -/
  | remembered (m : Message)
  deriving DecidableEq

/-- The message a send in progress carries. -/
def SendCall.message : SendCall → Message
  | .stamped m | .stored m | .remembered m => m

/-- The message of a send that has stored it and not yet remembered it. -/
def SendCall.awaitingRecall : SendCall → List Message
  | .stored m => [m]
  | _ => []

/-- Sends into one room of one node in progress, with the messages in the
order the store took them and in the order they were remembered. -/
structure SendPool where
  world : World
  running : List SendCall := []
  stored : List Message := []
  remembered : List Message := []

/-- One atomic step of one of the sends into `room` at node `n`. -/
inductive SendPool.Step (n : Nat) (room : String) : SendPool → SendPool → Prop
  | begin {p : SendPool} (actor : Actor) (content : String) (receiver kind : Option String)
      (passes : firstFailure (sendChecks (p.world.node n).chat actor room content receiver kind) = none) :
      Step n room p
        { p with
          world := p.world.stamped
          running := p.running ++ [.stamped (sentMessage p.world actor room content receiver kind)] }
  | refuse {p : SendPool} (m : Message) {e : ServiceError} (waiting : .stamped m ∈ p.running)
      (refused : storeVerdict (p.world.node n) m = .error e) :
      Step n room p { p with running := p.running.erase (.stamped m) }
  | store {p : SendPool} (m : Message) {store : MemoryStore} (waiting : .stamped m ∈ p.running)
      (taken : storeVerdict (p.world.node n) m = .ok store) :
      Step n room p
        { p with
          world := ((setStore n store).run p.world).2
          running := p.running.erase (.stamped m) ++ [.stored m]
          stored := p.stored ++ [m] }
  | remember {p : SendPool} (m : Message) (waiting : .stored m ∈ p.running) :
      Step n room p
        { p with
          world := ((remember n m).run p.world).2
          running := p.running.erase (.stored m) ++ [.remembered m]
          remembered := p.remembered ++ [m] }
  | fanOut {p : SendPool} (m : Message) (waiting : .remembered m ∈ p.running) :
      Step n room p
        { p with
          world := ((fanOut n (.message m)).run p.world).2
          running := p.running.erase (.remembered m) }

/-- The pools that sends into `room` reach from world `w` with none in progress. -/
def SendPool.Reachable (n : Nat) (room : String) (w : World) : SendPool → Prop :=
  Relation.ReflTransGen (SendPool.Step n room) { world := w }

theorem flatMap_perm_erase {α β : Type} [DecidableEq α] {l : List α} {a : α} (f : α → List β)
    (held : a ∈ l) : (l.flatMap f).Perm (f a ++ (l.erase a).flatMap f) := by
  simpa using (List.perm_cons_erase held).flatMap_right f

/-- What every pool of sends reached from world `w` keeps at node `n`, when
the recall entry written there expires at `expiry`. -/
structure SendInv (n : Nat) (room : String) (expiry : Nat) (w : World) (p : SendPool) : Prop where
  keeps : KeepsClock w p.world
  chat : (p.world.node n).chat = (w.node n).chat
  attached : (p.world.node n).recallAttached = (w.node n).recallAttached
  inRoom : ∀ c ∈ p.running, c.message.roomId = room
  rows : (p.world.node n).store.roomMessages room = (w.node n).store.roomMessages room ++ p.stored
  entry : ∀ m, p.remembered.getLast? = some m →
    (p.world.node n).recallCache.entries.find? (·.1 == recallKey room) =
      some (recallKey room, (messageText m).toUTF8, expiry)
  remembers : p.stored.Perm (p.remembered ++ p.running.flatMap SendCall.awaitingRecall)

section Step

variable {n : Nat} {room : String} {expiry : Nat} {w : World} {p q : SendPool}

theorem SendInv.start : SendInv n room expiry w { world := w } where
  keeps := KeepsClock.refl w
  chat := rfl
  attached := rfl
  inRoom := by simp
  rows := by simp
  entry := by simp
  remembers := by simp

/-- A step that leaves the node's store, cache and settings alone keeps the
invariant when its changes to the calls keep the pending recalls. -/
theorem SendInv.of_node (inv : SendInv n room expiry w p) (keeps : KeepsClock p.world q.world)
    (node : q.world.node n = p.world.node n ∨ ∃ k, q.world.node n = (p.world.node n).addDropped k)
    (inRoom : ∀ c ∈ q.running, c.message.roomId = room) (stored : q.stored = p.stored)
    (remembered : q.remembered = p.remembered)
    (pending : (p.running.flatMap SendCall.awaitingRecall).Perm (q.running.flatMap SendCall.awaitingRecall)) :
    SendInv n room expiry w q := by
  -- every field below reads the node through the store, the cache or the settings
  have same : ∀ {β : Type} (field : Node → β), (∀ nd k, field (nd.addDropped k) = field nd) →
      field (q.world.node n) = field (p.world.node n) := by
    intro β field unhurt
    rcases node with same | ⟨k, dropped⟩
    · rw [same]
    · rw [dropped, unhurt]
  refine ⟨inv.keeps.trans keeps, ?_, ?_, inRoom, ?_, fun m last => ?_, ?_⟩
  · rw [same Node.chat (fun _ _ => rfl), inv.chat]
  · rw [same Node.recallAttached (fun _ _ => rfl), inv.attached]
  · rw [same Node.store (fun _ _ => rfl), inv.rows, stored]
  · rw [same Node.recallCache (fun _ _ => rfl)]
    exact inv.entry m (remembered ▸ last)
  · rw [stored, remembered]
    exact inv.remembers.trans (List.Perm.append_left _ pending)

theorem SendInv.begin_step (inv : SendInv n room expiry w p) (actor : Actor) (content : String)
    (receiver kind : Option String) :
    SendInv n room expiry w
      { p with
        world := p.world.stamped
        running := p.running ++ [.stamped (sentMessage p.world actor room content receiver kind)] } := by
  refine inv.of_node (keepsClock_stamped p.world) (.inl rfl) (fun c started => ?_) rfl rfl ?_
  · rcases List.mem_append.mp started with old | new
    · exact inv.inRoom c old
    · rw [List.mem_singleton.mp new]
      rfl
  · simp [SendCall.awaitingRecall]

theorem SendInv.refuse_step (inv : SendInv n room expiry w p) {m : Message} (waiting : .stamped m ∈ p.running) :
    SendInv n room expiry w { p with running := p.running.erase (.stamped m) } := by
  refine inv.of_node (KeepsClock.refl _) (.inl rfl) (fun c kept => inv.inRoom c (List.mem_of_mem_erase kept))
    rfl rfl ?_
  simpa [SendCall.awaitingRecall] using flatMap_perm_erase SendCall.awaitingRecall waiting

theorem SendInv.fanOut_step (inv : SendInv n room expiry w p) (present : n < w.nodes.size) {m : Message}
    (waiting : .remembered m ∈ p.running) :
    SendInv n room expiry w
      { p with
        world := ((fanOut n (.message m)).run p.world).2
        running := p.running.erase (.remembered m) } := by
  have keeps := keepsClock_fanOut n (.message m) p.world
  obtain ⟨-, dropped, -⟩ := fanOut_after (inv.keeps.2 ▸ present) (Event.message m)
  generalize ((fanOut n (.message m)).run p.world).2 = after at keeps dropped ⊢
  refine inv.of_node keeps (.inr ⟨_, dropped⟩) (fun c kept => inv.inRoom c (List.mem_of_mem_erase kept)) rfl rfl ?_
  simpa [SendCall.awaitingRecall] using flatMap_perm_erase SendCall.awaitingRecall waiting

theorem SendInv.store_step (inv : SendInv n room expiry w p) (present : n < w.nodes.size) {m : Message}
    {store : MemoryStore} (waiting : .stamped m ∈ p.running)
    (taken : storeVerdict (p.world.node n) m = .ok store) :
    SendInv n room expiry w
      { p with
        world := ((setStore n store).run p.world).2
        running := p.running.erase (.stamped m) ++ [.stored m]
        stored := p.stored ++ [m] } := by
  have node : ((setStore n store).run p.world).2.node n = { p.world.node n with store } := by
    rw [setStore_run, World.node_modify, if_pos ⟨rfl, inv.keeps.2 ▸ present⟩]
  have sameRoom : m.roomId = room := inv.inRoom _ waiting
  obtain ⟨id, created⟩ := createMessage_of_storeVerdict taken
  refine ⟨inv.keeps.trans (keepsClock_setStore n store p.world), ?_, ?_, fun c started => ?_, ?_,
    fun m' last => ?_, ?_⟩
  · rw [node]
    exact inv.chat
  · rw [node]
    exact inv.attached
  · rcases List.mem_append.mp started with old | new
    · exact inv.inRoom c (List.mem_of_mem_erase old)
    · rw [List.mem_singleton.mp new]
      exact sameRoom
  · -- the message lands last in its room, which is `room`
    rw [node]
    dsimp only
    rw [MemoryStore.roomMessages_createMessage created, if_pos sameRoom.symm, inv.rows, List.append_assoc]
  · rw [node]
    exact inv.entry m' last
  · have pending := flatMap_perm_erase SendCall.awaitingRecall waiting
    simp only [SendCall.awaitingRecall, List.nil_append] at pending
    simp only [List.flatMap_append, List.flatMap_singleton, SendCall.awaitingRecall, ← List.append_assoc]
    exact (inv.remembers.trans (List.Perm.append_left _ pending)).append_right [m]

theorem SendInv.remember_step (inv : SendInv n room expiry w p) (present : n < w.nodes.size)
    (on : ((w.node n).recallAttached && (w.node n).chat.recallEnabled) = true)
    (fits : addSpan w.instant (w.node n).chat.recallTtl = some expiry) {m : Message}
    (waiting : .stored m ∈ p.running) :
    SendInv n room expiry w
      { p with
        world := ((remember n m).run p.world).2
        running := p.running.erase (.stored m) ++ [.remembered m]
        remembered := p.remembered ++ [m] } := by
  have onNow : ((p.world.node n).recallAttached && (p.world.node n).chat.recallEnabled) = true := by
    rw [inv.attached, inv.chat]
    exact on
  have fitsNow : addSpan p.world.instant (p.world.node n).chat.recallTtl = some expiry := by
    rw [inv.keeps.instant, inv.chat]
    exact fits
  have node : ((remember n m).run p.world).2.node n =
      { p.world.node n with recallCache :=
        { entries := (p.world.node n).recallCache.entries.filter (·.1 != recallKey m.roomId) ++
          [(recallKey m.roomId, (messageText m).toUTF8, expiry)] } } := by
    rw [remember_run, remembered_of_fits m onNow fitsNow]
    exact (World.node_modify ..).trans (if_pos ⟨rfl, inv.keeps.2 ▸ present⟩)
  have sameRoom : m.roomId = room := inv.inRoom _ waiting
  refine ⟨inv.keeps.trans (keepsClock_remember n m p.world), ?_, ?_, fun c started => ?_, ?_,
    fun m' last => ?_, ?_⟩
  · rw [node]
    exact inv.chat
  · rw [node]
    exact inv.attached
  · rcases List.mem_append.mp started with old | new
    · exact inv.inRoom c (List.mem_of_mem_erase old)
    · rw [List.mem_singleton.mp new]
      exact sameRoom
  · rw [node]
    exact inv.rows
  · -- the entry just written is the last one remembered
    rw [List.getLast?_append, List.getLast?_singleton, Option.some_or] at last
    cases last
    rw [node, ← sameRoom]
    exact RecallCache.find?_set_entry _ _ _ _
  · have pending := flatMap_perm_erase SendCall.awaitingRecall waiting
    simp only [SendCall.awaitingRecall, List.singleton_append] at pending
    simp only [List.flatMap_append, List.flatMap_singleton, SendCall.awaitingRecall, List.append_nil,
      List.append_assoc, List.singleton_append]
    exact inv.remembers.trans (List.Perm.append_left _ pending)

theorem SendInv.step (inv : SendInv n room expiry w p) (present : n < w.nodes.size)
    (on : ((w.node n).recallAttached && (w.node n).chat.recallEnabled) = true)
    (fits : addSpan w.instant (w.node n).chat.recallTtl = some expiry) (step : SendPool.Step n room p q) :
    SendInv n room expiry w q := by
  cases step with
  | begin actor content receiver kind _ => exact inv.begin_step actor content receiver kind
  | refuse m waiting _ => exact inv.refuse_step waiting
  | store m waiting taken => exact inv.store_step present waiting taken
  | remember m waiting => exact inv.remember_step present on fits waiting
  | fanOut m waiting => exact inv.fanOut_step present waiting

theorem SendInv.reachable (present : n < w.nodes.size)
    (on : ((w.node n).recallAttached && (w.node n).chat.recallEnabled) = true)
    (fits : addSpan w.instant (w.node n).chat.recallTtl = some expiry)
    (reached : SendPool.Reachable n room w p) : SendInv n room expiry w p := by
  induction reached with
  | refl => exact SendInv.start
  | tail _ step inv => exact inv.step present on fits step

end Step

section Quiet

variable {n : Nat} {room : String} {expiry : Nat} {w : World} {p : SendPool}

theorem SendInv.lastRow (inv : SendInv n room expiry w p) {m : Message} (last : p.stored.getLast? = some m) :
    (p.world.node n).store.listMessages room none 1 = [m] := by
  obtain ⟨older, ends⟩ := List.getLast?_eq_some_iff.mp last
  have rows : (p.world.node n).store.roomMessages room =
      ((w.node n).store.roomMessages room ++ older) ++ [m] := by
    rw [inv.rows, ends, List.append_assoc]
  exact listMessages_last rows

/-- A recall made before the entry's time to live has passed gives the last
message remembered, and so does the frame a joining session is primed with. -/
theorem SendInv.recall (inv : SendInv n room expiry w p)
    (on : ((w.node n).recallAttached && (w.node n).chat.recallEnabled) = true)
    (fits : addSpan w.instant (w.node n).chat.recallTtl = some expiry)
    (elapsed : Nat) (fresh : elapsed * 1000000 < (w.node n).chat.recallTtl.toNanos)
    (ctx : SessionContext) (joining : ctx.topic = .room room)
    {m : Message} (last : p.remembered.getLast? = some m) (representable : m.Representable) :
    let later : World := { p.world with clock := p.world.clock + elapsed }
    ((chatRecall n room).run later).1 = some m ∧
      ((joinFrames n .chat ctx).run later).1 = [.deliver (.message m)] := by
  intro later
  have live : later.instant < expiry := by
    rw [addSpan_some fits]
    simp only [later, World.instant, inv.keeps.1] at fresh ⊢
    omega
  have laterOn : ((later.node n).recallAttached && (later.node n).chat.recallEnabled) = true := by
    show ((p.world.node n).recallAttached && (p.world.node n).chat.recallEnabled) = true
    rw [inv.attached, inv.chat]
    exact on
  have recalled : ((chatRecall n room).run later).1 = some m := by
    rw [chatRecall_of_entry laterOn (inv.entry m last) live, decodeMessage,
      Message.ofBytes_messageText m representable]
    rfl
  exact ⟨recalled, joinFrames_of_recall joining recalled⟩

end Quiet

/-- Sends into a room that overlap in any interleaving of their steps, at a
node that keeps a recall cache whose entry fits its clock.  Once none is in
progress, every message stored has been remembered; the room's last row is
the message stored last; and a recall made before the entry's time to live
has passed, with nothing else having happened, gives the message remembered
last, as does the frame a session joining the room is primed with. -/
theorem overlapping_sends_recall_last_remembered (w : World) (n : Nat) (present : n < w.nodes.size)
    (room : String) (on : ((w.node n).recallAttached && (w.node n).chat.recallEnabled) = true)
    (fits : addSpan w.instant (w.node n).chat.recallTtl ≠ none)
    (elapsed : Nat) (fresh : elapsed * 1000000 < (w.node n).chat.recallTtl.toNanos)
    (ctx : SessionContext) (joining : ctx.topic = .room room)
    (p : SendPool) (reached : SendPool.Reachable n room w p) (done : p.running = []) :
    let later : World := { p.world with clock := p.world.clock + elapsed }
    p.stored.Perm p.remembered ∧
    (∀ m, p.stored.getLast? = some m → (p.world.node n).store.listMessages room none 1 = [m]) ∧
    (∀ m, p.remembered.getLast? = some m → m.Representable →
      ((chatRecall n room).run later).1 = some m ∧
      ((joinFrames n .chat ctx).run later).1 = [.deliver (.message m)]) := by
  obtain ⟨expiry, fitsAt⟩ := Option.ne_none_iff_exists'.mp fits
  have inv : SendInv n room expiry w p := SendInv.reachable present on fitsAt reached
  refine ⟨?_, fun m last => inv.lastRow last,
    fun m last representable => inv.recall on fitsAt elapsed fresh ctx joining last representable⟩
  simpa [done] using inv.remembers

/-- A send made alone is one schedule of the pool: its steps run back to
back leave the world the send leaves, with no send in progress. -/
theorem chatSend_schedule (n : Nat) (room : String) (actor : Actor) (content : String)
    (receiver kind : Option String) (w : World) :
    ∃ p, SendPool.Reachable n room w p ∧ p.running = [] ∧
      p.world = ((chatSend n actor room content receiver kind).run w).2 := by
  rw [chatSend_run]
  cases checked : firstFailure (sendChecks (w.node n).chat actor room content receiver kind) with
  | some e => exact ⟨_, .refl, rfl, rfl⟩
  | none =>
    dsimp only
    rw [storeSent_run]
    set m := sentMessage w actor room content receiver kind
    have begun : SendPool.Reachable n room w { world := w.stamped, running := [.stamped m] } :=
      .single (.begin actor content receiver kind checked)
    cases verdict : storeVerdict (w.stamped.node n) m with
    | error e => exact ⟨_, begun.tail (.refuse m (List.mem_singleton_self _) verdict), by simp, rfl⟩
    | ok store =>
      refine ⟨_, ((begun.tail (.store m (List.mem_singleton_self _) verdict)).tail (.remember m ?_)).tail
        (.fanOut m ?_), ?_, rfl⟩ <;> simp

section Crossed

/-- Two sends of Alice into the lobby that cross: the first stores its message
before the second and writes the recall entry after it. -/
theorem crossed_sends_reach :
    let w : World := { nodes := #[{}] }
    let alice : Actor := { id := "alice", role := .admin }
    let first := sentMessage w alice "lobby" "hello" none none
    let second := sentMessage w.stamped alice "lobby" "again" none none
    ∃ p, SendPool.Reachable 0 "lobby" w p ∧ p.running = [] ∧ p.stored = [first, second] ∧
      p.remembered = [second, first] := by
  intro w alice first second
  refine ⟨_, ((((((((Relation.ReflTransGen.refl).tail
    (.begin alice "hello" none none (by decide +kernel))).tail
    (.begin alice "again" none none (by decide +kernel))).tail
    (.store first (by decide +kernel) rfl)).tail
    (.store second (by decide +kernel) rfl)).tail
    (.remember second (by decide +kernel))).tail
    (.remember first (by decide +kernel))).tail
    (.fanOut second (by decide +kernel))).tail
    (.fanOut first (by decide +kernel)), by decide +kernel, rfl, rfl⟩

/-- The witness run: the two crossed sends at a node with one cluster's
default settings, where the recall entry fits and lives an hour. -/
theorem crossed_sends_settle :
    let w : World := { nodes := #[{}] }
    let ctx : SessionContext := { actor := { id := "alice", role := .admin }, topic := .room "lobby" }
    ∃ p : SendPool, (0 < w.nodes.size ∧ ((w.node 0).recallAttached && (w.node 0).chat.recallEnabled) = true ∧
        addSpan w.instant (w.node 0).chat.recallTtl ≠ none ∧ 1000 * 1000000 < (w.node 0).chat.recallTtl.toNanos ∧
        ctx.topic = .room "lobby" ∧ SendPool.Reachable 0 "lobby" w p ∧ p.running = []) ∧
      let later : World := { p.world with clock := p.world.clock + 1000 }
      p.stored.Perm p.remembered ∧
      (∀ m, p.stored.getLast? = some m → (p.world.node 0).store.listMessages "lobby" none 1 = [m]) ∧
      (∀ m, p.remembered.getLast? = some m → m.Representable →
        ((chatRecall 0 "lobby").run later).1 = some m ∧
        ((joinFrames 0 .chat ctx).run later).1 = [.deliver (.message m)]) := by
  intro w ctx
  obtain ⟨p, reached, done, -, -⟩ := crossed_sends_reach
  exact ⟨p, ⟨by decide, rfl, by decide, by decide, rfl, reached, done⟩,
    overlapping_sends_recall_last_remembered w 0 (by decide) "lobby" rfl (by decide) 1000 (by decide) ctx rfl
      p reached done⟩

/-- Two sends into the lobby that cross: the room's last row is the second
message, while the recall, and the frame a joining session is primed with,
give the first. -/
theorem crossed_sends_recall_older_message :
    let w : World := { nodes := #[{}] }
    let alice : Actor := { id := "alice", role := .admin }
    let first := sentMessage w alice "lobby" "hello" none none
    let second := sentMessage w.stamped alice "lobby" "again" none none
    let ctx : SessionContext := { actor := alice, topic := .room "lobby" }
    first ≠ second ∧ ∃ p, SendPool.Reachable 0 "lobby" w p ∧ p.running = [] ∧
      (p.world.node 0).store.listMessages "lobby" none 1 = [second] ∧
      ((chatRecall 0 "lobby").run p.world).1 = some first ∧
      ((joinFrames 0 .chat ctx).run p.world).1 = [.deliver (.message first)] := by
  intro w alice first second ctx
  obtain ⟨p, reached, done, stored, remembered⟩ := crossed_sends_reach
  obtain ⟨expiry, fits⟩ :=
    Option.ne_none_iff_exists'.mp (show addSpan w.instant (w.node 0).chat.recallTtl ≠ none by decide)
  have inv : SendInv 0 "lobby" expiry w p := SendInv.reachable (by decide) rfl fits reached
  have representable : first.Representable := ⟨by decide, by unfold Timestamp.ReadsBack; decide +kernel⟩
  obtain ⟨recalled, primed⟩ := inv.recall rfl fits 0 (by decide) ctx rfl
    (by rw [remembered]; rfl) representable
  exact ⟨by decide, p, reached, done, inv.lastRow (by rw [stored]; rfl), recalled, primed⟩

end Crossed

end Herald.Cluster
