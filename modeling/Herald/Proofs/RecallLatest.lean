import Herald.Proofs.MessageText
import Herald.Proofs.MarkReadOnce
import Herald.Server.Extract

set_option autoImplicit false

/-!
# A recall gives the room's latest message

A send that stores a message also puts the message's text in the node's
recall cache under the room's key, replacing the entry that was there, and a
session joining the room is primed with what a recall reads back from that
entry.  A send that fails stores nothing and leaves the cache alone.

Sends made one after another, each from its checks to its fan-out before the
next begins, leave the message of the last one that succeeded both as the
room's last row and as the room's entry (`sendAll_recall`).  So once they are
done and before the entry's time to live has passed, the recall, and the
frame a joining session is primed with, is the room's last row
(`recall_after_sends_gives_latest`): the entry is live, and a message's text
reads back as the message (`Message.ofBytes_messageText`).  Sends that
overlap are taken step by step in `Herald.Proofs.SendInterleaving`.
-/

namespace Herald.RecallCache

/-- An entry put in after every other entry under its key was taken out is
the one found under that key. -/
theorem find?_set_entry (entries : List (String × ByteArray × Nat)) (key : String) (value : ByteArray)
    (expiry : Nat) :
    (entries.filter (·.1 != key) ++ [(key, value, expiry)]).find? (·.1 == key) = some (key, value, expiry) := by
  rw [List.find?_append, List.find?_eq_none.mpr]
  · simp
  · intro e kept
    simpa using (List.mem_filter.mp kept).2

theorem get_of_find? {c : RecallCache} {now : Nat} {key : String} {value : ByteArray}
    {expiry : Nat} (found : c.entries.find? (·.1 == key) = some (key, value, expiry)) (live : now < expiry) :
    c.get now key = (some value, c) := by
  rw [get, found]
  exact if_pos live

end Herald.RecallCache

namespace Herald.Cluster

/-- `after` reads the clock `w` reads and has as many nodes. -/
def KeepsClock (w after : World) : Prop := after.clock = w.clock ∧ after.nodes.size = w.nodes.size

theorem KeepsClock.refl (w : World) : KeepsClock w w := ⟨rfl, rfl⟩

theorem KeepsClock.trans {u v w : World} (first : KeepsClock u v) (second : KeepsClock v w) : KeepsClock u w :=
  ⟨second.1.trans first.1, second.2.trans first.2⟩

theorem KeepsClock.instant {w after : World} (keeps : KeepsClock w after) : after.instant = w.instant := by
  rw [World.instant, World.instant, keeps.1]

theorem keepsClock_stamped (w : World) : KeepsClock w w.stamped := ⟨rfl, rfl⟩

theorem keepsClock_setStore (n : Nat) (store : MemoryStore) (w : World) :
    KeepsClock w ((setStore n store).run w).2 := by
  rw [setStore_run]
  exact ⟨rfl, Array.size_modify ..⟩

theorem keepsClock_remember (n : Nat) (m : Message) (w : World) :
    KeepsClock w ((remember n m).run w).2 := by
  rw [remember_run]
  cases remembered w n m with
  | some c => exact ⟨rfl, Array.size_modify ..⟩
  | none => exact KeepsClock.refl w

theorem keepsClock_fanOut (n : Nat) (e : Event) (w : World) : KeepsClock w ((fanOut n e).run w).2 := by
  have broadcasted := congrArg Prod.snd (broadcast_run n e.topic e w)
  generalize middle : ((broadcast n e.topic e).run w).2 = between at broadcasted
  have fanned : ((fanOut n e).run w).2 = ((publishEvent n e).run between).2 := middle ▸ fanOut_run n e w
  -- replicating reads the wall clock only, and leaves the nodes as they are
  have clockKept : ((publishEvent n e).run between).2.clock = between.clock := by
    rw [publishEvent_after]
    split
    · rfl
    · dsimp only
      split <;> rfl
  rw [fanned]
  refine ⟨clockKept.trans (by rw [broadcasted]), ?_⟩
  rw [(nodes_publishEvent n e between).1, broadcasted]
  exact Array.size_modify ..

/-- Node `n` holds `m` as the latest message of `room`: the room's last row,
and the room's recall entry, holding `m`'s text until `expiry`. -/
def HoldsLatest (w : World) (n : Nat) (room : String) (expiry : Nat) (m : Message) : Prop :=
  (∃ older, (w.node n).store.roomMessages room = older ++ [m]) ∧
    (w.node n).recallCache.entries.find? (·.1 == recallKey room) =
      some (recallKey room, (messageText m).toUTF8, expiry)

theorem HoldsLatest.of_same {v w : World} {n : Nat} {room : String} {expiry : Nat} {m : Message}
    (holds : HoldsLatest v n room expiry m) (store : (w.node n).store = (v.node n).store)
    (cache : (w.node n).recallCache = (v.node n).recallCache) : HoldsLatest w n room expiry m := by
  unfold HoldsLatest
  rw [store, cache]
  exact holds

section Send

variable {n : Nat} {w : World}

/-- What a send into `room` leaves at node `n` when the node keeps a recall
cache and the entry's expiry fits: the clock, the node count and the chat
settings as they were; after a failure, the store and the cache as they
were; after a success, the message as the room's latest. -/
theorem chatSend_recall (actor : Actor) (room content : String) (receiver kind : Option String)
    (present : n < w.nodes.size)
    {expiry : Nat} (on : ((w.node n).recallAttached && (w.node n).chat.recallEnabled) = true)
    (fits : addSpan w.instant (w.node n).chat.recallTtl = some expiry) :
    let sent := (chatSend n actor room content receiver kind).run w
    KeepsClock w sent.2 ∧ (sent.2.node n).chat = (w.node n).chat ∧
      (sent.2.node n).recallAttached = (w.node n).recallAttached ∧
      (∀ e, sent.1 = .error e →
        (sent.2.node n).store = (w.node n).store ∧ (sent.2.node n).recallCache = (w.node n).recallCache) ∧
      (∀ m, sent.1 = .ok m → HoldsLatest sent.2 n room expiry m) := by
  intro sent
  have run : sent = _ := chatSend_run n actor room content receiver kind w
  cases checked : firstFailure (sendChecks (w.node n).chat actor room content receiver kind) with
  | some e =>
    -- a failed check leaves the cluster as it was
    rw [checked] at run
    rw [run]
    exact ⟨KeepsClock.refl w, rfl, rfl, fun _ _ => ⟨rfl, rfl⟩, fun _ answered => by cases answered⟩
  | none =>
    rw [checked, storeSent_run] at run
    set m := sentMessage w actor room content receiver kind
    cases verdict : storeVerdict (w.stamped.node n) m with
    | error e =>
      rw [verdict] at run
      rw [run]
      exact ⟨keepsClock_stamped w, rfl, rfl, fun _ _ => ⟨rfl, rfl⟩, fun _ answered => by cases answered⟩
    | ok store =>
      have answer : sent.1 = .ok m := by rw [run, verdict]
      have after : sent.2 = ((fanOut n (.message m)).run ((remember n m).run
          ((setStore n store).run w.stamped).2).2).2 := by
        rw [run, verdict]
      have finalNode := storedNode_eq (w := w.stamped) present m store
      rw [← after] at finalNode
      have stored := keepsClock_setStore n store w.stamped
      have remembered := keepsClock_remember n m ((setStore n store).run w.stamped).2
      have fanned := keepsClock_fanOut n (.message m) ((remember n m).run ((setStore n store).run w.stamped).2).2
      have keeps : KeepsClock w sent.2 := by
        rw [after]
        exact (keepsClock_stamped w).trans (stored.trans (remembered.trans fanned))
      obtain ⟨id, created⟩ := createMessage_of_storeVerdict verdict
      refine ⟨keeps, by rw [finalNode]; rfl, by rw [finalNode]; rfl, fun e failed => ?_, fun stored answered => ?_⟩
      · rw [answer] at failed
        cases failed
      · rw [answer] at answered
        cases answered
        refine ⟨⟨(w.node n).store.roomMessages room, ?_⟩, ?_⟩
        · rw [finalNode]
          exact (MemoryStore.roomMessages_createMessage created room).trans (if_pos rfl)
        · rw [finalNode, remembered_of_fits (w := w.stamped) m on fits, Option.getD_some]
          exact RecallCache.find?_set_entry _ _ _ _

end Send

/-- The message the last send that succeeded gave back, if any did. -/
def lastSent (answers : List (Except ServiceError Message)) : Option Message :=
  (answers.filterMap Except.toOption).getLast?

theorem lastSent_cons (a : Except ServiceError Message) (rest : List (Except ServiceError Message)) :
    lastSent (a :: rest) = (lastSent rest).or a.toOption := by
  cases a with
  | error e => simp [lastSent, Except.toOption]
  | ok m => simp [lastSent, Except.toOption, List.getLast?_cons]

/-- Sends into one room, each as one step of the cluster, made by `sends`'
actors in their order. -/
def sendAll (n : Nat) (room : String) (sends : List (Actor × Server.SendBody)) :
    ClusterM (List (Except ServiceError Message)) :=
  sends.mapM fun s => chatSend n s.1 room s.2.content s.2.receiver s.2.kind

section Run

variable {n : Nat} {room : String} {expiry : Nat}

/-- Sends one after another into `room`, at a node that keeps a recall cache
whose entries fit: the last send that succeeded leaves its message as the
room's latest; when none did, the store and the cache are as they were. -/
theorem sendAll_recall (sends : List (Actor × Server.SendBody)) :
    ∀ w : World, n < w.nodes.size → ((w.node n).recallAttached && (w.node n).chat.recallEnabled) = true →
      addSpan w.instant (w.node n).chat.recallTtl = some expiry →
      let run := (sendAll n room sends).run w
      KeepsClock w run.2 ∧ (run.2.node n).chat = (w.node n).chat ∧
        (run.2.node n).recallAttached = (w.node n).recallAttached ∧
        (∀ m, lastSent run.1 = some m → HoldsLatest run.2 n room expiry m) ∧
        (lastSent run.1 = none →
          (run.2.node n).store = (w.node n).store ∧ (run.2.node n).recallCache = (w.node n).recallCache) := by
  induction sends with
  | nil =>
    intro w _ _ _ run
    refine ⟨KeepsClock.refl w, rfl, rfl, fun m absent => ?_, fun _ => ⟨rfl, rfl⟩⟩
    cases absent
  | cons s rest inductionHypothesis =>
    intro w present on fits run
    obtain ⟨keeps, sameChat, sameAttached, failed, stored⟩ :=
      chatSend_recall s.1 room s.2.content s.2.receiver s.2.kind present on fits
    -- the first send, then the rest from where it left the cluster
    set first := (chatSend n s.1 room s.2.content s.2.receiver s.2.kind).run w
    obtain ⟨keepsRest, chatRest, attachedRest, latestRest, quietRest⟩ :=
      inductionHypothesis first.2 (keeps.2 ▸ present) (by rw [sameAttached, sameChat]; exact on)
        (by rw [keeps.instant, sameChat]; exact fits)
    set later := (sendAll n room rest).run first.2
    have runEq : run = (first.1 :: later.1, later.2) := mapM_run_cons _ s rest w
    refine ⟨?_, ?_, ?_, fun m last => ?_, fun nothing => ?_⟩
    · rw [runEq]
      exact keeps.trans keepsRest
    · rw [runEq]
      exact chatRest.trans sameChat
    · rw [runEq]
      exact attachedRest.trans sameAttached
    · rw [runEq, lastSent_cons] at last
      rw [runEq]
      cases laterLast : lastSent later.1 with
      | some m' =>
        rw [laterLast, Option.some_or] at last
        cases last
        exact latestRest _ laterLast
      | none =>
        -- no later send succeeded: the first did, and the rest left its message in place
        rw [laterLast, Option.none_or] at last
        obtain ⟨quietStore, quietCache⟩ := quietRest laterLast
        cases answer : first.1 with
        | error e => rw [answer] at last; cases last
        | ok m' =>
          rw [answer] at last
          cases last
          exact (stored _ answer).of_same quietStore quietCache
    · rw [runEq, lastSent_cons] at nothing
      cases laterLast : lastSent later.1 with
      | some m => rw [laterLast, Option.some_or] at nothing; cases nothing
      | none =>
        -- no send succeeded, the first one included
        rw [laterLast, Option.none_or] at nothing
        obtain ⟨quietStore, quietCache⟩ := quietRest laterLast
        cases answer : first.1 with
        | ok m => rw [answer] at nothing; cases nothing
        | error e =>
          obtain ⟨firstStore, firstCache⟩ := failed e answer
          rw [runEq]
          exact ⟨quietStore.trans firstStore, quietCache.trans firstCache⟩

end Run

theorem chatRecall_of_entry {w : World} {n : Nat} {room : String} {value : ByteArray} {expiry : Nat}
    (on : ((w.node n).recallAttached && (w.node n).chat.recallEnabled) = true)
    (found : (w.node n).recallCache.entries.find? (·.1 == recallKey room) = some (recallKey room, value, expiry))
    (live : w.instant < expiry) :
    ((chatRecall n room).run w).1 = decodeMessage value := by
  unfold chatRecall recallOn recallGet
  simp only [StateT.run_bind, StateT.run_get, StateT.run_pure, id_pure, id_bind, on, Bool.not_true,
    Bool.false_eq_true, if_false]
  rw [RecallCache.get_of_find? found live]
  rfl

theorem addSpan_some {now : Nat} {d : Span} {expiry : Nat} (fits : addSpan now d = some expiry) :
    expiry = now + d.toNanos := by
  unfold addSpan at fits
  dsimp only at fits
  split at fits
  · cases fits
  · exact (Option.some.inj fits).symm

/-- A session joining a room is primed with the message a recall of the room
gives, and its join leaves the cluster as the recall left it. -/
theorem joinFrames_run_of_recall {w : World} {n : Nat} {room : String} {m : Message} {ctx : SessionContext}
    (joining : ctx.topic = .room room) (recalled : ((chatRecall n room).run w).1 = some m) :
    (joinFrames n .chat ctx).run w = ([.deliver (.message m)], ((chatRecall n room).run w).2) := by
  unfold joinFrames
  rw [joining]
  simp only [StateT.run_bind]
  -- the frames are read off the recalled message, whatever the recall left
  generalize (chatRecall n room).run w = recalling at recalled ⊢
  obtain ⟨answer, after⟩ := recalling
  dsimp only at recalled
  subst recalled
  rfl

theorem joinFrames_of_recall {w : World} {n : Nat} {room : String} {m : Message} {ctx : SessionContext}
    (joining : ctx.topic = .room room) (recalled : ((chatRecall n room).run w).1 = some m) :
    ((joinFrames n .chat ctx).run w).1 = [.deliver (.message m)] := by
  rw [joinFrames_run_of_recall joining recalled]

theorem listMessages_last {s : MemoryStore} {room : String} {older : List Message} {m : Message}
    (rows : s.roomMessages room = older ++ [m]) : s.listMessages room none 1 = [m] := by
  simp [MemoryStore.listMessages, page, rows]

/-- Sends into a room, one after another in any order, at a node that keeps a
recall cache whose entry fits its clock: once they are done, the message of
the last send that succeeded is the room's last row, and a recall made
before its time to live has passed, with nothing else having happened,
gives it back, as does the frame a session joining the room is primed with. -/
theorem recall_after_sends_gives_latest (w : World) (n : Nat) (present : n < w.nodes.size) (room : String)
    (sends : List (Actor × Server.SendBody))
    (on : ((w.node n).recallAttached && (w.node n).chat.recallEnabled) = true)
    (fits : addSpan w.instant (w.node n).chat.recallTtl ≠ none)
    (elapsed : Nat) (fresh : elapsed * 1000000 < (w.node n).chat.recallTtl.toNanos)
    (ctx : SessionContext) (joining : ctx.topic = .room room) :
    let run := (sendAll n room sends).run w
    let later : World := { run.2 with clock := run.2.clock + elapsed }
    ∀ m, lastSent run.1 = some m → m.Representable →
      (run.2.node n).store.listMessages room none 1 = [m] ∧
      ((chatRecall n room).run later).1 = some m ∧
      ((joinFrames n .chat ctx).run later).1 = [.deliver (.message m)] := by
  intro run later m last representable
  obtain ⟨expiry, fitsAt⟩ := Option.ne_none_iff_exists'.mp fits
  obtain ⟨keeps, sameChat, sameAttached, latest, -⟩ := sendAll_recall sends w present on fitsAt
  obtain ⟨⟨older, rows⟩, entry⟩ := latest m last
  -- the entry was put in at the clock the run started and ended with
  have live : later.instant < expiry := by
    rw [addSpan_some fitsAt]
    have ended : run.2.clock = w.clock := keeps.1
    simp only [later, World.instant, ended] at fresh ⊢
    omega
  have laterOn : ((later.node n).recallAttached && (later.node n).chat.recallEnabled) = true := by
    show ((run.2.node n).recallAttached && (run.2.node n).chat.recallEnabled) = true
    rw [sameAttached, sameChat]
    exact on
  have recalled : ((chatRecall n room).run later).1 = some m := by
    rw [chatRecall_of_entry laterOn entry live, decodeMessage, Message.ofBytes_messageText m representable]
    rfl
  exact ⟨listMessages_last rows, recalled, joinFrames_of_recall joining recalled⟩

end Herald.Cluster
