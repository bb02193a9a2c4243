import Herald.Proofs.Broadcast
import Herald.Proofs.StoreRuns

set_option autoImplicit false

/-!
# Sending a chat message

A send is checked before anything happens, in a fixed order: the room
identifier, the content (not blank, not too long), the receiver identifier
when there is one, the type tag (`text` when none is given), the sender's
right to post there, and the content being non-empty once its markup is
stripped.  The first check that fails is the answer, and the cluster is left
as it was (`sendChecks`, `firstFailure`).

A send that passes draws a fresh identifier and a time stamp, and offers the
message to the node's store.  A store that is down or already holds the
identifier in that room refuses it, and nothing but the two counters has
moved.  A stored message is then remembered as the room's latest (when the
node keeps a recall cache and the cache can hold an entry that long), offered
once to every registration on the room's topic, and handed once to every
backplane transport of the node, wrapped in an envelope that names the node
(when the envelope encodes).

The recall cache counts expiry instants in nanoseconds whose seconds must fit
a signed 64-bit count; a time to live that carries the expiry past that bound
leaves the cache as it was, and the send still succeeds
(`chatSend_overlong_recall_ttl`).
-/

namespace Herald.RecallCache

/-- Setting a key either fails, because the expiry does not fit the cache's
clock, or keeps every other key and puts the new entry last. -/
theorem toOption_set (c : RecallCache) (now : Nat) (key : String) (value : ByteArray) (ttl : Span) :
    (c.set now key value ttl).toOption =
      (addSpan now ttl).map fun expiry =>
        { entries := c.entries.filter (·.1 != key) ++ [(key, value, expiry)] } := by
  unfold set
  cases addSpan now ttl <;> rfl

end Herald.RecallCache

namespace Herald.Cluster

/-! ## Counters, the store and the recall cache -/

section Steps

variable (n : Nat) (w : World)

theorem freshUuid_run :
    freshUuid.run w = (⟨0xe3b0c442_98fc_4c14_9afb_f4c800000000 + (w.uuidCount + 1)⟩,
      { w with uuidCount := w.uuidCount + 1 }) := rfl

theorem readClock_run :
    readClock.run w = ({ w with wallTicks := w.wallTicks + 1 }.wallNow,
      { w with wallTicks := w.wallTicks + 1 }) := rfl

theorem serviceStore_run :
    (serviceStore n).run w =
      (if (w.node n).storeDown then .error (.store (.unavailable "connection refused"))
       else .ok (w.node n).store, w) := rfl

theorem setStore_run (store : MemoryStore) :
    (setStore n store).run w =
      ((), { w with nodes := w.nodes.modify n fun nd => { nd with store } }) := rfl

/-- The cache a node's chat service keeps after remembering a message, or
`none` when it keeps none or cannot hold this entry. -/
def remembered (w : World) (n : Nat) (m : Message) : Option RecallCache :=
  let nd := w.node n
  if nd.recallAttached && nd.chat.recallEnabled then
    (nd.recallCache.set w.instant (recallKey m.roomId) (messageText m).toUTF8
      nd.chat.recallTtl).toOption
  else none

theorem remember_run (m : Message) :
    (remember n m).run w =
      ((), match remembered w n m with
        | some c => { w with nodes := w.nodes.modify n fun nd => { nd with recallCache := c } }
        | none => w) := by
  unfold remember recallOn remembered
  simp only [StateT.run_bind, StateT.run_get, StateT.run_pure, id_pure, id_bind]
  -- the two branches are closed by rewriting, not by unfolding: the kernel
  -- is slow to compare the cache update under a generic bind
  cases keeping : ((w.node n).recallAttached && (w.node n).chat.recallEnabled) with
  | true =>
    simp only [Bool.not_true, Bool.false_eq_true, if_false]
    rw [run_get_bind]
    split
    next c stored =>
      rw [if_pos trivial, stored]
      rfl
    next e refused =>
      rw [if_pos trivial, refused]
      rfl
  | false =>
    simp only [Bool.not_false, if_true, StateT.run_pure]
    exact congrArg _ rfl

/-- The cache keeps the message's text under the room's key, expiring a time
to live from now, when the node keeps a recall cache and the expiry fits the
cache's clock. -/
theorem remembered_eq (m : Message) :
    remembered w n m =
      if ((w.node n).recallAttached && (w.node n).chat.recallEnabled) = true then
        (addSpan w.instant (w.node n).chat.recallTtl).map fun expiry =>
          { entries := (w.node n).recallCache.entries.filter (·.1 != recallKey m.roomId) ++
              [(recallKey m.roomId, (messageText m).toUTF8, expiry)] }
      else none := by
  unfold remembered
  dsimp only
  split
  · exact RecallCache.toOption_set ..
  · rfl

end Steps

/-! ## Handing an event to the backplane -/

/-- The transports after a payload was published on each named transport in
turn. -/
def publishAll (ts : Transports) (names : List String) (subject : String) (p : ByteArray) :
    Transports :=
  names.foldl (fun ts name => (ts.publish name subject p).1) ts

theorem publishPayload_run (name subject : String) (p : ByteArray) (w : World) :
    (publishPayload name subject p).run w =
      ((w.transports.publish name subject p).2.result,
       { w with transports := (w.transports.publish name subject p).1,
                runQueue := ((publishPayload name subject p).run w).2.runQueue }) := by
  unfold publishPayload
  simp only [StateT.run_bind, StateT.run_get, pure_bind, StateT.run_modify]
  generalize w.transports.publish name subject p = published
  obtain ⟨ts, pub⟩ := published
  dsimp only
  -- waking the readers of the touched streams moves only the run queue
  have waking := QueueOnly.of_forIn pub.touched PUnit.unit
    (fun s _ => (do wakeStreamReaders s; pure (ForInStep.yield PUnit.unit) : ClusterM _))
    fun s _ => QueueOnly.of_bind (QueueOnly.of_wakeStreamReaders s) fun _ => QueueOnly.of_pure _
  simp only [id_bind, StateT.run_pure, id_pure]
  rw [waking { w with transports := ts }]

/-- A loop that publishes one payload on each transport in turn, whatever
else it keeps, leaves the transports as `publishAll` does. -/
theorem forIn_publish {β : Type} (subject : String) (p : ByteArray)
    (f : String → β → ClusterM (ForInStep β))
    (body : ∀ name acc w, ∃ acc', (f name acc).run w =
      (.yield acc', { w with transports := (w.transports.publish name subject p).1,
                             runQueue := ((f name acc).run w).2.runQueue }))
    (names : List String) (acc : β) (w : World) :
    ((forIn names acc f).run w).2 =
      { w with transports := publishAll w.transports names subject p,
               runQueue := ((forIn names acc f).run w).2.runQueue } := by
  induction names generalizing acc w with
  | nil => rfl
  | cons name rest inductionHypothesis =>
      obtain ⟨acc', step⟩ := body name acc w
      rw [List.forIn_cons, StateT.run_bind, step, id_bind]
      dsimp only
      rw [inductionHypothesis]
      rfl

/-- The envelope a node wraps an event in, sent at `sentAt`. -/
def envelopeOf (nd : Node) (e : Event) (sentAt : Timestamp) : Envelope :=
  { source := nd.source, payload := e, sentAt }

/-- Replicating an event: a node with no transport does nothing; otherwise it
reads the clock, and an envelope that encodes is handed once to each of its
transports in order. -/
theorem publishEvent_after (n : Nat) (e : Event) (w : World) :
    ((publishEvent n e).run w).2 =
      if (w.node n).transports.isEmpty then w
      else
        let ticked := { w with wallTicks := w.wallTicks + 1 }
        match (envelopeOf (w.node n) e ticked.wallNow).encode with
        | .error _ => ticked
        | .ok text =>
          { ticked with
            transports := publishAll w.transports (w.node n).transports
              (w.node n).backplane.subject text.toUTF8,
            runQueue := ((publishEvent n e).run w).2.runQueue } := by
  unfold publishEvent
  simp only [StateT.run_bind, StateT.run_get, pure_bind]
  split
  · rfl
  · simp only [StateT.run_bind, readClock_run, id_bind]
    split
    · next refused encoded =>
        simp only [envelopeOf, encoded]
        rfl
    · next text encoded =>
        simp only [envelopeOf, encoded]
        simp only [StateT.run_bind, id_bind]
        rw [forIn_publish (w.node n).backplane.subject text.toUTF8]
        · rfl
        · intro name acc w'
          simp only [StateT.run_bind, StateT.run_get, id_pure, id_bind]
          rw [publishPayload_run]
          dsimp only
          split
          · exact ⟨_, rfl⟩
          · split <;> exact ⟨_, rfl⟩

/-- What replicating an event leaves of the transports: nothing changes for a
node without transports or for an envelope that does not encode; otherwise
the envelope is handed once to each of the node's transports, in order. -/
def replicated (nd : Node) (e : Event) (sentAt : Timestamp) (ts : Transports) : Transports :=
  if nd.transports.isEmpty then ts
  else
    match (envelopeOf nd e sentAt).encode with
    | .error _ => ts
    | .ok text => publishAll ts nd.transports nd.backplane.subject text.toUTF8

theorem transports_publishEvent (n : Nat) (e : Event) (w : World) :
    ((publishEvent n e).run w).2.transports =
      replicated (w.node n) e { w with wallTicks := w.wallTicks + 1 }.wallNow w.transports := by
  rw [publishEvent_after]
  unfold replicated
  split
  · rfl
  · dsimp only
    split <;> rfl

theorem nodes_publishEvent (n : Nat) (e : Event) (w : World) :
    ((publishEvent n e).run w).2.nodes = w.nodes ∧
      ((publishEvent n e).run w).2.eventChannels = w.eventChannels := by
  rw [publishEvent_after]
  split
  · exact ⟨rfl, rfl⟩
  · dsimp only
    split <;> exact ⟨rfl, rfl⟩

/-- Storing and then remembering a message changes the node's store and, when
the cache takes the entry, its recall cache; nothing else. -/
theorem remember_after_setStore {n : Nat} {w : World} (present : n < w.nodes.size)
    (m : Message) (store : MemoryStore) :
    let after := ((remember n m).run ((setStore n store).run w).2).2
    after.node n =
        { w.node n with store, recallCache := (remembered w n m).getD (w.node n).recallCache } ∧
      after.nodes.size = w.nodes.size ∧ after.eventChannels = w.eventChannels ∧
      after.transports = w.transports ∧ after.wallTicks = w.wallTicks := by
  intro after
  have stored : ((setStore n store).run w).2.node n = { w.node n with store } :=
    (getD_modify w.nodes default n n _).trans (if_pos ⟨rfl, present⟩)
  -- the cache reads the same node fields and clock before and after the store
  have sameCache : remembered ((setStore n store).run w).2 n m = remembered w n m := by
    simp only [remembered, stored]
    rfl
  have sizeKept : ((setStore n store).run w).2.nodes.size = w.nodes.size := Array.size_modify ..
  simp only [after, remember_run, sameCache]
  cases remembered w n m with
  | none => exact ⟨stored, sizeKept, rfl, rfl, rfl⟩
  | some c =>
    refine ⟨?_, (Array.size_modify ..).trans sizeKept, rfl, rfl, rfl⟩
    refine (getD_modify _ default n n _).trans ?_
    rw [if_pos ⟨rfl, sizeKept ▸ present⟩]
    exact congrArg (fun nd : Node => { nd with recallCache := c }) stored

/-! ## Fanning a stored event out -/

/-- Fanning out is the broadcast, then the replication from where the
broadcast left the cluster. -/
theorem fanOut_run (n : Nat) (e : Event) (w : World) :
    ((fanOut n e).run w).2 = ((publishEvent n e).run ((broadcast n e.topic e).run w).2).2 := by
  simp only [fanOut, StateT.run_bind, id_bind]
  rfl

/-- Fanning out offers the event once to every registration on its topic,
counts the full channels as drops, and replicates it. -/
theorem fanOut_after {n : Nat} {w : World} (present : n < w.nodes.size) (e : Event) :
    let offered := offerAll e (((w.node n).hub.entries e.topic).map (·.2)) w.eventChannels
    let after := ((fanOut n e).run w).2
    after.eventChannels = offered.1 ∧
      after.node n = (w.node n).addDropped offered.2.2 ∧
      after.transports =
        replicated (w.node n) e { w with wallTicks := w.wallTicks + 1 }.wallNow w.transports := by
  intro offered after
  have broadcasted := congrArg Prod.snd (broadcast_run n e.topic e w)
  -- the world between the broadcast and the replication
  generalize middle : ((broadcast n e.topic e).run w).2 = between at broadcasted
  have fanned : after = ((publishEvent n e).run between).2 := middle ▸ fanOut_run n e w
  have untouched := nodes_publishEvent n e between
  have nodeBetween : between.node n = (w.node n).addDropped offered.2.2 := by
    rw [broadcasted]
    exact (getD_modify w.nodes default n n _).trans (if_pos ⟨rfl, present⟩)
  refine ⟨?_, ?_, ?_⟩
  · rw [fanned, untouched.2, broadcasted]
  · rw [fanned, World.node, untouched.1, ← World.node, nodeBetween]
  · rw [fanned, transports_publishEvent, nodeBetween, broadcasted]
    rfl

/-- The node once a stored message is remembered and fanned out: the store
and the recall cache the two steps left, and the drops of the fan-out
counted. -/
theorem storedNode_eq {n : Nat} {w : World} (present : n < w.nodes.size) (m : Message)
    (store : MemoryStore) :
    ((fanOut n (.message m)).run ((remember n m).run ((setStore n store).run w).2).2).2.node n =
      Node.addDropped
        (offerAll (.message m) (((w.node n).hub.entries (.room m.roomId)).map (·.2)) w.eventChannels).2.2
        { w.node n with store, recallCache := (remembered w n m).getD (w.node n).recallCache } := by
  obtain ⟨remembering, sizeKept, channelsKept, -, -⟩ := remember_after_setStore present m store
  obtain ⟨-, fanNode, -⟩ := fanOut_after (sizeKept ▸ present) (Event.message m)
  rw [fanNode, remembering, channelsKept]
  rfl

/-- With recall on and an expiry that fits, the cache remembers the message's
text under its room's key, after the entries of every other key. -/
theorem remembered_of_fits {n : Nat} {w : World} (m : Message) {expiry : Nat}
    (on : ((w.node n).recallAttached && (w.node n).chat.recallEnabled) = true)
    (fits : addSpan w.instant (w.node n).chat.recallTtl = some expiry) :
    remembered w n m =
      some { entries := (w.node n).recallCache.entries.filter (·.1 != recallKey m.roomId) ++
        [(recallKey m.roomId, (messageText m).toUTF8, expiry)] } := by
  rw [remembered_eq, if_pos on, fits]
  rfl

/-! ## The checks, then the store -/

/-- The checks a send makes, in the order it makes them, each passed or
failed with its error. -/
def sendChecks (cfg : ChatConfig) (actor : Actor) (room content : String)
    (receiver kind : Option String) : List (Except ServiceError Unit) :=
  [validateId "room_id" room,
   validateContent content cfg.maxContentLength,
   (match receiver with
    | some r => validateId "receiver_id" r
    | none => .ok ()),
   validateKind (kind.getD defaultMessageKind),
   if actor.canPost room receiver then .ok ()
   else .error (.forbidden s!"{actor.id} may not post to room {room}"),
   if (Markup.stripMarkup content).isEmpty then .error .emptyContent else .ok ()]

/-- The error of the first check that fails. -/
def firstFailure {ε : Type} : List (Except ε Unit) → Option ε
  | [] => none
  | .ok () :: rest => firstFailure rest
  | .error e :: _ => some e

/-- The world once a send has drawn its identifier and read the clock. -/
def World.stamped (w : World) : World :=
  { w with uuidCount := w.uuidCount + 1, wallTicks := w.wallTicks + 1 }

@[simp]
theorem World.node_stamped (w : World) (n : Nat) : w.stamped.node n = w.node n := rfl

@[simp]
theorem World.instant_stamped (w : World) : w.stamped.instant = w.instant := rfl

/-- The message a send that passes its checks builds in the world `w` it
started from; its identifier and time come from the cluster's counters. -/
def sentMessage (w : World) (actor : Actor) (room content : String)
    (receiver kind : Option String) : Message :=
  { id := (freshUuid.run w).1, senderId := actor.id, receiverId := receiver, roomId := room,
    content := Markup.stripMarkup content, kind := kind.getD defaultMessageKind,
    createdAt := (readClock.run (freshUuid.run w).2).1 }

/-- What a send does once its checks pass and its message is built. -/
def storeSent (n : Nat) (m : Message) : ClusterM (Except ServiceError Message) := do
  match ← serviceStore n with
  | .error e => return .error e
  | .ok store =>
    match store.createMessage m with
    | .error e => return .error (.ofStore e)
    | .ok (store, _) =>
      setStore n store
      remember n m
      fanOut n (.message m)
      return .ok m

/-- A send answers the first failing check and changes nothing; when every
check passes it stamps the message and goes on to the store. -/
theorem chatSend_run (n : Nat) (actor : Actor) (room content : String)
    (receiver kind : Option String) (w : World) :
    (chatSend n actor room content receiver kind).run w =
      match firstFailure (sendChecks (w.node n).chat actor room content receiver kind) with
      | some e => (.error e, w)
      | none => (storeSent n (sentMessage w actor room content receiver kind)).run w.stamped := by
  unfold chatSend sendChecks
  simp only [StateT.run_bind, StateT.run_get, id_pure, id_bind]
  -- one case per check, in the order the send makes them
  cases validateId "room_id" room with
  | error e => rfl
  | ok _ =>
    cases validateContent content (w.node n).chat.maxContentLength with
    | error e => rfl
    | ok _ =>
      cases receiver with
      | some r =>
        dsimp only
        cases validateId "receiver_id" r with
        | error e => rfl
        | ok _ =>
          cases validateKind (kind.getD defaultMessageKind) with
          | error e => rfl
          | ok _ =>
            cases actor.canPost room (some r) with
            | false => rfl
            | true =>
              cases (Markup.stripMarkup content).isEmpty with
              | true => rfl
              | false => rfl
      | none =>
        dsimp only
        cases validateKind (kind.getD defaultMessageKind) with
        | error e => rfl
        | ok _ =>
          cases actor.canPost room none with
          | false => rfl
          | true =>
            cases (Markup.stripMarkup content).isEmpty with
            | true => rfl
            | false => rfl

/-- What the node's store answers a message: the store holding it, or why it
refused it. -/
def storeVerdict (nd : Node) (m : Message) : Except ServiceError MemoryStore :=
  if nd.storeDown then .error (.store (.unavailable "connection refused"))
  else
    match nd.store.createMessage m with
    | .error e => .error (.ofStore e)
    | .ok (store, _) => .ok store

/-- A refused message changes nothing; a stored one is remembered and fanned
out. -/
theorem storeSent_run (n : Nat) (m : Message) (w : World) :
    (storeSent n m).run w =
      match storeVerdict (w.node n) m with
      | .error e => (.error e, w)
      | .ok store =>
        (.ok m, ((fanOut n (.message m)).run ((remember n m).run ((setStore n store).run w).2).2).2) := by
  unfold storeSent storeVerdict
  simp only [StateT.run_bind, serviceStore_run, id_bind]
  by_cases down : (w.node n).storeDown = true
  · simp only [down, if_true]
    rfl
  · simp only [down, Bool.false_eq_true, if_false]
    cases (w.node n).store.createMessage m with
    | error e => rfl
    | ok stored =>
      obtain ⟨store, _⟩ := stored
      simp only [StateT.run_bind, StateT.run_pure, id_pure, id_bind]

theorem createMessage_of_storeVerdict {nd : Node} {m : Message} {store : MemoryStore}
    (stored : storeVerdict nd m = .ok store) : ∃ id, nd.store.createMessage m = .ok (store, id) := by
  unfold storeVerdict at stored
  split at stored
  · cases stored
  · split at stored
    · cases stored
    · next id created =>
        cases stored
        exact ⟨id, created⟩

/-! ## What a send does -/

/-- A chat send, from any world where its node exists.  It fails with the
first failing check and leaves the cluster as it was.  Past the checks, a
store that refuses the message leaves everything but the two counters as it
was.  A stored message is the answer, with the sanitized content, the
sender, the room, the type tag and the receiver asked for; it is the last row
of its room in the store, the other rows and the notifications unchanged; it
is the room's recall entry, expiring a time to live from now, when the node
keeps a recall cache and the expiry fits the cache's clock, and the cache is
unchanged otherwise; it is offered once to every registration on the room's
topic; and it is handed once to each of the node's transports, in an envelope
naming the node, when the envelope encodes. -/
theorem chatSend_outcome (n : Nat) (actor : Actor) (room content : String)
    (receiver kind : Option String) (w : World) (present : n < w.nodes.size) :
    let nd := w.node n
    let checks := sendChecks nd.chat actor room content receiver kind
    let m := sentMessage w actor room content receiver kind
    let sent := (chatSend n actor room content receiver kind).run w
    (∀ e, firstFailure checks = some e → sent = (.error e, w)) ∧
    (firstFailure checks = none →
      (∀ e, storeVerdict nd m = .error e → sent = (.error e, w.stamped)) ∧
      (∀ store, storeVerdict nd m = .ok store →
        sent.1 = .ok m ∧
        m.content = Markup.stripMarkup content ∧ m.senderId = actor.id ∧ m.roomId = room ∧
        m.kind = kind.getD defaultMessageKind ∧ m.receiverId = receiver ∧
        (∀ r, (sent.2.node n).store.roomMessages r =
          if r = room then nd.store.roomMessages r ++ [m] else nd.store.roomMessages r) ∧
        (sent.2.node n).store.notifications = nd.store.notifications ∧
        (∀ expiry, (nd.recallAttached && nd.chat.recallEnabled) = true →
          addSpan w.instant nd.chat.recallTtl = some expiry →
          (sent.2.node n).recallCache.entries =
            nd.recallCache.entries.filter (·.1 != recallKey room) ++
              [(recallKey room, (messageText m).toUTF8, expiry)]) ∧
        ((nd.recallAttached && nd.chat.recallEnabled) = false ∨
            addSpan w.instant nd.chat.recallTtl = none →
          (sent.2.node n).recallCache = nd.recallCache) ∧
        sent.2.eventChannels =
          (offerAll (.message m) ((nd.hub.entries (.room room)).map (·.2)) w.eventChannels).1 ∧
        sent.2.transports =
          replicated nd (.message m) { w with wallTicks := w.wallTicks + 2 }.wallNow
            w.transports)) := by
  intro nd checks m sent
  have run : sent = _ := chatSend_run n actor room content receiver kind w
  refine ⟨fun e failed => ?_, fun passed => ⟨fun e refused => ?_, fun store stored => ?_⟩⟩
  · rw [run, show firstFailure (sendChecks (w.node n).chat actor room content receiver kind) =
      some e from failed]
  · rw [run, show firstFailure (sendChecks (w.node n).chat actor room content receiver kind) =
      none from passed, storeSent_run, show storeVerdict (w.stamped.node n) m = .error e from refused]
  · -- the world after storing and remembering, then after fanning out
    have stampedPresent : n < w.stamped.nodes.size := present
    obtain ⟨remembering, sizeKept, channelsKept, transportsKept, ticksKept⟩ :=
      remember_after_setStore stampedPresent m store
    obtain ⟨fanChannels, fanNode, fanTransports⟩ :=
      fanOut_after (sizeKept ▸ stampedPresent) (Event.message m)
    have answered : sent = (.ok m, ((fanOut n (.message m)).run ((remember n m).run
        ((setStore n store).run w.stamped).2).2).2) := by
      rw [run, show firstFailure (sendChecks (w.node n).chat actor room content receiver kind) =
        none from passed, storeSent_run, show storeVerdict (w.stamped.node n) m = .ok store from stored]
    have finalNode : sent.2.node n =
        Node.addDropped
          (offerAll (.message m) ((nd.hub.entries (.room room)).map (·.2)) w.eventChannels).2.2
          { nd with store, recallCache := (remembered w.stamped n m).getD nd.recallCache } := by
      rw [answered, fanNode, remembering, channelsKept]
      rfl
    obtain ⟨id, created⟩ := createMessage_of_storeVerdict stored
    refine ⟨by rw [answered], rfl, rfl, rfl, rfl, rfl, fun r => ?_, ?_, fun expiry on fits => ?_,
      fun off => ?_, ?_, ?_⟩
    · rw [finalNode]
      exact MemoryStore.roomMessages_createMessage created r
    · rw [finalNode]
      exact MemoryStore.notifications_createMessage created
    · rw [finalNode]
      simp only [nd] at on fits ⊢
      simp only [Node.addDropped, remembered_eq, World.node_stamped, World.instant_stamped, on,
        fits, if_true, Option.map_some, Option.getD_some]
      rfl
    · rw [finalNode]
      simp only [nd] at off ⊢
      simp only [Node.addDropped, remembered_eq, World.node_stamped, World.instant_stamped]
      rcases off with off | overflow
      · simp only [off, Bool.false_eq_true, if_false, Option.getD_none]
      · simp only [overflow, Option.map_none, ite_self, Option.getD_none]
    · rw [answered, fanChannels, remembering, channelsKept]
      rfl
    · rw [answered, fanTransports, remembering, transportsKept, ticksKept]
      rfl

/-- The law at a one-node cluster in its first state: an administrator posts
`hello` into a room. -/
theorem admin_hello_outcome :
    0 < ({ nodes := #[{}] } : World).nodes.size ∧
      let w : World := { nodes := #[{}] }
      let actor : Actor := { id := "alice", role := .admin }
      let nd := w.node 0
      let checks := sendChecks nd.chat actor "r1" "hello" none none
      let m := sentMessage w actor "r1" "hello" none none
      let sent := (chatSend 0 actor "r1" "hello" none none).run w
      (∀ e, firstFailure checks = some e → sent = (.error e, w)) ∧
      (firstFailure checks = none →
        (∀ e, storeVerdict nd m = .error e → sent = (.error e, w.stamped)) ∧
        (∀ store, storeVerdict nd m = .ok store →
          sent.1 = .ok m ∧
          m.content = Markup.stripMarkup "hello" ∧ m.senderId = actor.id ∧ m.roomId = "r1" ∧
          m.kind = (none : Option String).getD defaultMessageKind ∧ m.receiverId = none ∧
          (∀ r, (sent.2.node 0).store.roomMessages r =
            if r = "r1" then nd.store.roomMessages r ++ [m] else nd.store.roomMessages r) ∧
          (sent.2.node 0).store.notifications = nd.store.notifications ∧
          (∀ expiry, (nd.recallAttached && nd.chat.recallEnabled) = true →
            addSpan w.instant nd.chat.recallTtl = some expiry →
            (sent.2.node 0).recallCache.entries =
              nd.recallCache.entries.filter (·.1 != recallKey "r1") ++
                [(recallKey "r1", (messageText m).toUTF8, expiry)]) ∧
          ((nd.recallAttached && nd.chat.recallEnabled) = false ∨
              addSpan w.instant nd.chat.recallTtl = none →
            (sent.2.node 0).recallCache = nd.recallCache) ∧
          sent.2.eventChannels =
            (offerAll (.message m) ((nd.hub.entries (.room "r1")).map (·.2)) w.eventChannels).1 ∧
          sent.2.transports =
            replicated nd (.message m) { w with wallTicks := w.wallTicks + 2 }.wallNow
              w.transports)) :=
  ⟨by decide, chatSend_outcome 0 _ "r1" "hello" none none _ (by decide)⟩

/-- A time to live that carries the expiry past the cache's clock: the send
succeeds, with recall on, and the room has no recall entry. -/
theorem chatSend_overlong_recall_ttl :
    let w : World := { nodes := #[{ chat := { recallTtl := ⟨18446744073709551615, 0⟩ } }] }
    let actor : Actor := { id := "alice", role := .admin }
    let sent := (chatSend 0 actor "r1" "hello" none none).run w
    ((w.node 0).recallAttached && (w.node 0).chat.recallEnabled) = true ∧
      sent.1.toOption = some (sentMessage w actor "r1" "hello" none none) ∧
      (sent.2.node 0).recallCache.entries = [] := by
  intro w actor sent
  refine ⟨rfl, ?_, ?_⟩
  · decide +kernel
  · decide +kernel

end Herald.Cluster
