import Herald.Proofs.BackplaneReplication

set_option autoImplicit false

/-!
# What a session's two tasks can do

A session's reader and writer share a view of the cluster (`SessionView`):
where each of them stands, the reply channel between them, and the events
queued on the session's hub channel. This module says once what a turn of
either task does to that view, as a step of `SessionStep`, together with
what the turn shows (`SessionLabel`): the join frames, each frame read with
the service's answer, the events the service queues meanwhile, and each
write to the client (`readerTurn_step`, `writerTurn_step`).

The rest of the cluster touches the view only by adding events to the hub
channel: the services keep every session as it is (`KeepsSessions`), and a
session's close keeps where its tasks stand (`KeepsView.of_closeSession`).
-/

namespace Herald.Cluster

/-! ## What the services leave of the sessions -/

/-- `ec'` is `ec` with events added at the back of its channel, and nothing
else changed. -/
def EventChannel.Extends (ec ec' : EventChannel) : Prop :=
  ∃ more, ec' = { ec with channel := { ec.channel with items := ec.channel.items ++ more } }

theorem EventChannel.Extends.refl (ec : EventChannel) : ec.Extends ec :=
  ⟨[], by simp⟩

theorem EventChannel.Extends.trans {ec ec' ec'' : EventChannel} (first : ec.Extends ec')
    (second : ec'.Extends ec'') : ec.Extends ec'' := by
  obtain ⟨more, rfl⟩ := first
  obtain ⟨later, rfl⟩ := second
  exact ⟨more ++ later, by simp⟩

theorem EventChannel.extends_offer (e : Event) (ec : EventChannel) : ec.Extends (ec.offer e) := by
  unfold EventChannel.offer Channel.trySend
  split
  · next sent =>
      split at sent
      · cases sent
      · split at sent
        · cases sent
          exact ⟨[e], rfl⟩
        · cases sent
  · exact .refl ec

/-- `w'` holds the sessions of `w`, and its event channels with events added
at their backs. -/
structure Grown (w w' : World) : Prop where
  sessions : w'.sessions = w.sessions
  channels : ∀ ch, (w.eventChannels.getD ch default).Extends (w'.eventChannels.getD ch default)

theorem Grown.refl (w : World) : Grown w w := ⟨rfl, fun _ => .refl _⟩

theorem Grown.trans {w w' w'' : World} (first : Grown w w') (second : Grown w' w'') : Grown w w'' :=
  ⟨second.sessions.trans first.sessions, fun ch => (first.channels ch).trans (second.channels ch)⟩

theorem extends_offerAll (e : Event) (chs : List Nat) (cs : Array EventChannel) (ch : Nat) :
    (cs.getD ch default).Extends ((offerAll e chs cs).1.getD ch default) := by
  induction chs generalizing cs with
  | nil => exact .refl _
  | cons first rest inductionHypothesis =>
      refine .trans ?_ (inductionHypothesis (offerOne e cs first).1)
      rw [getD_offerOne]
      split
      · next same =>
          rw [same.1]
          exact EventChannel.extends_offer e _
      · exact .refl _

/-- An action that leaves every session as it is and only adds events at the
back of event channels. -/
def KeepsSessions {α : Type} (x : ClusterM α) : Prop := ∀ w, Grown w (x.run w).2

namespace KeepsSessions

variable {α β γ : Type}

theorem of_pure (a : α) : KeepsSessions (pure a : ClusterM α) := fun w => .refl w

theorem of_get : KeepsSessions (get : ClusterM World) := fun w => .refl w

theorem of_bind {x : ClusterM α} {f : α → ClusterM β} (first : KeepsSessions x)
    (rest : ∀ a, KeepsSessions (f a)) : KeepsSessions (x >>= f) := fun w =>
  (first w).trans (rest (x.run w).1 (x.run w).2)

theorem of_queueOnly {x : ClusterM α} (only : QueueOnly x) : KeepsSessions x := fun w => by
  rw [only w]
  exact ⟨rfl, fun _ => .refl _⟩

/-- A change of the cluster that touches neither the sessions nor the event
channels. -/
theorem of_modify (f : World → World)
    (keeps : ∀ w, (f w).sessions = w.sessions ∧ (f w).eventChannels = w.eventChannels) :
    KeepsSessions (modify f) := fun w =>
  ⟨(keeps w).1, fun ch => by
    show (w.eventChannels.getD ch default).Extends ((f w).eventChannels.getD ch default)
    rw [(keeps w).2]
    exact .refl _⟩

theorem of_forIn (l : List γ) (init : β) (f : γ → β → ClusterM (ForInStep β))
    (body : ∀ a b, KeepsSessions (f a b)) : KeepsSessions (forIn l init f) := by
  induction l generalizing init with
  | nil => exact of_pure init
  | cons a rest inductionHypothesis =>
      rw [List.forIn_cons]
      refine of_bind (body a init) fun step => ?_
      cases step with
      | done b => exact of_pure b
      | yield b => exact inductionHypothesis b

theorem of_modifyNode (n : Nat) (f : Node → Node) : KeepsSessions (modifyNode n f) :=
  of_modify _ fun _ => ⟨rfl, rfl⟩

theorem of_broadcast (n : Nat) (t : Topic) (e : Event) : KeepsSessions (broadcast n t e) := fun w => by
  rw [broadcast_run]
  exact ⟨rfl, fun ch => extends_offerAll e _ _ ch⟩

theorem of_readClock : KeepsSessions readClock :=
  of_bind (of_modify _ fun _ => ⟨rfl, rfl⟩) fun _ => of_bind of_get fun _ => of_pure _

theorem of_freshUuid : KeepsSessions freshUuid :=
  of_bind (of_modify _ fun _ => ⟨rfl, rfl⟩) fun _ => of_bind of_get fun _ => of_pure _

theorem of_publishPayload (name subject : String) (p : ByteArray) :
    KeepsSessions (publishPayload name subject p) := by
  unfold publishPayload
  refine of_bind of_get fun w => ?_
  refine of_bind (of_modify _ fun _ => ⟨rfl, rfl⟩) fun _ => ?_
  exact of_bind (of_forIn _ _ _ fun s _ => of_bind (of_queueOnly (QueueOnly.of_wakeStreamReaders s))
    fun _ => of_pure _) fun _ => of_pure _

theorem of_publishEvent (n : Nat) (e : Event) : KeepsSessions (publishEvent n e) := by
  unfold publishEvent
  refine of_bind of_get fun w => ?_
  dsimp only
  split
  · exact of_pure _
  · refine of_bind of_readClock fun sentAt => ?_
    split
    · exact of_pure _
    · refine of_bind (of_forIn _ _ _ fun name first => ?_) fun _ => of_pure _
      refine of_bind of_get fun w' => of_bind (of_publishPayload _ _ _) fun answer => ?_
      split
      · exact of_pure _
      · split <;> exact of_pure _

theorem of_fanOut (n : Nat) (e : Event) : KeepsSessions (fanOut n e) :=
  of_bind (of_broadcast n e.topic e) fun _ => of_bind (of_publishEvent n e) fun _ => of_pure _

theorem of_serviceStore (n : Nat) : KeepsSessions (serviceStore n) :=
  of_bind of_get fun _ => of_pure _

theorem of_recallOn (n : Nat) : KeepsSessions (recallOn n) :=
  of_bind of_get fun _ => of_pure _

theorem of_remember (n : Nat) (m : Message) : KeepsSessions (remember n m) := by
  unfold remember
  refine of_bind (of_recallOn n) fun on => ?_
  split
  · exact of_pure _
  · refine of_bind of_get fun w => ?_
    dsimp only
    split
    · exact of_modifyNode _ _
    · exact of_pure _

theorem of_chatRecall (n : Nat) (room : String) : KeepsSessions (chatRecall n room) := by
  unfold chatRecall recallGet
  refine of_bind (of_recallOn n) fun on => ?_
  split
  · exact of_pure _
  · exact of_bind (of_bind of_get fun _ => of_bind (of_modifyNode _ _) fun _ => of_pure _) fun _ => of_pure _

theorem of_chatSend (n : Nat) (actor : Actor) (room content : String) (receiver kind : Option String) :
    KeepsSessions (chatSend n actor room content receiver kind) := by
  unfold chatSend
  refine of_bind of_get fun w => ?_
  dsimp only
  split
  · exact of_pure _
  · refine of_bind of_freshUuid fun id => of_bind of_readClock fun createdAt => ?_
    refine of_bind (of_serviceStore n) fun verdict => ?_
    split
    · exact of_pure _
    · split
      · exact of_pure _
      · exact of_bind (of_modifyNode _ _) fun _ => of_bind (of_remember _ _) fun _ =>
          of_bind (of_fanOut _ _) fun _ => of_pure _

theorem of_chatHistory (n : Nat) (room : String) (before : Option Timestamp) (limit : Option Nat) :
    KeepsSessions (chatHistory n room before limit) := by
  unfold chatHistory
  split
  · exact of_pure _
  · refine of_bind of_get fun w => of_bind (of_serviceStore n) fun verdict => ?_
    split <;> exact of_pure _

theorem of_notifyPublish (n : Nat) (actor : Actor) (user kind content : String) :
    KeepsSessions (notifyPublish n actor user kind content) := by
  unfold notifyPublish
  refine of_bind of_get fun w => ?_
  dsimp only
  split
  · exact of_pure _
  · refine of_bind of_freshUuid fun id => of_bind of_readClock fun now => ?_
    refine of_bind (of_serviceStore n) fun verdict => ?_
    split
    · exact of_pure _
    · split
      · exact of_pure _
      · exact of_bind (of_modifyNode _ _) fun _ => of_bind (of_fanOut _ _) fun _ => of_pure _

theorem of_notifyHistory (n : Nat) (user : String) (before : Option Timestamp) (limit : Option Nat) :
    KeepsSessions (notifyHistory n user before limit) := by
  unfold notifyHistory
  split
  · exact of_pure _
  · refine of_bind of_get fun w => of_bind (of_serviceStore n) fun verdict => ?_
    split <;> exact of_pure _

theorem of_markReadStored (n : Nat) (id : Uuid) (user : String) :
    KeepsSessions (markReadStored n id user) := by
  unfold markReadStored
  split
  · exact of_pure _
  · refine of_bind (of_serviceStore n) fun verdict => ?_
    split
    · exact of_pure _
    · refine of_bind of_readClock fun now => ?_
      split
      · exact of_pure _
      · exact of_bind (of_modifyNode _ _) fun _ => of_pure _

theorem of_notifyMarkRead (n : Nat) (id : Uuid) (user : String) :
    KeepsSessions (notifyMarkRead n id user) := by
  unfold notifyMarkRead
  refine of_bind (of_markReadStored n id user) fun stored => ?_
  split
  · exact of_pure _
  · split
    · exact of_bind (of_fanOut _ _) fun _ => of_pure _
    · exact of_bind (of_pure _) fun _ => of_pure _

/-- A service answering a session's frame leaves the sessions alone and
only adds events at the back of event channels. -/
theorem of_handleFrame (n : Nat) (svc : ServiceKind) (ctx : SessionContext) (f : Frame) :
    KeepsSessions (handleFrame n svc ctx f) := by
  unfold handleFrame
  split
  · exact of_pure _
  · exact of_pure _
  · split
    · exact of_bind (of_chatSend _ _ _ _ _ _) fun _ => by split <;> exact of_pure _
    · exact of_bind (of_chatHistory _ _ _ _) fun _ => by split <;> exact of_pure _
    · exact of_pure _
    · exact of_pure _
  · split
    · exact of_bind (of_notifyPublish _ _ _ _ _) fun _ => by split <;> exact of_pure _
    · exact of_bind (of_notifyHistory _ _ _ _) fun _ => by split <;> exact of_pure _
    · exact of_bind (of_notifyMarkRead _ _ _) fun _ => by split <;> exact of_pure _
    · exact of_pure _

/-- Computing a session's join frames leaves the sessions and the event
channels alone. -/
theorem of_joinFrames (n : Nat) (svc : ServiceKind) (ctx : SessionContext) :
    KeepsSessions (joinFrames n svc ctx) := by
  unfold joinFrames
  split
  · exact of_bind (of_chatRecall _ _) fun _ => by split <;> exact of_pure _
  · exact of_pure _

theorem of_respond (s : Nat) (f : Frame) : KeepsSessions (respond s f) := by
  unfold respond
  refine of_bind of_get fun w => ?_
  split
  · exact of_pure _
  · exact of_pure _
  · split
    · exact of_pure _
    · exact of_handleFrame _ _ _ _

end KeepsSessions

/-- An action that leaves the sessions and the event channels exactly as
they are. -/
def KeepsChannels {α : Type} (x : ClusterM α) : Prop :=
  ∀ w, (x.run w).2.sessions = w.sessions ∧ (x.run w).2.eventChannels = w.eventChannels

namespace KeepsChannels

variable {α β : Type}

theorem of_pure (a : α) : KeepsChannels (pure a : ClusterM α) := fun _ => ⟨rfl, rfl⟩

theorem of_get : KeepsChannels (get : ClusterM World) := fun _ => ⟨rfl, rfl⟩

theorem of_bind {x : ClusterM α} {f : α → ClusterM β} (first : KeepsChannels x)
    (rest : ∀ a, KeepsChannels (f a)) : KeepsChannels (x >>= f) := fun w =>
  ⟨((rest _ _).1).trans (first w).1, ((rest _ _).2).trans (first w).2⟩

theorem of_modifyNode (n : Nat) (f : Node → Node) : KeepsChannels (modifyNode n f) :=
  fun _ => ⟨rfl, rfl⟩

theorem of_joinFrames (n : Nat) (svc : ServiceKind) (ctx : SessionContext) :
    KeepsChannels (joinFrames n svc ctx) := by
  unfold joinFrames chatRecall recallGet recallOn
  split
  · refine of_bind ?_ fun found => by split <;> exact of_pure _
    refine of_bind (of_bind of_get fun _ => of_pure _) fun on => ?_
    split
    · exact of_pure _
    · refine of_bind (of_bind of_get fun w => ?_) fun _ => of_pure _
      split
      exact of_bind (of_modifyNode _ _) fun _ => of_pure _
  · exact of_pure _

end KeepsChannels

/-! ## A session's view of the cluster -/

/-- The events waiting on a session's hub channel. -/
def World.queuedFor (w : World) (s : Nat) : List Event :=
  (w.eventChannels.getD (w.session s).events default).channel.items

/-- What a session's two tasks share: where each stands, the reply channel
between them, and the events queued for the writer. -/
structure SessionView where
  reader : ReaderStep
  writer : WriterStep
  replies : Channel Frame
  queued : List Event

def World.view (w : World) (s : Nat) : SessionView :=
  ⟨(w.session s).reader, (w.session s).writer, (w.session s).replies, w.queuedFor s⟩

/-- A session's view is read off four fields of its record and the hub's
channels. -/
theorem World.view_eq_of {w w' : World} {s : Nat} (reader : (w'.session s).reader = (w.session s).reader)
    (writer : (w'.session s).writer = (w.session s).writer)
    (replies : (w'.session s).replies = (w.session s).replies)
    (events : (w'.session s).events = (w.session s).events)
    (channels : w'.eventChannels = w.eventChannels) : w'.view s = w.view s := by
  simp only [World.view, World.queuedFor, reader, writer, replies, events, channels]

theorem World.session_modify (w : World) (s : Nat) (f : Session → Session) (present : s < w.sessions.size) :
    { w with sessions := w.sessions.modify s f }.session s = f (w.session s) := by
  simp only [World.session, getD_modify, present, and_self, if_true]

theorem World.view_modifyChannels (w : World) (c : Nat) (g : EventChannel → EventChannel)
    (keeps : ∀ ec, (g ec).channel.items = ec.channel.items) {s : Nat} :
    { w with eventChannels := w.eventChannels.modify c g }.view s = w.view s := by
  simp only [World.view, World.queuedFor, World.session, getD_modify]
  split
  · next same => rw [keeps, same.1]
  · rfl

theorem modifySession_run (s : Nat) (f : Session → Session) (w : World) :
    (modifySession s f).run w = ((), { w with sessions := w.sessions.modify s f }) := rfl

/-- An action that leaves a session's view and the number of sessions as they are. -/
def KeepsView (s : Nat) {α : Type} (x : ClusterM α) : Prop :=
  ∀ w, (x.run w).2.view s = w.view s ∧ (x.run w).2.sessions.size = w.sessions.size

namespace KeepsView

variable {s s' : Nat} {α β : Type}

theorem of_pure (a : α) : KeepsView s (pure a : ClusterM α) := fun _ => ⟨rfl, rfl⟩

theorem of_get : KeepsView s (get : ClusterM World) := fun _ => ⟨rfl, rfl⟩

theorem of_bind {x : ClusterM α} {f : α → ClusterM β} (first : KeepsView s x)
    (rest : ∀ a, KeepsView s (f a)) : KeepsView s (x >>= f) := fun w =>
  ⟨((rest _ _).1).trans (first w).1, ((rest _ _).2).trans (first w).2⟩

theorem of_queueOnly {x : ClusterM α} (only : QueueOnly x) : KeepsView s x := fun w => by
  rw [only w]
  exact ⟨rfl, rfl⟩

theorem of_keepsChannels {x : ClusterM α} (keeps : KeepsChannels x) : KeepsView s x := fun w => by
  have session : (x.run w).2.session s = w.session s := by simp only [World.session, (keeps w).1]
  exact ⟨World.view_eq_of (by rw [session]) (by rw [session]) (by rw [session]) (by rw [session]) (keeps w).2,
    by rw [(keeps w).1]⟩

theorem of_modifyNode (n : Nat) (f : Node → Node) : KeepsView s (modifyNode n f) :=
  of_keepsChannels (KeepsChannels.of_modifyNode n f)

theorem of_modifySession (s' : Nat) (f : Session → Session)
    (keeps : ∀ x, (f x).reader = x.reader ∧ (f x).writer = x.writer ∧ (f x).replies = x.replies ∧
      (f x).events = x.events) : KeepsView s (modifySession s' f) := fun w => by
  refine ⟨?_, Array.size_modify ..⟩
  have session : ((modifySession s' f).run w).2.session s =
      if s' = s ∧ s' < w.sessions.size then f (w.session s') else w.session s :=
    getD_modify ..
  split at session
  · next same =>
      obtain ⟨rfl, -⟩ := same
      obtain ⟨reader, writer, replies, events⟩ := keeps (w.session s')
      rw [← session] at reader writer replies events
      exact World.view_eq_of reader writer replies events rfl
  · exact World.view_eq_of (by rw [session]) (by rw [session]) (by rw [session]) (by rw [session]) rfl

theorem of_modifyChannels (c : Nat) (g : EventChannel → EventChannel)
    (keeps : ∀ ec, (g ec).channel.items = ec.channel.items) :
    KeepsView s (modify fun w : World => { w with eventChannels := w.eventChannels.modify c g }) :=
  fun w => ⟨World.view_modifyChannels w c g keeps, rfl⟩

theorem of_wakeWriterSelecting (s' : Nat) : KeepsView s (wakeWriterSelecting s') :=
  of_queueOnly fun w => congrArg Prod.snd (wakeWriterSelecting_run _ w)

theorem of_wakeReaderReplying (s' : Nat) : KeepsView s (wakeReaderReplying s') := by
  unfold wakeReaderReplying
  refine of_bind of_get fun w => ?_
  split
  · exact of_queueOnly (QueueOnly.of_wake _)
  · exact of_queueOnly (QueueOnly.of_wake _)
  · exact of_pure _

theorem of_wakeReaderReceiving (s' : Nat) : KeepsView s (wakeReaderReceiving s') := by
  unfold wakeReaderReceiving
  refine of_bind of_get fun w => ?_
  split
  · exact of_queueOnly (QueueOnly.of_wake _)
  · exact of_pure _

theorem of_wakeWriterOnCancel (s' : Nat) : KeepsView s (wakeWriterOnCancel s') := by
  unfold wakeWriterOnCancel
  refine of_bind of_get fun w => ?_
  split
  · exact of_queueOnly (QueueOnly.of_wake _)
  · exact of_queueOnly (QueueOnly.of_wake _)
  · exact of_pure _

theorem of_swapClosed (s' : Nat) : KeepsView s (swapClosed s') :=
  of_bind of_get fun _ => of_bind (of_modifySession _ _ fun _ => ⟨rfl, rfl, rfl, rfl⟩) fun _ => of_pure _

theorem of_storeLifecycle (s' : Nat) (l : Lifecycle) : KeepsView s (storeLifecycle s' l) :=
  of_modifySession _ _ fun _ => ⟨rfl, rfl, rfl, rfl⟩

theorem of_registerSession (s' : Nat) : KeepsView s (registerSession s') :=
  of_bind of_get fun _ => of_bind of_get fun _ => of_bind (of_modifyNode _ _) fun _ =>
    of_modifySession _ _ fun _ => ⟨rfl, rfl, rfl, rfl⟩

theorem of_activateSession (s' : Nat) : KeepsView s (activateSession s') :=
  of_modifySession _ _ fun x => by
    split <;> exact ⟨rfl, rfl, rfl, rfl⟩

/-- Taking a session off the hub releases its channel's sender, which keeps
what the channel holds. -/
theorem of_unregisterSession (s' : Nat) : KeepsView s (unregisterSession s') := by
  unfold unregisterSession
  refine of_bind of_get fun _ => of_bind of_get fun _ => ?_
  refine of_bind (of_modifyNode _ _) fun _ => ?_
  split
  · exact of_bind (of_modifyChannels _ _ fun _ => rfl) fun _ => of_wakeWriterSelecting s'
  · exact of_pure _

theorem of_cancelSession (s' : Nat) : KeepsView s (cancelSession s') :=
  of_bind (of_modifySession _ _ fun _ => ⟨rfl, rfl, rfl, rfl⟩) fun _ =>
    of_bind (of_wakeReaderReceiving s') fun _ => of_wakeWriterOnCancel s'

/-- Closing a session marks it, takes it off the hub and cancels it: its
tasks stand where they stood and its channels hold what they held. -/
theorem of_closeSession (s' : Nat) : KeepsView s (closeSession s') := by
  unfold closeSession
  refine of_bind (of_swapClosed s') fun was => ?_
  cases was
  · exact of_bind (of_storeLifecycle s' _) fun _ => of_bind (of_unregisterSession s') fun _ =>
      of_bind (of_cancelSession s') fun _ => of_pure _
  · exact of_pure _

end KeepsView

/-! ## What the session's own steps do to its view -/

section OwnSteps

variable {s : Nat} {w : World}

theorem view_modifySession (present : s < w.sessions.size) (f : Session → Session)
    (events : (f (w.session s)).events = (w.session s).events) :
    ((modifySession s f).run w).2.view s =
      ⟨(f (w.session s)).reader, (f (w.session s)).writer, (f (w.session s)).replies, w.queuedFor s⟩ := by
  simp only [modifySession_run, World.view, World.queuedFor, World.session_modify w s f present, events]

theorem finishReader_view (present : s < w.sessions.size) :
    ((finishReader s).run w).2.view s =
        { w.view s with reader := .done, replies := (w.view s).replies.dropSender } ∧
      ((finishReader s).run w).2.sessions.size = w.sessions.size := by
  obtain ⟨closedView, closedSize⟩ := KeepsView.of_closeSession (s := s) s w
  have changed := view_modifySession (closedSize ▸ present)
    (fun x => { x with replies := x.replies.dropSender, inbound := x.inbound.dropReceiver, reader := .done }) rfl
  simp only [finishReader, StateT.run_bind, id_bind]
  constructor
  · rw [(KeepsView.of_wakeWriterSelecting s _).1, changed, ← closedView]
    rfl
  · rw [(KeepsView.of_wakeWriterSelecting (s := s) s _).2, modifySession_run, Array.size_modify, closedSize]

/-- The writer leaves its loop: it starts the close notice, and the reply
channel has lost its receiver. -/
theorem finishWriter_view (present : s < w.sessions.size) :
    (∃ deadline, ((finishWriter s).run w).2.view s =
        { w.view s with writer := .closing deadline, replies := (w.view s).replies.dropReceiver }) ∧
      ((finishWriter s).run w).2.sessions.size = w.sessions.size := by
  obtain ⟨closedView, closedSize⟩ := KeepsView.of_closeSession (s := s) s w
  simp only [finishWriter, StateT.run_bind, StateT.run_get, StateT.run_modify, id_pure, id_bind]
  generalize ((closeSession s).run w).2 = w₁ at closedView closedSize
  have released := World.view_modifyChannels (s := s) w₁ (w₁.session s).events
    (fun ec => { ec with channel := ec.channel.dropReceiver }) fun _ => rfl
  generalize release : { w₁ with eventChannels := _ } = w₂ at released ⊢
  have releasedSize : w₂.sessions.size = w.sessions.size := by rw [← release]; exact closedSize
  have changed := view_modifySession (w := w₂) (releasedSize ▸ present)
    (fun x => { x with replies := x.replies.dropReceiver, writer := .closing (w₁.clock + 500) }) rfl
  refine ⟨⟨w₁.clock + 500, ?_⟩, ?_⟩
  · rw [(KeepsView.of_wakeReaderReplying s _).1, changed, ← closedView, ← released]
    rfl
  · rw [(KeepsView.of_wakeReaderReplying (s := s) s _).2, modifySession_run, Array.size_modify, releasedSize]

theorem retireWriter_view (present : s < w.sessions.size) :
    ((retireWriter s).run w).2.view s = { w.view s with writer := .done } ∧
      ((retireWriter s).run w).2.sessions.size = w.sessions.size :=
  ⟨view_modifySession present _ rfl, Array.size_modify ..⟩

/-- What a service does while answering a frame shows in a session's view
only as events added to its hub channel. -/
theorem Grown.view {w' : World} (grown : Grown w w') :
    w'.view s = { w.view s with queued := (w.view s).queued ++ (w'.view s).queued.drop (w.view s).queued.length } := by
  have session : w'.session s = w.session s := by simp only [World.session, grown.sessions]
  obtain ⟨more, grew⟩ := grown.channels (w.session s).events
  have queued : w'.queuedFor s = w.queuedFor s ++ more := by
    simp only [World.queuedFor, session, grew]
  simp only [World.view, session, queued, List.drop_left]

theorem view_setReader (present : s < w.sessions.size) (r : ReaderStep) :
    ((modifySession s fun x => { x with reader := r }).run w).2.view s = { w.view s with reader := r } :=
  view_modifySession present _ rfl

theorem view_setRepliesReader (present : s < w.sessions.size) (c : Channel Frame) (r : ReaderStep) :
    ((modifySession s fun x => { x with replies := c, reader := r }).run w).2.view s =
      { w.view s with replies := c, reader := r } :=
  view_modifySession present _ rfl

theorem view_setWriter (present : s < w.sessions.size) (wr : WriterStep) :
    ((modifySession s fun x => { x with writer := wr }).run w).2.view s = { w.view s with writer := wr } :=
  view_modifySession present _ rfl

theorem view_setRepliesWriter (present : s < w.sessions.size) (c : Channel Frame) (wr : WriterStep) :
    ((modifySession s fun x => { x with replies := c, writer := wr }).run w).2.view s =
      { w.view s with replies := c, writer := wr } :=
  view_modifySession present _ rfl

end OwnSteps

/-! ## The reader's answer to a frame -/

/-- Whether an inbound frame goes to the session's service: the session
answers pings and pongs itself, and refuses a frame only a server sends. -/
def reachesService : Frame → Bool
  | .ping _ | .pong _ => false
  | f => f.frameType.inbound

/-- The reply a session owes for an inbound frame, given what its service
answers a frame that reaches it: a pong with the ping's timestamp, nothing
for a pong, and error 400 with id 0 for a frame only a server sends. -/
def owedReply (f : Frame) (handled : Option Frame) : Option Frame :=
  match f with
  | .ping ts => some (.pong ts)
  | .pong _ => none
  | f => if f.frameType.inbound then handled else some (.error 0 400 "unexpected server frame")

/-- What a session's service answers a frame, if the frame reaches it. -/
def handlerAnswer (s : Nat) (f : Frame) (w : World) : Option Frame :=
  let ses := w.session s
  if reachesService f then
    ((handleFrame ses.node ses.service { actor := ses.actor, topic := ses.topic } f).run w).1
  else none

theorem respond_answer (s : Nat) (f : Frame) (w : World) :
    ((respond s f).run w).1 = owedReply f (handlerAnswer s f w) := by
  cases f <;> simp [respond, owedReply, handlerAnswer, reachesService, Frame.frameType, FrameType.inbound]

theorem respond_skips (s : Nat) (f : Frame) (w : World) (skips : reachesService f = false) :
    ((respond s f).run w).2 = w := by
  cases f <;> first | rfl | cases skips

/-! ## What a session's steps can do -/

/-- Whether the reader is still computing or queueing its join frames. -/
def ReaderStep.joins : ReaderStep → Bool
  | .fresh | .joining _ => true
  | _ => false

/-- Whether the writer is in its loop, taking replies and deliveries. -/
def WriterStep.active : WriterStep → Bool
  | .writing _ | .selecting _ => true
  | _ => false

/-- Where the reader stands after reading a frame: holding the reply it owes,
or waiting for the next frame. -/
def ReaderStep.afterRead : Option Frame → ReaderStep
  | some r => .replying r
  | none => .receiving

/-- What the steps of a session show. -/
inductive SessionLabel where
  /-- The reader computed the join frames. -/
  | joined (frames : List Frame)
  /-- The reader read a frame, which the service answered `handled` if it reached it. -/
  | read (f : Frame) (handled : Option Frame)
  /-- Events were queued on the session's hub channel. -/
  | queued (events : List Event)
  /-- The writer wrote to the client. -/
  | wrote (e : PeerEvent)

/-- Every step a session's view can take, with what it shows: the reader's
and the writer's turns, and events that arrive from the rest of the cluster
at any time. -/
inductive SessionStep : SessionView → List SessionLabel → SessionView → Prop
  | stay (v : SessionView) : SessionStep v [] v
  | join {v : SessionView} (frames : List Frame) : v.reader = .fresh →
      SessionStep v [.joined frames] { v with reader := .joining frames }
  | joined {v : SessionView} : v.reader = .joining [] → SessionStep v [] { v with reader := .receiving }
  | queueJoin {v : SessionView} {f : Frame} {rest : List Frame} : v.reader = .joining (f :: rest) →
      SessionStep v [] { v with replies := { v.replies with items := v.replies.items ++ [f] },
                                reader := .joining rest }
  | read {v : SessionView} (f : Frame) (handled : Option Frame) (more : List Event) :
      v.reader = .receiving →
      SessionStep v [.read f handled, .queued more]
        { v with reader := ReaderStep.afterRead (owedReply f handled), queued := v.queued ++ more }
  | queueReply {v : SessionView} {r : Frame} : v.reader = .replying r →
      SessionStep v [] { v with replies := { v.replies with items := v.replies.items ++ [r] },
                                reader := .receiving }
  /-- The reader ends; it leaves join frames behind only when no writer takes replies. -/
  | leave {v : SessionView} : (∀ frames, v.reader = .joining frames → v.replies.receiverOpen = false) →
      SessionStep v [] { v with replies := v.replies.dropSender, reader := .done }
  | write {v : SessionView} {e : PeerEvent} (deadline : Nat) : v.writer = .writing e →
      SessionStep v [.wrote e] { v with writer := .selecting deadline }
  | takeReply {v : SessionView} {deadline : Nat} {r : Frame} {rest : List Frame} :
      v.writer = .selecting deadline → v.replies.items = r :: rest →
      SessionStep v [] { v with replies := { v.replies with items := rest }, writer := .writing (.frame r) }
  | takeEvent {v : SessionView} {deadline : Nat} {e : Event} {rest : List Event} :
      v.writer = .selecting deadline → v.replies.items = [] → v.queued = e :: rest →
      SessionStep v [] { v with writer := .writing (.frame (Frame.deliver e)), queued := rest }
  | ping {v : SessionView} {deadline : Nat} : v.writer = .selecting deadline →
      SessionStep v [] { v with writer := .writing .ping }
  | stop {v : SessionView} (deadline : Nat) : v.writer.active →
      SessionStep v [] { v with writer := .closing deadline, replies := v.replies.dropReceiver }
  | notice {v : SessionView} {deadline : Nat} : v.writer = .closing deadline →
      SessionStep v [.wrote .closed] { v with writer := .done }
  | retire {v : SessionView} {deadline : Nat} : v.writer = .closing deadline →
      SessionStep v [] { v with writer := .done }
  | arrive {v : SessionView} (more : List Event) :
      SessionStep v [.queued more] { v with queued := v.queued ++ more }

theorem SessionStep.read_unanswered {v v' : SessionView} {f : Frame} {handled : Option Frame}
    {more : List Event} (receiving : v.reader = .receiving) (unanswered : owedReply f handled = none)
    (after : v' = { v with queued := v.queued ++ more }) : SessionStep v [.read f handled, .queued more] v' := by
  have step := SessionStep.read f handled more receiving
  rw [unanswered, ReaderStep.afterRead, ← receiving] at step
  rw [after]
  exact step

theorem SessionStep.read_answered {v v' : SessionView} {f : Frame} {handled : Option Frame} {r : Frame}
    {more : List Event} (receiving : v.reader = .receiving) (answered : owedReply f handled = some r)
    (after : v' = { v with queued := v.queued ++ more }) :
    SessionStep v [.read f handled, .queued more] { v' with reader := .replying r } := by
  have step := SessionStep.read f handled more receiving
  rw [answered, ReaderStep.afterRead] at step
  rw [after]
  exact step

/-- What a turn of the reader shows: the join frames it computes, or the
frame it reads with the service's answer and the events the service queues
for the session meanwhile. -/
def readerLabels (s : Nat) (w : World) : List SessionLabel :=
  let ses := w.session s
  match ses.reader with
  | .fresh => [.joined ((joinFrames ses.node ses.service { actor := ses.actor, topic := ses.topic }).run w).1]
  | .receiving =>
    if ses.cancelled then []
    else
      match ses.inbound.tryRecv with
      | (.item (.frame f), c) =>
        let taken := ((modifySession s fun x => { x with inbound := c }).run w).2
        let answered := ((respond s f).run taken).2
        [.read f (handlerAnswer s f taken), .queued ((answered.view s).queued.drop (taken.view s).queued.length)]
      | _ => []
  | _ => []

/-- What a turn of the writer shows: the event it writes, if the client's
end takes it. -/
def writerLabels (s : Nat) (w : World) : List SessionLabel :=
  let ses := w.session s
  match ses.writer with
  | .writing e =>
    if ses.cancelled || !ses.carries e then []
    else
      match ses.outbound.trySend e with
      | .ok _ => [.wrote e]
      | .error _ => []
  | .closing _ =>
    match ses.outbound.trySend .closed with
    | .ok _ => [.wrote .closed]
    | .error _ => []
  | _ => []

namespace Channel

variable {α : Type} {c c' : Channel α} {a : α}

theorem eq_of_trySend_ok (sent : c.trySend a = .ok c') : c' = { c with items := c.items ++ [a] } := by
  unfold trySend at sent
  split at sent
  · cases sent
  · split at sent
    · cases sent
      rfl
    · cases sent

theorem receiverOpen_of_trySend_closed (refused : c.trySend a = .error .closed) : c.receiverOpen = false := by
  unfold trySend at refused
  split at refused
  · next gone => simpa using gone
  · split at refused <;> cases refused

end Channel

/-! ## A turn of the reader -/

section ReaderTurn

variable {s : Nat} {w : World}

/-- The reader ends; join frames it still holds are dropped only when no
writer takes replies any more. -/
theorem finishReader_step (present : s < w.sessions.size)
    (closed : ∀ frames, (w.view s).reader = .joining frames → (w.view s).replies.receiverOpen = false) :
    SessionStep (w.view s) [] (((finishReader s).run w).2.view s) ∧
      ((finishReader s).run w).2.sessions.size = w.sessions.size := by
  obtain ⟨finished, finishedSize⟩ := finishReader_view present
  rw [finished]
  exact ⟨.leave closed, finishedSize⟩

theorem finishReader_step_of_not_joining (present : s < w.sessions.size)
    (notJoining : ∀ frames, (w.session s).reader ≠ .joining frames) :
    SessionStep (w.view s) [] (((finishReader s).run w).2.view s) ∧
      ((finishReader s).run w).2.sessions.size = w.sessions.size :=
  finishReader_step present fun frames joining => absurd joining (notJoining frames)

/-- The reader puts a frame on the reply channel, moves on to `next` and
wakes the writer. -/
theorem handOverFrame_view (present : s < w.sessions.size) {f : Frame} {c : Channel Frame}
    (sent : (w.session s).replies.trySend f = .ok c) (next : ReaderStep) :
    let handed := ((wakeWriterSelecting s).run
      ((modifySession s fun x => { x with replies := c, reader := next }).run w).2).2
    handed.view s =
        { w.view s with replies := { (w.view s).replies with items := (w.view s).replies.items ++ [f] },
                        reader := next } ∧
      handed.sessions.size = w.sessions.size := by
  intro handed
  rw [(KeepsView.of_wakeWriterSelecting s _).1, (KeepsView.of_wakeWriterSelecting (s := s) s _).2,
    view_setRepliesReader present, Channel.eq_of_trySend_ok sent]
  exact ⟨rfl, Array.size_modify ..⟩

theorem view_setInbound (c : Channel PeerInput) :
    ((modifySession s fun x => { x with inbound := c }).run w).2.view s = w.view s ∧
      ((modifySession s fun x => { x with inbound := c }).run w).2.sessions.size = w.sessions.size :=
  KeepsView.of_modifySession s (fun x => { x with inbound := c }) (fun _ => ⟨rfl, rfl, rfl, rfl⟩) w

theorem readerTurn_fresh_step (present : s < w.sessions.size) (current : (w.session s).reader = .fresh) :
    SessionStep (w.view s) (readerLabels s w) (((readerTurn s).run w).2.view s) ∧
      ((readerTurn s).run w).2.sessions.size = w.sessions.size := by
  unfold readerTurn readerLabels
  simp only [StateT.run_bind, StateT.run_get, id_pure, id_bind, current, StateT.run_pure]
  obtain ⟨joinedView, joinedSize⟩ := KeepsView.of_keepsChannels (s := s) (KeepsChannels.of_joinFrames
    (w.session s).node (w.session s).service { actor := (w.session s).actor, topic := (w.session s).topic }) w
  rw [view_setReader (joinedSize ▸ present), joinedView]
  exact ⟨.join _ current, by rw [modifySession_run, Array.size_modify, joinedSize]⟩

theorem readerTurn_joining_step (present : s < w.sessions.size) {frames : List Frame}
    (current : (w.session s).reader = .joining frames) :
    SessionStep (w.view s) (readerLabels s w) (((readerTurn s).run w).2.view s) ∧
      ((readerTurn s).run w).2.sessions.size = w.sessions.size := by
  unfold readerTurn readerLabels
  simp only [StateT.run_bind, StateT.run_get, id_pure, id_bind, current]
  cases frames with
  | nil =>
    simp only [StateT.run_bind, id_bind, StateT.run_pure, id_pure]
    rw [view_setReader present]
    exact ⟨.joined current, Array.size_modify ..⟩
  | cons f rest =>
    dsimp only
    cases sent : (w.session s).replies.trySend f with
    | ok c =>
      simp only [StateT.run_bind, id_bind, StateT.run_pure, id_pure]
      obtain ⟨handed, handedSize⟩ := handOverFrame_view present sent (.joining rest)
      rw [handed]
      exact ⟨.queueJoin current, handedSize⟩
    | error failure =>
      cases failure with
      | closed =>
        simp only [StateT.run_bind, id_bind, StateT.run_pure, id_pure]
        exact finishReader_step present fun _ _ => Channel.receiverOpen_of_trySend_closed sent
      | full => exact ⟨.stay _, rfl⟩

/-- A reader waiting for input ends when the session is cancelled, the input
fails or the client's stream ends; a frame it takes is answered by its
service, which may queue events for the session meanwhile. -/
theorem readerTurn_receiving_step (present : s < w.sessions.size)
    (current : (w.session s).reader = .receiving) :
    SessionStep (w.view s) (readerLabels s w) (((readerTurn s).run w).2.view s) ∧
      ((readerTurn s).run w).2.sessions.size = w.sessions.size := by
  have notJoining : ∀ frames, (w.session s).reader ≠ .joining frames := by
    intro frames
    rw [current]
    exact nofun
  unfold readerTurn readerLabels
  simp only [StateT.run_bind, StateT.run_get, id_pure, id_bind, current]
  cases cancelled : (w.session s).cancelled with
  | true =>
    simp only [if_true, StateT.run_bind, id_bind, StateT.run_pure, id_pure]
    exact finishReader_step_of_not_joining present notJoining
  | false =>
    simp only [Bool.false_eq_true, if_false]
    cases inbox : (w.session s).inbound.items with
    | nil =>
      rw [Channel.tryRecv_nil _ inbox]
      cases sending : (w.session s).inbound.senderOpen with
      | true => exact ⟨.stay _, rfl⟩
      | false =>
        simp only [Bool.false_eq_true, if_false, StateT.run_bind, id_bind, StateT.run_pure, id_pure]
        exact finishReader_step_of_not_joining present notJoining
    | cons input rest =>
      rw [Channel.tryRecv_cons _ _ inbox]
      -- the input is taken before it is looked at, unseen by the view
      cases input with
      | failure reason =>
        simp only [StateT.run_bind, id_bind, StateT.run_pure, id_pure]
        generalize taking : (StateT.run (modifySession s _) w).2 = taken
        obtain ⟨takenView, takenSize⟩ : taken.view s = w.view s ∧ taken.sessions.size = w.sessions.size :=
          taking ▸ view_setInbound _
        obtain ⟨finished, finishedSize⟩ := finishReader_step (takenSize ▸ present)
          (takenView ▸ fun frames joining => absurd joining (notJoining frames))
        rw [takenView] at finished
        exact ⟨finished, finishedSize.trans takenSize⟩
      | frame f =>
        simp only [StateT.run_bind, id_bind]
        generalize taking : (StateT.run (modifySession s _) w).2 = taken
        obtain ⟨takenView, takenSize⟩ : taken.view s = w.view s ∧ taken.sessions.size = w.sessions.size :=
          taking ▸ view_setInbound _
        have grown := KeepsSessions.of_respond s f taken
        have answeredSize : ((respond s f).run taken).2.sessions.size = w.sessions.size := by
          rw [grown.sessions, takenSize]
        have answeredView := Grown.view (s := s) grown
        rw [respond_answer]
        generalize ((respond s f).run taken).2 = answered at answeredView answeredSize ⊢
        rw [takenView] at answeredView ⊢
        cases owed : owedReply f (handlerAnswer s f taken) with
        | none => exact ⟨.read_unanswered current owed answeredView, answeredSize⟩
        | some r =>
          simp only [StateT.run_bind, id_bind, StateT.run_pure, id_pure]
          rw [view_setReader (answeredSize ▸ present)]
          exact ⟨.read_answered current owed answeredView, Array.size_modify .. |>.trans answeredSize⟩

theorem readerTurn_replying_step (present : s < w.sessions.size) {r : Frame}
    (current : (w.session s).reader = .replying r) :
    SessionStep (w.view s) (readerLabels s w) (((readerTurn s).run w).2.view s) ∧
      ((readerTurn s).run w).2.sessions.size = w.sessions.size := by
  unfold readerTurn readerLabels
  simp only [StateT.run_bind, StateT.run_get, id_pure, id_bind, current]
  cases sent : (w.session s).replies.trySend r with
  | ok c =>
    simp only [StateT.run_bind, id_bind, StateT.run_pure, id_pure]
    obtain ⟨handed, handedSize⟩ := handOverFrame_view present sent .receiving
    rw [handed]
    exact ⟨.queueReply current, handedSize⟩
  | error failure =>
    cases failure with
    | closed =>
      simp only [StateT.run_bind, id_bind, StateT.run_pure, id_pure]
      refine finishReader_step_of_not_joining present fun frames => ?_
      rw [current]
      exact nofun
    | full => exact ⟨.stay _, rfl⟩

/-- A turn of the reader is a step of the session, labelled with what it
shows, and keeps the number of sessions; one lemma per place the reader can
stand. -/
theorem readerTurn_step (present : s < w.sessions.size) :
    SessionStep (w.view s) (readerLabels s w) (((readerTurn s).run w).2.view s) ∧
      ((readerTurn s).run w).2.sessions.size = w.sessions.size := by
  cases current : (w.session s).reader with
  | done =>
    unfold readerTurn readerLabels
    simp only [StateT.run_bind, StateT.run_get, id_pure, id_bind, current]
    exact ⟨.stay _, rfl⟩
  | fresh => exact readerTurn_fresh_step present current
  | joining frames => exact readerTurn_joining_step present current
  | receiving => exact readerTurn_receiving_step present current
  | replying r => exact readerTurn_replying_step present current

end ReaderTurn

/-! ## A turn of the writer -/

section WriterTurn

variable {s : Nat} {w : World}

/-- Putting back the session's hub channel, while it holds events, is what
the view sees of it. -/
theorem view_setChannel (ec : EventChannel) (holding : (w.view s).queued ≠ []) :
    { w with eventChannels := w.eventChannels.set! (w.session s).events ec }.view s =
      { w.view s with queued := ec.channel.items } := by
  have inside : (w.session s).events < w.eventChannels.size := by
    by_contra outside
    have missing : w.eventChannels.getD (w.session s).events default = default := by
      simp only [Array.getD_eq_getD_getElem?, Array.getElem?_eq_none (Nat.le_of_not_lt outside),
        Option.getD_none]
    exact holding (by simp only [World.view, World.queuedFor, missing]; rfl)
  show SessionView.mk (w.session s).reader (w.session s).writer (w.session s).replies
    ((w.eventChannels.set! (w.session s).events ec).getD (w.session s).events default).channel.items = _
  rw [getD_set!, if_pos ⟨rfl, inside⟩]
  rfl

theorem finishWriter_step (present : s < w.sessions.size) (active : (w.session s).writer.active) :
    SessionStep (w.view s) [] (((finishWriter s).run w).2.view s) ∧
      ((finishWriter s).run w).2.sessions.size = w.sessions.size := by
  obtain ⟨⟨deadline, finished⟩, finishedSize⟩ := finishWriter_view present
  rw [finished]
  exact ⟨.stop deadline active, finishedSize⟩

/-- The writer retires after a change of its record that the view does not
see: the close notice written, or the client's end found gone. -/
theorem retireWriter_after_view (present : s < w.sessions.size) (f : Session → Session)
    (keeps : ∀ x, (f x).reader = x.reader ∧ (f x).writer = x.writer ∧ (f x).replies = x.replies ∧
      (f x).events = x.events) :
    ((retireWriter s).run ((modifySession s f).run w).2).2.view s = { w.view s with writer := .done } ∧
      ((retireWriter s).run ((modifySession s f).run w).2).2.sessions.size = w.sessions.size := by
  obtain ⟨keptView, keptSize⟩ := KeepsView.of_modifySession s f keeps w
  obtain ⟨retired, retiredSize⟩ := retireWriter_view (keptSize ▸ present)
  rw [retired, keptView]
  exact ⟨rfl, retiredSize.trans keptSize⟩

theorem writerTurn_writing_step (present : s < w.sessions.size) {e : PeerEvent}
    (current : (w.session s).writer = .writing e) :
    SessionStep (w.view s) (writerLabels s w) (((writerTurn s).run w).2.view s) ∧
      ((writerTurn s).run w).2.sessions.size = w.sessions.size := by
  have active : (w.session s).writer.active := by rw [current]; rfl
  unfold writerTurn writerLabels
  simp only [StateT.run_bind, StateT.run_get, id_pure, id_bind, current]
  cases cancelled : (w.session s).cancelled with
  | true =>
    simp only [Bool.true_or, if_true, StateT.run_bind, id_bind, StateT.run_pure, id_pure]
    exact finishWriter_step present active
  | false =>
    cases carries : (w.session s).carries e with
    | false =>
      simp only [Bool.not_false, Bool.or_true, if_true, Bool.false_eq_true, if_false, StateT.run_bind, id_bind,
        StateT.run_pure, id_pure]
      exact finishWriter_step present active
    | true =>
      simp only [Bool.not_true, Bool.or_false, Bool.false_eq_true, if_false]
      cases sent : (w.session s).outbound.trySend e with
      | ok c =>
        simp only [StateT.run_bind, id_bind, StateT.run_pure, id_pure]
        rw [view_modifySession present _ rfl]
        exact ⟨.write _ current, Array.size_modify ..⟩
      | error failure =>
        cases failure with
        | closed =>
          simp only [StateT.run_bind, id_bind, StateT.run_pure, id_pure]
          exact finishWriter_step present active
        | full => exact ⟨.stay _, rfl⟩

/-- A writer waiting in its loop takes a reply first, then an event from the
hub channel, and otherwise writes a ping once its deadline has passed; it
leaves the loop when cancelled or when the hub channel has lost its sender. -/
theorem writerTurn_selecting_step (present : s < w.sessions.size) {deadline : Nat}
    (current : (w.session s).writer = .selecting deadline) :
    SessionStep (w.view s) (writerLabels s w) (((writerTurn s).run w).2.view s) ∧
      ((writerTurn s).run w).2.sessions.size = w.sessions.size := by
  have active : (w.session s).writer.active := by rw [current]; rfl
  unfold writerTurn writerLabels
  simp only [StateT.run_bind, StateT.run_get, id_pure, id_bind, current]
  cases cancelled : (w.session s).cancelled with
  | true =>
    simp only [if_true, StateT.run_bind, id_bind, StateT.run_pure, id_pure]
    exact finishWriter_step present active
  | false =>
    simp only [Bool.false_eq_true, if_false]
    cases replies : (w.session s).replies.items with
    | cons r rest =>
      rw [Channel.tryRecv_cons _ _ replies]
      simp only [StateT.run_bind, id_bind, StateT.run_pure, id_pure]
      rw [(KeepsView.of_wakeReaderReplying s _).1, (KeepsView.of_wakeReaderReplying (s := s) s _).2,
        view_setRepliesWriter present]
      exact ⟨.takeReply current replies, Array.size_modify ..⟩
    | nil =>
      rw [Channel.tryRecv_nil _ replies]
      split
      · next taken =>
        exfalso
        split at taken <;> cases taken
      · have queuedFor : (w.view s).queued = (w.eventChannels.getD (w.session s).events default).channel.items :=
          rfl
        cases queue : (w.eventChannels.getD (w.session s).events default).channel.items with
        | cons e rest =>
          rw [Channel.tryRecv_cons _ _ queue]
          simp only [StateT.run_bind, StateT.run_set, id_bind, StateT.run_pure, id_pure]
          generalize setting : { w with eventChannels := _ } = w₁
          have set : w₁.view s = { w.view s with queued := rest } := by
            rw [← setting]
            exact view_setChannel _ (by rw [queuedFor, queue]; exact List.cons_ne_nil e rest)
          have setSize : w₁.sessions.size = w.sessions.size := by rw [← setting]
          rw [view_setWriter (setSize ▸ present), set]
          exact ⟨.takeEvent current replies (queuedFor.trans queue), (Array.size_modify ..).trans setSize⟩
        | nil =>
          rw [Channel.tryRecv_nil _ queue]
          cases sending : (w.eventChannels.getD (w.session s).events default).channel.senderOpen with
          | true =>
            simp only [if_true]
            by_cases due : deadline ≤ w.clock
            · simp only [ge_iff_le, due, if_true, StateT.run_bind, id_bind, StateT.run_pure, id_pure]
              rw [view_setWriter present]
              exact ⟨.ping current, Array.size_modify ..⟩
            · simp only [ge_iff_le, due, if_false]
              exact ⟨.stay _, rfl⟩
          | false =>
            simp only [Bool.false_eq_true, if_false, StateT.run_bind, id_bind, StateT.run_pure, id_pure]
            exact finishWriter_step present active

/-- A closing writer writes the close notice and retires, or retires without
it when the client's end is gone or the notice's deadline has passed. -/
theorem writerTurn_closing_step (present : s < w.sessions.size) {deadline : Nat}
    (current : (w.session s).writer = .closing deadline) :
    SessionStep (w.view s) (writerLabels s w) (((writerTurn s).run w).2.view s) ∧
      ((writerTurn s).run w).2.sessions.size = w.sessions.size := by
  unfold writerTurn writerLabels
  simp only [StateT.run_bind, StateT.run_get, id_pure, id_bind, current]
  cases sent : (w.session s).outbound.trySend .closed with
  | ok c =>
    simp only [StateT.run_bind, id_bind, StateT.run_pure, id_pure]
    obtain ⟨retired, retiredSize⟩ := retireWriter_after_view present
      (fun x => { x with outbound := c, sinkClosed := true }) fun _ => ⟨rfl, rfl, rfl, rfl⟩
    rw [retired]
    exact ⟨.notice current, retiredSize⟩
  | error failure =>
    cases failure with
    | closed =>
      simp only [StateT.run_bind, id_bind, StateT.run_pure, id_pure]
      obtain ⟨retired, retiredSize⟩ := retireWriter_after_view present
        (fun x => { x with sinkClosed := true }) fun _ => ⟨rfl, rfl, rfl, rfl⟩
      rw [retired]
      exact ⟨.retire current, retiredSize⟩
    | full =>
      by_cases due : deadline ≤ w.clock
      · simp only [ge_iff_le, due, if_true, StateT.run_bind, id_bind, StateT.run_pure, id_pure]
        obtain ⟨retired, retiredSize⟩ := retireWriter_view present
        rw [retired]
        exact ⟨.retire current, retiredSize⟩
      · simp only [ge_iff_le, due, if_false]
        exact ⟨.stay _, rfl⟩

/-- A turn of the writer is a step of the session, labelled with what it
writes, and keeps the number of sessions; one lemma per place the writer can
stand. -/
theorem writerTurn_step (present : s < w.sessions.size) :
    SessionStep (w.view s) (writerLabels s w) (((writerTurn s).run w).2.view s) ∧
      ((writerTurn s).run w).2.sessions.size = w.sessions.size := by
  cases current : (w.session s).writer with
  | done =>
    unfold writerTurn writerLabels
    simp only [StateT.run_bind, StateT.run_get, id_pure, id_bind, current]
    exact ⟨.stay _, rfl⟩
  | writing e => exact writerTurn_writing_step present current
  | selecting deadline => exact writerTurn_selecting_step present current
  | closing deadline => exact writerTurn_closing_step present current

end WriterTurn

end Herald.Cluster
