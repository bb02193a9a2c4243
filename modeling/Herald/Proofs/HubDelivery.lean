import Herald.Proofs.Broadcast
import Herald.Proofs.HubRegistry
import Herald.Scenario.WorldSteps

set_option autoImplicit false

/-!
# Delivery through one hub

The users of a hub register channels on topics, take registrations off,
broadcast events and read their channels, one atomic step at a time
(`HubAction`).  A run is the list of its steps, each with the state it
started from and its answer.

Each registration gets a channel of its own, so a channel is held by one
registration or by none.  While its registration lasts, a channel is offered
exactly the events broadcast on its topic, and takes each one that finds its
receiver there and room in its buffer; before and after, it is offered
nothing.  What a subscriber reads from the channel, followed by what is still
buffered, is therefore the list of those broadcasts in order
(`registration_receives_its_broadcasts`).  Every broadcast answers the number
of registrations on its topic whose channel took the event and the number
whose buffer was full, and adds the latter to the hub's count of drops.
-/

namespace Herald.Cluster

/-- What the users of one hub do, one atomic step at a time. -/
inductive HubAction where
  /-- Make a channel buffering `capacity` events and register it on a topic. -/
  | register (topic : Topic) (capacity : Nat)
  /-- Take a registration off the hub, which drops the hub's sender. -/
  | unregister (subscription : Subscription)
  /-- Fan an event out on a topic without waiting. -/
  | broadcast (topic : Topic) (event : Event)
  /-- Take the next event of a channel, if one is there. -/
  | receive (channel : Nat)
  /-- Drop the receiving end of a channel. -/
  | closeReceiver (channel : Nat)
  deriving DecidableEq

/-- What a step answers. -/
inductive HubAnswer where
  | registered (subscription : Subscription) (channel : Nat)
  | unregistered (removed : Bool)
  | broadcasted (delivered dropped : Nat)
  | received (event : Option Event)
  | closed
  deriving DecidableEq

/-- Perform one action on the hub of node `n`. -/
def HubAction.perform (n : Nat) : HubAction → ClusterM HubAnswer
  | .register t capacity => do
    let w ← get
    let ch := w.eventChannels.size
    let (hub, subscription) := (w.node n).hub.register t ch
    set { w with eventChannels := w.eventChannels.push { channel := Channel.bounded capacity } }
    modifyNode n fun nd => { nd with hub }
    return .registered subscription ch
  | .unregister s => do
    let (hub, ch) := ((← get).node n).hub.unregister s
    modifyNode n fun nd => { nd with hub }
    match ch with
    | some c =>
      Scenario.closeChannelSender c
      return .unregistered true
    | none => return .unregistered false
  | .broadcast t e => do
    let (delivered, dropped) ← Cluster.broadcast n t e
    return .broadcasted delivered dropped
  | .receive ch => do
    let w ← get
    let ec := w.eventChannels.getD ch default
    let (got, c) := ec.channel.tryRecv
    set { w with eventChannels := w.eventChannels.set! ch { ec with channel := c } }
    return .received (match got with
      | .item e => some e
      | _ => none)
  | .closeReceiver ch => do
    modify fun w => { w with eventChannels := w.eventChannels.modify ch fun ec =>
      { ec with channel := ec.channel.dropReceiver } }
    return .closed

/-- One step of a run: the state it started from, the action, its answer,
and the state it left. -/
structure HubStep where
  before : World
  action : HubAction
  answer : HubAnswer
  after : World

namespace HubAction

/-- The steps of performing actions in turn. -/
def steps (n : Nat) : List HubAction → World → List HubStep
  | [], _ => []
  | a :: rest, w =>
    let r := (a.perform n).run w
    ⟨w, a, r.1, r.2⟩ :: steps n rest r.2

/-- The state after performing actions in turn. -/
def final (n : Nat) : List HubAction → World → World
  | [], w => w
  | a :: rest, w => final n rest ((a.perform n).run w).2

end HubAction

/-- The event a step took from channel `ch`, if any. -/
def HubStep.taken (ch : Nat) (st : HubStep) : List Event :=
  match st.action, st.answer with
  | .receive c, .received got => if c = ch then got.toList else []
  | _, _ => []

/-- The events a subscriber took from channel `ch`, in order. -/
def takenFrom (ch : Nat) (steps : List HubStep) : List Event := steps.flatMap (·.taken ch)

/-- The event a step broadcast on `t`, if channel `ch` had its receiver and
room for it then. -/
def HubStep.broadcastTaken (t : Topic) (ch : Nat) (st : HubStep) : List Event :=
  match st.action with
  | .broadcast t' e =>
    if t' = t ∧ (st.before.eventChannels.getD ch default).channel.takesSend then [e] else []
  | _ => []

/-- The events broadcast on `t` at steps where channel `ch` had its receiver
and room for one more event. -/
def broadcastsTaken (t : Topic) (ch : Nat) (steps : List HubStep) : List Event :=
  steps.flatMap (·.broadcastTaken t ch)

/-- The events buffered in channel `ch`. -/
def World.buffered (w : World) (ch : Nat) : List Event := (w.eventChannels.getD ch default).channel.items

/-- The registrations of node `n`'s hub. -/
def World.registrations (w : World) (n : Nat) : List (Topic × Nat × Nat) :=
  (w.node n).hub.registrations

/-- The shape a hub and its channels keep along every run. -/
structure HubInv (n : Nat) (w : World) : Prop where
  present : n < w.nodes.size
  wellFormed : (w.node n).hub.WellFormed
  allocated : ∀ c ∈ (w.node n).hub.channels, c < w.eventChannels.size

namespace HubAction

variable (n : Nat) (w : World)

theorem perform_register (t : Topic) (capacity : Nat) :
    ((register t capacity).perform n).run w =
      (.registered ⟨t, (w.node n).hub.nextId⟩ w.eventChannels.size,
       { w with eventChannels := w.eventChannels.push { channel := Channel.bounded capacity },
                nodes := w.nodes.modify n fun nd =>
                  { nd with hub := ((w.node n).hub.register t w.eventChannels.size).1 } }) := rfl

theorem perform_unregister (s : Subscription) :
    ((unregister s).perform n).run w =
      (.unregistered ((w.node n).hub.unregister s).2.isSome,
       { w with nodes := w.nodes.modify n fun nd => { nd with hub := ((w.node n).hub.unregister s).1 },
                eventChannels :=
                  match ((w.node n).hub.unregister s).2 with
                  | some c => w.eventChannels.modify c fun ec =>
                      { ec with channel := ec.channel.dropSender }
                  | none => w.eventChannels }) := by
  simp only [perform, StateT.run_bind, StateT.run_get, pure_bind]
  cases ((w.node n).hub.unregister s).2 <;> rfl

theorem perform_broadcast (t : Topic) (e : Event) :
    let offered := offerAll e (((w.node n).hub.entries t).map (·.2)) w.eventChannels
    ((broadcast t e).perform n).run w =
      (.broadcasted offered.2.1 offered.2.2,
       { w with eventChannels := offered.1,
                nodes := w.nodes.modify n (Node.addDropped offered.2.2),
                runQueue := ((Cluster.broadcast n t e).run w).2.runQueue }) := by
  dsimp only
  simp only [perform, StateT.run_bind]
  rw [broadcast_run]
  rfl

theorem perform_receive (ch : Nat) :
    ((receive ch).perform n).run w =
      (.received (w.buffered ch).head?,
       { w with eventChannels := w.eventChannels.set! ch
                  { w.eventChannels.getD ch default with
                    channel := (w.eventChannels.getD ch default).channel.tryRecv.2 } }) := by
  simp only [perform, World.buffered, StateT.run_bind, StateT.run_get, pure_bind, Channel.tryRecv]
  split
  · next first rest listed =>
      rw [listed]
      rfl
  · next empty =>
      rw [empty]
      cases (w.eventChannels.getD ch default).channel.senderOpen <;> rfl

theorem perform_closeReceiver (ch : Nat) :
    ((closeReceiver ch).perform n).run w =
      (.closed, { w with eventChannels := w.eventChannels.modify ch fun ec =>
                    { ec with channel := ec.channel.dropReceiver } }) := rfl

end HubAction

theorem hub_after_perform {n : Nat} {w : World} (present : n < w.nodes.size) (a : HubAction) :
    ((((a.perform n).run w).2).node n).hub =
      match a with
      | .register t _ => ((w.node n).hub.register t w.eventChannels.size).1
      | .unregister s => ((w.node n).hub.unregister s).1
      | .broadcast t e =>
        { (w.node n).hub with dropped := (w.node n).hub.dropped +
            (offerAll e (((w.node n).hub.entries t).map (·.2)) w.eventChannels).2.2 }
      | .receive _ | .closeReceiver _ => (w.node n).hub := by
  cases a with
  | register t capacity =>
      rw [HubAction.perform_register]
      simp [World.node, present, Array.getElem_modify]
  | unregister s =>
      rw [HubAction.perform_unregister]
      simp [World.node, present, Array.getElem_modify]
  | broadcast t e =>
      rw [HubAction.perform_broadcast]
      simp [World.node, present, Array.getElem_modify]
  | receive ch => rw [HubAction.perform_receive]; rfl
  | closeReceiver ch => rfl

theorem size_after_perform (n : Nat) (w : World) (a : HubAction) :
    w.eventChannels.size ≤ (((a.perform n).run w).2).eventChannels.size := by
  cases a with
  | register t capacity => rw [HubAction.perform_register]; simp
  | unregister s =>
      rw [HubAction.perform_unregister]
      dsimp only
      split <;> simp
  | broadcast t e => rw [HubAction.perform_broadcast]; simp
  | receive ch => rw [HubAction.perform_receive]; simp
  | closeReceiver ch => rw [HubAction.perform_closeReceiver]; simp

theorem nodes_size_after_perform (n : Nat) (w : World) (a : HubAction) :
    (((a.perform n).run w).2).nodes.size = w.nodes.size := by
  cases a with
  | register t capacity => rw [HubAction.perform_register]; simp
  | unregister s => rw [HubAction.perform_unregister]; simp
  | broadcast t e => rw [HubAction.perform_broadcast]; simp
  | receive ch => rw [HubAction.perform_receive]
  | closeReceiver ch => rfl

theorem HubInv.perform {n : Nat} {w : World} (inv : HubInv n w) (a : HubAction) :
    HubInv n (((a.perform n).run w).2) := by
  have grows := size_after_perform n w a
  refine ⟨by rw [nodes_size_after_perform]; exact inv.present, ?_, ?_⟩
  · rw [hub_after_perform inv.present]
    cases a with
    | register t capacity =>
        refine inv.wellFormed.register _ _ _ fun held => ?_
        exact absurd (inv.allocated _ held) (Nat.lt_irrefl _)
    | unregister s => exact inv.wellFormed.unregister _ _
    | broadcast t e => exact inv.wellFormed.withDropped _
    | receive ch => exact inv.wellFormed
    | closeReceiver ch => exact inv.wellFormed
  · intro c held
    rw [hub_after_perform inv.present] at held
    cases a with
    | register t capacity =>
        simp only [Hub.channels, List.mem_map] at held
        obtain ⟨r, present, rfl⟩ := held
        rcases (Hub.mem_registrations_register _ t _ inv.wellFormed).mp present with old | new
        · exact Nat.lt_of_lt_of_le (inv.allocated _ (List.mem_map_of_mem old)) grows
        · rw [new, HubAction.perform_register]
          simp
    | unregister s =>
        simp only [Hub.channels, List.mem_map] at held
        obtain ⟨r, present, rfl⟩ := held
        have old := ((Hub.mem_registrations_unregister _ s inv.wellFormed).mp present).1
        exact Nat.lt_of_lt_of_le (inv.allocated _ (List.mem_map_of_mem old)) grows
    | broadcast t e => exact Nat.lt_of_lt_of_le (inv.allocated c held) grows
    | receive ch => exact Nat.lt_of_lt_of_le (inv.allocated c held) grows
    | closeReceiver ch => exact Nat.lt_of_lt_of_le (inv.allocated c held) grows

/-- What one step offers channel `ch`: the broadcast's event, when the
channel is registered on the broadcast's topic and has its receiver and room. -/
def offeredAt (n ch : Nat) (w : World) : HubAction → List Event
  | .broadcast t e =>
    if ch ∈ ((w.node n).hub.entries t).map (·.2) ∧
        (w.eventChannels.getD ch default).channel.takesSend then [e] else []
  | _ => []

/-- One step moves events into a channel only by offering them, and out of it
only by a subscriber taking the first. -/
theorem buffered_after_perform {n : Nat} {w : World} (inv : HubInv n w) (a : HubAction)
    {ch : Nat} (allocated : ch < w.eventChannels.size) :
    (HubStep.mk w a ((a.perform n).run w).1 ((a.perform n).run w).2).taken ch ++
        ((a.perform n).run w).2.buffered ch =
      w.buffered ch ++ offeredAt n ch w a := by
  cases a with
  | register t capacity =>
      rw [HubAction.perform_register]
      simp only [HubStep.taken, offeredAt, World.buffered, List.nil_append, List.append_nil,
        getD_push, if_neg (Nat.ne_of_lt allocated)]
  | unregister s =>
      rw [HubAction.perform_unregister]
      simp only [HubStep.taken, offeredAt, World.buffered, List.nil_append, List.append_nil]
      split
      · next released _ =>
        rw [getD_modify]
        by_cases same : released = ch ∧ released < w.eventChannels.size
        · rw [if_pos same]
          obtain ⟨rfl, _⟩ := same
          rfl
        · rw [if_neg same]
      · rfl
  | broadcast t e =>
      rw [HubAction.perform_broadcast]
      have wf := inv.wellFormed
      have inRange : ∀ c ∈ ((w.node n).hub.entries t).map (·.2), c < w.eventChannels.size :=
        fun c listed => inv.allocated c (Hub.mem_channels_of_entries wf listed)
      simp only [HubStep.taken, offeredAt, World.buffered, List.nil_append]
      rw [getD_offerAll e _ _ (Hub.channels_entries_nodup wf t) inRange]
      by_cases listed : ch ∈ ((w.node n).hub.entries t).map (·.2)
      · rw [if_pos listed, EventChannel.items_offer]
        by_cases taking : (w.eventChannels.getD ch default).channel.takesSend
        · rw [if_pos taking, if_pos ⟨listed, taking⟩]
        · rw [if_neg taking, if_neg fun both => taking both.2, List.append_nil]
      · rw [if_neg listed, if_neg fun both => listed both.1, List.append_nil]
  | receive c =>
      rw [HubAction.perform_receive]
      simp only [HubStep.taken, offeredAt, World.buffered, getD_set!, List.append_nil]
      by_cases same : c = ch
      · subst same
        rw [if_pos rfl, if_pos (And.intro rfl allocated)]
        simp only [Channel.tryRecv]
        generalize (w.eventChannels.getD c default).channel = chan
        cases chan with
        | mk items bound senderOpen receiverOpen => cases items <;> rfl
      · rw [if_neg same, if_neg fun both => same both.1, List.nil_append]
  | closeReceiver c =>
      rw [HubAction.perform_closeReceiver]
      simp only [HubStep.taken, offeredAt, World.buffered, List.nil_append, List.append_nil,
        getD_modify]
      by_cases same : c = ch ∧ c < w.eventChannels.size
      · rw [if_pos same]
        obtain ⟨rfl, _⟩ := same
        rfl
      · rw [if_neg same]

theorem mem_registrations_after_perform {n : Nat} {w : World} (inv : HubInv n w)
    (a : HubAction) {r : Topic × Nat × Nat} :
    r ∈ ((((a.perform n).run w).2).node n).hub.registrations ↔
      match a with
      | .register t _ => r ∈ (w.node n).hub.registrations ∨
          r = (t, (w.node n).hub.nextId, w.eventChannels.size)
      | .unregister s => r ∈ (w.node n).hub.registrations ∧ Hub.names s r = false
      | _ => r ∈ (w.node n).hub.registrations := by
  rw [hub_after_perform inv.present]
  cases a with
  | register t capacity => exact Hub.mem_registrations_register _ t _ inv.wellFormed
  | unregister s => exact Hub.mem_registrations_unregister _ s inv.wellFormed
  | broadcast t e => rfl
  | receive c => rfl
  | closeReceiver c => rfl

/-- Channel `ch` is held by registration `s` or by no registration at all. -/
def HeldOnlyBy (n : Nat) (s : Subscription) (ch : Nat) (w : World) : Prop :=
  ∀ r ∈ (w.node n).hub.registrations, r.2.2 = ch → r.1 = s.topic ∧ r.2.1 = s.id

def Unheld (n : Nat) (ch : Nat) (w : World) : Prop :=
  ∀ r ∈ (w.node n).hub.registrations, r.2.2 ≠ ch

def Holds (n : Nat) (s : Subscription) (ch : Nat) (w : World) : Prop :=
  (s.topic, s.id, ch) ∈ (w.node n).hub.registrations

section Ownership

variable {n : Nat} {w : World} {s : Subscription} {ch : Nat}

theorem HeldOnlyBy.perform (inv : HubInv n w) (allocated : ch < w.eventChannels.size)
    (owned : HeldOnlyBy n s ch w) (a : HubAction) :
    HeldOnlyBy n s ch (((a.perform n).run w).2) := by
  intro r present holding
  have before := (mem_registrations_after_perform inv a).mp present
  cases a with
  | register t capacity =>
      rcases before with old | rfl
      · exact owned r old holding
      · exact absurd holding (Nat.ne_of_gt allocated)
  | unregister s' => exact owned r before.1 holding
  | broadcast t e => exact owned r before holding
  | receive c => exact owned r before holding
  | closeReceiver c => exact owned r before holding

theorem Unheld.perform (inv : HubInv n w) (allocated : ch < w.eventChannels.size)
    (free : Unheld n ch w) (a : HubAction) : Unheld n ch (((a.perform n).run w).2) := by
  intro r present
  have before := (mem_registrations_after_perform inv a).mp present
  cases a with
  | register t capacity =>
      rcases before with old | rfl
      · exact free r old
      · exact Nat.ne_of_gt allocated
  | unregister s' => exact free r before.1
  | broadcast t e => exact free r before
  | receive c => exact free r before
  | closeReceiver c => exact free r before

theorem Holds.perform (inv : HubInv n w) (holding : Holds n s ch w) (a : HubAction)
    (notRemoved : a ≠ .unregister s) : Holds n s ch (((a.perform n).run w).2) := by
  apply (mem_registrations_after_perform inv a).mpr
  cases a with
  | register t capacity => exact .inl holding
  | unregister s' =>
      refine ⟨holding, ?_⟩
      cases s' with
      | mk topic id =>
          -- another subscription differs in its topic or its number
          simp only [Hub.names, Bool.and_eq_false_iff, beq_eq_false_iff_ne, ne_eq]
          by_cases sameTopic : s.topic = topic
          · refine .inr fun sameId => notRemoved ?_
            cases s
            simp_all
          · exact .inl sameTopic
  | broadcast t e => exact holding
  | receive c => exact holding
  | closeReceiver c => exact holding

theorem unheld_after_unregister (inv : HubInv n w) (owned : HeldOnlyBy n s ch w) :
    Unheld n ch ((((HubAction.unregister s).perform n).run w).2) := by
  intro r present holding
  have before := (mem_registrations_after_perform inv (.unregister s)).mp present
  obtain ⟨sameTopic, sameId⟩ := owned r before.1 holding
  have named := before.2
  simp [Hub.names, sameTopic, sameId] at named

/-- A held channel is offered a broadcast exactly when the broadcast is on
its registration's topic. -/
theorem offeredAt_of_holds (inv : HubInv n w) (owned : HeldOnlyBy n s ch w)
    (holding : Holds n s ch w) (a : HubAction) :
    offeredAt n ch w a = (HubStep.mk w a ((a.perform n).run w).1
      ((a.perform n).run w).2).broadcastTaken s.topic ch := by
  cases a with
  | broadcast t e =>
      simp only [offeredAt, HubStep.broadcastTaken]
      have listed : ch ∈ ((w.node n).hub.entries t).map (·.2) ↔ t = s.topic := by
        constructor
        · intro held
          obtain ⟨entry, present, same⟩ := List.mem_map.mp held
          have registered := (Hub.mem_entries_iff inv.wellFormed).mp present
          exact (owned _ registered same).1
        · rintro rfl
          exact List.mem_map.mpr ⟨(s.id, ch), (Hub.mem_entries_iff inv.wellFormed).mpr holding, rfl⟩
      simp only [listed]
  | register t capacity => rfl
  | unregister s' => rfl
  | receive c => rfl
  | closeReceiver c => rfl

theorem offeredAt_of_unheld (free : Unheld n ch w) (inv : HubInv n w) (a : HubAction) :
    offeredAt n ch w a = [] := by
  cases a with
  | broadcast t e =>
      simp only [offeredAt]
      rw [if_neg]
      rintro ⟨held, _⟩
      obtain ⟨entry, present, same⟩ := List.mem_map.mp held
      exact free _ ((Hub.mem_entries_iff inv.wellFormed).mp present) same
  | register t capacity => rfl
  | unregister s' => rfl
  | receive c => rfl
  | closeReceiver c => rfl

end Ownership

/-! ## Runs -/

section Runs

variable {n : Nat}

theorem HubInv.of_empty {w : World} (present : n < w.nodes.size)
    (empty : (w.node n).hub.topics = []) : HubInv n w where
  present := present
  wellFormed := by constructor <;> simp [Hub.registrations, Hub.channels, empty]
  allocated := by simp [Hub.channels, Hub.registrations, empty]

theorem HubInv.final {w : World} (inv : HubInv n w) (acts : List HubAction) :
    HubInv n (HubAction.final n acts w) := by
  induction acts generalizing w with
  | nil => exact inv
  | cons a rest inductionHypothesis => exact inductionHypothesis (inv.perform a)

/-- What every step does from a state an invariant holds of, every step of a
run from such a state does, when every step keeps the invariant. -/
theorem forall_steps_of_kept (I : World → Prop)
    (kept : ∀ w (a : HubAction), I w → I ((a.perform n).run w).2) (P : HubStep → Prop)
    (step : ∀ w (a : HubAction), I w → P ⟨w, a, ((a.perform n).run w).1, ((a.perform n).run w).2⟩)
    {w : World} (holds : I w) (acts : List HubAction) :
    ∀ st ∈ HubAction.steps n acts w, P st := by
  induction acts generalizing w with
  | nil => simp [HubAction.steps]
  | cons a rest inductionHypothesis =>
      intro st member
      rcases List.mem_cons.mp member with rfl | later
      · exact step w a holds
      · exact inductionHypothesis (kept w a holds) st later

/-- What every step does from a state of the hub's shape, every step of a run
from such a state does. -/
theorem forall_steps (P : HubStep → Prop)
    (step : ∀ w a, HubInv n w → P ⟨w, a, ((a.perform n).run w).1, ((a.perform n).run w).2⟩)
    {w : World} (inv : HubInv n w) (acts : List HubAction) :
    ∀ st ∈ HubAction.steps n acts w, P st :=
  forall_steps_of_kept (HubInv n) (fun _ a inv => inv.perform a) P step inv acts

/-- The events offered to channel `ch` along a run. -/
def offers (n ch : Nat) (steps : List HubStep) : List Event :=
  steps.flatMap fun st => offeredAt n ch st.before st.action

/-- Along a run, what is taken from a channel followed by what is left in it
is what it held at the start followed by everything offered to it. -/
theorem taken_append_buffered_final {w : World} (inv : HubInv n w) {ch : Nat}
    (allocated : ch < w.eventChannels.size) (acts : List HubAction) :
    takenFrom ch (HubAction.steps n acts w) ++ (HubAction.final n acts w).buffered ch =
      w.buffered ch ++ offers n ch (HubAction.steps n acts w) := by
  induction acts generalizing w with
  | nil => simp [takenFrom, offers, HubAction.steps, HubAction.final]
  | cons a rest inductionHypothesis =>
      have later := inductionHypothesis (inv.perform a)
        (Nat.lt_of_lt_of_le allocated (size_after_perform n w a))
      simp only [takenFrom, offers, HubAction.steps, HubAction.final, List.flatMap_cons,
        List.append_assoc] at later ⊢
      rw [later, ← List.append_assoc, buffered_after_perform inv a allocated, List.append_assoc]

theorem offers_of_unheld {w : World} (inv : HubInv n w) {ch : Nat}
    (allocated : ch < w.eventChannels.size) (free : Unheld n ch w) (acts : List HubAction) :
    offers n ch (HubAction.steps n acts w) = [] := by
  induction acts generalizing w with
  | nil => rfl
  | cons a rest inductionHypothesis =>
      have grown := Nat.lt_of_lt_of_le allocated (size_after_perform n w a)
      have later := inductionHypothesis (inv.perform a) grown (free.perform inv allocated a)
      simp only [offers, HubAction.steps, List.flatMap_cons] at later ⊢
      rw [offeredAt_of_unheld free inv a, later, List.append_nil]

/-- While registration `s` holds channel `ch`, the channel is offered the
broadcasts on the registration's topic it has room for; once `s` is taken off,
nothing more. -/
theorem offers_while_held {w : World} (inv : HubInv n w) {s : Subscription} {ch : Nat}
    (allocated : ch < w.eventChannels.size) (owned : HeldOnlyBy n s ch w)
    (holding : Holds n s ch w) (acts : List HubAction) :
    offers n ch (HubAction.steps n acts w) =
      broadcastsTaken s.topic ch
        ((HubAction.steps n acts w).take (acts.takeWhile (· != .unregister s)).length) := by
  induction acts generalizing w with
  | nil => rfl
  | cons a rest inductionHypothesis =>
      have grown := Nat.lt_of_lt_of_le allocated (size_after_perform n w a)
      by_cases removed : a = .unregister s
      · subst removed
        have gone := offers_of_unheld (inv.perform _) grown (unheld_after_unregister inv owned) rest
        simp only [offers, HubAction.steps, List.flatMap_cons] at gone ⊢
        rw [List.takeWhile_cons, if_neg (by simp), gone]
        rfl
      · have later := inductionHypothesis (inv.perform a) grown (owned.perform inv allocated a)
          (holding.perform inv a removed)
        simp only [offers, broadcastsTaken, HubAction.steps, List.flatMap_cons] at later ⊢
        rw [List.takeWhile_cons, if_pos (bne_iff_ne.mpr removed), List.length_cons,
          List.take_succ_cons, List.flatMap_cons, later, offeredAt_of_holds inv owned holding a]

end Runs

/-! ## What a broadcast counts -/

/-- What a broadcast answers and adds to the hub's count of drops, read off
the channels of its topic's registrations just before it: a channel that
takes the event counts as delivered, a full one as dropped, and every channel
whose receiver is still there is one or the other. -/
def HubStep.Accounted (n : Nat) (st : HubStep) : Prop :=
  match st.action with
  | .broadcast t _ =>
    let chs := ((st.before.node n).hub.entries t).map (·.2)
    let channel (c : Nat) := (st.before.eventChannels.getD c default).channel
    ∃ delivered dropped, st.answer = .broadcasted delivered dropped ∧
      delivered = (chs.filter (channel · |>.takesSend)).length ∧
      dropped = (chs.filter (channel · |>.refusesFull)).length ∧
      delivered + dropped = (chs.filter (channel · |>.receiverOpen)).length ∧
      (st.after.node n).hub.dropped = (st.before.node n).hub.dropped + dropped
  | _ => True

theorem length_filter_takesSend_add_refusesFull {α β : Type} (channel : α → Channel β)
    (l : List α) :
    (l.filter (channel · |>.takesSend)).length + (l.filter (channel · |>.refusesFull)).length =
      (l.filter (channel · |>.receiverOpen)).length := by
  induction l with
  | nil => rfl
  | cons c rest inductionHypothesis =>
      have taking : (channel c).takesSend = ((channel c).receiverOpen && (channel c).hasRoom) :=
        rfl
      have refusing :
          (channel c).refusesFull = ((channel c).receiverOpen && !(channel c).hasRoom) := rfl
      simp only [List.filter_cons, taking, refusing]
      cases (channel c).receiverOpen <;> cases (channel c).hasRoom <;> simp <;> omega

theorem accounted_perform {n : Nat} {w : World} (inv : HubInv n w) (a : HubAction) :
    (HubStep.mk w a ((a.perform n).run w).1 ((a.perform n).run w).2).Accounted n := by
  cases a with
  | broadcast t e =>
      have distinct := Hub.channels_entries_nodup inv.wellFormed t
      let offered := offerAll e (((w.node n).hub.entries t).map (·.2)) w.eventChannels
      refine ⟨offered.2.1, offered.2.2, ?answer, taken_offerAll e _ _ distinct,
        refused_offerAll e _ _ distinct, ?sum, ?dropped⟩
      case answer => rw [HubAction.perform_broadcast]
      case sum =>
        rw [taken_offerAll e _ _ distinct, refused_offerAll e _ _ distinct]
        exact length_filter_takesSend_add_refusesFull _ _
      case dropped => rw [hub_after_perform inv.present]
  | register t capacity => trivial
  | unregister s => trivial
  | receive c => trivial
  | closeReceiver c => trivial

/-! ## The delivery law -/

/-- The channel a registration gets is new, empty, and held by that
registration alone. -/
theorem registered_channel {n : Nat} {w : World} (inv : HubInv n w) (t : Topic)
    (capacity : Nat) :
    let registered := ((HubAction.register t capacity).perform n).run w
    let s : Subscription := ⟨t, (w.node n).hub.nextId⟩
    registered.1 = .registered s w.eventChannels.size ∧
      w.eventChannels.size < registered.2.eventChannels.size ∧
      HeldOnlyBy n s w.eventChannels.size registered.2 ∧
      Holds n s w.eventChannels.size registered.2 ∧
      registered.2.buffered w.eventChannels.size = [] := by
  intro registered s
  have member := fun r => mem_registrations_after_perform (r := r) inv (.register t capacity)
  refine ⟨rfl, by simp [registered, HubAction.perform_register], ?owned,
    (member _).mpr (.inr rfl), ?empty⟩
  case owned =>
    intro r present holding
    rcases (member r).mp present with old | rfl
    · exact absurd holding (Nat.ne_of_lt (inv.allocated _ (List.mem_map_of_mem old)))
    · exact ⟨rfl, rfl⟩
  case empty =>
    simp only [registered, HubAction.perform_register, World.buffered, getD_push]
    rfl

/-- The delivery law of a hub.  Take any run of hub actions with a
registration on topic `t` in it.  What the registration's subscriber takes
from its channel, followed by what is left buffered at the end, is the list
of the events broadcast on `t` after the registration and before it is taken
off, in broadcast order, less those that found the channel full (or its
receiver gone).  Every broadcast of the run answers how many channels of its
topic took the event and how many were full, those two making up every
channel whose receiver is still there, and adds the full ones to the hub's
count of drops. -/
theorem registration_receives_its_broadcasts {n : Nat} {w : World} (inv : HubInv n w)
    (pre post : List HubAction) (t : Topic) (capacity : Nat) :
    let start := HubAction.final n pre w
    let registered := ((HubAction.register t capacity).perform n).run start
    let later := HubAction.steps n post registered.2
    ∃ s ch, registered.1 = .registered s ch ∧ s.topic = t ∧
      takenFrom ch later ++ (HubAction.final n post registered.2).buffered ch =
        broadcastsTaken t ch (later.take (post.takeWhile (· != .unregister s)).length) ∧
      ∀ st ∈ HubAction.steps n (pre ++ .register t capacity :: post) w, st.Accounted n := by
  intro start registered later
  have atStart := inv.final pre
  obtain ⟨answered, grown, owned, holding, empty⟩ := registered_channel atStart t capacity
  refine ⟨_, _, answered, rfl, ?_, forall_steps _ (fun _ a before => accounted_perform before a) inv _⟩
  rw [taken_append_buffered_final (atStart.perform _) grown, empty, List.nil_append]
  exact offers_while_held (atStart.perform _) grown owned holding post

/-- The delivery law on a one-node cluster whose hub starts empty: a
registration on a room, one broadcast there and one receive. -/
theorem lobby_registration_receives_its_broadcast :
    HubInv 0 ({ nodes := #[{}] } : World) ∧
      let start := HubAction.final 0 [] ({ nodes := #[{}] } : World)
      let registered := ((HubAction.register (.room "lobby") 1).perform 0).run start
      let post := [HubAction.broadcast (.room "lobby") default, .receive 0]
      let later := HubAction.steps 0 post registered.2
      ∃ s ch, registered.1 = .registered s ch ∧ s.topic = .room "lobby" ∧
        takenFrom ch later ++ (HubAction.final 0 post registered.2).buffered ch =
          broadcastsTaken (.room "lobby") ch
            (later.take (post.takeWhile (· != .unregister s)).length) ∧
        ∀ st ∈ HubAction.steps 0 ([] ++ .register (.room "lobby") 1 :: post)
          ({ nodes := #[{}] } : World), st.Accounted 0 := by
  have inv : HubInv 0 ({ nodes := #[{}] } : World) := HubInv.of_empty (by decide) rfl
  exact ⟨inv, registration_receives_its_broadcasts inv [] _ (.room "lobby") 1⟩

end Herald.Cluster
