import Mathlib
import Herald.Proofs.HubCounters

set_option autoImplicit false

/-!
# Hub calls interleaved step by step

A call on a hub is several atomic steps, and calls on other threads run
between them.  A registration makes its channel, draws its number, puts the
registration in the topic's row and counts it, each a step of its own.
Taking a subscription off removes it from its row (dropping the hub's
sender), drops the row in another step if it was left empty, and counts
down in a third.  A broadcast offers its event under the row's read guard
and adds its drops to the count afterwards.

`HubPool` holds the calls in progress, each at the step it takes next, and
the finished calls with their answers.  A call takes a subscription off only
if a registration handed it back.  Along every interleaving the hub keeps
its shape (`HubPool.Shape`), and its listing and counters lag the
registrations only by what the calls in progress have still to do
(`HubPool.Counts`).  So once no call is in progress
(`interleaved_hub_counters`) every listed topic has a registration, the
subscriber count is the number of registrations, every subscription taken
off was removed by exactly one of the calls naming it, and the drop count is
the sum of what the broadcasts answered; and at every step a count down
finds the subscriber count at one or more.
-/

namespace Herald.Cluster

/-- A call on a hub at the atomic step it takes next. -/
inductive HubCall where
  /-- A registration about to make its channel. -/
  | register (topic : Topic) (capacity : Nat)
  /-- A registration with its channel, about to draw its number. -/
  | draw (topic : Topic) (capacity channel : Nat)
  /-- A registration with its number, about to put it in the topic's row. -/
  | insert (topic : Topic) (capacity channel id : Nat)
  /-- A registration in its row, about to count itself. -/
  | countUp (subscription : Subscription) (capacity channel : Nat)
  /-- A call about to take a registration out of its row. -/
  | unregister (subscription : Subscription)
  /-- A removal about to drop the row if it was left empty. -/
  | dropRow (subscription : Subscription)
  /-- A removal about to count down. -/
  | countDown (subscription : Subscription)
  /-- A broadcast about to offer its event. -/
  | broadcast (topic : Topic) (event : Event)
  /-- A broadcast that offered its event, about to add its drops. -/
  | addDrops (topic : Topic) (event : Event) (delivered dropped : Nat)
  | receive (channel : Nat)
  | closeReceiver (channel : Nat)
  deriving DecidableEq

namespace HubCall

def start : HubAction → HubCall
  | .register t capacity => .register t capacity
  | .unregister s => .unregister s
  | .broadcast t e => .broadcast t e
  | .receive ch => .receive ch
  | .closeReceiver ch => .closeReceiver ch

def action : HubCall → HubAction
  | .register t capacity | .draw t capacity _ | .insert t capacity _ _ => .register t capacity
  | .countUp s capacity _ => .register s.topic capacity
  | .unregister s | .dropRow s | .countDown s => .unregister s
  | .broadcast t e | .addDrops t e _ _ => .broadcast t e
  | .receive ch => .receive ch
  | .closeReceiver ch => .closeReceiver ch

/-- Set the hub of node `n`. -/
def setHub (n : Nat) (h : Hub) : ClusterM Unit := modifyNode n fun nd => { nd with hub := h }

/-- One atomic step of a call on the hub of node `n`: the call's next stage,
or its answer. -/
def advance (n : Nat) (c : HubCall) : ClusterM (HubCall ⊕ HubAnswer) := do
  let w ← get
  let hub := (w.node n).hub
  match c with
  | .register t capacity =>
    set { w with eventChannels := w.eventChannels.push { channel := Channel.bounded capacity } }
    return .inl (.draw t capacity w.eventChannels.size)
  | .draw t capacity ch =>
    setHub n hub.drawId.1
    return .inl (.insert t capacity ch hub.drawId.2)
  | .insert t capacity ch id =>
    setHub n (hub.insertEntry t id ch)
    return .inl (.countUp ⟨t, id⟩ capacity ch)
  | .countUp s _ ch =>
    setHub n hub.countUp
    return .inr (.registered s ch)
  | .unregister s =>
    setHub n (hub.removeEntry s).1
    match (hub.removeEntry s).2 with
    | some ch =>
      Scenario.closeChannelSender ch
      return .inl (.dropRow s)
    | none => return .inr (.unregistered false)
  | .dropRow s =>
    setHub n (hub.dropEmptyRow s.topic)
    return .inl (.countDown s)
  | .countDown _ =>
    setHub n hub.countDown
    return .inr (.unregistered true)
  | .broadcast t e =>
    let (delivered, dropped) ← offerEvent n t e
    return .inl (.addDrops t e delivered dropped)
  | .addDrops _ _ delivered dropped =>
    countDrops n dropped
    return .inr (.broadcasted delivered dropped)
  | .receive ch => return .inr (← (HubAction.receive ch).perform n)
  | .closeReceiver ch => return .inr (← (HubAction.closeReceiver ch).perform n)

/-- The hub after a call's next step. -/
def onHub (h : Hub) : HubCall → Hub
  | .draw .. => h.drawId.1
  | .insert t _ ch id => h.insertEntry t id ch
  | .countUp .. => h.countUp
  | .unregister s => (h.removeEntry s).1
  | .dropRow s => h.dropEmptyRow s.topic
  | .countDown _ => h.countDown
  | .addDrops _ _ _ dropped => { h with dropped := h.dropped + dropped }
  | _ => h

/-- Where a call's next step from cluster `w` leads: the next stage, or the
call's answer. -/
def outcome (n : Nat) (w : World) : HubCall → HubCall ⊕ HubAnswer
  | .register t capacity => .inl (.draw t capacity w.eventChannels.size)
  | .draw t capacity ch => .inl (.insert t capacity ch (w.node n).hub.nextId)
  | .insert t capacity ch id => .inl (.countUp ⟨t, id⟩ capacity ch)
  | .countUp s _ ch => .inr (.registered s ch)
  | .unregister s =>
    if ((w.node n).hub.removeEntry s).2.isSome then .inl (.dropRow s) else .inr (.unregistered false)
  | .dropRow s => .inl (.countDown s)
  | .countDown _ => .inr (.unregistered true)
  | .broadcast t e =>
    let offered := offerAll e (((w.node n).hub.entries t).map (·.2)) w.eventChannels
    .inl (.addDrops t e offered.2.1 offered.2.2)
  | .addDrops _ _ delivered dropped => .inr (.broadcasted delivered dropped)
  | .receive ch => .inr (.received (w.buffered ch).head?)
  | .closeReceiver _ => .inr .closed

/-- The calls still in progress after a step, and the calls it finished. -/
def after (c : HubCall) : HubCall ⊕ HubAnswer → List HubCall × List (HubAction × HubAnswer)
  | .inl next => ([next], [])
  | .inr answer => ([], [(c.action, answer)])

end HubCall

/-- Calls on the hub of one node in progress together: the cluster, the calls
at the step each takes next, and the finished calls with their answers in
the order they finished. -/
structure HubPool where
  world : World
  running : List HubCall := []
  finished : List (HubAction × HubAnswer) := []

def HubAnswer.subscription : HubAnswer → List Subscription
  | .registered s _ => [s]
  | _ => []

def HubAnswer.droppedCount : HubAnswer → Nat
  | .broadcasted _ dropped => dropped
  | _ => 0

def HubAction.takesOff : HubAction → List Subscription
  | .unregister s => [s]
  | _ => []

/-- The subscriptions handed back by the finished registrations. -/
def HubPool.issued (p : HubPool) : List Subscription := p.finished.flatMap (·.2.subscription)

/-- One atomic step on the hub of node `n`: a user starts a call, taking off
only a subscription some registration handed back, or a call in progress
takes its next step. -/
inductive HubPool.Step (n : Nat) : HubPool → HubPool → Prop
  | start {p : HubPool} (a : HubAction) (named : ∀ s ∈ a.takesOff, s ∈ p.issued) :
      Step n p { p with running := p.running ++ [HubCall.start a] }
  | advance {p : HubPool} (pre post : List HubCall) (c : HubCall)
      (running : p.running = pre ++ [c] ++ post) :
      Step n p
        { world := ((c.advance n).run p.world).2
          running := pre ++ (c.after ((c.advance n).run p.world).1).1 ++ post
          finished := p.finished ++ (c.after ((c.advance n).run p.world).1).2 }

/-- The pools the calls on node `n`'s hub reach from cluster `w` with none in
progress. -/
def HubPool.Reachable (n : Nat) (w : World) : HubPool → Prop :=
  Relation.ReflTransGen (HubPool.Step n) { world := w }

namespace HubCall

variable (n : Nat) (w : World)

theorem advance_fst (c : HubCall) : ((c.advance n).run w).1 = c.outcome n w := by
  cases c with
  | unregister s =>
      simp only [advance, outcome, StateT.run_bind, StateT.run_get, pure_bind]
      cases ((w.node n).hub.removeEntry s).2 <;> rfl
  | broadcast t e =>
      simp only [advance, outcome, StateT.run_bind, StateT.run_get, pure_bind]
      rw [offerEvent_run]
      rfl
  | receive ch =>
      simp only [advance, outcome, StateT.run_bind, StateT.run_get, pure_bind]
      rw [HubAction.perform_receive]
      rfl
  | _ => rfl

theorem nodes_size_advance (c : HubCall) :
    ((c.advance n).run w).2.nodes.size = w.nodes.size := by
  cases c <;> simp only [advance, setHub, modifyNode, Scenario.closeChannelSender, StateT.run_bind,
    StateT.run_get, StateT.run_set, StateT.run_modify, StateT.run_pure, id_bind, id_pure,
    Array.size_modify]
  case unregister s =>
    split <;> simp only [StateT.run_bind, StateT.run_modify, StateT.run_pure, id_bind, id_pure,
      Array.size_modify]
  case broadcast t e => rw [offerEvent_run]
  case addDrops t e delivered dropped =>
    rw [countDrops_run]
    exact Array.size_modify
  case receive ch => rw [HubAction.perform_receive]
  case closeReceiver ch => rfl

theorem hub_advance (present : n < w.nodes.size) (c : HubCall) :
    (((c.advance n).run w).2.node n).hub = c.onHub (w.node n).hub := by
  cases c <;> simp only [advance, onHub, setHub, modifyNode, Scenario.closeChannelSender,
    StateT.run_bind, StateT.run_get, StateT.run_set, StateT.run_modify, StateT.run_pure,
    id_bind, id_pure, World.node_modify, present, and_self, if_true]
  case register t capacity => rfl
  case unregister s =>
    split <;> simp only [StateT.run_bind, StateT.run_modify, StateT.run_pure, id_bind, id_pure,
      World.node, getD_modify, present, and_self, if_true]
  case broadcast t e =>
    rw [offerEvent_run]
    rfl
  case addDrops t e delivered dropped =>
    rw [countDrops_run]
    simp [present]
  case receive ch =>
    rw [HubAction.perform_receive]
    rfl
  case closeReceiver ch => rfl

theorem size_advance (c : HubCall) :
    w.eventChannels.size ≤ ((c.advance n).run w).2.eventChannels.size := by
  cases c <;> simp only [advance, setHub, modifyNode, Scenario.closeChannelSender, StateT.run_bind,
    StateT.run_get, StateT.run_set, StateT.run_modify, StateT.run_pure, id_bind, id_pure,
    Array.size_push, Nat.le_refl, Nat.le_succ]
  case unregister s =>
    split <;> simp only [StateT.run_bind, StateT.run_modify, StateT.run_pure, id_bind, id_pure,
      Array.size_modify, Nat.le_refl]
  case broadcast t e =>
    rw [offerEvent_run]
    simp [size_offerAll]
  case addDrops t e delivered dropped => rw [countDrops_run]
  case receive ch =>
    rw [HubAction.perform_receive]
    exact Nat.le_of_eq (size_set! _ _ _).symm
  case closeReceiver ch => exact Nat.le_of_eq Array.size_modify.symm

theorem size_advance_register (t : Topic) (capacity : Nat) :
    (((register t capacity).advance n).run w).2.eventChannels.size = w.eventChannels.size + 1 :=
  Array.size_push _


/-! ## What the calls in progress hold apart -/

/-- The channel a registration made and has not yet put in the hub. -/
def madeChannel : HubCall → List Nat
  | .draw _ _ ch | .insert _ _ ch _ => [ch]
  | _ => []

/-- The number a registration drew and has not yet handed back. -/
def drawnNumber : HubCall → List Nat
  | .insert _ _ _ id => [id]
  | .countUp s _ _ => [s.id]
  | _ => []

/-- The number a registration drew and has not yet put in the hub. -/
def insertingNumber : HubCall → List Nat
  | .insert _ _ _ id => [id]
  | _ => []

/-- The registration a call puts in the hub at its next step. -/
def inserts : HubCall → List (Topic × Nat × Nat)
  | .insert t _ ch id => [(t, id, ch)]
  | _ => []

/-- The registration a registration put in the hub and has not yet counted. -/
def uncounted : HubCall → List (Topic × Nat × Nat)
  | .countUp s _ ch => [(s.topic, s.id, ch)]
  | _ => []

/-- The subscription a call in progress takes off. -/
def takingOff (c : HubCall) : List Subscription := c.action.takesOff

/-- The subscription a call took out of its row and has not yet counted down. -/
def removing : HubCall → List Subscription
  | .dropRow s | .countDown s => [s]
  | _ => []

theorem action_start (a : HubAction) : (start a).action = a := by
  cases a <;> rfl

theorem action_of_outcome {n : Nat} {w : World} {c next : HubCall}
    (led : c.outcome n w = .inl next) : next.action = c.action := by
  cases c with
  | unregister s =>
      simp only [outcome] at led
      split at led
      · cases led
        rfl
      · cases led
  | register t capacity => cases led; rfl
  | draw t capacity ch => cases led; rfl
  | insert t capacity ch id => cases led; rfl
  | dropRow s => cases led; rfl
  | broadcast t e => cases led; rfl
  | countUp s capacity ch => cases led
  | countDown s => cases led
  | addDrops t e delivered dropped => cases led
  | receive ch => cases led
  | closeReceiver ch => cases led

section Ghosts

variable {n : Nat} {w : World} (c : HubCall)

theorem after_exclusive (o : HubCall ⊕ HubAnswer) : (c.after o).1 = [] ∨ (c.after o).2 = [] := by
  cases o <;> simp [after]

theorem nodup_after {β : Type} (f : HubCall → List β) (single : ∀ c, (f c).length ≤ 1)
    (o : HubCall ⊕ HubAnswer) : ((c.after o).1.flatMap f).Nodup := by
  cases o with
  | inl next =>
      simp only [after, List.flatMap_cons, List.flatMap_nil, List.append_nil]
      have short := single next
      generalize f next = l at short ⊢
      match l, short with
      | [], _ => exact List.nodup_nil
      | [a], _ => exact List.nodup_singleton a
  | inr answer => simp [after]

theorem takingOff_after (x : Subscription) :
    (x ∈ (c.after (c.outcome n w)).1.flatMap takingOff → x ∈ c.takingOff) ∧
    (x ∈ (c.after (c.outcome n w)).2.flatMap (·.1.takesOff) → x ∈ c.takingOff) := by
  cases led : c.outcome n w with
  | inl next => simp [after, takingOff, action_of_outcome led]
  | inr answer => simp [after, takingOff]

/-- The step of a call taking a subscription off: on to the row's drop when
the registration was there, answered otherwise. -/
theorem after_unregister (s : Subscription) :
    (unregister s).after ((unregister s).outcome n w) =
      if ((w.node n).hub.removeEntry s).2.isSome then ([.dropRow s], [])
      else ([], [(.unregister s, .unregistered false)]) := by
  simp only [outcome]
  split <;> rfl

theorem madeChannel_after {x : Nat} (held : x ∈ (c.after (c.outcome n w)).1.flatMap madeChannel) :
    (x ∈ c.madeChannel ∧ c.inserts = []) ∨
      ∃ t capacity, c = .register t capacity ∧ x = w.eventChannels.size := by
  cases c with
  | unregister s =>
      rw [after_unregister] at held
      split at held <;> simp [madeChannel] at held
  | _ => simp_all [after, outcome, madeChannel, inserts]

theorem drawnNumber_after {x : Nat} (held : x ∈ (c.after (c.outcome n w)).1.flatMap drawnNumber) :
    x ∈ c.drawnNumber ∨ ∃ t capacity ch, c = .draw t capacity ch ∧ x = (w.node n).hub.nextId := by
  cases c with
  | unregister s =>
      rw [after_unregister] at held
      split at held <;> simp [drawnNumber] at held
  | _ => simp_all [after, outcome, drawnNumber]

theorem insertingNumber_after {x : Nat}
    (held : x ∈ (c.after (c.outcome n w)).1.flatMap insertingNumber) :
    ∃ t capacity ch, c = .draw t capacity ch ∧ x = (w.node n).hub.nextId := by
  cases c with
  | unregister s =>
      rw [after_unregister] at held
      split at held <;> simp [insertingNumber] at held
  | _ => simp_all [after, outcome, insertingNumber]

theorem uncounted_after {r : Topic × Nat × Nat}
    (held : r ∈ (c.after (c.outcome n w)).1.flatMap uncounted) : r ∈ c.inserts := by
  cases c with
  | unregister s =>
      rw [after_unregister] at held
      split at held <;> simp [uncounted] at held
  | _ => simp_all [after, outcome, uncounted, inserts]

theorem inserts_held {r : Topic × Nat × Nat} (putting : r ∈ c.inserts) :
    r.2.1 ∈ c.insertingNumber ∧ r.2.2 ∈ c.madeChannel := by
  cases c <;> simp_all [inserts, insertingNumber, madeChannel]

theorem insertingNumber_drawn {x : Nat} (held : x ∈ c.insertingNumber) : x ∈ c.drawnNumber := by
  cases c <;> simp_all [insertingNumber, drawnNumber]

theorem uncounted_drawn {r : Topic × Nat × Nat} (held : r ∈ c.uncounted) : r.2.1 ∈ c.drawnNumber := by
  cases c <;> simp_all [uncounted, drawnNumber]

theorem removing_takingOff {s : Subscription} (held : s ∈ c.removing) : s ∈ c.takingOff := by
  cases c <;> simp_all [removing, takingOff, action, HubAction.takesOff]

theorem countUp_of_issued_after {s : Subscription}
    (handed : s ∈ (c.after (c.outcome n w)).2.flatMap (·.2.subscription)) :
    ∃ capacity ch, c = .countUp s capacity ch := by
  cases c with
  | unregister s' =>
      rw [after_unregister] at handed
      split at handed <;> simp [HubAnswer.subscription] at handed
  | countUp s' capacity ch =>
      simp [after, outcome, HubAnswer.subscription] at handed
      exact ⟨capacity, ch, by rw [handed]⟩
  | _ => simp_all [after, outcome, HubAnswer.subscription]

theorem issued_after {s : Subscription}
    (handed : s ∈ (c.after (c.outcome n w)).2.flatMap (·.2.subscription)) : s.id ∈ c.drawnNumber := by
  obtain ⟨capacity, ch, rfl⟩ := c.countUp_of_issued_after handed
  simp [drawnNumber]

theorem action_of_finished {a : HubAction × HubAnswer} (done : a ∈ (c.after (c.outcome n w)).2) :
    a.1 = c.action := by
  cases led : c.outcome n w with
  | inl next => simp [led, after] at done
  | inr answer =>
      simp only [led, after, List.mem_singleton] at done
      rw [done]

/-- The stages of a call taking subscription `s` off. -/
theorem eq_of_action_unregister {s : Subscription} (acted : c.action = .unregister s) :
    c = .unregister s ∨ c = .dropRow s ∨ c = .countDown s := by
  cases c <;> simp_all [action]

theorem insertingNumber_drawn_flatMap {calls : List HubCall} {x : Nat}
    (held : x ∈ calls.flatMap insertingNumber) : x ∈ calls.flatMap drawnNumber := by
  obtain ⟨c, listed, mine⟩ := List.mem_flatMap.mp held
  exact List.mem_flatMap.mpr ⟨c, listed, c.insertingNumber_drawn mine⟩

theorem uncounted_drawn_flatMap {calls : List HubCall} {r : Topic × Nat × Nat}
    (held : r ∈ calls.flatMap uncounted) : r.2.1 ∈ calls.flatMap drawnNumber := by
  obtain ⟨c, listed, mine⟩ := List.mem_flatMap.mp held
  exact List.mem_flatMap.mpr ⟨c, listed, c.uncounted_drawn mine⟩

end Ghosts

/-! ## What a step does to the hub -/

section OnHub

variable (c : HubCall) {h : Hub}

theorem nextId_onHub : h.nextId ≤ (c.onHub h).nextId := by
  cases c <;> simp [onHub, Hub.drawId, Hub.insertEntry, Hub.countUp, Hub.dropEmptyRow, Hub.countDown]

theorem mem_registrations_onHub (wf : h.WellFormed) {r : Topic × Nat × Nat}
    (held : r ∈ (c.onHub h).registrations) : r ∈ h.registrations ∨ r ∈ c.inserts := by
  cases c with
  | insert t capacity ch id =>
      simpa [inserts] using (Hub.mem_registrations_insertEntry h t ch id wf.topics_nodup).mp held
  | unregister s =>
      rw [onHub, Hub.registrations_removeEntry h s wf] at held
      exact .inl (List.mem_filter.mp held).1
  | dropRow s =>
      rw [onHub, Hub.registrations_dropEmptyRow] at held
      exact .inl held
  | register t capacity => exact .inl held
  | draw t capacity ch => exact .inl held
  | countUp s capacity ch => exact .inl held
  | countDown s => exact .inl held
  | broadcast t e => exact .inl held
  | addDrops t e delivered dropped => exact .inl held
  | receive ch => exact .inl held
  | closeReceiver ch => exact .inl held

theorem mem_channels_onHub (wf : h.WellFormed) {x : Nat} (held : x ∈ (c.onHub h).channels) :
    x ∈ h.channels ∨ ∃ r ∈ c.inserts, r.2.2 = x := by
  obtain ⟨r, registered, rfl⟩ := List.mem_map.mp held
  rcases c.mem_registrations_onHub wf registered with old | putting
  · exact .inl (List.mem_map_of_mem old)
  · exact .inr ⟨r, putting, rfl⟩

theorem registrations_onHub_of_mem (wf : h.WellFormed) {r : Topic × Nat × Nat}
    (held : r ∈ h.registrations) (kept : ∀ s, c = .unregister s → Hub.names s r = false) :
    r ∈ (c.onHub h).registrations := by
  cases c with
  | insert t capacity ch id =>
      exact (Hub.mem_registrations_insertEntry h t ch id wf.topics_nodup).mpr (.inl held)
  | unregister s =>
      rw [onHub, Hub.registrations_removeEntry h s wf]
      exact List.mem_filter.mpr ⟨held, by simp [kept s rfl]⟩
  | dropRow s =>
      rw [onHub, Hub.registrations_dropEmptyRow]
      exact held
  | register t capacity => exact held
  | draw t capacity ch => exact held
  | countUp s capacity ch => exact held
  | countDown s => exact held
  | broadcast t e => exact held
  | addDrops t e delivered dropped => exact held
  | receive ch => exact held
  | closeReceiver ch => exact held

theorem inserts_registered (wf : h.WellFormed) {r : Topic × Nat × Nat} (putting : r ∈ c.inserts) :
    r ∈ (c.onHub h).registrations := by
  cases c with
  | insert t capacity ch id =>
      rw [List.mem_singleton.mp putting]
      exact (Hub.mem_registrations_insertEntry h t ch id wf.topics_nodup).mpr (.inr rfl)
  | _ => cases putting

/-- A step keeps the registry's shape when what it puts in the hub has a
number and a channel the hub does not hold, and a number below the next. -/
theorem wellFormed_onHub (wf : h.WellFormed)
    (fresh : ∀ r ∈ c.inserts, r.2.1 ∉ h.registrations.map (·.2.1) ∧ r.2.2 ∉ h.channels ∧
      r.2.1 < h.nextId) :
    (c.onHub h).WellFormed := by
  cases c with
  | draw t capacity ch => exact Hub.WellFormed.drawId h wf
  | insert t capacity ch id =>
      obtain ⟨freshNumber, freshChannel, below⟩ := fresh (t, id, ch) (List.mem_singleton_self _)
      exact Hub.WellFormed.insertEntry h t ch wf freshNumber freshChannel below
  | countUp s capacity ch => exact Hub.WellFormed.countUp h wf
  | unregister s => exact Hub.WellFormed.removeEntry h s wf
  | dropRow s => exact Hub.WellFormed.dropEmptyRow h s.topic wf
  | countDown s => exact Hub.WellFormed.countDown h wf
  | addDrops t e delivered dropped => exact wf.withDropped _
  | register t capacity => exact wf
  | broadcast t e => exact wf
  | receive ch => exact wf
  | closeReceiver ch => exact wf

theorem mem_registrations_onHub_iff (wf : h.WellFormed) {r : Topic × Nat × Nat}
    (notInserted : r ∉ c.inserts) :
    r ∈ (c.onHub h).registrations ↔
      r ∈ h.registrations ∧ ∀ s, c = .unregister s → Hub.names s r = false := by
  constructor
  · intro held
    refine ⟨(c.mem_registrations_onHub wf held).resolve_right notInserted, ?_⟩
    rintro s rfl
    rw [onHub, Hub.registrations_removeEntry h s wf] at held
    simpa using (List.mem_filter.mp held).2
  · exact fun ⟨held, kept⟩ => c.registrations_onHub_of_mem wf held kept

/-- An empty row after a step was empty before, and is not the row the step
dropped; or the step just emptied it by taking out its last registration. -/
theorem empty_row_onHub {row : Topic × List (Nat × Nat)} (held : row ∈ (c.onHub h).topics)
    (empty : row.2 = []) :
    (row ∈ h.topics ∧ ∀ s, c = .dropRow s → row.1 ≠ s.topic) ∨
      ∃ s, c = .unregister s ∧ (h.removeEntry s).2.isSome ∧ row.1 = s.topic := by
  cases c with
  | insert t capacity ch id =>
      exact .inl ⟨(Hub.empty_row_insertEntry held empty).1, fun _ called => by cases called⟩
  | unregister s =>
      cases found : (h.removeEntry s).2 with
      | none =>
          rw [onHub, Hub.removeEntry_of_absent found] at held
          exact .inl ⟨held, fun _ called => by cases called⟩
      | some ch =>
          rcases Hub.empty_row_removeEntry held with old | same
          · exact .inl ⟨old, fun _ called => by cases called⟩
          · exact .inr ⟨s, rfl, by simp [found], same⟩
  | dropRow s =>
      obtain ⟨old, kept⟩ := Hub.mem_topics_dropEmptyRow.mp held
      refine .inl ⟨old, ?_⟩
      rintro s' called same
      cases called
      exact kept ⟨same, empty⟩
  | register t capacity => exact .inl ⟨held, fun _ called => by cases called⟩
  | draw t capacity ch => exact .inl ⟨held, fun _ called => by cases called⟩
  | countUp s capacity ch => exact .inl ⟨held, fun _ called => by cases called⟩
  | countDown s => exact .inl ⟨held, fun _ called => by cases called⟩
  | broadcast t e => exact .inl ⟨held, fun _ called => by cases called⟩
  | addDrops t e delivered dropped => exact .inl ⟨held, fun _ called => by cases called⟩
  | receive ch => exact .inl ⟨held, fun _ called => by cases called⟩
  | closeReceiver ch => exact .inl ⟨held, fun _ called => by cases called⟩

end OnHub

section Counters

variable {n : Nat} {w : World} (c : HubCall)

/-- What one step does to the subscriber count and to the registrations it
lags behind: a registration is counted after it is put in its row, and a
removal counted down after it is taken out. -/
theorem balance (wf : (w.node n).hub.WellFormed)
    (pos : ∀ s, c = .countDown s → 1 ≤ (w.node n).hub.subscribers) :
    (c.onHub (w.node n).hub).subscribers + ((c.after (c.outcome n w)).1.flatMap uncounted).length +
        (w.node n).hub.registrations.length + c.removing.length =
      (w.node n).hub.subscribers + c.uncounted.length +
        (c.onHub (w.node n).hub).registrations.length +
        ((c.after (c.outcome n w)).1.flatMap removing).length := by
  cases c with
  | insert t capacity ch id =>
      have grown := (Hub.registrations_insertEntry_perm _ t ch id wf.topics_nodup).length_eq
      simp only [List.length_append, List.length_singleton] at grown
      simp [onHub, after, outcome, uncounted, removing, grown]
      omega
  | unregister s =>
      rw [after_unregister]
      cases found : ((w.node n).hub.removeEntry s).2 with
      | none => simp [onHub, Hub.removeEntry_of_absent found, uncounted, removing]
      | some ch =>
          have present := (Hub.removeEntry_channel_eq_some_iff _ s wf).mp found
          have shrunk := Hub.length_filter_names wf present
          simp [onHub, Hub.registrations_removeEntry _ s wf, uncounted, removing]
          omega
  | countDown s =>
      have counted := pos s rfl
      simp [onHub, after, outcome, uncounted, removing]
      omega
  | countUp s capacity ch => simp [onHub, after, outcome, uncounted, removing]
  | dropRow s => simp [onHub, after, outcome, uncounted, removing]
  | register t capacity => simp [onHub, after, outcome, uncounted, removing]
  | draw t capacity ch => simp [onHub, after, outcome, uncounted, removing]
  | broadcast t e => simp [onHub, after, outcome, uncounted, removing]
  | addDrops t e delivered dropped => simp [onHub, after, outcome, uncounted, removing]
  | receive ch => simp [onHub, after, outcome, uncounted, removing]
  | closeReceiver ch => simp [onHub, after, outcome, uncounted, removing]

/-- Only a broadcast's last step adds to the drop count, and by what the
broadcast answers. -/
theorem dropped_onHub :
    (c.onHub (w.node n).hub).dropped =
      (w.node n).hub.dropped + ((c.after (c.outcome n w)).2.map (·.2.droppedCount)).sum := by
  cases c with
  | unregister s =>
      rw [after_unregister]
      split <;> simp [onHub, HubAnswer.droppedCount]
  | addDrops t e delivered dropped => simp [onHub, after, outcome, HubAnswer.droppedCount]
  | _ => simp [onHub, after, outcome, HubAnswer.droppedCount]

end Counters

end HubCall


/-! ## The calls in progress, split around the one that steps -/

section Split

variable {β : Type} (f : HubCall → List β) (pre post : List HubCall)

theorem flatMap_split_perm (middle : List HubCall) :
    ((pre ++ middle ++ post).flatMap f).Perm (middle.flatMap f ++ (pre ++ post).flatMap f) := by
  simp only [List.flatMap_append, ← List.append_assoc]
  exact List.perm_append_comm.append_right _

theorem mem_flatMap_split {middle : List HubCall} {x : β} :
    x ∈ (pre ++ middle ++ post).flatMap f ↔ x ∈ middle.flatMap f ∨ x ∈ (pre ++ post).flatMap f := by
  rw [(flatMap_split_perm f pre post middle).mem_iff, List.mem_append]

theorem nodup_flatMap_split {middle : List HubCall} :
    ((pre ++ middle ++ post).flatMap f).Nodup ↔
      (middle.flatMap f).Nodup ∧ ((pre ++ post).flatMap f).Nodup ∧
        ∀ a ∈ middle.flatMap f, ∀ b ∈ (pre ++ post).flatMap f, a ≠ b := by
  rw [(flatMap_split_perm f pre post middle).nodup_iff, List.nodup_append]

end Split

/-- The pool after call `c`, between `pre` and `post` among the calls in
progress, took its step to cluster `w'`. -/
def HubPool.stepped (p : HubPool) (n : Nat) (pre : List HubCall) (c : HubCall)
    (post : List HubCall) (w' : World) : HubPool where
  world := w'
  running := pre ++ (c.after (c.outcome n p.world)).1 ++ post
  finished := p.finished ++ (c.after (c.outcome n p.world)).2

theorem HubPool.Step.advance_eq {n : Nat} (p : HubPool) (pre post : List HubCall) (c : HubCall) :
    ({ world := ((c.advance n).run p.world).2
       running := pre ++ (c.after ((c.advance n).run p.world).1).1 ++ post
       finished := p.finished ++ (c.after ((c.advance n).run p.world).1).2 } : HubPool) =
      p.stepped n pre c post ((c.advance n).run p.world).2 := by
  rw [HubCall.advance_fst]
  rfl

theorem HubPool.issued_stepped (p : HubPool) (n : Nat) (pre : List HubCall) (c : HubCall)
    (post : List HubCall) (w' : World) :
    (p.stepped n pre c post w').issued =
      p.issued ++ (c.after (c.outcome n p.world)).2.flatMap (·.2.subscription) := by
  simp [HubPool.stepped, HubPool.issued]

/-! ## The shape every pool keeps -/

/-- What the pools of calls on node `n`'s hub keep: the registry's shape with
its channels allocated; the channels and numbers of the registrations in
progress, apart from the hub's and from each other; and every subscription a
call names, handed back by a registration. -/
structure HubPool.Shape (n : Nat) (p : HubPool) : Prop where
  present : n < p.world.nodes.size
  wellFormed : (p.world.node n).hub.WellFormed
  allocated : ∀ x ∈ (p.world.node n).hub.channels, x < p.world.eventChannels.size
  made : ∀ x ∈ p.running.flatMap HubCall.madeChannel,
    x < p.world.eventChannels.size ∧ x ∉ (p.world.node n).hub.channels
  madeNodup : (p.running.flatMap HubCall.madeChannel).Nodup
  drawn : ∀ x ∈ p.running.flatMap HubCall.drawnNumber,
    x < (p.world.node n).hub.nextId ∧ x ∉ p.issued.map (·.id)
  drawnNodup : (p.running.flatMap HubCall.drawnNumber).Nodup
  inserting : ∀ x ∈ p.running.flatMap HubCall.insertingNumber,
    x ∉ (p.world.node n).hub.registrations.map (·.2.1)
  uncounted : ∀ r ∈ p.running.flatMap HubCall.uncounted, r ∈ (p.world.node n).hub.registrations
  issued : ∀ s ∈ p.issued, s.id < (p.world.node n).hub.nextId
  takingOff : ∀ s ∈ p.running.flatMap HubCall.takingOff, s ∈ p.issued
  tookOff : ∀ s ∈ p.finished.flatMap (·.1.takesOff), s ∈ p.issued

namespace HubPool.Shape

variable {n : Nat}

theorem start {w : World} (present : n < w.nodes.size) (empty : (w.node n).hub.topics = []) :
    HubPool.Shape n { world := w } where
  present := present
  wellFormed := (HubInv.of_empty present empty).wellFormed
  allocated := (HubInv.of_empty present empty).allocated
  made := by simp
  madeNodup := by simp
  drawn := by simp
  drawnNodup := by simp
  inserting := by simp
  uncounted := by simp
  issued := by simp [HubPool.issued]
  takingOff := by simp
  tookOff := by simp

/-- Starting a call changes nothing of the hub; it names only a subscription
a registration handed back. -/
theorem started {p : HubPool} (shape : p.Shape n) (a : HubAction)
    (named : ∀ s ∈ a.takesOff, s ∈ p.issued) :
    HubPool.Shape n { p with running := p.running ++ [HubCall.start a] } := by
  have quiet : ∀ {β : Type} (f : HubCall → List β), f (HubCall.start a) = [] →
      (p.running ++ [HubCall.start a]).flatMap f = p.running.flatMap f := by
    intro β f none
    simp [none]
  have starts : (HubCall.start a).madeChannel = [] ∧ (HubCall.start a).drawnNumber = [] ∧
      (HubCall.start a).insertingNumber = [] ∧ (HubCall.start a).uncounted = [] := by
    cases a <;> exact ⟨rfl, rfl, rfl, rfl⟩
  refine ⟨shape.present, shape.wellFormed, shape.allocated, ?_, ?_, ?_, ?_, ?_, ?_,
    shape.issued, ?_, shape.tookOff⟩
  · rw [quiet _ starts.1]
    exact shape.made
  · rw [quiet _ starts.1]
    exact shape.madeNodup
  · rw [quiet _ starts.2.1]
    exact shape.drawn
  · rw [quiet _ starts.2.1]
    exact shape.drawnNodup
  · rw [quiet _ starts.2.2.1]
    exact shape.inserting
  · rw [quiet _ starts.2.2.2]
    exact shape.uncounted
  · intro s taking
    rw [List.flatMap_append, List.mem_append] at taking
    rcases taking with old | new
    · exact shape.takingOff s old
    · exact named s (by simpa [HubCall.takingOff, HubCall.action_start] using new)

section Advance

variable {p : HubPool} {pre post : List HubCall} {c : HubCall} {w' : World}

section Running

variable (running : p.running = pre ++ [c] ++ post)
include running

theorem of_call {β : Type} {f : HubCall → List β} {x : β} (held : x ∈ f c) :
    x ∈ p.running.flatMap f := by
  rw [running, mem_flatMap_split]
  exact .inl (by simpa using held)

theorem of_rest {β : Type} {f : HubCall → List β} {x : β} (held : x ∈ (pre ++ post).flatMap f) :
    x ∈ p.running.flatMap f := by
  rw [running, mem_flatMap_split]
  exact .inr held

theorem apart {β : Type} {f : HubCall → List β} (nodup : (p.running.flatMap f).Nodup) {x : β}
    (mine : x ∈ f c) (theirs : x ∈ (pre ++ post).flatMap f) : False := by
  rw [running, nodup_flatMap_split] at nodup
  exact nodup.2.2 x (by simpa using mine) x theirs rfl

end Running

variable (shape : p.Shape n) (running : p.running = pre ++ [c] ++ post)
include shape running

theorem fresh_inserts : ∀ r ∈ c.inserts, r.2.1 ∉ (p.world.node n).hub.registrations.map (·.2.1) ∧
    r.2.2 ∉ (p.world.node n).hub.channels ∧ r.2.1 < (p.world.node n).hub.nextId := by
  intro r putting
  obtain ⟨number, channel⟩ := c.inserts_held putting
  exact ⟨shape.inserting _ (of_call running number),
    (shape.made _ (of_call running channel)).2,
    (shape.drawn _ (of_call running (c.insertingNumber_drawn number))).1⟩

theorem stepped_allocated (hub : (w'.node n).hub = c.onHub (p.world.node n).hub)
    (grows : p.world.eventChannels.size ≤ w'.eventChannels.size) :
    ∀ x ∈ (w'.node n).hub.channels, x < w'.eventChannels.size := by
  intro x held
  rw [hub] at held
  rcases c.mem_channels_onHub shape.wellFormed held with old | ⟨r, putting, rfl⟩
  · exact Nat.lt_of_lt_of_le (shape.allocated _ old) grows
  · exact Nat.lt_of_lt_of_le (shape.made _ (of_call running (c.inserts_held putting).2)).1 grows

theorem stepped_made (hub : (w'.node n).hub = c.onHub (p.world.node n).hub)
    (grows : p.world.eventChannels.size ≤ w'.eventChannels.size)
    (registerGrows : ∀ t capacity, c = .register t capacity →
      p.world.eventChannels.size < w'.eventChannels.size) :
    ∀ x ∈ (p.stepped n pre c post w').running.flatMap HubCall.madeChannel,
      x < w'.eventChannels.size ∧ x ∉ (w'.node n).hub.channels := by
  intro x held
  rw [HubPool.stepped, mem_flatMap_split] at held
  rw [hub]
  rcases held with next | rest
  · rcases c.madeChannel_after next with ⟨mine, noInserts⟩ | ⟨t, capacity, rfl, rfl⟩
    · obtain ⟨allocated, unheld⟩ := shape.made x (of_call running mine)
      refine ⟨Nat.lt_of_lt_of_le allocated grows, fun inHub => ?_⟩
      rcases c.mem_channels_onHub shape.wellFormed inHub with old | ⟨r, putting, _⟩
      · exact unheld old
      · simp [noInserts] at putting
    · -- the channel just made is past every channel allocated before
      exact ⟨registerGrows t capacity rfl, fun inHub => Nat.lt_irrefl _ (shape.allocated _ inHub)⟩
  · obtain ⟨allocated, unheld⟩ := shape.made x (of_rest running rest)
    refine ⟨Nat.lt_of_lt_of_le allocated grows, fun inHub => ?_⟩
    rcases c.mem_channels_onHub shape.wellFormed inHub with old | ⟨r, putting, rfl⟩
    · exact unheld old
    · exact apart running shape.madeNodup (c.inserts_held putting).2 rest

theorem stepped_madeNodup :
    ((p.stepped n pre c post w').running.flatMap HubCall.madeChannel).Nodup := by
  have old := shape.madeNodup
  rw [running, nodup_flatMap_split] at old
  rw [HubPool.stepped, nodup_flatMap_split]
  refine ⟨c.nodup_after _ (fun c => by cases c <;> simp [HubCall.madeChannel]) _, old.2.1, ?_⟩
  intro a next b rest same
  subst same
  rcases c.madeChannel_after next with ⟨mine, _⟩ | ⟨t, capacity, rfl, rfl⟩
  · exact apart running shape.madeNodup mine rest
  · -- every channel made before is allocated, below the new one
    exact Nat.lt_irrefl _ (shape.made _ (of_rest running rest)).1

theorem stepped_drawn (hub : (w'.node n).hub = c.onHub (p.world.node n).hub) :
    ∀ x ∈ (p.stepped n pre c post w').running.flatMap HubCall.drawnNumber,
      x < (w'.node n).hub.nextId ∧ x ∉ (p.stepped n pre c post w').issued.map (·.id) := by
  intro x held
  rw [HubPool.issued_stepped, hub]
  rw [HubPool.stepped, mem_flatMap_split] at held
  have grows := c.nextId_onHub (h := (p.world.node n).hub)
  rcases held with next | rest
  · have nothingFinished : (c.after (c.outcome n p.world)).2 = [] :=
      (c.after_exclusive _).resolve_left fun none => by simp [none] at next
    rw [nothingFinished, List.flatMap_nil, List.append_nil]
    rcases c.drawnNumber_after next with mine | ⟨t, capacity, ch, rfl, rfl⟩
    · obtain ⟨below, unissued⟩ := shape.drawn x (of_call running mine)
      exact ⟨Nat.lt_of_lt_of_le below grows, unissued⟩
    · -- the number just drawn is above every number handed back
      refine ⟨Nat.lt_succ_self _, fun issued => ?_⟩
      obtain ⟨s, handed, same⟩ := List.mem_map.mp issued
      exact Nat.lt_irrefl _ (same ▸ shape.issued s handed)
  · obtain ⟨below, unissued⟩ := shape.drawn x (of_rest running rest)
    refine ⟨Nat.lt_of_lt_of_le below grows, fun issued => ?_⟩
    rw [List.map_append, List.mem_append] at issued
    rcases issued with old | new
    · exact unissued old
    · obtain ⟨s, handed, rfl⟩ := List.mem_map.mp new
      exact apart running shape.drawnNodup (c.issued_after handed) rest

theorem stepped_drawnNodup :
    ((p.stepped n pre c post w').running.flatMap HubCall.drawnNumber).Nodup := by
  have old := shape.drawnNodup
  rw [running, nodup_flatMap_split] at old
  rw [HubPool.stepped, nodup_flatMap_split]
  refine ⟨c.nodup_after _ (fun c => by cases c <;> simp [HubCall.drawnNumber]) _, old.2.1, ?_⟩
  intro a next b rest same
  subst same
  rcases c.drawnNumber_after next with mine | ⟨t, capacity, ch, rfl, rfl⟩
  · exact apart running shape.drawnNodup mine rest
  · exact Nat.lt_irrefl _ (shape.drawn _ (of_rest running rest)).1

theorem stepped_inserting (hub : (w'.node n).hub = c.onHub (p.world.node n).hub) :
    ∀ x ∈ (p.stepped n pre c post w').running.flatMap HubCall.insertingNumber,
      x ∉ (w'.node n).hub.registrations.map (·.2.1) := by
  intro x held inHub
  rw [hub] at inHub
  obtain ⟨r, registered, rfl⟩ := List.mem_map.mp inHub
  rw [HubPool.stepped, mem_flatMap_split] at held
  rcases held with next | rest
  · obtain ⟨t, capacity, ch, rfl, same⟩ := c.insertingNumber_after next
    -- the number just drawn is above every registration's
    exact Nat.lt_irrefl _ (same ▸ shape.wellFormed.numbers_lt r registered)
  · rcases c.mem_registrations_onHub shape.wellFormed registered with old | putting
    · exact shape.inserting _ (of_rest running rest) (List.mem_map_of_mem old)
    · exact apart running shape.drawnNodup (c.insertingNumber_drawn (c.inserts_held putting).1)
        (HubCall.insertingNumber_drawn_flatMap rest)

theorem stepped_uncounted (hub : (w'.node n).hub = c.onHub (p.world.node n).hub) :
    ∀ r ∈ (p.stepped n pre c post w').running.flatMap HubCall.uncounted,
      r ∈ (w'.node n).hub.registrations := by
  intro r held
  rw [hub]
  rw [HubPool.stepped, mem_flatMap_split] at held
  rcases held with next | rest
  · exact c.inserts_registered shape.wellFormed (c.uncounted_after next)
  · refine c.registrations_onHub_of_mem shape.wellFormed (shape.uncounted r (of_rest running rest)) ?_
    rintro s rfl
    -- the subscription taken off was handed back, and this registration's number was not
    have handed := shape.takingOff s (of_call running (by simp [HubCall.takingOff, HubCall.action,
      HubAction.takesOff]))
    have unissued := (shape.drawn r.2.1 (of_rest running (HubCall.uncounted_drawn_flatMap rest))).2
    simp only [Hub.names, Bool.and_eq_false_iff, beq_eq_false_iff_ne]
    exact .inr fun same => unissued (List.mem_map.mpr ⟨s, handed, same.symm⟩)

theorem stepped_issued (hub : (w'.node n).hub = c.onHub (p.world.node n).hub) :
    ∀ s ∈ (p.stepped n pre c post w').issued, s.id < (w'.node n).hub.nextId := by
  intro s handed
  rw [HubPool.issued_stepped, List.mem_append] at handed
  rw [hub]
  have grows := c.nextId_onHub (h := (p.world.node n).hub)
  rcases handed with old | new
  · exact Nat.lt_of_lt_of_le (shape.issued s old) grows
  · exact Nat.lt_of_lt_of_le (shape.drawn _ (of_call running (c.issued_after new))).1 grows

theorem stepped_takingOff :
    ∀ s ∈ (p.stepped n pre c post w').running.flatMap HubCall.takingOff,
      s ∈ (p.stepped n pre c post w').issued := by
  intro s taking
  rw [HubPool.issued_stepped, List.mem_append]
  rw [HubPool.stepped, mem_flatMap_split] at taking
  rcases taking with next | rest
  · exact .inl (shape.takingOff s (of_call running ((c.takingOff_after s).1 next)))
  · exact .inl (shape.takingOff s (of_rest running rest))

theorem stepped_tookOff :
    ∀ s ∈ (p.stepped n pre c post w').finished.flatMap (·.1.takesOff),
      s ∈ (p.stepped n pre c post w').issued := by
  intro s took
  rw [HubPool.issued_stepped, List.mem_append]
  simp only [HubPool.stepped, List.flatMap_append, List.mem_append] at took
  rcases took with old | new
  · exact .inl (shape.tookOff s old)
  · exact .inl (shape.takingOff s (of_call running ((c.takingOff_after s).2 new)))

theorem stepped (nodes : w'.nodes.size = p.world.nodes.size)
    (hub : (w'.node n).hub = c.onHub (p.world.node n).hub)
    (grows : p.world.eventChannels.size ≤ w'.eventChannels.size)
    (registerGrows : ∀ t capacity, c = .register t capacity →
      p.world.eventChannels.size < w'.eventChannels.size) :
    (p.stepped n pre c post w').Shape n where
  present := nodes ▸ shape.present
  wellFormed := hub ▸ c.wellFormed_onHub shape.wellFormed (fresh_inserts shape running)
  allocated := stepped_allocated shape running hub grows
  made := stepped_made shape running hub grows registerGrows
  madeNodup := stepped_madeNodup shape running
  drawn := stepped_drawn shape running hub
  drawnNodup := stepped_drawnNodup shape running
  inserting := stepped_inserting shape running hub
  uncounted := stepped_uncounted shape running hub
  issued := stepped_issued shape running hub
  takingOff := stepped_takingOff shape running
  tookOff := stepped_tookOff shape running

end Advance

theorem step {p q : HubPool} (shape : p.Shape n) (step : HubPool.Step n p q) : q.Shape n := by
  cases step with
  | start a named => exact shape.started a named
  | advance pre post c running =>
      rw [HubPool.Step.advance_eq]
      refine shape.stepped running (HubCall.nodes_size_advance n p.world c)
        (HubCall.hub_advance n p.world shape.present c) (HubCall.size_advance n p.world c) ?_
      rintro t capacity rfl
      rw [HubCall.size_advance_register]
      exact Nat.lt_succ_self _

theorem reachable {w : World} {p : HubPool} (present : n < w.nodes.size)
    (empty : (w.node n).hub.topics = []) (reached : HubPool.Reachable n w p) : p.Shape n := by
  induction reached with
  | refl => exact start present empty
  | tail _ step shape => exact shape.step step

end HubPool.Shape

end Herald.Cluster

namespace Herald.Hub

variable {h : Hub} {s : Subscription}

theorem countP_names_of_mem (wf : h.WellFormed) {ch : Nat}
    (present : (s.topic, s.id, ch) ∈ h.registrations) :
    h.registrations.countP (names s ·) = 1 := by
  have removed := length_filter_names wf present
  have split := List.length_eq_length_filter_add (names s ·) (l := h.registrations)
  rw [List.countP_eq_length_filter]
  omega

theorem countP_names_of_absent (absent : ∀ ch, (s.topic, s.id, ch) ∉ h.registrations) :
    h.registrations.countP (names s ·) = 0 := by
  refine List.countP_eq_zero.mpr fun r present named => ?_
  obtain ⟨t, id, ch⟩ := r
  simp only [names, Bool.and_eq_true, beq_iff_eq] at named
  obtain ⟨rfl, rfl⟩ := named
  exact absent ch present

theorem countP_names_removeEntry (wf : h.WellFormed) :
    (h.removeEntry s).1.registrations.countP (names s ·) = 0 := by
  rw [registrations_removeEntry h s wf, List.countP_filter]
  exact List.countP_eq_zero.mpr fun r _ => by simp

theorem countP_names_removeEntry_other (wf : h.WellFormed) {s' : Subscription} (other : s' ≠ s) :
    (h.removeEntry s').1.registrations.countP (names s ·) = h.registrations.countP (names s ·) := by
  rw [registrations_removeEntry h s' wf, List.countP_filter]
  refine List.countP_congr fun r _ => ?_
  -- one registration is not named by two subscriptions
  obtain ⟨t, id, ch⟩ := r
  obtain ⟨t', id'⟩ := s'
  obtain ⟨t₀, id₀⟩ := s
  simp only [names, Bool.and_eq_true, beq_iff_eq, Bool.not_and, Bool.or_eq_true, Bool.not_eq_true',
    beq_eq_false_iff_ne]
  constructor
  · exact fun both => both.1
  · rintro ⟨rfl, rfl⟩
    exact ⟨⟨rfl, rfl⟩, by
      by_cases sameTopic : t = t'
      · exact .inr fun sameId => other (by rw [sameTopic, sameId])
      · exact .inl sameTopic⟩

end Herald.Hub

namespace Herald.Cluster

/-! ## The counters along every interleaving -/

/-- How often a subscription was removed: by the finished calls that answered
that they removed it, and by the calls in progress past its removal. -/
def HubPool.removals (p : HubPool) (s : Subscription) : Nat :=
  p.finished.count (.unregister s, .unregistered true) + (p.running.flatMap HubCall.removing).count s

/-- What node `n`'s hub counts along every interleaving, from a drop count of
`dropped`: a row is empty only while a removal is about to drop it; the
subscriber count is behind the registrations by the ones not yet counted and
ahead by the removals not yet counted down; a subscription handed back is
still registered or was removed, exactly once, and is not registered once a
call taking it off has finished; and the drops are the ones the finished
broadcasts answered. -/
structure HubPool.Counts (n dropped : Nat) (p : HubPool) : Prop where
  emptyRows : ∀ row ∈ (p.world.node n).hub.topics, row.2 = [] →
    ∃ s, HubCall.dropRow s ∈ p.running ∧ s.topic = row.1
  subscribers : (p.world.node n).hub.subscribers + (p.running.flatMap HubCall.uncounted).length =
    (p.world.node n).hub.registrations.length + (p.running.flatMap HubCall.removing).length
  removedOnce : ∀ s ∈ p.issued,
    p.removals s + (p.world.node n).hub.registrations.countP (Hub.names s ·) = 1
  takenGone : ∀ s, HubAction.unregister s ∈ p.finished.map (·.1) →
    (p.world.node n).hub.registrations.countP (Hub.names s ·) = 0
  dropped : (p.world.node n).hub.dropped = dropped + (p.finished.map (·.2.droppedCount)).sum

theorem HubCall.uncountedNumbers_sublist (calls : List HubCall) :
    ((calls.flatMap uncounted).map (·.2.1)).Sublist (calls.flatMap drawnNumber) := by
  induction calls with
  | nil => exact List.Sublist.slnil
  | cons c rest inductionHypothesis =>
      simp only [List.flatMap_cons, List.map_append]
      refine List.Sublist.append ?_ inductionHypothesis
      cases c <;> simp [uncounted, drawnNumber]

variable {n dropped : Nat}

theorem HubPool.Shape.uncounted_length_le {p : HubPool} (shape : p.Shape n) :
    (p.running.flatMap HubCall.uncounted).length ≤ (p.world.node n).hub.registrations.length := by
  have nodup : (p.running.flatMap HubCall.uncounted).Nodup :=
    List.Nodup.of_map (·.2.1) ((HubCall.uncountedNumbers_sublist _).nodup shape.drawnNodup)
  exact (nodup.subperm shape.uncounted).length_le

namespace HubPool.Counts

/-- A count down finds the subscriber count at one or more: the removal it
counts down is among those the count is ahead by. -/
theorem subscribers_pos {p : HubPool} (shape : p.Shape n) (counts : p.Counts n dropped)
    {s : Subscription} (waiting : HubCall.countDown s ∈ p.running) :
    1 ≤ (p.world.node n).hub.subscribers := by
  have behind := shape.uncounted_length_le
  have removing : 0 < (p.running.flatMap HubCall.removing).length :=
    List.length_pos_of_mem (List.mem_flatMap.mpr ⟨_, waiting, List.mem_singleton_self s⟩)
  have balanced := counts.subscribers
  omega

/-- A subscription removed, or named by a finished call taking it off, names
no registration. -/
theorem countP_of_removed {p : HubPool} (counts : p.Counts n dropped) {s : Subscription}
    (handed : s ∈ p.issued) (removed : 0 < p.removals s) :
    (p.world.node n).hub.registrations.countP (Hub.names s ·) = 0 := by
  have once := counts.removedOnce s handed
  omega

theorem start {w : World} (empty : (w.node n).hub.topics = [])
    (noSubscribers : (w.node n).hub.subscribers = 0) :
    HubPool.Counts n (w.node n).hub.dropped { world := w } where
  emptyRows := by simp [empty]
  subscribers := by simp [Hub.registrations, empty, noSubscribers]
  removedOnce := by simp [HubPool.issued]
  takenGone := by simp
  dropped := by simp

theorem started {p : HubPool} (counts : p.Counts n dropped) (a : HubAction) :
    HubPool.Counts n dropped { p with running := p.running ++ [HubCall.start a] } := by
  have quiet : (HubCall.start a).uncounted = [] ∧ (HubCall.start a).removing = [] := by
    cases a <;> exact ⟨rfl, rfl⟩
  have sameRemovals : ∀ s, ({ p with running := p.running ++ [HubCall.start a] } : HubPool).removals s =
      p.removals s := by
    intro s
    simp [HubPool.removals, quiet.2]
  refine ⟨fun row held empty => ?_, ?_, fun s handed => ?_, counts.takenGone, counts.dropped⟩
  · obtain ⟨s, waiting, same⟩ := counts.emptyRows row held empty
    exact ⟨s, List.mem_append_left _ waiting, same⟩
  · simpa [quiet.1, quiet.2] using counts.subscribers
  · rw [sameRemovals]
    exact counts.removedOnce s handed

end HubPool.Counts

theorem HubPool.Shape.removals_of_unissued {p : HubPool} (shape : p.Shape n) {s : Subscription}
    (unissued : s ∉ p.issued) : p.removals s = 0 := by
  have finished : p.finished.count (.unregister s, .unregistered true) = 0 :=
    List.count_eq_zero.mpr fun listed =>
      unissued (shape.tookOff s (List.mem_flatMap.mpr ⟨_, listed, by simp [HubAction.takesOff]⟩))
  have removing : (p.running.flatMap HubCall.removing).count s = 0 :=
    List.count_eq_zero.mpr fun listed => by
      obtain ⟨c, waiting, mine⟩ := List.mem_flatMap.mp listed
      exact unissued (shape.takingOff s (List.mem_flatMap.mpr ⟨c, waiting, c.removing_takingOff mine⟩))
  simp only [HubPool.removals, finished, removing]

theorem HubPool.removals_stepped (n : Nat) {p : HubPool} {pre post : List HubCall} {c : HubCall} (w' : World)
    (running : p.running = pre ++ [c] ++ post) (s : Subscription) :
    (p.stepped n pre c post w').removals s + c.removing.count s =
      p.removals s + (c.after (c.outcome n p.world)).2.count (.unregister s, .unregistered true) +
        ((c.after (c.outcome n p.world)).1.flatMap HubCall.removing).count s := by
  unfold HubPool.removals HubPool.stepped
  rw [running, (flatMap_split_perm _ pre post _).count_eq, (flatMap_split_perm _ pre post _).count_eq]
  simp only [List.count_append, List.flatMap_cons, List.flatMap_nil, List.append_nil]
  omega

/-- A step neither taking a subscription out of its row nor counting a
removal down leaves every removal count as it was. -/
theorem HubPool.removals_stepped_quiet (n : Nat) {p : HubPool} {pre post : List HubCall} {c : HubCall}
    (w' : World) (running : p.running = pre ++ [c] ++ post) (notTaking : ∀ s, c ≠ .unregister s)
    (notCounting : ∀ s, c ≠ .countDown s) (s : Subscription) :
    (p.stepped n pre c post w').removals s = p.removals s := by
  have moved := HubPool.removals_stepped n w' running s
  cases c with
  | unregister s' => exact absurd rfl (notTaking s')
  | countDown s' => exact absurd rfl (notCounting s')
  | _ =>
      simp [HubCall.after, HubCall.outcome, HubCall.removing] at moved
      omega

namespace HubPool.Counts

section Advance

variable {p : HubPool} {pre post : List HubCall} {c : HubCall} {w' : World}

/-- A step leaves the registrations a handed-back subscription names as they
were, unless it is the step taking that subscription out of its row. -/
theorem countP_stepped (shape : p.Shape n) (running : p.running = pre ++ [c] ++ post)
    (hub : (w'.node n).hub = c.onHub (p.world.node n).hub) {s : Subscription} (handed : s ∈ p.issued) :
    (w'.node n).hub.registrations.countP (Hub.names s ·) =
      if c = .unregister s then 0 else (p.world.node n).hub.registrations.countP (Hub.names s ·) := by
  rw [hub]
  cases c with
  | unregister s' =>
      by_cases same : s' = s
      · subst same
        rw [if_pos rfl]
        exact Hub.countP_names_removeEntry shape.wellFormed
      · rw [if_neg (by simpa using same)]
        exact Hub.countP_names_removeEntry_other shape.wellFormed same
  | insert t capacity ch id =>
      -- the number put in the hub was never handed back
      have unissued :=
        (shape.drawn id (HubPool.Shape.of_call running (by simp [HubCall.drawnNumber]))).2
      have other : Hub.names s (t, id, ch) = false := by
        simp only [Hub.names, Bool.and_eq_false_iff, beq_eq_false_iff_ne]
        exact .inr fun same => unissued (List.mem_map.mpr ⟨s, handed, same.symm⟩)
      rw [if_neg (by simp), HubCall.onHub,
        (Hub.registrations_insertEntry_perm _ t ch id shape.wellFormed.topics_nodup).countP_eq,
        List.countP_append]
      simp [other]
  | dropRow s' => simp [HubCall.onHub]
  | register t capacity => simp [HubCall.onHub]
  | draw t capacity ch => simp [HubCall.onHub]
  | countUp s' capacity ch => simp [HubCall.onHub]
  | countDown s' => simp [HubCall.onHub]
  | broadcast t e => simp [HubCall.onHub]
  | addDrops t e delivered dropped => simp [HubCall.onHub]
  | receive ch => simp [HubCall.onHub]
  | closeReceiver ch => simp [HubCall.onHub]

theorem stepped_emptyRows (counts : p.Counts n dropped) (running : p.running = pre ++ [c] ++ post)
    (hub : (w'.node n).hub = c.onHub (p.world.node n).hub) :
    ∀ row ∈ (w'.node n).hub.topics, row.2 = [] →
      ∃ s, HubCall.dropRow s ∈ (p.stepped n pre c post w').running ∧ s.topic = row.1 := by
  intro row held empty
  rw [hub] at held
  simp only [HubPool.stepped]
  rcases c.empty_row_onHub held empty with ⟨old, notDropped⟩ | ⟨s, rfl, found, same⟩
  · obtain ⟨s, waiting, same⟩ := counts.emptyRows row old empty
    refine ⟨s, ?_, same⟩
    -- the removal that drops the row is still in progress, unless it is the step itself
    rw [running] at waiting
    simp only [List.mem_append, List.mem_singleton] at waiting ⊢
    rcases waiting with (before | stepping) | later
    · exact .inl (.inl before)
    · exact absurd same.symm (notDropped s stepping.symm)
    · exact .inr later
  · refine ⟨s, ?_, same.symm⟩
    rw [HubCall.after_unregister, if_pos found]
    simp

theorem stepped_subscribers (shape : p.Shape n) (counts : p.Counts n dropped)
    (running : p.running = pre ++ [c] ++ post)
    (hub : (w'.node n).hub = c.onHub (p.world.node n).hub) :
    (w'.node n).hub.subscribers + ((p.stepped n pre c post w').running.flatMap HubCall.uncounted).length =
      (w'.node n).hub.registrations.length +
        ((p.stepped n pre c post w').running.flatMap HubCall.removing).length := by
  have pos : ∀ s, c = .countDown s → 1 ≤ (p.world.node n).hub.subscribers := by
    rintro s rfl
    exact counts.subscribers_pos shape (show HubCall.countDown s ∈ p.running by rw [running]; simp)
  have balanced := c.balance shape.wellFormed pos
  have old := counts.subscribers
  rw [running, (flatMap_split_perm _ pre post _).length_eq,
    (flatMap_split_perm _ pre post _).length_eq] at old
  rw [hub, HubPool.stepped, (flatMap_split_perm _ pre post _).length_eq,
    (flatMap_split_perm _ pre post _).length_eq]
  simp only [List.length_append, List.flatMap_cons, List.flatMap_nil, List.append_nil] at old ⊢
  omega

theorem stepped_removedOnce (shape : p.Shape n) (counts : p.Counts n dropped)
    (running : p.running = pre ++ [c] ++ post)
    (hub : (w'.node n).hub = c.onHub (p.world.node n).hub) :
    ∀ s ∈ (p.stepped n pre c post w').issued,
      (p.stepped n pre c post w').removals s + (w'.node n).hub.registrations.countP (Hub.names s ·) = 1 := by
  intro s handed
  have moved := HubPool.removals_stepped n w' running s
  rw [HubPool.issued_stepped, List.mem_append] at handed
  rcases handed with old | new
  · rw [countP_stepped shape running hub old]
    have before := counts.removedOnce s old
    cases c with
    | unregister s' =>
        rw [HubCall.after_unregister] at moved
        by_cases same : s' = s
        · subst same
          rw [if_pos rfl]
          -- the call removes the registration, or finds it removed already
          cases found : ((p.world.node n).hub.removeEntry s').2 with
          | some ch =>
              have present := (Hub.removeEntry_channel_eq_some_iff _ s' shape.wellFormed).mp found
              rw [Hub.countP_names_of_mem shape.wellFormed present] at before
              simp [found, HubCall.removing] at moved
              omega
          | none =>
              have absent : ∀ ch, (s'.topic, s'.id, ch) ∉ (p.world.node n).hub.registrations :=
                fun ch present => by
                  rw [(Hub.removeEntry_channel_eq_some_iff _ s' shape.wellFormed).mpr present] at found
                  cases found
              rw [Hub.countP_names_of_absent absent] at before
              simp [found, HubCall.removing] at moved
              omega
        · rw [if_neg (by simpa using same)]
          split at moved <;> simp [HubCall.removing, same] at moved <;> omega
    | countDown s' =>
        -- the removal counted down is the one the call now answers
        simp only [reduceCtorEq, if_false]
        by_cases same : s' = s
        · subst same
          simp [HubCall.after, HubCall.outcome, HubCall.removing, HubCall.action] at moved
          omega
        · simp [HubCall.after, HubCall.outcome, HubCall.removing, HubCall.action, same] at moved
          omega
    | _ =>
        rw [if_neg (by simp), HubPool.removals_stepped_quiet n w' running (by simp) (by simp)]
        exact before
  · -- a registration that just counted itself: in the hub, and taken off by no call yet
    have unissued : s ∉ p.issued := fun handed =>
      (shape.drawn s.id (HubPool.Shape.of_call running (c.issued_after new))).2
        (List.mem_map_of_mem handed)
    obtain ⟨capacity, ch, rfl⟩ := c.countUp_of_issued_after new
    have registered :=
      shape.uncounted (s.topic, s.id, ch) (HubPool.Shape.of_call running (by simp [HubCall.uncounted]))
    rw [hub, HubCall.onHub, Hub.registrations_countUp, Hub.countP_names_of_mem shape.wellFormed registered]
    rw [shape.removals_of_unissued unissued] at moved
    simp [HubCall.after, HubCall.outcome, HubCall.removing] at moved
    omega

theorem stepped_takenGone (shape : p.Shape n) (counts : p.Counts n dropped)
    (running : p.running = pre ++ [c] ++ post)
    (hub : (w'.node n).hub = c.onHub (p.world.node n).hub) :
    ∀ s, HubAction.unregister s ∈ (p.stepped n pre c post w').finished.map (·.1) →
      (w'.node n).hub.registrations.countP (Hub.names s ·) = 0 := by
  intro s took
  simp only [HubPool.stepped, List.map_append, List.mem_append] at took
  have handed : s ∈ p.issued := by
    rcases took with old | new
    · obtain ⟨a, listed, same⟩ := List.mem_map.mp old
      exact shape.tookOff s (List.mem_flatMap.mpr ⟨a, listed, by simp [same, HubAction.takesOff]⟩)
    · obtain ⟨a, done, same⟩ := List.mem_map.mp new
      refine shape.takingOff s (HubPool.Shape.of_call running ?_)
      simp [HubCall.takingOff, ← c.action_of_finished done, same, HubAction.takesOff]
  rw [countP_stepped shape running hub handed]
  split
  · rfl
  · next notTaking =>
      rcases took with old | new
      · exact counts.takenGone s old
      · -- a call finishing with the subscription taken off is counting its removal down
        obtain ⟨a, done, same⟩ := List.mem_map.mp new
        have acted := c.action_of_finished done
        rw [same] at acted
        rcases c.eq_of_action_unregister acted.symm with rfl | rfl | rfl
        · exact absurd rfl notTaking
        · simp [HubCall.after, HubCall.outcome] at done
        · refine counts.countP_of_removed handed (Nat.lt_of_lt_of_le ?_ (Nat.le_add_left _ _))
          rw [running]
          exact List.count_pos_iff.mpr (by simp [HubCall.removing])

theorem stepped_dropped (counts : p.Counts n dropped)
    (hub : (w'.node n).hub = c.onHub (p.world.node n).hub) :
    (w'.node n).hub.dropped =
      dropped + ((p.stepped n pre c post w').finished.map (·.2.droppedCount)).sum := by
  rw [hub, c.dropped_onHub, counts.dropped]
  simp [HubPool.stepped, Nat.add_assoc]

theorem stepped (shape : p.Shape n) (counts : p.Counts n dropped)
    (running : p.running = pre ++ [c] ++ post)
    (hub : (w'.node n).hub = c.onHub (p.world.node n).hub) :
    (p.stepped n pre c post w').Counts n dropped where
  emptyRows := stepped_emptyRows counts running hub
  subscribers := stepped_subscribers shape counts running hub
  removedOnce := stepped_removedOnce shape counts running hub
  takenGone := stepped_takenGone shape counts running hub
  dropped := stepped_dropped counts hub

end Advance

theorem step {p q : HubPool} (shape : p.Shape n) (counts : p.Counts n dropped)
    (step : HubPool.Step n p q) : q.Counts n dropped := by
  cases step with
  | start a named => exact counts.started a
  | advance pre post c running =>
      rw [HubPool.Step.advance_eq]
      exact counts.stepped shape running (HubCall.hub_advance n p.world shape.present c)

theorem reachable {w : World} {p : HubPool} (present : n < w.nodes.size)
    (empty : (w.node n).hub.topics = []) (noSubscribers : (w.node n).hub.subscribers = 0)
    (reached : HubPool.Reachable n w p) : p.Counts n (w.node n).hub.dropped := by
  induction reached with
  | refl => exact start empty noSubscribers
  | tail before step counts => exact counts.step (HubPool.Shape.reachable present empty before) step

/-- With no call in progress, every listed topic has a registration and the
subscriber count is the number of registrations. -/
theorem counted {p : HubPool} (counts : p.Counts n dropped) (idle : p.running = []) :
    (p.world.node n).hub.Counted where
  rows_nonempty := fun row held empty => by
    obtain ⟨s, waiting, _⟩ := counts.emptyRows row held empty
    simp [idle] at waiting
  subscribers_eq := by simpa [idle] using counts.subscribers

/-- With no call in progress, one of the calls that took a handed-back
subscription off answered that it removed it, if there was any. -/
theorem answeredOnce {p : HubPool} (counts : p.Counts n dropped) (idle : p.running = [])
    {s : Subscription} (handed : s ∈ p.issued) :
    p.finished.count (.unregister s, .unregistered true) =
      if HubAction.unregister s ∈ p.finished.map (·.1) then 1 else 0 := by
  have once := counts.removedOnce s handed
  simp only [HubPool.removals, idle, List.flatMap_nil, List.count_nil, Nat.add_zero] at once
  split
  · next took =>
      have gone := counts.takenGone s took
      omega
  · next never =>
      exact List.count_eq_zero.mpr fun listed => never (List.mem_map.mpr ⟨_, listed, rfl⟩)

end HubPool.Counts

/-- The counters of node `n`'s hub along every interleaving of the steps of
register, unregister and broadcast calls, with subscribers reading and
dropping their channels, from a hub with no registrations.  Every count down
finds the subscriber count at one or more.  Whenever no call is in progress,
every listed topic has a registration, so the topic count is the number of
topics registered on; the subscriber count is the number of registrations;
of the calls that took a handed-back subscription off, exactly one answered
that it removed it, however many there were; and the drop count has grown by
what the broadcasts answered. -/
theorem interleaved_hub_counters {n : Nat} {w : World} (present : n < w.nodes.size)
    (empty : (w.node n).hub.topics = []) (noSubscribers : (w.node n).hub.subscribers = 0)
    {p : HubPool} (reached : HubPool.Reachable n w p) :
    (∀ s, HubCall.countDown s ∈ p.running → 1 ≤ (p.world.node n).hub.subscribers) ∧
    (p.running = [] →
      (∀ row ∈ (p.world.node n).hub.topics, row.2 ≠ []) ∧
      (p.world.node n).hub.topicCount =
        ((p.world.node n).hub.registrations.map (·.1)).toFinset.card ∧
      (p.world.node n).hub.subscribers = (p.world.node n).hub.registrations.length ∧
      (∀ s ∈ p.issued, p.finished.count (.unregister s, .unregistered true) =
        if HubAction.unregister s ∈ p.finished.map (·.1) then 1 else 0) ∧
      (p.world.node n).hub.dropped =
        (w.node n).hub.dropped + (p.finished.map (·.2.droppedCount)).sum) := by
  have shape := HubPool.Shape.reachable present empty reached
  have counts := HubPool.Counts.reachable present empty noSubscribers reached
  refine ⟨fun s waiting => counts.subscribers_pos shape waiting, fun idle => ?_⟩
  have counted := counts.counted idle
  exact ⟨counted.rows_nonempty, Hub.topicCount_eq_card shape.wellFormed counted,
    counted.subscribers_eq, fun s handed => counts.answeredOnce idle handed, counts.dropped⟩

/-- A registration racing the removal of the last one on its topic: the
first subscription is taken out of the lobby's row, leaving it empty; a
second registration puts its channel in that row before the removal drops
it; the removal then keeps the row, counts down, and a repeated call taking
the first subscription off answers that nothing was there. -/
theorem lobby_register_races_removal :
    let w : World := { nodes := #[{}] }
    let lobby : Topic := .room "lobby"
    ∃ p, HubPool.Reachable 0 w p ∧ p.running = [] ∧
      p.finished.map (·.2) = [.registered ⟨lobby, 1⟩ 0, .unregistered true,
        .registered ⟨lobby, 2⟩ 1, .unregistered false] := by
  intro w lobby
  refine ⟨_, (((((((((((((((Relation.ReflTransGen.refl.tail
    (HubPool.Step.start (.register lobby 1) (by decide))).tail
    (HubPool.Step.advance [] [] (.register lobby 1) (by decide +kernel))).tail
    (HubPool.Step.advance [] [] (.draw lobby 1 0) (by decide +kernel))).tail
    (HubPool.Step.advance [] [] (.insert lobby 1 0 1) (by decide +kernel))).tail
    (HubPool.Step.advance [] [] (.countUp ⟨lobby, 1⟩ 1 0) (by decide +kernel))).tail
    (HubPool.Step.start (.unregister ⟨lobby, 1⟩) (by decide +kernel))).tail
    (HubPool.Step.start (.register lobby 1) (by decide))).tail
    (HubPool.Step.advance [] [.register lobby 1] (.unregister ⟨lobby, 1⟩) (by decide +kernel))).tail
    (HubPool.Step.advance [.dropRow ⟨lobby, 1⟩] [] (.register lobby 1) (by decide +kernel))).tail
    (HubPool.Step.advance [.dropRow ⟨lobby, 1⟩] [] (.draw lobby 1 1) (by decide +kernel))).tail
    (HubPool.Step.advance [.dropRow ⟨lobby, 1⟩] [] (.insert lobby 1 1 2) (by decide +kernel))).tail
    (HubPool.Step.advance [] [.countUp ⟨lobby, 2⟩ 1 1] (.dropRow ⟨lobby, 1⟩) (by decide +kernel))).tail
    (HubPool.Step.advance [] [.countUp ⟨lobby, 2⟩ 1 1] (.countDown ⟨lobby, 1⟩) (by decide +kernel))).tail
    (HubPool.Step.advance [] [] (.countUp ⟨lobby, 2⟩ 1 1) (by decide +kernel))).tail
    (HubPool.Step.start (.unregister ⟨lobby, 1⟩) (by decide +kernel))).tail
    (HubPool.Step.advance [] [] (.unregister ⟨lobby, 1⟩) (by decide +kernel)), by decide +kernel, by decide +kernel⟩


/-- The race above at a fresh node: the run ends with the hub's counters
matching its rows, and the first subscription answered as removed once. -/
theorem lobby_race_keeps_counters :
    let w : World := { nodes := #[{}] }
    ∃ p : HubPool, (0 < w.nodes.size ∧ (w.node 0).hub.topics = [] ∧ (w.node 0).hub.subscribers = 0 ∧
        HubPool.Reachable 0 w p) ∧
      (∀ s, HubCall.countDown s ∈ p.running → 1 ≤ (p.world.node 0).hub.subscribers) ∧
      (p.running = [] →
        (∀ row ∈ (p.world.node 0).hub.topics, row.2 ≠ []) ∧
        (p.world.node 0).hub.topicCount =
          ((p.world.node 0).hub.registrations.map (·.1)).toFinset.card ∧
        (p.world.node 0).hub.subscribers = (p.world.node 0).hub.registrations.length ∧
        (∀ s ∈ p.issued, p.finished.count (.unregister s, .unregistered true) =
          if HubAction.unregister s ∈ p.finished.map (·.1) then 1 else 0) ∧
        (p.world.node 0).hub.dropped =
          (w.node 0).hub.dropped + (p.finished.map (·.2.droppedCount)).sum) := by
  intro w
  obtain ⟨p, reached, -, -⟩ := lobby_register_races_removal
  exact ⟨p, ⟨by decide, rfl, rfl, reached⟩, interleaved_hub_counters (by decide) rfl rfl reached⟩

end Herald.Cluster
