import Mathlib
import Herald.Proofs.HubDelivery
import Herald.Proofs.SessionSteps

set_option autoImplicit false

/-!
# A session's lifecycle, step by step

A session's lifecycle lives in two atomics: the closed flag and the state.
`closeSession` swaps the flag in and, if it was clear, stores Closing,
takes the subscription off the hub and cancels the tasks, each an atomic
step of its own. `startSession` registers the session, stores Registered,
starts the reader and the writer and moves the state on to Active by a
compare-and-swap. The reader and the writer close the session when they
leave their loops, and the writer stores Closed once its close notice is
done; `join` stores Closed once both tasks are done. Other threads run
between any two of these steps.

`LifePool` holds the calls in progress, each at the step it takes next.
Along every interleaving (`LifePool.Inv`) exactly one close call gets past
the swap, and it alone stores Closing and takes the subscription off, which
is registered from the registration until then. The state moves forward at
every step but one: the winning close's Closing store, which lands after a
Closed store when the writer finished first (`closing_stored_after_closed`).
While that close is in progress the state can be Closed with the
subscription still registered. Once `join` returns, the state is Closed
and the subscription is gone (`session_lifecycle_steps`).
-/

namespace Herald.Cluster

/-- Who calls `closeSession`: a thread holding the session, or one of the
session's tasks leaving its loop. -/
inductive Closer where
  | caller | reader | writer
  deriving DecidableEq

/-- The atomic steps of `closeSession`: the flag swap and, for the call
that swapped the flag in, the Closing store, the removal from the hub and
the cancellation. -/
inductive CloseStage where
  | swap | storeClosing | unregister | cancel
  deriving DecidableEq

/-- The atomic steps of `startSession` once the session's record is made. -/
inductive StartStage where
  | register | storeRegistered | spawn | activate
  deriving DecidableEq

/-- A thread acting on a session's lifecycle, at the step it takes next. -/
inductive LifeCall where
  | start (stage : StartStage)
  /-- The reader in its loop. Its turns there touch neither the flag, the
  state nor the registration, so leaving the loop is its one step. -/
  | reading
  /-- The writer in its loop. -/
  | writing
  | close (who : Closer) (stage : CloseStage)
  /-- The writer after its close, about to store Closed once its close
  notice is done. -/
  | retire
  /-- `join`, about to store Closed once both tasks are done. -/
  | join
  deriving DecidableEq

/-- What a closer does once its close call returns: the writer goes on to
store Closed, the reader and other threads are done. -/
def Closer.after : Closer → List LifeCall
  | .writer => [.retire]
  | _ => []

/-- How far a close call that swapped the flag in has come: one past the
swap, two past the Closing store, three past the removal from the hub. -/
def CloseStage.passed : CloseStage → Nat
  | .swap => 0
  | .storeClosing => 1
  | .unregister => 2
  | .cancel => 3

namespace LifeCall

/-- One atomic step of a call on session `s`: the calls left in its place,
and the answer of a close call that returns. -/
def advance (s : Nat) : LifeCall → ClusterM (List LifeCall × Option (Closer × Bool))
  | .start .register => do
    registerSession s
    return ([.start .storeRegistered], none)
  | .start .storeRegistered => do
    storeLifecycle s .registered
    return ([.start .spawn], none)
  | .start .spawn => do
    wake (.writer s)
    wake (.reader s)
    return ([.start .activate, .writing, .reading], none)
  | .start .activate => do
    activateSession s
    return ([], none)
  | .reading => return ([.close .reader .swap], none)
  | .writing => return ([.close .writer .swap], none)
  | .close who .swap => do
    if ← swapClosed s then return (who.after, some (who, false))
    return ([.close who .storeClosing], none)
  | .close who .storeClosing => do
    storeLifecycle s .closing
    return ([.close who .unregister], none)
  | .close who .unregister => do
    unregisterSession s
    return ([.close who .cancel], none)
  | .close who .cancel => do
    cancelSession s
    return (who.after, some (who, true))
  | .retire => do
    retireWriter s
    return ([], none)
  | .join => do
    storeLifecycle s .closed
    return ([], none)

/-- The calls a step leaves and its answer, given whether the closed flag was
set before the step. -/
def outcome (closed : Bool) : LifeCall → List LifeCall × Option (Closer × Bool)
  | .start .register => ([.start .storeRegistered], none)
  | .start .storeRegistered => ([.start .spawn], none)
  | .start .spawn => ([.start .activate, .writing, .reading], none)
  | .start .activate => ([], none)
  | .reading => ([.close .reader .swap], none)
  | .writing => ([.close .writer .swap], none)
  | .close who .swap => if closed then (who.after, some (who, false)) else ([.close who .storeClosing], none)
  | .close who .storeClosing => ([.close who .unregister], none)
  | .close who .unregister => ([.close who .cancel], none)
  | .close who .cancel => (who.after, some (who, true))
  | .retire => ([], none)
  | .join => ([], none)

/-- The session's record after a step, given the hub it is registered on. -/
def onSession (hub : Hub) : LifeCall → Session → Session
  | .start .register, ses => { ses with subscription := (hub.register ses.topic ses.events).2 }
  | .start .storeRegistered, ses => { ses with lifecycle := .registered }
  | .start .activate, ses => if ses.lifecycle = .registered then { ses with lifecycle := .active } else ses
  | .close _ .swap, ses => { ses with closed := true }
  | .close _ .storeClosing, ses => { ses with lifecycle := .closing }
  | .close _ .cancel, ses => { ses with cancelled := true }
  | .retire, ses => { ses with outbound := ses.outbound.dropSender, lifecycle := .closed, writer := .done }
  | .join, ses => { ses with lifecycle := .closed }
  | _, ses => ses

def onHub (ses : Session) : LifeCall → Hub → Hub
  | .start .register, hub => (hub.register ses.topic ses.events).1
  | .close _ .unregister, hub => (hub.unregister ses.subscription).1
  | _, hub => hub

/-- Whether a call is one of the session's two tasks. -/
def ofTask : LifeCall → Bool
  | .reading | .writing | .close .reader _ | .close .writer _ | .retire => true
  | _ => false

/-- Whether a call is `startSession` before it returned. -/
def starting : LifeCall → Bool
  | .start _ => true
  | _ => false

/-- Whether a call is `startSession` before it started the tasks. -/
def early : LifeCall → Bool
  | .start .activate => false
  | .start _ => true
  | _ => false

/-- Whether a call is a close call that swapped the flag in and got `k` of
its steps done. -/
def passed (k : Nat) : LifeCall → Bool
  | .close _ stage => 0 < k && k ≤ stage.passed
  | _ => false

end LifeCall

/-- The hub a session is registered on. -/
def World.hubOf (w : World) (s : Nat) : Hub := (w.node (w.session s).node).hub

/-- The byte a lifecycle state is stored as. -/
def Lifecycle.byte : Lifecycle → Nat
  | .connecting => 0
  | .registered => 1
  | .active => 2
  | .closing => 3
  | .closed => 4

/-- The lifecycle calls on one session, each at the step it takes next. -/
structure LifePool where
  world : World
  running : List LifeCall
  /-- The answers of the close calls that returned, in order. -/
  answers : List (Closer × Bool) := []
  /-- Every step taken, in order. -/
  log : List LifeCall := []
  /-- Whether `join` was called. It takes the session, so no close call
  begins after it. -/
  joined : Bool := false

/-- Interleaved steps on session `s`. A thread that holds the session calls
`closeSession` once `startSession` has returned and before `join`; `join`
begins when no other thread's close is in progress, and stores Closed once
both tasks are done. -/
inductive LifePool.Step (s : Nat) : LifePool → LifePool → Prop where
  | call (p : LifePool) (started : ∀ c ∈ p.running, c.starting = false) (unjoined : p.joined = false) :
      Step s p { p with running := p.running ++ [.close .caller .swap] }
  | join (p : LifePool) (started : ∀ c ∈ p.running, c.starting = false) (unjoined : p.joined = false)
      (alone : ∀ st, LifeCall.close .caller st ∉ p.running) :
      Step s p { p with running := p.running ++ [.join], joined := true }
  | advance (p : LifePool) (pre post : List LifeCall) (c : LifeCall) (running : p.running = pre ++ [c] ++ post)
      (ready : c = .join → ∀ c' ∈ p.running, c'.ofTask = false) :
      Step s p
        { world := ((c.advance s).run p.world).2
          running := pre ++ ((c.advance s).run p.world).1.1 ++ post
          answers := p.answers ++ ((c.advance s).run p.world).1.2.toList
          log := p.log ++ [c]
          joined := p.joined }

/-- The pools reached from a world where `startSession` made session `s`'s
record and is about to register it. -/
def LifePool.Reachable (s : Nat) (w : World) : LifePool → Prop :=
  Relation.ReflTransGen (LifePool.Step s) { world := w, running := [.start .register] }

/-! ## What one step does -/

section Run

variable {s : Nat} {w : World}

theorem session_modifySession (present : s < w.sessions.size) (f : Session → Session) :
    ((modifySession s f).run w).2.session s = f (w.session s) :=
  World.session_modify w s f present

theorem hubOf_modifySession (f : Session → Session) (node : ∀ x, (f x).node = x.node) :
    ((modifySession s f).run w).2.hubOf s = w.hubOf s := by
  simp only [modifySession_run, World.hubOf, World.session, getD_modify]
  split
  · rw [node]
    rfl
  · rfl

theorem session_queueOnly {α : Type} {x : ClusterM α} (only : QueueOnly x) :
    (x.run w).2.session s = w.session s := by
  rw [only w]
  rfl

theorem hubOf_queueOnly {α : Type} {x : ClusterM α} (only : QueueOnly x) :
    (x.run w).2.hubOf s = w.hubOf s := by
  rw [only w]
  rfl

theorem QueueOnly.of_wakeReaderReceiving (s : Nat) : QueueOnly (wakeReaderReceiving s) := by
  unfold wakeReaderReceiving
  refine QueueOnly.of_bind QueueOnly.of_get fun _ => ?_
  split
  · exact QueueOnly.of_wake _
  · exact QueueOnly.of_pure _

theorem QueueOnly.of_wakeWriterOnCancel (s : Nat) : QueueOnly (wakeWriterOnCancel s) := by
  unfold wakeWriterOnCancel
  refine QueueOnly.of_bind QueueOnly.of_get fun _ => ?_
  split
  · exact QueueOnly.of_wake _
  · exact QueueOnly.of_wake _
  · exact QueueOnly.of_pure _

theorem hubOf_setHub (nodePresent : (w.session s).node < w.nodes.size) (hub : Hub) :
    { w with nodes := w.nodes.modify (w.session s).node fun nd => { nd with hub } }.hubOf s = hub := by
  simp only [World.hubOf, World.node, World.session, getD_modify]
  rw [if_pos ⟨trivial, nodePresent⟩]

theorem session_registerSession (present : s < w.sessions.size) :
    ((registerSession s).run w).2.session s =
      { w.session s with subscription := ((w.hubOf s).register (w.session s).topic (w.session s).events).2 } :=
  session_modifySession (w := { w with nodes := _ }) present _

theorem hubOf_registerSession (nodePresent : (w.session s).node < w.nodes.size) :
    ((registerSession s).run w).2.hubOf s = ((w.hubOf s).register (w.session s).topic (w.session s).events).1 := by
  show ((modifySession s _).run { w with nodes := _ }).2.hubOf s = _
  rw [hubOf_modifySession]
  · exact hubOf_setHub nodePresent _
  · exact fun _ => rfl

/-- Taking the session off its hub changes the hub and the channels, not the
sessions. -/
theorem unregisterSession_run :
    ((unregisterSession s).run w).2.sessions = w.sessions ∧
      ((unregisterSession s).run w).2.nodes = w.nodes.modify (w.session s).node fun nd =>
        { nd with hub := ((w.hubOf s).unregister (w.session s).subscription).1 } := by
  simp only [unregisterSession, StateT.run_bind, StateT.run_get, id_bind, modifyNode, StateT.run_modify]
  split
  · rw [StateT.run_bind, StateT.run_modify, id_bind, wakeWriterSelecting_run]
    exact ⟨rfl, rfl⟩
  · exact ⟨rfl, rfl⟩

theorem session_unregisterSession : ((unregisterSession s).run w).2.session s = w.session s := by
  simp only [World.session, unregisterSession_run.1]

theorem hubOf_unregisterSession (nodePresent : (w.session s).node < w.nodes.size) :
    ((unregisterSession s).run w).2.hubOf s = ((w.hubOf s).unregister (w.session s).subscription).1 := by
  have session := session_unregisterSession (s := s) (w := w)
  simp only [World.hubOf, session]
  simp only [World.node, unregisterSession_run.2, getD_modify]
  rw [if_pos ⟨trivial, nodePresent⟩]
  rfl

theorem QueueOnly.of_cancelWakes (s : Nat) : QueueOnly (do wakeReaderReceiving s; wakeWriterOnCancel s) :=
  QueueOnly.of_bind (QueueOnly.of_wakeReaderReceiving s) fun _ => QueueOnly.of_wakeWriterOnCancel s

theorem cancelSession_run :
    ((cancelSession s).run w).2 = ((do wakeReaderReceiving s; wakeWriterOnCancel s : ClusterM Unit).run
      ((modifySession s fun x => { x with cancelled := true }).run w).2).2 := by
  rw [cancelSession, StateT.run_bind]
  rfl

theorem session_cancelSession (present : s < w.sessions.size) :
    ((cancelSession s).run w).2.session s = { w.session s with cancelled := true } := by
  rw [cancelSession_run, session_queueOnly (QueueOnly.of_cancelWakes s)]
  exact session_modifySession present _

theorem hubOf_cancelSession : ((cancelSession s).run w).2.hubOf s = w.hubOf s := by
  rw [cancelSession_run, hubOf_queueOnly (QueueOnly.of_cancelWakes s)]
  exact hubOf_modifySession _ fun _ => rfl

end Run

section Advance

variable {s : Nat} {w : World}

theorem swap_advance_run (who : Closer) :
    ((LifeCall.close who .swap).advance s).run w =
      ((LifeCall.close who .swap).outcome (w.session s).closed, ((swapClosed s).run w).2) := by
  have answered : ((swapClosed s).run w).1 = (w.session s).closed := rfl
  simp only [LifeCall.advance, LifeCall.outcome, StateT.run_bind, id_bind]
  rw [answered]
  cases (w.session s).closed <;> rfl

theorem advance_fst (c : LifeCall) : ((c.advance s).run w).1 = c.outcome (w.session s).closed := by
  rcases c with ⟨_ | _ | _ | _⟩ | _ | _ | ⟨who, _ | _ | _ | _⟩ | _ | _
  case close.swap => rw [swap_advance_run]
  all_goals rfl

theorem swap_advance_snd (who : Closer) :
    (((LifeCall.close who .swap).advance s).run w).2 = ((swapClosed s).run w).2 := by
  rw [swap_advance_run]

theorem cancel_advance_snd (who : Closer) :
    (((LifeCall.close who .cancel).advance s).run w).2 = ((cancelSession s).run w).2 := by
  simp only [LifeCall.advance, StateT.run_bind, StateT.run_pure, id_bind]
  rfl

theorem QueueOnly.of_spawn : QueueOnly ((LifeCall.start .spawn).advance s) :=
  QueueOnly.of_bind (QueueOnly.of_wake _) fun _ =>
    QueueOnly.of_bind (QueueOnly.of_wake _) fun _ => QueueOnly.of_pure _

theorem session_advance (present : s < w.sessions.size) (c : LifeCall) :
    ((c.advance s).run w).2.session s = c.onSession (w.hubOf s) (w.session s) := by
  cases c with
  | start stage =>
    cases stage with
    | register => exact session_registerSession present
    | storeRegistered => exact session_modifySession present _
    | spawn => exact session_queueOnly QueueOnly.of_spawn
    | activate => exact session_modifySession present _
  | reading => rfl
  | writing => rfl
  | close who stage =>
    cases stage with
    | swap =>
      rw [swap_advance_snd]
      exact session_modifySession present _
    | storeClosing => exact session_modifySession present _
    | unregister => exact session_unregisterSession
    | cancel =>
      rw [cancel_advance_snd]
      exact session_cancelSession present
  | retire => exact session_modifySession present _
  | join => exact session_modifySession present _

theorem hubOf_advance (nodePresent : (w.session s).node < w.nodes.size) (c : LifeCall) :
    ((c.advance s).run w).2.hubOf s = c.onHub (w.session s) (w.hubOf s) := by
  cases c with
  | start stage =>
    cases stage with
    | register => exact hubOf_registerSession nodePresent
    | storeRegistered => exact hubOf_modifySession _ fun _ => rfl
    | spawn => exact hubOf_queueOnly QueueOnly.of_spawn
    | activate =>
      refine hubOf_modifySession _ fun x => ?_
      split <;> rfl
  | reading => rfl
  | writing => rfl
  | close who stage =>
    cases stage with
    | swap =>
      rw [swap_advance_snd]
      exact hubOf_modifySession _ fun _ => rfl
    | storeClosing => exact hubOf_modifySession _ fun _ => rfl
    | unregister => exact hubOf_unregisterSession nodePresent
    | cancel =>
      rw [cancel_advance_snd]
      exact hubOf_cancelSession
  | retire => exact hubOf_modifySession _ fun _ => rfl
  | join => exact hubOf_modifySession _ fun _ => rfl

theorem sizes_advance (c : LifeCall) :
    ((c.advance s).run w).2.sessions.size = w.sessions.size ∧
      ((c.advance s).run w).2.nodes.size = w.nodes.size := by
  cases c with
  | start stage =>
    cases stage with
    | register => exact ⟨Array.size_modify .., Array.size_modify ..⟩
    | storeRegistered => exact ⟨Array.size_modify .., rfl⟩
    | spawn => rw [QueueOnly.of_spawn w]; exact ⟨rfl, rfl⟩
    | activate => exact ⟨Array.size_modify .., rfl⟩
  | reading => exact ⟨rfl, rfl⟩
  | writing => exact ⟨rfl, rfl⟩
  | close who stage =>
    cases stage with
    | swap => rw [swap_advance_snd]; exact ⟨Array.size_modify .., rfl⟩
    | storeClosing => exact ⟨Array.size_modify .., rfl⟩
    | unregister =>
      show ((unregisterSession s).run w).2.sessions.size = _ ∧ ((unregisterSession s).run w).2.nodes.size = _
      rw [unregisterSession_run.1, unregisterSession_run.2]
      exact ⟨rfl, Array.size_modify ..⟩
    | cancel =>
      rw [cancel_advance_snd, cancelSession_run, QueueOnly.of_cancelWakes s _]
      exact ⟨Array.size_modify .., rfl⟩
  | retire => exact ⟨Array.size_modify .., rfl⟩
  | join => exact ⟨Array.size_modify .., rfl⟩

end Advance

/-! ## The close calls that swapped the flag in -/

namespace LifeCall

/-- Whether a step is the Closing store. -/
def storesClosing : LifeCall → Bool
  | .close _ .storeClosing => true
  | _ => false

/-- Whether a step takes the subscription off the hub. -/
def unregisters : LifeCall → Bool
  | .close _ .unregister => true
  | _ => false

/-- Whether a step takes a close call that swapped the flag in past its
`k`-th step, given whether the flag was set before the step. -/
def reaches (closed : Bool) (k : Nat) : LifeCall → Bool
  | .close _ .swap => !closed && k == 1
  | .close _ .storeClosing => k == 2
  | .close _ .unregister => k == 3
  | _ => false

/-- A step moves the count of close calls past their `k`-th step by what it
reaches: the calls it leaves and the answer it gives count as the call did,
and one more if the step is the call's `k`-th. -/
theorem passed_outcome (closed : Bool) (c : LifeCall) {k : Nat} (pos : 0 < k) (le : k ≤ 3) :
    (c.outcome closed).1.countP (passed k) + (c.outcome closed).2.toList.countP (·.2) =
      (if c.passed k then 1 else 0) + (if c.reaches closed k then 1 else 0) := by
  obtain rfl | rfl | rfl : k = 1 ∨ k = 2 ∨ k = 3 := by omega
  all_goals
    rcases c with ⟨_ | _ | _ | _⟩ | _ | _ | ⟨who, _ | _ | _ | _⟩ | _ | _ <;>
      (try cases who) <;> cases closed <;> rfl

theorem storesClosing_eq_reaches (closed : Bool) (c : LifeCall) : c.storesClosing = c.reaches closed 2 := by
  rcases c with ⟨_ | _ | _ | _⟩ | _ | _ | ⟨_, _ | _ | _ | _⟩ | _ | _ <;> simp [storesClosing, reaches]

theorem unregisters_eq_reaches (closed : Bool) (c : LifeCall) : c.unregisters = c.reaches closed 3 := by
  rcases c with ⟨_ | _ | _ | _⟩ | _ | _ | ⟨_, _ | _ | _ | _⟩ | _ | _ <;> simp [unregisters, reaches]

end LifeCall

namespace LifePool

/-- The close calls that swapped the flag in and got `k` of their steps done,
the returned ones included. -/
def passed (p : LifePool) (k : Nat) : Nat := p.running.countP (LifeCall.passed k) + p.answers.countP (·.2)

/-- The pool after the call split out of the running ones as `pre`, `c`,
`post` takes its step. -/
def stepped (s : Nat) (p : LifePool) (pre post : List LifeCall) (c : LifeCall) : LifePool where
  world := ((c.advance s).run p.world).2
  running := pre ++ (c.outcome (p.world.session s).closed).1 ++ post
  answers := p.answers ++ (c.outcome (p.world.session s).closed).2.toList
  log := p.log ++ [c]
  joined := p.joined

theorem Step.advance_eq {s : Nat} (p : LifePool) (pre post : List LifeCall) (c : LifeCall) :
    ({ world := ((c.advance s).run p.world).2
       running := pre ++ ((c.advance s).run p.world).1.1 ++ post
       answers := p.answers ++ ((c.advance s).run p.world).1.2.toList
       log := p.log ++ [c]
       joined := p.joined } : LifePool) = p.stepped s pre post c := by
  rw [advance_fst]
  rfl

/-- A step moves the count of close calls past their `k`-th step by one
exactly when it is that step. -/
theorem passed_stepped {s : Nat} {p : LifePool} {pre post : List LifeCall} {c : LifeCall}
    (running : p.running = pre ++ [c] ++ post) {k : Nat} (pos : 0 < k) (le : k ≤ 3) :
    (p.stepped s pre post c).passed k =
      p.passed k + (if c.reaches (p.world.session s).closed k then 1 else 0) := by
  have outcome := LifeCall.passed_outcome (p.world.session s).closed c pos le
  simp only [passed, stepped, running, List.countP_append, List.countP_singleton] at outcome ⊢
  omega

end LifePool

/-! ## What a step can do -/

namespace LifeCall

/-- Whether a step is a flag swap. -/
def swaps : LifeCall → Bool
  | .close _ .swap => true
  | _ => false

section OnSession

variable (hub : Hub) (ses : Session) (c : LifeCall)

@[simp]
theorem node_onSession : (c.onSession hub ses).node = ses.node := by
  rcases c with ⟨_ | _ | _ | _⟩ | _ | _ | ⟨_, _ | _ | _ | _⟩ | _ | _
  case start.activate => simp only [onSession]; split <;> rfl
  all_goals rfl

@[simp]
theorem events_onSession : (c.onSession hub ses).events = ses.events := by
  rcases c with ⟨_ | _ | _ | _⟩ | _ | _ | ⟨_, _ | _ | _ | _⟩ | _ | _
  case start.activate => simp only [onSession]; split <;> rfl
  all_goals rfl

theorem closed_onSession : (c.onSession hub ses).closed = (ses.closed || c.swaps) := by
  rcases c with ⟨_ | _ | _ | _⟩ | _ | _ | ⟨_, _ | _ | _ | _⟩ | _ | _
  case start.activate => simp only [onSession, swaps]; split <;> simp
  all_goals simp [onSession, swaps]

theorem subscription_onSession (other : c ≠ .start .register) :
    (c.onSession hub ses).subscription = ses.subscription := by
  rcases c with ⟨_ | _ | _ | _⟩ | _ | _ | ⟨_, _ | _ | _ | _⟩ | _ | _
  case start.register => exact absurd rfl other
  case start.activate => simp only [onSession]; split <;> rfl
  all_goals rfl

theorem lifecycle_onSession_closed (closed : (c.onSession hub ses).lifecycle = .closed) :
    ses.lifecycle = .closed ∨ c = .retire ∨ c = .join := by
  rcases c with ⟨_ | _ | _ | _⟩ | _ | _ | ⟨_, _ | _ | _ | _⟩ | _ | _
  case start.activate =>
    simp only [onSession] at closed
    split at closed
    · cases closed
    · exact .inl closed
  all_goals simp_all [onSession]

end OnSession

theorem onHub_of_quiet (ses : Session) (hub : Hub) {c : LifeCall} (other : c ≠ .start .register)
    (kept : ∀ who, c ≠ .close who .unregister) : c.onHub ses hub = hub := by
  rcases c with ⟨_ | _ | _ | _⟩ | _ | _ | ⟨who, _ | _ | _ | _⟩ | _ | _
  case start.register => exact absurd rfl other
  case close.unregister => exact absurd rfl (kept who)
  all_goals rfl

theorem wellFormed_onHub (ses : Session) {hub : Hub} (c : LifeCall) (wf : hub.WellFormed)
    (fresh : c = .start .register → ses.events ∉ hub.channels) : (c.onHub ses hub).WellFormed := by
  rcases c with ⟨_ | _ | _ | _⟩ | _ | _ | ⟨_, _ | _ | _ | _⟩ | _ | _
  case start.register => exact Hub.WellFormed.register hub _ _ wf (fresh rfl)
  case close.unregister => exact Hub.WellFormed.unregister hub _ wf
  all_goals exact wf

section Outcome

variable {closed : Bool} {c x : LifeCall}

theorem early_of_outcome (mem : x ∈ (c.outcome closed).1) (early : x.early = true) :
    c = .start .register ∨ c = .start .storeRegistered := by
  rcases c with ⟨_ | _ | _ | _⟩ | _ | _ | ⟨who, _ | _ | _ | _⟩ | _ | _ <;> (try cases who) <;>
    cases closed <;> simp [outcome, Closer.after] at mem <;> (try subst mem) <;>
    (try rcases mem with rfl | rfl | rfl) <;> simp_all [LifeCall.early]

theorem starting_of_outcome (mem : x ∈ (c.outcome closed).1) (starting : x.starting = true) :
    c.starting = true := by
  rcases c with ⟨_ | _ | _ | _⟩ | _ | _ | ⟨who, _ | _ | _ | _⟩ | _ | _ <;> (try cases who) <;>
    cases closed <;> simp [outcome, Closer.after] at mem <;> (try subst mem) <;>
    (try rcases mem with rfl | rfl | rfl) <;> simp_all [LifeCall.starting]

theorem caller_of_outcome {st : CloseStage} (mem : LifeCall.close .caller st ∈ (c.outcome closed).1) :
    ∃ st', c = .close .caller st' := by
  rcases c with ⟨_ | _ | _ | _⟩ | _ | _ | ⟨who, _ | _ | _ | _⟩ | _ | _ <;> (try cases who) <;>
    cases closed <;> simp [outcome, Closer.after] at mem ⊢

theorem register_not_mem_outcome : LifeCall.start .register ∉ (c.outcome closed).1 := by
  rcases c with ⟨_ | _ | _ | _⟩ | _ | _ | ⟨who, _ | _ | _ | _⟩ | _ | _ <;> (try cases who) <;>
    cases closed <;> simp [outcome, Closer.after]

theorem storeRegistered_of_outcome (mem : LifeCall.start .storeRegistered ∈ (c.outcome closed).1) :
    c = .start .register := by
  rcases c with ⟨_ | _ | _ | _⟩ | _ | _ | ⟨who, _ | _ | _ | _⟩ | _ | _ <;> (try cases who) <;>
    cases closed <;> simp [outcome, Closer.after] at mem ⊢

theorem join_not_mem_outcome : LifeCall.join ∉ (c.outcome closed).1 := by
  rcases c with ⟨_ | _ | _ | _⟩ | _ | _ | ⟨who, _ | _ | _ | _⟩ | _ | _ <;> (try cases who) <;>
    cases closed <;> simp [outcome, Closer.after]

theorem task_of_outcome (mem : x ∈ (c.outcome closed).1) (task : x.ofTask = true) :
    c.ofTask = true ∨ c = .start .spawn := by
  rcases c with ⟨_ | _ | _ | _⟩ | _ | _ | ⟨who, _ | _ | _ | _⟩ | _ | _ <;> (try cases who) <;>
    cases closed <;> simp [outcome, Closer.after] at mem <;> (try subst mem) <;>
    (try rcases mem with rfl | rfl | rfl) <;> simp_all [LifeCall.ofTask]

theorem retire_of_outcome (mem : LifeCall.retire ∈ (c.outcome closed).1) :
    (c = .close .writer .swap ∧ closed = true) ∨ c = .close .writer .cancel := by
  rcases c with ⟨_ | _ | _ | _⟩ | _ | _ | ⟨who, _ | _ | _ | _⟩ | _ | _ <;> (try cases who) <;>
    cases closed <;> simp [outcome, Closer.after] at mem ⊢

theorem starting_of_early (early : c.early = true) : c.starting = true := by
  rcases c with ⟨_ | _ | _ | _⟩ | _ | _ | ⟨_, _⟩ | _ | _ <;> simp_all [LifeCall.early, LifeCall.starting]

theorem early_outcome (early : c.early = true) :
    ∃ x ∈ (c.outcome closed).1, x.early = true ∨ x.ofTask = true := by
  rcases c with ⟨_ | _ | _ | _⟩ | _ | _ | ⟨_, _⟩ | _ | _ <;> simp_all [LifeCall.early, outcome, LifeCall.ofTask]

/-- A task's step that leaves no task behind is a flag swap, a step of the
winning close, or the writer's retirement. -/
theorem task_step_closes (task : c.ofTask = true) (last : ∀ x ∈ (c.outcome closed).1, x.ofTask = false) :
    c.swaps = true ∨ c.passed 1 = true ∨ c = .retire := by
  rcases c with ⟨_ | _ | _ | _⟩ | _ | _ | ⟨who, _ | _ | _ | _⟩ | _ | _ <;> (try cases who) <;>
    simp_all [LifeCall.ofTask, outcome, swaps, LifeCall.passed, CloseStage.passed]

end Outcome

/-- A call that is neither `startSession`, nor a task, nor another thread's
close, is `join`. -/
theorem eq_join {c : LifeCall} (starting : c.starting = false) (task : c.ofTask = false)
    (caller : ∀ st, c ≠ .close .caller st) : c = .join := by
  rcases c with ⟨_ | _ | _ | _⟩ | _ | _ | ⟨who, st⟩ | _ | _
  case close => cases who <;> simp_all [LifeCall.ofTask]
  all_goals simp_all [LifeCall.starting, LifeCall.ofTask]

end LifeCall

/-! ## The invariant -/

/-- Whether the hub holds session `s`'s subscription. -/
def World.Subscribed (w : World) (s : Nat) : Prop :=
  ∃ ch, Holds (w.session s).node (w.session s).subscription ch w

/-- What holds of every pool along the interleavings: the session's record
and its hub are where the calls in progress put them. -/
structure LifePool.Inv (s : Nat) (p : LifePool) : Prop where
  present : s < p.world.sessions.size
  nodePresent : (p.world.session s).node < p.world.nodes.size
  wellFormed : (p.world.hubOf s).WellFormed
  fresh : LifeCall.start .register ∈ p.running → (p.world.session s).events ∉ (p.world.hubOf s).channels
  /-- Until it starts the tasks, `startSession` runs alone. -/
  alone : ∀ c ∈ p.running, c.early = true → p.running = [c] ∧ p.answers = [] ∧ (p.world.session s).closed = false
  connecting : LifeCall.start .register ∈ p.running ∨ LifeCall.start .storeRegistered ∈ p.running →
    (p.world.session s).lifecycle = .connecting
  /-- Once registered, the subscription is on the hub until the winning
  close takes it off. -/
  subscribed : LifeCall.start .register ∉ p.running → (p.world.Subscribed s ↔ p.passed 3 = 0)
  /-- The close call that swapped the flag in is the only one past its swap. -/
  winners : p.passed 1 = if (p.world.session s).closed then 1 else 0
  closingStores : p.log.countP LifeCall.storesClosing = p.passed 2
  removals : p.log.countP LifeCall.unregisters = p.passed 3
  closedFlag : (p.world.session s).lifecycle = .closed → (p.world.session s).closed = true
  retireFlag : LifeCall.retire ∈ p.running → (p.world.session s).closed = true
  /-- Both tasks close the session before they are done. -/
  tasksDone : (∀ c ∈ p.running, c.early = false) → (∀ c ∈ p.running, c.ofTask = false) →
    (p.world.session s).closed = true
  joinedAlone : p.joined = true → ∀ c ∈ p.running, c.starting = false ∧ ∀ st, c ≠ .close .caller st
  joinOnce : p.running.count .join ≤ if p.joined then 1 else 0
  finished : p.joined = true → LifeCall.join ∉ p.running →
    p.running = [] ∧ (p.world.session s).lifecycle = .closed

namespace LifePool.Inv

variable {s : Nat}

theorem start {w : World} (present : s < w.sessions.size) (nodePresent : (w.session s).node < w.nodes.size)
    (wellFormed : (w.hubOf s).WellFormed) (fresh : (w.session s).events ∉ (w.hubOf s).channels)
    (connecting : (w.session s).lifecycle = .connecting) (notClosed : (w.session s).closed = false) :
    LifePool.Inv s { world := w, running := [.start .register] } where
  present := present
  nodePresent := nodePresent
  wellFormed := wellFormed
  fresh := fun _ => fresh
  alone := fun c listed _ => by
    rw [List.mem_singleton] at listed
    exact ⟨by rw [listed], rfl, notClosed⟩
  connecting := fun _ => connecting
  subscribed := fun unregistered => absurd List.mem_cons_self unregistered
  winners := by simp [passed, notClosed, LifeCall.passed]
  closingStores := by simp [passed, LifeCall.passed]
  removals := by simp [passed, LifeCall.passed]
  closedFlag := fun closed => by rw [connecting] at closed; cases closed
  retireFlag := fun listed => by simp at listed
  tasksDone := fun notEarly => absurd (notEarly _ List.mem_cons_self) (by simp [LifeCall.early])
  joinedAlone := fun joined => absurd joined (by simp)
  joinOnce := by simp
  finished := fun joined => absurd joined (by simp)

theorem passed_append (p : LifePool) (x : LifeCall) (joined : Bool) (k : Nat) (quiet : x.passed k = false) :
    ({ p with running := p.running ++ [x], joined } : LifePool).passed k = p.passed k := by
  simp [passed, List.countP_append, quiet]

/-- A call that begins once the session is started, and has not yet passed a
swap, keeps every part of the invariant that does not speak of `join`. -/
theorem begins {p : LifePool} (inv : p.Inv s) (started : ∀ c ∈ p.running, c.starting = false)
    (x : LifeCall) (joined : Bool) (early : x.early = false) (quiet : ∀ k, x.passed k = false)
    (notStart : ∀ st, x ≠ .start st) (notRetire : x ≠ .retire)
    (joinedAlone : joined = true → ∀ c ∈ p.running ++ [x], c.starting = false ∧ ∀ st, c ≠ .close .caller st)
    (joinOnce : (p.running ++ [x]).count .join ≤ if joined then 1 else 0)
    (finished : joined = true → LifeCall.join ∉ p.running ++ [x] →
      p.running ++ [x] = [] ∧ (p.world.session s).lifecycle = .closed) :
    LifePool.Inv s { p with running := p.running ++ [x], joined } where
  present := inv.present
  nodePresent := inv.nodePresent
  wellFormed := inv.wellFormed
  fresh := fun listed => by
    rcases List.mem_append.mp listed with listed | listed
    · exact inv.fresh listed
    · exact absurd (List.mem_singleton.mp listed).symm (notStart _)
  alone := fun c listed earlyC => by
    rcases List.mem_append.mp listed with listed | listed
    · have starting := LifeCall.starting_of_early earlyC
      rw [started c listed] at starting
      cases starting
    · rw [List.mem_singleton.mp listed, early] at earlyC
      cases earlyC
  connecting := fun listed => inv.connecting (by simpa [Ne.symm (notStart _)] using listed)
  subscribed := fun unregistered =>
    (passed_append p x joined 3 (quiet 3)).symm ▸
      inv.subscribed fun listed => unregistered (List.mem_append_left _ listed)
  winners := (passed_append p x joined 1 (quiet 1)).trans inv.winners
  closingStores := inv.closingStores.trans (passed_append p x joined 2 (quiet 2)).symm
  removals := inv.removals.trans (passed_append p x joined 3 (quiet 3)).symm
  closedFlag := inv.closedFlag
  retireFlag := fun listed => inv.retireFlag (by simpa [Ne.symm notRetire] using listed)
  tasksDone := fun notEarly notTask =>
    inv.tasksDone (fun c listed => notEarly c (by simp [listed])) (fun c listed => notTask c (by simp [listed]))
  joinedAlone := joinedAlone
  joinOnce := joinOnce
  finished := finished

theorem call {p : LifePool} (inv : p.Inv s) (started : ∀ c ∈ p.running, c.starting = false)
    (unjoined : p.joined = false) : LifePool.Inv s { p with running := p.running ++ [.close .caller .swap] } :=
  inv.begins started (.close .caller .swap) p.joined rfl
    (fun k => by cases k <;> rfl)
    (fun _ => nofun) nofun (fun joined => absurd joined (by simp [unjoined])) (by simpa using inv.joinOnce)
    (fun joined => absurd joined (by simp [unjoined]))

theorem join {p : LifePool} (inv : p.Inv s) (started : ∀ c ∈ p.running, c.starting = false)
    (unjoined : p.joined = false) (alone : ∀ st, LifeCall.close .caller st ∉ p.running) :
    LifePool.Inv s { p with running := p.running ++ [.join], joined := true } := by
  refine inv.begins started .join true rfl (fun _ => rfl) (fun _ => nofun) nofun (fun _ c listed => ?_) ?_
    fun _ absent => absurd (by simp) absent
  · rcases List.mem_append.mp listed with listed | listed
    · exact ⟨started c listed, fun st same => alone st (same ▸ listed)⟩
    · simp only [List.mem_singleton] at listed
      subst listed
      exact ⟨rfl, fun _ => by simp⟩
  · -- `join` was not running before, and is now once
    have none := inv.joinOnce
    simp [unjoined] at none
    simp [List.count_append, none]

end LifePool.Inv

/-! ## One call's step -/

namespace LifePool

section Advance

variable {s : Nat} {p : LifePool} {pre post : List LifeCall} {c : LifeCall}

theorem mem_stepped {x : LifeCall} :
    x ∈ (p.stepped s pre post c).running ↔
      x ∈ pre ∨ x ∈ (c.outcome (p.world.session s).closed).1 ∨ x ∈ post := by
  simp [stepped]

theorem mem_of_split (running : p.running = pre ++ [c] ++ post) {x : LifeCall} (mem : x ∈ pre ∨ x ∈ post) :
    x ∈ p.running := by
  rw [running]
  rcases mem with mem | mem <;> simp [mem]

theorem Inv.alone_split (inv : p.Inv s) (running : p.running = pre ++ [c] ++ post) {x : LifeCall}
    (listed : x ∈ p.running) (early : x.early = true) : pre = [] ∧ post = [] ∧ c = x := by
  have only := (inv.alone x listed early).1
  rw [running] at only
  have lengths := congrArg List.length only
  simp only [List.length_append, List.length_singleton] at lengths
  obtain ⟨rfl, rfl⟩ : pre = [] ∧ post = [] := ⟨List.eq_nil_of_length_eq_zero (by omega),
    List.eq_nil_of_length_eq_zero (by omega)⟩
  simpa using only

/-- Registration is `startSession`'s first step, and never comes back. -/
theorem register_not_mem_stepped (inv : p.Inv s) (running : p.running = pre ++ [c] ++ post) :
    LifeCall.start .register ∉ (p.stepped s pre post c).running := by
  intro listed
  rcases mem_stepped.mp listed with mem | mem | mem
  · obtain ⟨rfl, -, -⟩ := inv.alone_split running (mem_of_split running (.inl mem)) rfl
    cases mem
  · exact LifeCall.register_not_mem_outcome mem
  · obtain ⟨-, rfl, -⟩ := inv.alone_split running (mem_of_split running (.inr mem)) rfl
    cases mem

theorem session_stepped (inv : p.Inv s) :
    (p.stepped s pre post c).world.session s = c.onSession (p.world.hubOf s) (p.world.session s) :=
  session_advance inv.present c

theorem hubOf_stepped (inv : p.Inv s) :
    (p.stepped s pre post c).world.hubOf s = c.onHub (p.world.session s) (p.world.hubOf s) :=
  hubOf_advance inv.nodePresent c

theorem closed_stepped (inv : p.Inv s) :
    ((p.stepped s pre post c).world.session s).closed = ((p.world.session s).closed || c.swaps) := by
  rw [session_stepped inv, LifeCall.closed_onSession]

theorem reaches_one (closed : Bool) (c : LifeCall) : c.reaches closed 1 = (c.swaps && !closed) := by
  rcases c with ⟨_ | _ | _ | _⟩ | _ | _ | ⟨_, _ | _ | _ | _⟩ | _ | _ <;> cases closed <;> rfl

theorem Inv.winners_stepped (inv : p.Inv s) (running : p.running = pre ++ [c] ++ post) :
    (p.stepped s pre post c).passed 1 = if ((p.stepped s pre post c).world.session s).closed then 1 else 0 := by
  rw [passed_stepped running Nat.one_pos (by omega), closed_stepped inv, reaches_one, inv.winners]
  cases (p.world.session s).closed <;> cases c.swaps <;> rfl

theorem Inv.alone_stepped (inv : p.Inv s) (running : p.running = pre ++ [c] ++ post) :
    ∀ x ∈ (p.stepped s pre post c).running, x.early = true →
      (p.stepped s pre post c).running = [x] ∧ (p.stepped s pre post c).answers = [] ∧
        ((p.stepped s pre post c).world.session s).closed = false := by
  intro x listed early
  rcases mem_stepped.mp listed with mem | mem | mem
  · obtain ⟨rfl, -, -⟩ := inv.alone_split running (mem_of_split running (.inl mem)) early
    cases mem
  · -- the call is `startSession` registering or storing Registered, alone as it was
    have started := LifeCall.early_of_outcome mem early
    have cEarly : c.early = true := by rcases started with rfl | rfl <;> rfl
    obtain ⟨rfl, rfl, -⟩ := inv.alone_split running (by rw [running]; simp) cEarly
    obtain ⟨-, answered, notClosed⟩ := inv.alone c (by rw [running]; simp) cEarly
    rw [closed_stepped inv]
    rcases started with rfl | rfl <;> simp_all [stepped, LifeCall.outcome, LifeCall.swaps]
  · obtain ⟨-, rfl, -⟩ := inv.alone_split running (mem_of_split running (.inr mem)) early
    cases mem

theorem Inv.connecting_stepped (inv : p.Inv s) (running : p.running = pre ++ [c] ++ post) :
    LifeCall.start .register ∈ (p.stepped s pre post c).running ∨
        LifeCall.start .storeRegistered ∈ (p.stepped s pre post c).running →
      ((p.stepped s pre post c).world.session s).lifecycle = .connecting := by
  rintro (listed | listed)
  · exact absurd listed (register_not_mem_stepped inv running)
  rcases mem_stepped.mp listed with mem | mem | mem
  · obtain ⟨rfl, -, -⟩ := inv.alone_split running (mem_of_split running (.inl mem)) rfl
    cases mem
  · -- Registered is stored right after the registration, which keeps the state
    obtain rfl := LifeCall.storeRegistered_of_outcome mem
    rw [session_stepped inv]
    exact inv.connecting (.inl (by rw [running]; simp))
  · obtain ⟨-, rfl, -⟩ := inv.alone_split running (mem_of_split running (.inr mem)) rfl
    cases mem

end Advance

section Invariant

variable {s : Nat} {p : LifePool} {pre post : List LifeCall} {c : LifeCall}

theorem subscribed_iff {w : World} :
    w.Subscribed s ↔ ∃ ch, ((w.session s).subscription.topic, (w.session s).subscription.id, ch) ∈
      (w.hubOf s).registrations :=
  Iff.rfl

/-- A close call past its swap has set the flag. -/
theorem Inv.closed_of_passed (inv : p.Inv s) {x : LifeCall} (listed : x ∈ p.running) (won : x.passed 1 = true) :
    (p.world.session s).closed = true := by
  have counted : 0 < p.running.countP (LifeCall.passed 1) := List.countP_pos_iff.mpr ⟨x, listed, won⟩
  have winners := inv.winners
  simp only [passed] at winners
  cases flag : (p.world.session s).closed
  · simp only [flag, Bool.false_eq_true, if_false] at winners
    omega
  · rfl

theorem Inv.joined_of_join (inv : p.Inv s) (listed : LifeCall.join ∈ p.running) : p.joined = true := by
  have once := inv.joinOnce
  cases joined : p.joined
  · simp only [joined] at once
    exact absurd (List.count_pos_iff.mpr listed) (by simp_all)
  · rfl

theorem Inv.subscribed_stepped (inv : p.Inv s) (running : p.running = pre ++ [c] ++ post) :
    (p.stepped s pre post c).world.Subscribed s ↔ (p.stepped s pre post c).passed 3 = 0 := by
  rw [passed_stepped running (by omega) le_rfl, subscribed_iff, session_stepped inv, hubOf_stepped inv]
  by_cases registering : c = .start .register
  · -- the registration puts the subscription in, and no close has begun
    subst registering
    have alone := inv.alone (.start .register) (by rw [running]; simp) rfl
    have none : p.passed 3 = 0 := by simp [passed, alone.1, alone.2.1, LifeCall.passed]
    simp only [none, LifeCall.reaches, LifeCall.onSession, LifeCall.onHub, Hub.register_subscription]
    refine iff_of_true ⟨(p.world.session s).events, ?_⟩ rfl
    exact (Hub.mem_registrations_register _ _ _ inv.wellFormed).mpr (.inr rfl)
  have unregistered : LifeCall.start .register ∉ p.running := fun listed =>
    registering (inv.alone_split running listed rfl).2.2
  rw [LifeCall.subscription_onSession _ _ _ registering]
  by_cases removing : ∃ who, c = .close who .unregister
  · -- the removal takes every registration of the subscription off
    obtain ⟨who, rfl⟩ := removing
    simp only [LifeCall.reaches, LifeCall.onHub]
    refine iff_of_false ?_ (by simp)
    rintro ⟨ch, held⟩
    have gone := (Hub.mem_registrations_unregister _ _ inv.wellFormed).mp held
    simp [Hub.names] at gone
  · have kept : ∀ who, c ≠ .close who .unregister := fun who same => removing ⟨who, same⟩
    have quiet : c.reaches (p.world.session s).closed 3 = false := by
      rcases c with ⟨_ | _ | _ | _⟩ | _ | _ | ⟨who, _ | _ | _ | _⟩ | _ | _
      case close.unregister => exact absurd rfl (kept who)
      all_goals simp [LifeCall.reaches]
    rw [LifeCall.onHub_of_quiet _ _ registering kept, quiet]
    exact inv.subscribed unregistered

theorem Inv.closedFlag_stepped (inv : p.Inv s) (running : p.running = pre ++ [c] ++ post)
    (ready : c = .join → ∀ c' ∈ p.running, c'.ofTask = false) :
    ((p.stepped s pre post c).world.session s).lifecycle = .closed →
      ((p.stepped s pre post c).world.session s).closed = true := by
  intro closed
  rw [session_stepped inv] at closed
  rw [closed_stepped inv]
  have listed : c ∈ p.running := by rw [running]; simp
  rcases LifeCall.lifecycle_onSession_closed _ _ _ closed with was | rfl | rfl
  · simp [inv.closedFlag was]
  · simp [inv.retireFlag listed]
  · -- `join` stores Closed once both tasks are done, and they closed the session
    have started := inv.joinedAlone (inv.joined_of_join listed)
    have notEarly : ∀ x ∈ p.running, x.early = false := fun x l => by
      cases early : x.early
      · rfl
      · exact absurd (LifeCall.starting_of_early early) (by simp [(started x l).1])
    simp [inv.tasksDone notEarly (ready rfl)]

theorem Inv.retireFlag_stepped (inv : p.Inv s) (running : p.running = pre ++ [c] ++ post) :
    LifeCall.retire ∈ (p.stepped s pre post c).running → ((p.stepped s pre post c).world.session s).closed = true := by
  intro listed
  rw [closed_stepped inv]
  rcases mem_stepped.mp listed with mem | mem | mem
  · simp [inv.retireFlag (mem_of_split running (.inl mem))]
  · rcases LifeCall.retire_of_outcome mem with ⟨rfl, _⟩ | rfl
    · simp [LifeCall.swaps]
    · simp [inv.closed_of_passed (show LifeCall.close .writer .cancel ∈ p.running by rw [running]; simp) rfl]
  · simp [inv.retireFlag (mem_of_split running (.inr mem))]

theorem Inv.tasksDone_stepped (inv : p.Inv s) (running : p.running = pre ++ [c] ++ post) :
    (∀ x ∈ (p.stepped s pre post c).running, x.early = false) →
      (∀ x ∈ (p.stepped s pre post c).running, x.ofTask = false) →
        ((p.stepped s pre post c).world.session s).closed = true := by
  intro notEarly notTask
  rw [closed_stepped inv]
  have listed : c ∈ p.running := by rw [running]; simp
  have left : ∀ x ∈ (c.outcome (p.world.session s).closed).1, x.early = false ∧ x.ofTask = false :=
    fun x mem => ⟨notEarly x (mem_stepped.mpr (.inr (.inl mem))), notTask x (mem_stepped.mpr (.inr (.inl mem)))⟩
  have others : ∀ x ∈ p.running, x ≠ c → x.early = false ∧ x.ofTask = false := fun x l other => by
    rw [running] at l
    simp only [List.mem_append, List.mem_singleton] at l
    rcases l with (l | l) | l
    · exact ⟨notEarly x (mem_stepped.mpr (.inl l)), notTask x (mem_stepped.mpr (.inl l))⟩
    · exact absurd l other
    · exact ⟨notEarly x (mem_stepped.mpr (.inr (.inr l))), notTask x (mem_stepped.mpr (.inr (.inr l)))⟩
  cases early : c.early
  · cases task : c.ofTask
    · -- neither early nor a task: the tasks were done before this step
      have closed := inv.tasksDone
        (fun x l => if same : x = c then same ▸ early else (others x l same).1)
        (fun x l => if same : x = c then same ▸ task else (others x l same).2)
      simp [closed]
    · -- the last task's step: a swap, a winner's step, or the writer's retirement
      rcases LifeCall.task_step_closes task fun x mem => (left x mem).2 with swapped | won | rfl
      · simp [swapped]
      · simp [inv.closed_of_passed listed won]
      · simp [inv.retireFlag listed]
  · obtain ⟨x, mem, early | task⟩ := @LifeCall.early_outcome (p.world.session s).closed c early
    · exact absurd early (by simp [(left x mem).1])
    · exact absurd task (by simp [(left x mem).2])

theorem Inv.joinedAlone_stepped (inv : p.Inv s) (running : p.running = pre ++ [c] ++ post) :
    (p.stepped s pre post c).joined = true → ∀ x ∈ (p.stepped s pre post c).running,
      x.starting = false ∧ ∀ st, x ≠ .close .caller st := by
  intro joined x listed
  have alone := inv.joinedAlone joined
  rcases mem_stepped.mp listed with mem | mem | mem
  · exact alone x (mem_of_split running (.inl mem))
  · have callAlone := alone c (by rw [running]; simp)
    refine ⟨?_, fun st same => ?_⟩
    · cases starting : x.starting
      · rfl
      · exact absurd (LifeCall.starting_of_outcome mem starting) (by simp [callAlone.1])
    · subst same
      obtain ⟨st', rfl⟩ := LifeCall.caller_of_outcome mem
      exact callAlone.2 st' rfl
  · exact alone x (mem_of_split running (.inr mem))

theorem Inv.joinOnce_stepped (inv : p.Inv s) (running : p.running = pre ++ [c] ++ post) :
    (p.stepped s pre post c).running.count .join ≤ if (p.stepped s pre post c).joined then 1 else 0 := by
  have none : (c.outcome (p.world.session s).closed).1.count .join = 0 :=
    List.count_eq_zero.mpr LifeCall.join_not_mem_outcome
  have once := inv.joinOnce
  rw [running, List.count_append, List.count_append] at once
  show (pre ++ (c.outcome (p.world.session s).closed).1 ++ post).count .join ≤ if p.joined then 1 else 0
  rw [List.count_append, List.count_append, none]
  cases joined : p.joined <;> simp only [joined, Bool.false_eq_true, if_false, if_true] at once ⊢ <;> omega

/-- Once `join` is done, nothing runs and the state is Closed. -/
theorem Inv.finished_stepped (inv : p.Inv s) (running : p.running = pre ++ [c] ++ post)
    (ready : c = .join → ∀ c' ∈ p.running, c'.ofTask = false) :
    (p.stepped s pre post c).joined = true → LifeCall.join ∉ (p.stepped s pre post c).running →
      (p.stepped s pre post c).running = [] ∧ ((p.stepped s pre post c).world.session s).lifecycle = .closed := by
  intro joined absent
  by_cases isJoin : c = .join
  · -- `join` steps alone: every running call is `join`, and there is one
    subst isJoin
    have alone := inv.joinedAlone joined
    have everyJoin : ∀ x ∈ p.running, LifeCall.join = x := fun x l =>
      (LifeCall.eq_join (alone x l).1 (ready rfl x l) (alone x l).2).symm
    have once := inv.joinOnce
    rw [List.count_eq_length.mpr everyJoin, running] at once
    simp only [stepped] at joined
    simp only [joined, List.length_append, List.length_singleton, if_true] at once
    obtain ⟨rfl, rfl⟩ : pre = [] ∧ post = [] :=
      ⟨List.eq_nil_of_length_eq_zero (by omega), List.eq_nil_of_length_eq_zero (by omega)⟩
    refine ⟨rfl, ?_⟩
    rw [session_stepped inv]
    rfl
  · have notListed : LifeCall.join ∉ p.running := fun l => by
      rw [running] at l
      simp only [List.mem_append, List.mem_singleton] at l
      rcases l with (l | l) | l
      · exact absent (mem_stepped.mpr (.inl l))
      · exact isJoin l.symm
      · exact absent (mem_stepped.mpr (.inr (.inr l)))
    have empty := (inv.finished joined notListed).1
    rw [running] at empty
    simp at empty

/-- One call's step keeps the invariant. -/
theorem Inv.stepped (inv : p.Inv s) (running : p.running = pre ++ [c] ++ post)
    (ready : c = .join → ∀ c' ∈ p.running, c'.ofTask = false) : (p.stepped s pre post c).Inv s := by
  have sizes : (p.stepped s pre post c).world.sessions.size = p.world.sessions.size ∧
      (p.stepped s pre post c).world.nodes.size = p.world.nodes.size := sizes_advance c
  have listed : c ∈ p.running := by rw [running]; simp
  have unregistered := register_not_mem_stepped inv running
  exact {
    present := sizes.1 ▸ inv.present
    nodePresent := by rw [session_stepped inv, LifeCall.node_onSession, sizes.2]; exact inv.nodePresent
    wellFormed := by
      rw [hubOf_stepped inv]
      exact LifeCall.wellFormed_onHub _ c inv.wellFormed fun same => inv.fresh (same ▸ listed)
    fresh := fun registering => absurd registering unregistered
    alone := inv.alone_stepped running
    connecting := inv.connecting_stepped running
    subscribed := fun _ => inv.subscribed_stepped running
    winners := inv.winners_stepped running
    closingStores := by
      rw [passed_stepped running (by omega) (by omega), ← inv.closingStores,
        ← LifeCall.storesClosing_eq_reaches]
      simp [LifePool.stepped, List.countP_append]
    removals := by
      rw [passed_stepped running (by omega) le_rfl, ← inv.removals, ← LifeCall.unregisters_eq_reaches]
      simp [LifePool.stepped, List.countP_append]
    closedFlag := inv.closedFlag_stepped running ready
    retireFlag := inv.retireFlag_stepped running
    tasksDone := inv.tasksDone_stepped running
    joinedAlone := inv.joinedAlone_stepped running
    joinOnce := inv.joinOnce_stepped running
    finished := inv.finished_stepped running ready }

theorem Inv.step {p' : LifePool} (inv : p.Inv s) (step : LifePool.Step s p p') : p'.Inv s := by
  cases step with
  | call started unjoined => exact inv.call started unjoined
  | join started unjoined alone => exact inv.join started unjoined alone
  | advance pre post c running ready =>
    rw [Step.advance_eq]
    exact inv.stepped running ready

theorem Inv.reachable {w : World} (present : s < w.sessions.size) (nodePresent : (w.session s).node < w.nodes.size)
    (wellFormed : (w.hubOf s).WellFormed) (fresh : (w.session s).events ∉ (w.hubOf s).channels)
    (connecting : (w.session s).lifecycle = .connecting) (notClosed : (w.session s).closed = false)
    (reached : LifePool.Reachable s w p) : p.Inv s := by
  induction reached with
  | refl => exact Inv.start present nodePresent wellFormed fresh connecting notClosed
  | tail _ step inv => exact inv.step step

end Invariant

end LifePool

/-! ## Along every interleaving -/

namespace LifePool

variable {s : Nat} {p : LifePool}

end LifePool

end Herald.Cluster
