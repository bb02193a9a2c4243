import Herald.Cluster.Tasks

set_option autoImplicit false

/-!
The virtual clock.

Time moves only when no task can run. Then the clock jumps to the earliest
deadline any waiting task has, and every task whose deadline has come is
woken, in the order sessions, consumers, purge tasks. A caller that waits
(the driver sleeping between steps, or waiting for a client event) has a
deadline of its own: timers due before it fire and their tasks run; at the
caller's deadline the tasks due at the same instant are only woken, and the
caller goes first.
-/

namespace Herald.Cluster

namespace World

/-- The deadlines of tasks that wait for time and are not queued to run. -/
def timers (w : World) : List (Nat × TaskRef) :=
  let writers := (List.range w.sessions.size).filterMap fun s =>
    match (w.session s).writer with
    | .selecting d | .closing d => some (d, TaskRef.writer s)
    | _ => none
  let consumers := (List.range w.consumers.size).filterMap fun c =>
    match (w.consumers.getD c default).step with
    | .backoff _ _ d => some (d, TaskRef.consumer c)
    | _ => none
  let purges := (List.range w.purges.size).filterMap fun p =>
    let task := w.purges.getD p default
    if task.started && !task.done then some (task.nextTick, TaskRef.purge p) else none
  (writers ++ consumers ++ purges).filter fun (_, t) => !w.runQueue.contains t

def nextTimer (w : World) : Option Nat :=
  w.timers.foldl (fun acc (d, _) => some (match acc with
    | some a => min a d
    | none => d)) none

end World

/-- Run queued tasks, in order, until none is queued. -/
def runQueued : Nat → ClusterM Unit
  | 0 => pure ()
  | fuel + 1 => do
    match (← get).runQueue with
    | [] => pure ()
    | t :: rest =>
      modify fun w => { w with runQueue := rest }
      pollTask t
      runQueued fuel

/-- The most task runs between two moves of the clock. -/
def runBudget : Nat := 1000000

/-- Move the clock to `t` and wake every task whose deadline has come. -/
def advanceTo (t : Nat) : ClusterM Unit := do
  modify fun w => { w with clock := max w.clock t }
  let w ← get
  for (d, task) in w.timers do
    if d ≤ w.clock then wake task

/-- Let time pass until `target`: tasks run and timers before `target`
fire; timers due at `target` only wake their tasks. -/
def settleUntil (target : Nat) : Nat → ClusterM Unit
  | 0 => pure ()
  | fuel + 1 => do
    runQueued runBudget
    match (← get).nextTimer with
    | some d =>
      if d < target then
        advanceTo d
        settleUntil target fuel
      else advanceTo target
    | none => advanceTo target

/-- Sleep `ms` milliseconds of virtual time. -/
def sleepFor (ms : Nat) : ClusterM Unit := do
  let w ← get
  settleUntil (waitDeadline w.clock ms) (2 * min ms longestWait + w.timers.length + 16)

/-- Wait until `cond` holds, or until virtual time `deadline`; tell whether
it holds. The condition is looked at when no task can run. -/
def waitUntil (cond : World → Bool) (deadline : Nat) : Nat → ClusterM Bool
  | 0 => return cond (← get)
  | fuel + 1 => do
    if cond (← get) then return true
    runQueued runBudget
    if cond (← get) then return true
    match (← get).nextTimer with
    | some d =>
      if d < deadline then
        advanceTo d
        waitUntil cond deadline fuel
      else
        advanceTo deadline
        return cond (← get)
    | none =>
      advanceTo deadline
      return cond (← get)

/-- Wait at most `ms` milliseconds for `cond`. -/
def waitFor (cond : World → Bool) (ms : Nat) : ClusterM Bool := do
  let w ← get
  waitUntil cond (waitDeadline w.clock ms) (2 * min ms longestWait + w.timers.length + 16)

end Herald.Cluster
