import Herald.Cluster.Scheduler
import Herald.Scenario.Frames
import Herald.Scenario.Identity

set_option autoImplicit false

/-!
The state of a `world` scenario and the setup that builds its cluster.

Besides the cluster itself, a run keeps what the client side holds: the
channels it registered on hubs, the raw transport subscriptions it opened,
the sessions it started by name, and the ordered list of the entities the
steps created, which later steps refer to by position.
-/

namespace Herald.Scenario

open Json Cluster

/-- A channel the client side registered on a node's hub. -/
structure Listener where
  node : Nat
  channel : Nat
  subscription : Subscription
  deriving Inhabited

/-- A world run. -/
structure Run where
  world : World := {}
  /-- Created entities in order: id and creation time. -/
  entities : Array (Uuid × Timestamp) := #[]
  listeners : List (String × Listener) := []
  taps : List (String × Stream) := []
  sessions : List (String × Nat) := []
  deriving Inhabited

abbrev RunM := StateM Run

/-- A step of a run that may fail with an error object. -/
abbrev StepM := ExceptT Json RunM

/-- Run a cluster computation inside a run. -/
def onCluster {α : Type} (m : ClusterM α) : RunM α := fun r =>
  let (a, w) := m r.world
  (a, { r with world := w })

/-- Run a cluster computation inside a step. -/
def cluster {α : Type} (m : ClusterM α) : StepM α := ExceptT.lift (onCluster m)

/-- Record a created entity unless its id is listed already. -/
def noteEntity (id : Uuid) (createdAt : Timestamp) : RunM Unit :=
  modify fun r =>
    if r.entities.any (·.1 == id) then r else { r with entities := r.entities.push (id, createdAt) }

def noteEvent (e : Event) : RunM Unit := noteEntity e.id e.createdAt

/-- Record the entity of an acknowledgement frame, if it carries one. -/
def noteFrame (f : Frame) : RunM Unit :=
  match f with
  | .ack _ (some e) => noteEvent e
  | _ => pure ()

/-- The entity at a position: `k ≥ 1` counts from the first, `k ≤ -1`
from the latest. -/
def entityAt (k : Int) : StepM (Uuid × Timestamp) := do
  let es := (← get).entities
  let idx : Option Nat :=
    if k ≥ 1 then (if k.toNat ≤ es.size then some (k.toNat - 1) else none)
    else if k ≤ -1 then (if (-k).toNat ≤ es.size then some (es.size - (-k).toNat) else none)
    else none
  match idx with
  | some i => pure (es.getD i default)
  | none => throw (requestError s!"entity reference {k} out of range")

def intArg (req : Json) (key : String) : Except Json Int :=
  match (req.get? key).bind Json.int? with
  | some i => .ok i
  | none => .error (requestError s!"field {key} must be an integer")

/-- Lift an argument reader into a step. -/
def arg {α : Type} (x : Except Json α) : StepM α := liftExcept x

/-- A topic argument `{room}` or `{user}`. -/
def topicArg (req : Json) (key : String) : Except Json Topic := do
  let t ← valueArg req key
  match ← optTextArg t "room" with
  | some r => pure (.room r)
  | none => match ← optTextArg t "user" with
    | some u => pure (.user u)
    | none => throw (requestError s!"field {key} must name a room or a user")

/-- An entity id given as `id`, or as `ref` into the created entities. -/
def idArg (req : Json) : StepM Uuid := do
  match ← arg (optTextArg req "id") with
  | some s =>
    match Uuid.parse s with
    | .ok u => pure u
    | .error m => throw (requestError m)
  | none => return (← entityAt (← arg (intArg req "ref"))).1

/-- A page bound given as `before`, or as `before_ref`: the creation time
of a created entity. -/
def beforeArg (req : Json) : StepM (Option Timestamp) := do
  match ← arg (optTextArg req "before") with
  | some _ => some <$> arg (timestampArg req "before")
  | none =>
    match req.get? "before_ref" with
    | some .null | none => pure none
    | some _ => return some (← entityAt (← arg (intArg req "before_ref"))).2

def nodeArg (req : Json) : StepM Nat := do
  let n := ((← arg (optNatArg req "node")).getD 0)
  if n < (← get).world.nodes.size then pure n
  else throw (requestError s!"no node {n}")

/-- A service error as a step error. -/
def serviceFailure (e : ServiceError) : Json :=
  .obj [("error", .str e.label), ("code", .nat e.code), ("message", .str e.message)]

/-- A service result as a step result. -/
def serviceResult {α : Type} (x : Except ServiceError α) : StepM α :=
  match x with
  | .ok a => pure a
  | .error e => throw (serviceFailure e)

/-- Replace every `$REF<k>` in a text by the id of entity `k`. -/
def substituteRefs (text : String) : StepM String := do
  let parts := text.splitOn "$REF"
  match parts with
  | [] => pure text
  | first :: rest =>
    let mut out := first
    for part in rest do
      let cs := part.toList
      let (sign, digitsFrom) := match cs with
        | '-' :: more => (-1, more)
        | more => (1, more)
      let digits := digitsFrom.takeWhile Char.isDigit
      if digits.isEmpty then
        out := out ++ "$REF" ++ part
      else
        let k : Int := sign * (String.ofList digits).toNat!
        let (id, _) ← entityAt k
        let used := digits.length + (if sign < 0 then 1 else 0)
        out := out ++ id.render ++ String.ofList (cs.drop used)
    pure out

def transportOf (desc : Json) : Except Json Transport := do
  match ← textArg desc "kind" with
  | "bus" => pure (.bus { capacity := (← optNatArg desc "capacity").getD defaultBusCapacity })
  | "queue" => pure (.queue { maxBacklog := (← optNatArg desc "backlog").getD defaultBacklog })
  | "faulty" =>
    let script ← match desc.get? "subscribe" with
      | some (.arr steps) => steps.mapM fun s => match s with
        | .str "ok" => pure ScriptStep.ok
        | .str "fail" => pure .fail
        | .str "broken" => pure .broken
        | _ => throw (requestError "bad subscribe script")
      | _ => pure []
    let fails := (← optBoolArg desc "publish_fails").getD false
    pure (.faulty { script, publishFails := fails, inner := { capacity := defaultBusCapacity } })
  | other => throw (requestError s!"unknown transport kind {other}")

/-- A node's chat settings, each defaulting separately. -/
def chatConfigOf (j : Json) : Except Json ChatConfig := do
  let d : ChatConfig := {}
  pure { maxContentLength := (← optNatArg j "max_content_length").getD d.maxContentLength
         defaultHistoryLimit := (← optNatArg j "default_history_limit").getD d.defaultHistoryLimit
         maxHistoryLimit := (← optNatArg j "max_history_limit").getD d.maxHistoryLimit
         recallEnabled := (← optBoolArg j "recall_enabled").getD d.recallEnabled
         recallTtl := match ← optNatArg j "recall_ttl_secs" with
           | some s => ⟨s, 0⟩
           | none => d.recallTtl }

/-- A node's notification settings, each defaulting separately. -/
def notifyConfigOf (j : Json) : Except Json NotificationConfig := do
  let d : NotificationConfig := {}
  pure { maxContentLength := (← optNatArg j "max_content_length").getD d.maxContentLength
         defaultHistoryLimit := (← optNatArg j "default_history_limit").getD d.defaultHistoryLimit
         maxHistoryLimit := (← optNatArg j "max_history_limit").getD d.maxHistoryLimit }

/-- A number argument read as a float. -/
def floatArg (req : Json) (key : String) : Except Json (Option Float) :=
  match req.get? key with
  | some (.num (.float f)) => .ok (some f)
  | some (.num (.nat n)) => .ok (some n.toFloat)
  | some (.num (.neg i)) => .ok (some (Float.ofInt i))
  | some .null | none => .ok none
  | some _ => .error (requestError s!"field {key} must be a number")

def backplaneConfigOf (j : Json) : Except Json BackplaneConfig := do
  let d : BackplaneConfig := {}
  pure { subjectPrefix := (← optTextArg j "subject_prefix").getD d.subjectPrefix
         resubscribeAttempts := (← optNatArg j "resubscribe_attempts").getD d.resubscribeAttempts
         initialDelay := match ← optNatArg j "initial_delay_ms" with
           | some ms => ms * 1000000
           | none => d.initialDelay
         maxDelay := match ← optNatArg j "max_delay_ms" with
           | some ms => ms * 1000000
           | none => d.maxDelay
         backoffMultiplier := (← floatArg j "backoff_multiplier").getD d.backoffMultiplier }

/-- Build node `i` from its description and add it to the cluster. -/
def addNode (i : Nat) (desc : Json) : StepM Unit := do
  let bp ← arg (backplaneConfigOf desc)
  let (source, bp, names) ← match desc.get? "source" with
    | some (.bool false) => do
      let u ← cluster freshUuid
      pure (u.render, ({} : BackplaneConfig), ([] : List String))
    | some .null => do
      let u ← cluster freshUuid
      pure (u.render, bp, ← transportNames)
    | some (.str s) => pure (s, bp, ← transportNames)
    | some _ => throw (requestError "bad source")
    | none => pure (s!"node-{i}", bp, ← transportNames)
  let hub := match desc.natAt? "hub_capacity" with
    | some c => Hub.withCapacity c
    | none => {}
  let chat ← arg (chatConfigOf ((desc.get? "chat").getD (.obj [])))
  let notify ← arg (notifyConfigOf ((desc.get? "notify").getD (.obj [])))
  let recallAttached := (← arg (optBoolArg desc "recall")).getD true
  let storeDown := desc.strAt? "store" == some "down"
  let node : Node := { hub := hub, chat := chat, notify := notify, source := source,
                       backplane := bp, transports := names, storeDown := storeDown,
                       recallAttached := recallAttached }
  modify fun r => { r with world := { r.world with nodes := r.world.nodes.push node } }
where
  transportNames : StepM (List String) := do
    match desc.get? "transports" with
    | some (.arr names) => names.mapM fun n => match n with
      | .str s => pure s
      | _ => throw (requestError "transport names must be strings")
    | _ => pure []

/-- Start node `n`'s backplane; the first failed subscribe fails the start. -/
def startNode (n : Nat) : StepM Unit := do
  match ← cluster (startBackplane n) with
  | .ok _ => pure ()
  | .error e => throw (failure "backplane" e.message)

/-- Build the transports and nodes a scenario describes and start them. -/
def setup (req : Json) : StepM Unit := do
  match req.get? "transports" with
  | some (.obj members) =>
    for (name, desc) in members do
      let t ← arg (transportOf desc)
      modify fun r => { r with world := { r.world with transports :=
        { r.world.transports with named := r.world.transports.named ++ [(name, t)] } } }
  | _ => pure ()
  let nodes := match req.get? "nodes" with
    | some (.arr ns) => ns
    | _ => [.obj []]
  let mut i := 0
  for desc in nodes do
    addNode i desc
    if (← arg (optBoolArg desc "start")).getD true then startNode i
    i := i + 1

end Herald.Scenario
