import Herald.Proofs.BackplaneReplication

set_option autoImplicit false

/-!
# The backplane consumer's loop

A consumer reads its stream one payload at a time and hands each to its
node's hub; when the stream fails it backs off and subscribes again, a
bounded number of times; the stream's end and the cluster's cancellation
stop it.

What a turn of the loop does depends on what it meets (`meets`): nothing to
do, the cancellation, the answer of a read of its stream, or the answer of a
subscribe.  `consumerTurn_turned` says once what a turn does in each case:
the consumer's record moves as `Meets.streamAfter` and
`ConsumerStep.afterTurn` say, and the hubs change only by the hand-over of a
payload read.  A run (`ConsumerRun`) interleaves the consumer's turns with
whatever the rest of the cluster does that leaves the consumer and the hubs
alone, and along every run:

* the hubs receive one broadcast, on the event's own topic, for each payload
  read that decodes as an envelope from another source, in the order read,
  and nothing else;
* when no read fails, the loop ends exactly at the stream's end or at the
  cancellation, so neither an undecodable payload nor the node's own echo
  ends it, and nothing is read once it has ended;
* the subscribe calls since the last read of the stream never outnumber the
  configured attempts.
-/

namespace Herald.Cluster

/-! ## What a payload read becomes -/

/-- The event a consumer of a node with source `source` broadcasts for a
payload: the envelope's event, when the payload decodes as an envelope that
names another source. -/
def acceptedEvent (source : String) (p : ByteArray) : Option Event :=
  match Envelope.decode p with
  | .error _ => none
  | .ok env => if env.isFrom source then none else some env.payload

/-- Broadcast events one after another on node `q`'s hub. -/
def broadcastAll (q : Nat) (events : List Event) (hubs : Array Node × Array EventChannel) :
    Array Node × Array EventChannel :=
  events.foldl (fun hubs e => broadcastHubs q e hubs) hubs

theorem handOver_eq_acceptedEvent (q : Nat) (p : ByteArray) (hubs : Array Node × Array EventChannel) :
    handOver q p hubs =
      match acceptedEvent (hubs.1.getD q default).source p with
      | some e => broadcastHubs q e hubs
      | none => hubs := by
  unfold handOver acceptedEvent
  cases Envelope.decode p with
  | error _ => rfl
  | ok env =>
      dsimp only
      by_cases own : env.isFrom (hubs.1.getD q default).source = true
      · simp only [own, if_true]
      · simp only [own, if_false, Bool.false_eq_true]

/-- A broadcast changes no node but in its drop count, so it keeps whatever
does not look at that count. -/
theorem broadcastHubs_keeps {α : Type} (f : Node → α) (keeps : ∀ nd x, f (nd.addDropped x) = f nd)
    (q n : Nat) (e : Event) (hubs : Array Node × Array EventChannel) :
    f ((broadcastHubs q e hubs).1.getD n default) = f (hubs.1.getD n default) := by
  unfold broadcastHubs
  dsimp only
  rw [getD_modify]
  split
  · next same =>
      obtain ⟨rfl, -⟩ := same
      exact keeps _ _
  · rfl

theorem handOver_keeps {α : Type} (f : Node → α) (keeps : ∀ nd x, f (nd.addDropped x) = f nd)
    (q n : Nat) (p : ByteArray) (hubs : Array Node × Array EventChannel) :
    f ((handOver q p hubs).1.getD n default) = f (hubs.1.getD n default) := by
  unfold handOver
  split
  · rfl
  · split
    · rfl
    · exact broadcastHubs_keeps f keeps q n _ hubs

theorem foldl_handOver (q : Nat) (ps : List ByteArray) (hubs : Array Node × Array EventChannel) :
    ps.foldl (fun hubs p => handOver q p hubs) hubs =
      broadcastAll q (ps.filterMap (acceptedEvent (hubs.1.getD q default).source)) hubs := by
  -- induction on the payloads, from any hubs: a hand-over keeps the node's source
  induction ps generalizing hubs with
  | nil => rfl
  | cons p rest inductionHypothesis =>
      have source := handOver_keeps Node.source (fun _ _ => rfl) q q p hubs
      rw [List.foldl_cons, inductionHypothesis, source, handOver_eq_acceptedEvent, List.filterMap_cons]
      cases acceptedEvent (hubs.1.getD q default).source p <;> rfl

/-! ## One turn -/

/-- What a consumer's turn meets. -/
inductive Meets where
  /-- It has ended, or waits for its backoff deadline: the turn does nothing. -/
  | idle
  /-- The cluster is cancelled: the consumer ends. -/
  | cancelled
  /-- It reads its stream, which moves on to `stream` and answers `got`. -/
  | read (stream : Stream) (got : Except TransportError (Received ByteArray))
  /-- It makes resubscribe attempt `attempt`, after waiting `delay`, and its
  transport answers `got`. -/
  | subscribe (attempt delay : Nat) (got : Except TransportError Stream)

/-- What consumer `c`'s next turn meets in `w`. -/
def meets (c : Nat) (w : World) : Meets :=
  let con := w.consumers.getD c default
  match con.step with
  | .done => .idle
  | .receiving =>
    if w.cancelled then .cancelled
    else
      let (_, stream, got) := w.transports.next con.stream
      .read stream got
  | .backoff attempt delay deadline =>
    if w.cancelled then .cancelled
    else if w.clock < deadline then .idle
    else .subscribe attempt delay (w.transports.subscribe con.transport (w.node con.node).backplane.subject).2

namespace Meets

/-- The payload the turn read, if it read one. -/
def item? : Meets → Option ByteArray
  | .read _ (.ok (.item p)) => some p
  | _ => none

/-- Whether the turn ends the loop without a failure: the cancellation, or
the end of the stream. -/
def ends : Meets → Bool
  | .cancelled | .read _ (.ok .finished) => true
  | _ => false

/-- Whether the turn's read of the stream failed. -/
def failed : Meets → Bool
  | .read _ (.error _) => true
  | _ => false

/-- The stream the consumer holds after the turn. -/
def streamAfter (current : Stream) : Meets → Stream
  | .read stream _ => stream
  | .subscribe _ _ (.ok stream) => stream
  | _ => current

/-- The subscribe calls made since the last read of the stream, after the
turn: a read starts the count again, a subscribe adds one. -/
def countSubscribes (calls : Nat) : Meets → Nat
  | .read _ _ => 0
  | .subscribe _ _ _ => calls + 1
  | _ => calls

end Meets

/-- Where a consumer's loop goes from `step` on a turn that meets `m`, with
its node's settings `cfg` and the clock at `now`. -/
def ConsumerStep.afterTurn (cfg : BackplaneConfig) (now : Nat) (step : ConsumerStep) : Meets → ConsumerStep
  | .idle => step
  | .cancelled => .done
  | .read _ (.ok .finished) => .done
  | .read _ (.ok _) => .receiving
  | .read _ (.error _) =>
    if cfg.resubscribeAttempts = 0 then .done
    else .backoff 1 cfg.initialDelay (waitDeadline now (ceilMillis cfg.initialDelay))
  | .subscribe _ _ (.ok _) => .receiving
  | .subscribe attempt delay (.error _) =>
    match cfg.nextDelay? delay with
    | none => .done
    | some delay =>
      if attempt ≥ cfg.resubscribeAttempts then .done
      else .backoff (attempt + 1) delay (waitDeadline now (ceilMillis delay))

/-- What one turn of consumer `c` did to the cluster, said once: its record
moved as what it met says, and the hubs changed only by the hand-over of a
payload it read. -/
structure Turned (c : Nat) (w after : World) : Prop where
  size : after.consumers.size = w.consumers.size
  record : after.consumers.getD c default =
    { w.consumers.getD c default with
      stream := (meets c w).streamAfter (w.consumers.getD c default).stream,
      step := (w.consumers.getD c default).step.afterTurn
        (w.node (w.consumers.getD c default).node).backplane w.clock (meets c w) }
  hubs : after.hubs =
    match (meets c w).item? with
    | some p => handOver (w.consumers.getD c default).node p w.hubs
    | none => w.hubs

theorem getD_modify_self {α : Type} {xs : Array α} {i : Nat} (d : α) (f : α → α) (present : i < xs.size) :
    (xs.modify i f).getD i d = f (xs.getD i d) := by
  rw [getD_modify]
  exact if_pos ⟨rfl, present⟩

/-- Starting a backoff lets the consumer go when no attempt is allowed, and
otherwise waits the initial delay before the first attempt. -/
theorem startBackoff_run (c : Nat) (w : World) :
    ((startBackoff c).run w).2 =
      let cfg := (w.node (w.consumers.getD c default).node).backplane
      if cfg.resubscribeAttempts = 0 then ((retireConsumer c).run w).2
      else
        { w with consumers := w.consumers.modify c fun x =>
            { x with step := .backoff 1 cfg.initialDelay (waitDeadline w.clock (ceilMillis cfg.initialDelay)) } } := by
  unfold startBackoff
  simp only [StateT.run_bind, StateT.run_get, pure_bind, beq_iff_eq]
  split <;> rfl

theorem retire_turned {c : Nat} {w : World} (present : c < w.consumers.size) (met : meets c w = .cancelled) :
    Turned c w ((retireConsumer c).run w).2 := by
  rw [retireConsumer_run]
  exact ⟨Array.size_modify, by rw [getD_modify_self _ _ present, met]; rfl, by rw [met]; rfl⟩

/-- A receiving consumer in a live cluster reads its stream, holds the moved
stream, and goes on by what the read answered. -/
theorem consumerTurn_reads {c : Nat} {w : World} {con : Consumer} (current : w.consumers.getD c default = con)
    (receiving : con.step = .receiving) (live : w.cancelled = false) {ts : Transports} {moved : Stream}
    {got : Except TransportError (Received ByteArray)} (read : w.transports.next con.stream = (ts, moved, got)) :
    ((consumerTurn c).run w).2 =
      ((match got with
        | .error _ => startBackoff c
        | .ok (.item p) => dispatchEnvelope con.node p
        | .ok .finished => retireConsumer c
        | .ok .empty => pure ()).run
        { w with transports := ts, consumers := w.consumers.modify c fun x => { x with stream := moved } }).2 := by
  have running : ¬w.cancelled = true := by simp only [live, Bool.false_eq_true, not_false_eq_true]
  simp only [consumerTurn, run_get_bind, current, receiving, read]
  rw [if_neg running]
  cases got with
  | error e => rfl
  | ok r => cases r <;> rfl

/-- A backing-off consumer in a live cluster, once its deadline has come,
subscribes again: on success it reads the fresh stream; on failure it ends,
or waits for the next attempt when one is allowed. -/
theorem consumerTurn_subscribes {c : Nat} {w : World} {con : Consumer} (current : w.consumers.getD c default = con)
    {attempt delay deadline : Nat} (backoff : con.step = .backoff attempt delay deadline)
    (live : w.cancelled = false) (due : ¬w.clock < deadline) {ts : Transports} {got : Except TransportError Stream}
    (subscribed : w.transports.subscribe con.transport (w.node con.node).backplane.subject = (ts, got)) :
    ((consumerTurn c).run w).2 =
      match got with
      | .ok fresh =>
        { w with transports := ts.release con.stream,
                 consumers := w.consumers.modify c fun x => { x with stream := fresh, step := .receiving } }
      | .error _ =>
        match (w.node con.node).backplane.nextDelay? delay with
        | none => ((retireConsumer c).run { w with transports := ts }).2
        | some later =>
          if attempt ≥ (w.node con.node).backplane.resubscribeAttempts then
            ((retireConsumer c).run { w with transports := ts }).2
          else
            { w with transports := ts, consumers := w.consumers.modify c fun x =>
                { x with step := .backoff (attempt + 1) later (waitDeadline w.clock (ceilMillis later)) } } := by
  have running : ¬w.cancelled = true := by simp only [live, Bool.false_eq_true, not_false_eq_true]
  simp only [consumerTurn, run_get_bind, current, backoff, subscribed]
  rw [if_neg running, if_neg due]
  cases got with
  | ok fresh => rfl
  | error e =>
      dsimp only
      cases (w.node con.node).backplane.nextDelay? delay with
      | none => rfl
      | some later =>
          dsimp only
          split <;> rfl

theorem consumerTurn_cancelled {c : Nat} {w : World} {con : Consumer} (current : w.consumers.getD c default = con)
    (going : con.step ≠ .done) (cancelled : w.cancelled = true) :
    ((consumerTurn c).run w).2 = ((retireConsumer c).run w).2 := by
  simp only [consumerTurn, run_get_bind, current]
  cases step : con.step with
  | done => exact absurd step going
  | receiving =>
      simp only [cancelled, if_true]
      rfl
  | backoff attempt delay deadline =>
      simp only [cancelled, if_true]
      rfl

theorem cancelled_turned {c : Nat} {w : World} (present : c < w.consumers.size) {con : Consumer}
    (current : w.consumers.getD c default = con) (going : con.step ≠ .done) (cancelled : w.cancelled = true) :
    Turned c w ((consumerTurn c).run w).2 := by
  have met : meets c w = .cancelled := by
    simp only [meets, current]
    cases step : con.step with
    | done => exact absurd step going
    | receiving => simp only [cancelled, if_true]
    | backoff attempt delay deadline => simp only [cancelled, if_true]
  rw [consumerTurn_cancelled current going cancelled]
  exact retire_turned present met

theorem receiving_turned {c : Nat} {w : World} (present : c < w.consumers.size) {node : Nat} {transport : String}
    {stream : Stream} (current : w.consumers.getD c default = ⟨node, transport, stream, .receiving⟩)
    (live : w.cancelled = false) :
    Turned c w ((consumerTurn c).run w).2 := by
  obtain ⟨⟨ts, moved, got⟩, read⟩ : ∃ r, w.transports.next stream = r := ⟨_, rfl⟩
  have met : meets c w = .read moved got := by
    simp only [meets, current, live, read]
    rfl
  -- the cluster once the stream is read and the consumer holds the moved stream
  let w₁ : World :=
    { w with transports := ts, consumers := w.consumers.modify c fun x => { x with stream := moved } }
  have present₁ : c < w₁.consumers.size := by simp only [w₁, Array.size_modify, present]
  have current₁ : w₁.consumers.getD c default = ⟨node, transport, moved, .receiving⟩ := by
    simp only [w₁, getD_modify_self _ _ present, current]
  rw [consumerTurn_reads current rfl live read]
  cases got with
  | error e =>
      -- the first attempt waits, unless no attempt is allowed
      have settings : (w₁.node node).backplane = (w.node node).backplane := rfl
      rw [startBackoff_run, current₁]
      dsimp only
      rw [settings]
      by_cases none : (w.node node).backplane.resubscribeAttempts = 0
      · rw [if_pos none, retireConsumer_run]
        refine ⟨by simp only [Array.size_modify], ?_, by rw [met]; rfl⟩
        rw [getD_modify_self _ _ present₁, current₁, met, current]
        simp only [ConsumerStep.afterTurn, Meets.streamAfter, none, if_true]
      · rw [if_neg none]
        refine ⟨by simp only [Array.size_modify], ?_, by rw [met]; rfl⟩
        rw [getD_modify_self _ _ present₁, current₁, met, current]
        simp only [ConsumerStep.afterTurn, Meets.streamAfter, none, if_false]
  | ok r =>
      cases r with
      | item p =>
          rw [dispatchEnvelope_run]
          refine ⟨by simp only [Array.size_modify], ?_, by rw [met, current]; rfl⟩
          show w₁.consumers.getD c default = _
          rw [current₁, met, current]
          rfl
      | empty =>
          show Turned c w w₁
          refine ⟨Array.size_modify, ?_, by rw [met]; rfl⟩
          rw [current₁, met, current]
          rfl
      | finished =>
          rw [retireConsumer_run]
          refine ⟨by simp only [Array.size_modify], ?_, by rw [met]; rfl⟩
          rw [getD_modify_self _ _ present₁, current₁, met, current]
          rfl

theorem backoff_turned {c : Nat} {w : World} (present : c < w.consumers.size) {node : Nat} {transport : String}
    {stream : Stream} {attempt delay deadline : Nat}
    (current : w.consumers.getD c default = ⟨node, transport, stream, .backoff attempt delay deadline⟩)
    (live : w.cancelled = false) :
    Turned c w ((consumerTurn c).run w).2 := by
  by_cases early : w.clock < deadline
  · have met : meets c w = .idle := by
      simp only [meets, current, live, early]
      rfl
    have turn : ((consumerTurn c).run w).2 = w := by
      simp only [consumerTurn, run_get_bind, current, live, Bool.false_eq_true, if_false, early, if_true]
      rfl
    rw [turn]
    exact ⟨rfl, by rw [met, current]; rfl, by rw [met]; rfl⟩
  · obtain ⟨⟨ts, got⟩, subscribed⟩ :
        ∃ r, w.transports.subscribe transport (w.node node).backplane.subject = r := ⟨_, rfl⟩
    have met : meets c w = .subscribe attempt delay got := by
      simp only [meets, current, live, early, subscribed]
      rfl
    -- the cluster once the transport answered the subscribe
    let w₁ : World := { w with transports := ts }
    have present₁ : c < w₁.consumers.size := present
    have retired : ((retireConsumer c).run w₁).2.consumers.getD c default = ⟨node, transport, stream, .done⟩ := by
      rw [retireConsumer_run, getD_modify_self _ _ present₁]
      exact congrArg (fun x => { x with step := .done }) current
    rw [consumerTurn_subscribes current rfl live early subscribed]
    cases got with
    | ok fresh =>
        refine ⟨Array.size_modify, ?_, by rw [met]; rfl⟩
        rw [getD_modify_self _ _ present, met, current]
        rfl
    | error e =>
        dsimp only
        cases next : (w.node node).backplane.nextDelay? delay with
        | none =>
            refine ⟨Array.size_modify, ?_, by rw [met]; rfl⟩
            rw [retired, met, current]
            simp only [ConsumerStep.afterTurn, Meets.streamAfter, next]
        | some later =>
            dsimp only
            by_cases last : attempt ≥ (w.node node).backplane.resubscribeAttempts
            · rw [if_pos last]
              refine ⟨Array.size_modify, ?_, by rw [met]; rfl⟩
              rw [retired, met, current]
              simp only [ConsumerStep.afterTurn, Meets.streamAfter, next, last, if_true]
            · rw [if_neg last]
              refine ⟨Array.size_modify, ?_, by rw [met]; rfl⟩
              rw [getD_modify_self _ _ present, met, current]
              simp only [ConsumerStep.afterTurn, Meets.streamAfter, next, last, if_false]

theorem consumerTurn_turned {c : Nat} {w : World} (present : c < w.consumers.size) :
    Turned c w ((consumerTurn c).run w).2 := by
  obtain ⟨con, current⟩ : ∃ con, w.consumers.getD c default = con := ⟨_, rfl⟩
  obtain ⟨node, transport, stream, step⟩ := con
  cases step with
  | done =>
      have met : meets c w = .idle := by simp only [meets, current]
      have turn : (consumerTurn c).run w = (.rests, w) := by
        simp only [consumerTurn, run_get_bind, current]
        rfl
      rw [turn]
      exact ⟨rfl, by rw [met, current]; rfl, by rw [met]; rfl⟩
  | receiving =>
      cases live : w.cancelled with
      | true => exact cancelled_turned present current (by simp) live
      | false => exact receiving_turned present current live
  | backoff attempt delay deadline =>
      cases live : w.cancelled with
      | true => exact cancelled_turned present current (by simp) live
      | false => exact backoff_turned present current live

theorem meets_of_done {c : Nat} {w : World} (done : (w.consumers.getD c default).step = .done) :
    meets c w = .idle := by
  simp only [meets, done]

theorem meets_of_receiving {c : Nat} {w : World} (receiving : (w.consumers.getD c default).step = .receiving) :
    meets c w = .cancelled ∨ ∃ stream got, meets c w = .read stream got := by
  simp only [meets, receiving]
  split
  · exact .inl rfl
  · exact .inr ⟨_, _, rfl⟩

/-- A backing-off consumer's turn meets the cancellation, waits, or makes the
attempt its step names. -/
theorem meets_of_backoff {c : Nat} {w : World} {attempt delay deadline : Nat}
    (backoff : (w.consumers.getD c default).step = .backoff attempt delay deadline) :
    meets c w = .cancelled ∨ meets c w = .idle ∨ ∃ got, meets c w = .subscribe attempt delay got := by
  simp only [meets, backoff]
  split
  · exact .inl rfl
  · split
    · exact .inr (.inl rfl)
    · exact .inr (.inr ⟨_, rfl⟩)

theorem ConsumerStep.afterTurn_of_ends {cfg : BackplaneConfig} {now : Nat} (step : ConsumerStep) {m : Meets}
    (ends : m.ends = true) : step.afterTurn cfg now m = .done := by
  cases m with
  | cancelled => rfl
  | read stream got =>
      cases got with
      | ok r => cases r <;> first | rfl | simp [Meets.ends] at ends
      | error e => simp [Meets.ends] at ends
  | idle => simp [Meets.ends] at ends
  | subscribe attempt delay got => simp [Meets.ends] at ends

/-- From receiving, a turn that does not fail keeps receiving unless it ends
the loop. -/
theorem ConsumerStep.afterTurn_receiving {cfg : BackplaneConfig} {now : Nat} {stream : Stream}
    {got : Except TransportError (Received ByteArray)} (clean : (Meets.read stream got).failed = false) :
    ConsumerStep.receiving.afterTurn cfg now (.read stream got) =
      if (Meets.read stream got).ends then .done else .receiving := by
  cases got with
  | ok r => cases r <;> rfl
  | error e => simp [Meets.failed] at clean

theorem meets_subscribe {c : Nat} {w : World} {attempt delay : Nat} {got : Except TransportError Stream}
    (met : meets c w = .subscribe attempt delay got) :
    ∃ deadline, (w.consumers.getD c default).step = .backoff attempt delay deadline := by
  cases step : (w.consumers.getD c default).step with
  | done =>
      rw [meets_of_done step] at met
      cases met
  | receiving =>
      rcases meets_of_receiving step with cancelled | ⟨stream, read, reading⟩
      · rw [cancelled] at met
        cases met
      · rw [reading] at met
        cases met
  | backoff named wait deadline =>
      rcases meets_of_backoff step with cancelled | idle | ⟨answer, attempted⟩
      · rw [cancelled] at met
        cases met
      · rw [idle] at met
        cases met
      · rw [attempted] at met
        cases met
        exact ⟨deadline, rfl⟩

/-! ## Resubscribe attempts -/

/-- The subscribe calls since the last read, against the consumer's step:
backing off before attempt `attempt`, `attempt - 1` calls were made, and
never more than `limit`. -/
def CallsWithin (limit calls : Nat) : ConsumerStep → Prop
  | .backoff attempt _ _ => calls + 1 = attempt ∧ attempt ≤ limit
  | _ => calls ≤ limit

theorem CallsWithin.le {limit calls : Nat} {step : ConsumerStep} (within : CallsWithin limit calls step) :
    calls ≤ limit := by
  cases step with
  | backoff attempt delay deadline =>
      obtain ⟨made, allowed⟩ := within
      omega
  | receiving => exact within
  | done => exact within

theorem CallsWithin.afterTurn {cfg : BackplaneConfig} {now calls : Nat} {step : ConsumerStep} {m : Meets}
    (within : CallsWithin cfg.resubscribeAttempts calls step)
    (fits : ∀ attempt delay got, m = .subscribe attempt delay got → ∃ deadline, step = .backoff attempt delay deadline) :
    CallsWithin cfg.resubscribeAttempts (m.countSubscribes calls) (step.afterTurn cfg now m) := by
  cases m with
  | idle => exact within
  | cancelled => exact within.le
  | read stream got =>
      -- a read starts the count again, and a failed one leads to the first attempt at most
      cases got with
      | error e =>
          simp only [ConsumerStep.afterTurn, Meets.countSubscribes]
          split
          · exact Nat.zero_le _
          · exact ⟨rfl, by omega⟩
      | ok r => cases r <;> exact Nat.zero_le _
  | subscribe attempt delay got =>
      obtain ⟨deadline, rfl⟩ := fits attempt delay got rfl
      obtain ⟨made, allowed⟩ := within
      cases got with
      | ok fresh =>
          show calls + 1 ≤ cfg.resubscribeAttempts
          omega
      | error e =>
          -- a failed attempt is the last one unless a later one is allowed
          simp only [ConsumerStep.afterTurn, Meets.countSubscribes]
          split
          · show calls + 1 ≤ cfg.resubscribeAttempts
            omega
          · split
            · show calls + 1 ≤ cfg.resubscribeAttempts
              omega
            · exact ⟨by omega, by omega⟩

/-! ## Runs of the loop -/

/-- What the rest of the cluster may do between two turns of consumer `c`:
anything that leaves the consumer's entry and the hubs (the nodes with their
settings, and the event channels) as they are, such as other tasks reading
and writing the transports, nodes publishing, the clock moving on and the
cluster being cancelled. -/
structure Leaves (c : Nat) (w w' : World) : Prop where
  consumer : w'.consumers[c]? = w.consumers[c]?
  hubs : w'.hubs = w.hubs

theorem Leaves.refl (c : Nat) (w : World) : Leaves c w w := ⟨rfl, rfl⟩

/-- Consumer `c` taking turns from `w` to `last`, the rest of the cluster
moving in between; `turns` lists the clusters the turns start from. -/
inductive ConsumerRun (c : Nat) : World → List World → World → Prop
  | stop (w : World) : ConsumerRun c w [] w
  | turn {w before last : World} {turns : List World} :
      Leaves c w before → ConsumerRun c ((consumerTurn c).run before).2 turns last →
      ConsumerRun c w (before :: turns) last

/-- The payloads consumer `c` read from its stream on turns from `turns`, in
the order read. -/
def itemsRead (c : Nat) (turns : List World) : List ByteArray :=
  turns.filterMap fun b => (meets c b).item?

/-- The subscribe calls consumer `c` made since it last read its stream, on
turns from `turns`, counting on from `calls`. -/
def subscribesSinceRead (c : Nat) (calls : Nat) : List World → Nat
  | [] => calls
  | b :: turns => subscribesSinceRead c ((meets c b).countSubscribes calls) turns

/-- Consumer `c` is present in the cluster, on node `q`, whose source and
backplane settings are `source` and `cfg`: what stays true along a run. -/
structure OnNode (c q : Nat) (source : String) (cfg : BackplaneConfig) (w : World) : Prop where
  present : c < w.consumers.size
  node : (w.consumers.getD c default).node = q
  source : (w.node q).source = source
  settings : (w.node q).backplane = cfg

section Runs

variable {c q : Nat} {source : String} {cfg : BackplaneConfig}

theorem Leaves.record {w w' : World} (around : Leaves c w w') :
    w'.consumers.getD c default = w.consumers.getD c default := by
  simp only [Array.getD_eq_getD_getElem?, around.consumer]

theorem Leaves.present {w w' : World} (around : Leaves c w w') (present : c < w.consumers.size) :
    c < w'.consumers.size := by
  -- the consumer's entry is the one it had, so it is still there
  by_contra outside
  have gone : w'.consumers[c]? = none := Array.getElem?_eq_none_iff.mpr (Nat.le_of_not_lt outside)
  rw [around.consumer, Array.getElem?_eq_none_iff] at gone
  exact absurd present (Nat.not_lt.mpr gone)

theorem OnNode.leaves {w w' : World} (on : OnNode c q source cfg w) (around : Leaves c w w') :
    OnNode c q source cfg w' := by
  have nodes : w'.nodes = w.nodes := congrArg Prod.fst around.hubs
  exact ⟨around.present on.present, by rw [around.record, on.node], by rw [World.node, nodes]; exact on.source,
    by rw [World.node, nodes]; exact on.settings⟩

theorem Turned.onNode {w after : World} (on : OnNode c q source cfg w) (turned : Turned c w after) :
    OnNode c q source cfg after := by
  -- the hub changes only by a hand-over, which keeps every node's source and settings
  have keeps : ∀ {α : Type} (f : Node → α), (∀ nd x, f (nd.addDropped x) = f nd) → f (after.node q) = f (w.node q) := by
    intro α f kept
    show f (after.hubs.1.getD q default) = f (w.hubs.1.getD q default)
    rw [turned.hubs]
    split
    · exact handOver_keeps f kept _ q _ _
    · rfl
  refine ⟨turned.size ▸ on.present, by rw [turned.record]; exact on.node, ?_, ?_⟩
  · rw [keeps Node.source (fun _ _ => rfl)]
    exact on.source
  · rw [keeps Node.backplane (fun _ _ => rfl)]
    exact on.settings

/-- Along a run the hubs change by the hand-over of each payload read, in
order. -/
theorem hubs_after_run {w last : World} {turns : List World} (run : ConsumerRun c w turns last)
    (on : OnNode c q source cfg w) :
    last.hubs = (itemsRead c turns).foldl (fun hubs p => handOver q p hubs) w.hubs := by
  -- induction on the run, from any cluster the consumer is present in
  induction run with
  | stop w => rfl
  | @turn w before last turns around rest inductionHypothesis =>
      have onBefore := on.leaves around
      have turned := consumerTurn_turned onBefore.present
      rw [inductionHypothesis (turned.onNode onBefore), turned.hubs, around.hubs, onBefore.node]
      simp only [itemsRead, List.filterMap_cons]
      cases (meets c before).item? <;> rfl

theorem nothing_read_when_done {w last : World} {turns : List World} (run : ConsumerRun c w turns last)
    (present : c < w.consumers.size) (done : (w.consumers.getD c default).step = .done) :
    itemsRead c turns = [] := by
  induction run with
  | stop w => rfl
  | @turn w before last turns around rest inductionHypothesis =>
      have presentBefore := around.present present
      have doneBefore : (before.consumers.getD c default).step = .done := by rw [around.record]; exact done
      have turned := consumerTurn_turned presentBefore
      have idle := meets_of_done doneBefore
      have doneAfter : (((consumerTurn c).run before).2.consumers.getD c default).step = .done := by
        rw [turned.record, idle]
        exact doneBefore
      simp only [itemsRead, List.filterMap_cons, idle, Meets.item?]
      exact inductionHypothesis (turned.size ▸ presentBefore) doneAfter

theorem nothing_read_after_end {w last : World} {turns : List World} (run : ConsumerRun c w turns last)
    (present : c < w.consumers.size) :
    ∀ pre b post, turns = pre ++ b :: post → (meets c b).ends = true → itemsRead c post = [] := by
  induction run with
  | stop w =>
      intro pre b post split
      simp at split
  | @turn w before last turns around rest inductionHypothesis =>
      intro pre b post split ends
      have presentBefore := around.present present
      have turned := consumerTurn_turned presentBefore
      cases pre with
      | nil =>
          -- this turn ended the loop, and the consumer is done from here on
          obtain ⟨rfl, rfl⟩ := List.cons.inj split
          apply nothing_read_when_done rest (turned.size ▸ presentBefore)
          rw [turned.record]
          exact ConsumerStep.afterTurn_of_ends _ ends
      | cons first pre =>
          exact inductionHypothesis (turned.size ▸ presentBefore) pre b post (List.cons.inj split).2 ends

/-- Along a run whose reads never fail, from a consumer that is receiving or
has ended, the consumer has ended exactly when some turn met the
cancellation or the end of its stream. -/
theorem step_after_clean_run {w last : World} {turns : List World} (run : ConsumerRun c w turns last)
    (present : c < w.consumers.size) (clean : ∀ b ∈ turns, (meets c b).failed = false) (ended : Bool)
    (start : (w.consumers.getD c default).step = if ended then .done else .receiving) :
    (last.consumers.getD c default).step =
      if ended || turns.any (fun b => (meets c b).ends) then .done else .receiving := by
  -- induction on the run, the flag saying whether the loop has ended yet
  induction run generalizing ended with
  | stop w => simpa using start
  | @turn w before last turns around rest inductionHypothesis =>
      have presentBefore := around.present present
      have turned := consumerTurn_turned presentBefore
      have startBefore : (before.consumers.getD c default).step = if ended then .done else .receiving := by
        rw [around.record]
        exact start
      have stepAfter : (((consumerTurn c).run before).2.consumers.getD c default).step =
          if ended || (meets c before).ends then .done else .receiving := by
        rw [turned.record]
        cases ended with
        | true =>
            rw [meets_of_done startBefore]
            exact startBefore
        | false =>
            rcases meets_of_receiving startBefore with cancelled | ⟨stream, got, read⟩
            · rw [cancelled]
              rfl
            · have cleanRead := clean before (List.mem_cons_self ..)
              rw [read] at cleanRead ⊢
              rw [startBefore]
              exact ConsumerStep.afterTurn_receiving cleanRead
      rw [inductionHypothesis (turned.size ▸ presentBefore) (fun b mem => clean b (List.mem_cons_of_mem _ mem)) _
        stepAfter, List.any_cons, Bool.or_assoc]

/-- Along a run the subscribe calls since the last read stay within the
attempts the node's settings allow. -/
theorem subscribes_within_run {w last : World} {turns : List World} (run : ConsumerRun c w turns last)
    (on : OnNode c q source cfg w) (calls : Nat)
    (within : CallsWithin cfg.resubscribeAttempts calls (w.consumers.getD c default).step) :
    CallsWithin cfg.resubscribeAttempts (subscribesSinceRead c calls turns) (last.consumers.getD c default).step := by
  induction run generalizing calls with
  | stop w => exact within
  | @turn w before last turns around rest inductionHypothesis =>
      have onBefore := on.leaves around
      have turned := consumerTurn_turned onBefore.present
      apply inductionHypothesis (turned.onNode onBefore)
      rw [turned.record, onBefore.node, onBefore.settings]
      refine CallsWithin.afterTurn (by rw [around.record]; exact within) ?_
      intro attempt delay got met
      exact meets_subscribe met

end Runs

/-! ## The loop over every run -/

/-- A consumer started on its stream keeps replicating what it reads: along
every run, the hubs receive exactly the broadcasts of the events of the
payloads read that decode as envelopes from another source, in the order
read; when no read fails, the loop has ended exactly when a turn met the
cancellation or the end of the stream, so no undecodable payload or echo of
the node's own ends it; nothing is read after the end; and the subscribe
calls since the last read never outnumber the configured attempts. -/
theorem consumer_loop_replicates_its_stream {c : Nat} {w last : World} {turns : List World}
    (run : ConsumerRun c w turns last) (present : c < w.consumers.size)
    (receiving : (w.consumers.getD c default).step = .receiving) :
    let q := (w.consumers.getD c default).node
    last.hubs = broadcastAll q ((itemsRead c turns).filterMap (acceptedEvent (w.node q).source)) w.hubs ∧
      ((∀ b ∈ turns, (meets c b).failed = false) →
        (last.consumers.getD c default).step =
          if turns.any (fun b => (meets c b).ends) then .done else .receiving) ∧
      (∀ pre b post, turns = pre ++ b :: post → (meets c b).ends = true → itemsRead c post = []) ∧
      subscribesSinceRead c 0 turns ≤ (w.node q).backplane.resubscribeAttempts := by
  intro q
  have on : OnNode c q (w.node q).source (w.node q).backplane w := ⟨present, rfl, rfl, rfl⟩
  refine ⟨?_, fun clean => ?_, nothing_read_after_end run present, ?_⟩
  · rw [hubs_after_run run on, foldl_handOver]
    rfl
  · have ended := step_after_clean_run run present clean false (by rw [receiving]; rfl)
    simpa using ended
  · exact (subscribes_within_run run on 0 (by rw [receiving]; exact Nat.zero_le _)).le

/-- A consumer reading a queue inbox that holds one payload that is no
envelope, its sender gone. -/
def garbledInbox : World :=
  { nodes := #[{ source := "node-0" }],
    transports := { inboxes := #[{ items := ["not an envelope".toUTF8], senderOpen := false }] },
    consumers := #[{ node := 0, transport := "queue", stream := .inbox 0 }] }

/-- The loop over the garbled payload and then the end of the inbox. -/
theorem garbled_payload_then_end :
    let first := ((consumerTurn 0).run garbledInbox).2
    let second := ((consumerTurn 0).run first).2
    ConsumerRun 0 garbledInbox [garbledInbox, first] second ∧ 0 < garbledInbox.consumers.size ∧
      (garbledInbox.consumers.getD 0 default).step = .receiving ∧
      let q := (garbledInbox.consumers.getD 0 default).node
      (second.hubs = broadcastAll q ((itemsRead 0 [garbledInbox, first]).filterMap
          (acceptedEvent (garbledInbox.node q).source)) garbledInbox.hubs ∧
        ((∀ b ∈ [garbledInbox, first], (meets 0 b).failed = false) →
          (second.consumers.getD 0 default).step =
            if [garbledInbox, first].any (fun b => (meets 0 b).ends) then .done else .receiving) ∧
        (∀ pre b post, [garbledInbox, first] = pre ++ b :: post → (meets 0 b).ends = true →
          itemsRead 0 post = []) ∧
        subscribesSinceRead 0 0 [garbledInbox, first] ≤ (garbledInbox.node q).backplane.resubscribeAttempts) := by
  intro first second
  have run : ConsumerRun 0 garbledInbox [garbledInbox, first] second :=
    .turn (.refl 0 _) (.turn (.refl 0 _) (.stop _))
  exact ⟨run, by decide, rfl, consumer_loop_replicates_its_stream run (by decide) rfl⟩

end Herald.Cluster
