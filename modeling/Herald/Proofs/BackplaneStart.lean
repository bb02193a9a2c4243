import Herald.Proofs.ClusterRun
import Herald.Cluster.Tasks

set_option autoImplicit false

/-!
# Starting a backplane

A node's backplane starts by subscribing on its transports one after
another and starting a consumer on each stream it gets. What the
subscribes answer is read off the transports alone (`subscribeAll`): the
streams got, in order, until the first refusal. Starting does exactly
that and nothing else: every transport before the refusal has its
consumer, queued to run on its stream, the refusal is the answer, and
nothing else of the cluster changes, the node's hub least of all
(`backplane_start_keeps_started_consumers`).

There is no roll-back: a refusal after a successful subscribe leaves the
earlier consumers running on their open subscriptions, which only the
cancellation of their token stops (`refused_start_leaves_earlier_consumer`).
-/

namespace Herald.Cluster

/-- What subscribing on transports in turn came to: the streams got, by
transport name and in order, the transports after the last subscribe made,
and the refusal that ended it, if one did. -/
structure Subscribed where
  got : List (String × Stream)
  after : Transports
  refusal : Option BackplaneError

/-- Subscribe on each named transport in turn until one refuses; a refusal
is named after the transport that made it. -/
def subscribeAll (ts : Transports) (subject : String) : List String → Subscribed
  | [] => { got := [], after := ts, refusal := none }
  | name :: rest =>
    match ts.subscribe name subject with
    | (ts', .error e) =>
      { got := [], after := ts', refusal := some (.subscribe (((ts'.get? name).map Transport.name).getD name) e) }
    | (ts', .ok stream) =>
      { subscribeAll ts' subject rest with got := (name, stream) :: (subscribeAll ts' subject rest).got }

/-- The consumer of node `n` started on a transport's stream. -/
def consumerOn (n : Nat) (got : String × Stream) : Consumer :=
  { node := n, transport := got.1, stream := got.2 }

/-- Without a refusal every transport is subscribed, in order; a refusal
comes from the transport right after the ones subscribed. -/
theorem subscribeAll_names (ts : Transports) (subject : String) (names : List String) :
    let s := subscribeAll ts subject names
    (s.refusal = none → s.got.map Prod.fst = names) ∧
      ∀ e, s.refusal = some e → ∃ name rest failure, names = s.got.map Prod.fst ++ name :: rest ∧
        e = .subscribe (((s.after.get? name).map Transport.name).getD name) failure := by
  induction names generalizing ts with
  | nil => exact ⟨fun _ => rfl, fun e refused => absurd refused (by simp [subscribeAll])⟩
  | cons name rest inductionHypothesis =>
    simp only [subscribeAll]
    cases ts.subscribe name subject with
    | mk ts' got =>
      cases got with
      | error failure =>
        refine ⟨fun refused => absurd refused (by simp), fun e refused => ?_⟩
        exact ⟨name, rest, failure, by simp, (Option.some.inj refused).symm⟩
      | ok stream =>
        obtain ⟨whole, refusal⟩ := inductionHypothesis ts'
        refine ⟨fun finished => ?_, fun e refused => ?_⟩
        · simp only [List.map_cons, whole finished]
        · obtain ⟨name', rest', failure, split, named⟩ := refusal e refused
          exact ⟨name', rest', failure, by rw [List.map_cons, List.cons_append, ← split], named⟩

theorem wake_queues (t : TaskRef) (w : World) :
    t ∈ ((wake t).run w).2.runQueue ∧ ∀ t' ∈ w.runQueue, t' ∈ ((wake t).run w).2.runQueue := by
  unfold wake
  rw [StateT.run_modify]
  split
  · next queued => exact ⟨List.contains_iff_mem.mp queued, fun _ listed => listed⟩
  · exact ⟨by simp, fun _ listed => by simp [listed]⟩

/-- Starting a consumer adds it after the others and queues it, and
changes nothing else but the run queue. -/
theorem startConsumer_run (n : Nat) (name : String) (stream : Stream) (w : World) :
    let started := (startConsumer n name stream).run w
    started.1 = w.consumers.size ∧
      started.2 = { w with consumers := w.consumers.push (consumerOn n (name, stream)),
                           runQueue := started.2.runQueue } ∧
      .consumer w.consumers.size ∈ started.2.runQueue ∧ ∀ t ∈ w.runQueue, t ∈ started.2.runQueue := by
  simp only [startConsumer, StateT.run_bind, StateT.run_get, StateT.run_modify, pure_bind]
  obtain ⟨queued, kept⟩ := wake_queues (.consumer w.consumers.size)
    { w with consumers := w.consumers.push (consumerOn n (name, stream)) }
  refine ⟨rfl, ?_, queued, kept⟩
  rw [wake_run]
  rfl

/-- Starting consumers on named transports: the answer, the consumers
added, the transports after and the tasks queued are those of the
subscribes, and nothing else of the cluster changes. -/
theorem startConsumers_run (n : Nat) (subject : String) (names : List String) (w : World) :
    let s := subscribeAll w.transports subject names
    let started := (startConsumers n subject names).run w
    started.1 = (match s.refusal with
      | none => .ok ((List.range s.got.length).map (w.consumers.size + ·))
      | some e => .error e) ∧
      started.2 = { w with consumers := w.consumers ++ (s.got.map (consumerOn n)).toArray,
                           transports := s.after, runQueue := started.2.runQueue } ∧
      (∀ c, w.consumers.size ≤ c → c < w.consumers.size + s.got.length → .consumer c ∈ started.2.runQueue) ∧
      ∀ t ∈ w.runQueue, t ∈ started.2.runQueue := by
  -- one subscribe and at most one consumer per transport, on the cluster the last one left
  induction names generalizing w with
  | nil =>
    refine ⟨rfl, ?_, fun c low high => absurd high (by simp [subscribeAll]; omega), fun _ listed => listed⟩
    simp [subscribeAll, startConsumers]
  | cons name rest inductionHypothesis =>
    simp only [subscribeAll, startConsumers, StateT.run_bind, StateT.run_get, StateT.run_modify, pure_bind]
    cases w.transports.subscribe name subject with
    | mk ts got =>
      cases got with
      | error failure =>
        refine ⟨rfl, by simp, fun c low high => absurd high (by simp; omega), fun _ listed => listed⟩
      | ok stream =>
        simp only [StateT.run_bind]
        obtain ⟨index, frame, queued, kept⟩ := startConsumer_run n name stream { w with transports := ts }
        generalize (startConsumer n name stream).run { w with transports := ts } = first
          at index frame queued kept ⊢
        obtain ⟨c, w₁⟩ := first
        dsimp only at index frame queued kept ⊢
        subst index
        -- the cluster after the first consumer, written out with its run queue
        obtain ⟨queue, rfl⟩ : ∃ queue, w₁ =
            { w with transports := ts, consumers := w.consumers.push (consumerOn n (name, stream)),
                     runQueue := queue } :=
          ⟨w₁.runQueue, frame⟩
        obtain ⟨answer, frameRest, queuedRest, keptRest⟩ := inductionHypothesis
          { w with transports := ts, consumers := w.consumers.push (consumerOn n (name, stream)),
                   runQueue := queue }
        dsimp only at answer frameRest queuedRest keptRest queued kept
        simp only [id_bind]
        generalize (startConsumers n subject rest).run
          { w with transports := ts, consumers := w.consumers.push (consumerOn n (name, stream)),
                   runQueue := queue } = second at answer frameRest queuedRest keptRest ⊢
        obtain ⟨result, w₂⟩ := second
        simp only [StateT.run_pure, id_pure]
        dsimp only at answer frameRest queuedRest keptRest ⊢
        refine ⟨?_, ?_, ?_, fun t listed => keptRest t (kept t listed)⟩
        · rw [answer]
          cases (subscribeAll ts subject rest).refusal with
          | none =>
            simp only [List.length_cons, List.range_succ_eq_map, List.map_cons, List.map_map,
              Except.map, Array.size_push, Nat.add_zero]
            congr 3
            funext x
            simp only [Function.comp_apply]
            omega
          | some e => rfl
        · rw [frameRest]
          simp [consumerOn]
        · intro c low high
          rcases Nat.eq_or_lt_of_le low with rfl | later
          · exact keptRest _ queued
          · exact queuedRest c (by simp; omega) (by simp at high ⊢; omega)

theorem startBackplane_run (n : Nat) (w : World) :
    (startBackplane n).run w = (startConsumers n (w.node n).backplane.subject (w.node n).transports).run w :=
  run_get_bind _ w

/-- Starting a node's backplane subscribes on its transports in turn until
one refuses, and starts one consumer per stream got, each queued to run on
its stream; it answers the consumers started when no transport refused,
which happens exactly when every transport was subscribed, and otherwise
the refusal, a subscribe failure under the name of the transport right
after those subscribed, with no later transport tried. Nothing else of the
cluster changes: the node's hub, its store, the sessions and their
channels stay as they were, and the consumers started before a refusal
stay. -/
theorem backplane_start_keeps_started_consumers (n : Nat) (w : World) :
    let nd := w.node n
    let s := subscribeAll w.transports nd.backplane.subject nd.transports
    let started := (startBackplane n).run w
    started.2 = { w with consumers := w.consumers ++ (s.got.map (consumerOn n)).toArray,
                         transports := s.after, runQueue := started.2.runQueue } ∧
      (∀ c, w.consumers.size ≤ c → c < started.2.consumers.size → .consumer c ∈ started.2.runQueue) ∧
      (s.refusal = none →
        started.1 = .ok ((List.range s.got.length).map (w.consumers.size + ·)) ∧
          s.got.map Prod.fst = nd.transports) ∧
      ∀ e, s.refusal = some e → started.1 = .error e ∧
        ∃ name rest failure, nd.transports = s.got.map Prod.fst ++ name :: rest ∧
          e = .subscribe (((s.after.get? name).map Transport.name).getD name) failure := by
  dsimp only
  rw [startBackplane_run]
  have names := subscribeAll_names w.transports (w.node n).backplane.subject (w.node n).transports
  obtain ⟨answer, frame, queued, -⟩ :=
    startConsumers_run n (w.node n).backplane.subject (w.node n).transports w
  dsimp only at names answer frame queued
  generalize (startConsumers n (w.node n).backplane.subject (w.node n).transports).run w = started
    at answer frame queued ⊢
  generalize subscribeAll w.transports (w.node n).backplane.subject (w.node n).transports = s
    at names answer frame queued ⊢
  refine ⟨frame, fun c low high => queued c low ?_, fun finished => ?_, fun e refused => ?_⟩
  · rw [frame] at high
    simpa using high
  · rw [answer, finished]
    exact ⟨rfl, names.1 finished⟩
  · rw [answer, refused]
    exact ⟨rfl, names.2 e refused⟩

/-- A node on a bus and then on a transport whose first subscribe is
refused. -/
def busThenRefusal : World :=
  { nodes := #[{ transports := ["b", "f"] }],
    transports := { named := [("b", .bus { capacity := 4 }),
      ("f", .faulty { script := [.fail], inner := { capacity := 4 } })] } }

/-- The start on a bus and then a refusing transport fails with the
refusal, under the refusing transport's name, after the bus was subscribed. -/
theorem bus_then_refusal_start_fails :
    (subscribeAll busThenRefusal.transports (busThenRefusal.node 0).backplane.subject
        (busThenRefusal.node 0).transports).refusal = some (.subscribe "faulty" .connectionClosed) ∧
      ((startBackplane 0).run busThenRefusal).1 = .error (.subscribe "faulty" .connectionClosed) :=
  have refused : (subscribeAll busThenRefusal.transports (busThenRefusal.node 0).backplane.subject
      (busThenRefusal.node 0).transports).refusal = some (.subscribe "faulty" .connectionClosed) := rfl
  ⟨refused, ((backplane_start_keeps_started_consumers 0 busThenRefusal).2.2.2 _ refused).1⟩

/-- A start that fails still leaves the consumer of the bus subscribed
before the refusal started and queued to run, and the bus counts it as a
subscriber. -/
theorem refused_start_leaves_earlier_consumer :
    let started := (startBackplane 0).run busThenRefusal
    started.1 = .error (.subscribe "faulty" .connectionClosed) ∧
      started.2.consumers.size = 1 ∧ .consumer 0 ∈ started.2.runQueue ∧
      (started.2.transports.rings.getD 0 default).receivers = 1 :=
  ⟨rfl, by decide⟩

end Herald.Cluster
