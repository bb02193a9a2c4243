import Herald.Cluster.Services
import Herald.Proofs.ClusterRun

set_option autoImplicit false

/-!
# What one broadcast does

`broadcast` walks the registrations of a topic and tries, without waiting,
to queue the event on each registration's channel.  A channel whose receiver
is gone is skipped, a channel with room takes the event at the end of its
buffer, and a full channel counts as a drop.  The drops are added to the
hub's running count.

Here the loop is replaced by `offerAll`, a plain recursion over the
channels, and `broadcast_run` states that the two agree; the run queue,
where woken writers are put, is the only other part of the cluster that
changes.  When no channel is offered twice, each channel ends up offered
the event once, from the state it had before the broadcast.
-/

namespace Herald.Cluster

namespace Channel

variable {α : Type}

/-- Whether a send would queue the item. -/
def takesSend (c : Channel α) : Bool := c.receiverOpen && c.hasRoom

/-- Whether a send would be refused because the buffer is full. -/
def refusesFull (c : Channel α) : Bool := c.receiverOpen && !c.hasRoom

end Channel

namespace EventChannel

/-- The channel after an event was offered to it. -/
def offer (e : Event) (ec : EventChannel) : EventChannel :=
  match ec.channel.trySend e with
  | .ok c => { ec with channel := c }
  | .error _ => ec

@[simp]
theorem items_offer (e : Event) (ec : EventChannel) :
    (ec.offer e).channel.items =
      if ec.channel.takesSend then ec.channel.items ++ [e] else ec.channel.items := by
  unfold offer Channel.trySend Channel.takesSend
  by_cases receiving : ec.channel.receiverOpen <;> by_cases room : ec.channel.hasRoom <;>
    simp [receiving, room]

@[simp]
theorem receiverOpen_offer (e : Event) (ec : EventChannel) :
    (ec.offer e).channel.receiverOpen = ec.channel.receiverOpen := by
  unfold offer Channel.trySend
  by_cases receiving : ec.channel.receiverOpen <;> by_cases room : ec.channel.hasRoom <;>
    simp [receiving, room]

@[simp]
theorem bound_offer (e : Event) (ec : EventChannel) :
    (ec.offer e).channel.bound = ec.channel.bound := by
  unfold offer Channel.trySend
  by_cases receiving : ec.channel.receiverOpen <;> by_cases room : ec.channel.hasRoom <;>
    simp [receiving, room]

end EventChannel

def Node.addDropped (x : Nat) (nd : Node) : Node :=
  { nd with hub := { nd.hub with dropped := nd.hub.dropped + x } }

@[simp]
theorem Node.addDropped_zero (nd : Node) : nd.addDropped 0 = nd := rfl

@[simp]
theorem Node.hub_addDropped (x : Nat) (nd : Node) :
    (nd.addDropped x).hub = { nd.hub with dropped := nd.hub.dropped + x } := rfl

theorem modify_addDropped_zero (nodes : Array Node) (n : Nat) :
    nodes.modify n (Node.addDropped 0) = nodes := by
  apply Array.ext_getElem?
  intro j
  rw [Array.getElem?_modify]
  split
  · cases nodes[j]? <;> rfl
  · rfl

/-- One offer of a broadcast: the channels after it, and whether the channel
took the event (first count) or was full (second count). -/
def offerOne (e : Event) (cs : Array EventChannel) (ch : Nat) : Array EventChannel × Nat × Nat :=
  let ec := cs.getD ch default
  match ec.channel.trySend e with
  | .ok c => (cs.set! ch { ec with channel := c }, 1, 0)
  | .error .full => (cs, 0, 1)
  | .error .closed => (cs, 0, 0)

/-- Offer an event to channels in turn, as a broadcast does. -/
def offerAll (e : Event) : List Nat → Array EventChannel → Array EventChannel × Nat × Nat
  | [], cs => (cs, 0, 0)
  | ch :: rest, cs =>
    let first := offerOne e cs ch
    let after := offerAll e rest first.1
    (after.1, first.2.1 + after.2.1, first.2.2 + after.2.2)

theorem forIn_offer (e : Event) (f : Nat × Nat → Nat × Nat → ClusterM (ForInStep (Nat × Nat)))
    (body : ∀ entry acc w, (f entry acc).run w =
      (.yield (acc.1 + (offerOne e w.eventChannels entry.2).2.1,
               acc.2 + (offerOne e w.eventChannels entry.2).2.2),
       { w with eventChannels := (offerOne e w.eventChannels entry.2).1,
                runQueue := ((f entry acc).run w).2.runQueue }))
    (entries : List (Nat × Nat)) (acc : Nat × Nat) (w : World) :
    (forIn entries acc f).run w =
      ((acc.1 + (offerAll e (entries.map (·.2)) w.eventChannels).2.1,
        acc.2 + (offerAll e (entries.map (·.2)) w.eventChannels).2.2),
       { w with eventChannels := (offerAll e (entries.map (·.2)) w.eventChannels).1,
                runQueue := ((forIn entries acc f).run w).2.runQueue }) := by
  induction entries generalizing acc w with
  | nil => rfl
  | cons entry rest inductionHypothesis =>
      rw [List.forIn_cons, StateT.run_bind, body, id_bind]
      dsimp only
      rw [inductionHypothesis]
      simp [offerAll, Nat.add_assoc]

/-- The offers of a broadcast are `offerAll` over the channels of the topic's
registrations. -/
theorem offerEvent_run (n : Nat) (t : Topic) (e : Event) (w : World) :
    let offered := offerAll e (((w.node n).hub.entries t).map (·.2)) w.eventChannels
    (offerEvent n t e).run w =
      ((offered.2.1, offered.2.2),
       { w with eventChannels := offered.1, runQueue := ((offerEvent n t e).run w).2.runQueue }) := by
  dsimp only
  unfold offerEvent
  simp only [StateT.run_bind, StateT.run_get, pure_bind]
  rw [forIn_offer e, id_bind]
  · simp only [Nat.zero_add]
    rfl
  · intro entry acc w
    simp only [StateT.run_bind, StateT.run_get, pure_bind, offerOne]
    cases sent : (w.eventChannels.getD entry.2 default).channel.trySend e with
    | ok c =>
        simp only [StateT.run_bind, StateT.run_set, pure_bind]
        cases owner : (w.eventChannels.getD entry.2 default).owner with
        | some s =>
            simp only [StateT.run_bind]
            rw [wakeWriterSelecting_run, id_bind]
            rfl
        | none => rfl
    | error failure =>
        cases failure <;> rfl

theorem countDrops_run (n k : Nat) (w : World) :
    (countDrops n k).run w = ((), { w with nodes := w.nodes.modify n (Node.addDropped k) }) := by
  unfold countDrops
  split
  · rfl
  · next noDrops =>
      rw [Nat.eq_zero_of_not_pos noDrops, modify_addDropped_zero]
      rfl

/-- A broadcast is `offerAll` over the channels of the topic's
registrations, with the drops added to the hub's count. -/
theorem broadcast_run (n : Nat) (t : Topic) (e : Event) (w : World) :
    let offered := offerAll e (((w.node n).hub.entries t).map (·.2)) w.eventChannels
    (broadcast n t e).run w =
      ((offered.2.1, offered.2.2),
       { w with eventChannels := offered.1,
                nodes := w.nodes.modify n (Node.addDropped offered.2.2),
                runQueue := ((broadcast n t e).run w).2.runQueue }) := by
  intro offered
  have unfolded : (broadcast n t e).run w =
      ((offered.2.1, offered.2.2),
       { w with eventChannels := offered.1,
                nodes := w.nodes.modify n (Node.addDropped offered.2.2),
                runQueue := ((offerEvent n t e).run w).2.runQueue }) := by
    simp only [broadcast, StateT.run_bind]
    rw [offerEvent_run]
    simp only [id_bind, countDrops_run]
    rfl
  rw [unfolded]

section Offers

variable (e : Event)

theorem getD_offerOne (cs : Array EventChannel) (ch c : Nat) :
    (offerOne e cs ch).1.getD c default =
      if ch = c ∧ ch < cs.size then (cs.getD ch default).offer e else cs.getD c default := by
  dsimp only [offerOne, EventChannel.offer]
  cases sent : (cs.getD ch default).channel.trySend e with
  | ok taken => exact getD_set! _ _ _ _ _
  | error failure =>
      have unchanged : (if ch = c ∧ ch < cs.size then cs.getD ch default else cs.getD c default) =
          cs.getD c default := by
        split
        · next same => rw [same.1]
        · rfl
      cases failure <;> exact unchanged.symm

@[simp]
theorem size_offerOne (cs : Array EventChannel) (ch : Nat) :
    (offerOne e cs ch).1.size = cs.size := by
  dsimp only [offerOne]
  cases (cs.getD ch default).channel.trySend e with
  | ok taken => simp
  | error failure => cases failure <;> rfl

theorem taken_offerOne (cs : Array EventChannel) (ch : Nat) :
    (offerOne e cs ch).2.1 = if (cs.getD ch default).channel.takesSend then 1 else 0 := by
  dsimp only [offerOne]
  generalize cs.getD ch default = ec
  unfold Channel.takesSend Channel.trySend
  by_cases receiving : ec.channel.receiverOpen <;> by_cases room : ec.channel.hasRoom <;>
    simp [receiving, room]

theorem refused_offerOne (cs : Array EventChannel) (ch : Nat) :
    (offerOne e cs ch).2.2 = if (cs.getD ch default).channel.refusesFull then 1 else 0 := by
  dsimp only [offerOne]
  generalize cs.getD ch default = ec
  unfold Channel.refusesFull Channel.trySend
  by_cases receiving : ec.channel.receiverOpen <;> by_cases room : ec.channel.hasRoom <;>
    simp [receiving, room]

@[simp]
theorem size_offerAll (chs : List Nat) (cs : Array EventChannel) :
    (offerAll e chs cs).1.size = cs.size := by
  induction chs generalizing cs with
  | nil => rfl
  | cons ch rest inductionHypothesis =>
      simp [offerAll, inductionHypothesis]

/-- Offering to channels that are all different leaves each of them offered
once, from the state it had before. -/
theorem getD_offerAll (chs : List Nat) (cs : Array EventChannel) (distinct : chs.Nodup)
    (inRange : ∀ c ∈ chs, c < cs.size) (c : Nat) :
    (offerAll e chs cs).1.getD c default =
      if c ∈ chs then (cs.getD c default).offer e else cs.getD c default := by
  induction chs generalizing cs with
  | nil => simp [offerAll]
  | cons ch rest inductionHypothesis =>
      simp only [List.nodup_cons] at distinct
      simp only [List.mem_cons, forall_eq_or_imp] at inRange
      have restInRange : ∀ c ∈ rest, c < (offerOne e cs ch).1.size := by
        simpa using inRange.2
      simp only [offerAll]
      rw [inductionHypothesis (offerOne e cs ch).1 distinct.2 restInRange]
      by_cases same : c = ch
      · subst same
        rw [if_neg distinct.1, getD_offerOne, if_pos ⟨rfl, inRange.1⟩,
          if_pos List.mem_cons_self]
      · have untouched : (offerOne e cs ch).1.getD c default = cs.getD c default := by
          rw [getD_offerOne, if_neg (fun both => same both.1.symm)]
        simp [same, untouched]

theorem filter_offerOne_of_not_mem (test : EventChannel → Bool) (cs : Array EventChannel) {ch : Nat}
    {rest : List Nat} (absent : ch ∉ rest) :
    rest.filter (fun c => test ((offerOne e cs ch).1.getD c default)) =
      rest.filter fun c => test (cs.getD c default) := by
  refine List.filter_congr fun c membership => ?_
  have other : ¬(ch = c ∧ ch < cs.size) := fun both => absent (both.1 ▸ membership)
  rw [getD_offerOne, if_neg other]

theorem taken_offerAll (chs : List Nat) (cs : Array EventChannel) (distinct : chs.Nodup) :
    (offerAll e chs cs).2.1 = (chs.filter fun c => (cs.getD c default).channel.takesSend).length := by
  induction chs generalizing cs with
  | nil => rfl
  | cons ch rest inductionHypothesis =>
      simp only [List.nodup_cons] at distinct
      simp only [offerAll]
      rw [inductionHypothesis _ distinct.2, taken_offerOne,
        filter_offerOne_of_not_mem e (·.channel.takesSend) cs distinct.1, List.filter_cons]
      split <;> simp [Nat.add_comm]

theorem refused_offerAll (chs : List Nat) (cs : Array EventChannel) (distinct : chs.Nodup) :
    (offerAll e chs cs).2.2 =
      (chs.filter fun c => (cs.getD c default).channel.refusesFull).length := by
  induction chs generalizing cs with
  | nil => rfl
  | cons ch rest inductionHypothesis =>
      simp only [List.nodup_cons] at distinct
      simp only [offerAll]
      rw [inductionHypothesis _ distinct.2, refused_offerOne,
        filter_offerOne_of_not_mem e (·.channel.refusesFull) cs distinct.1, List.filter_cons]
      split <;> simp [Nat.add_comm]

end Offers

end Herald.Cluster
