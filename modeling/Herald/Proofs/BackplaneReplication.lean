import Herald.Proofs.TransportContents
import Herald.Proofs.CodecRoundTrip
import Herald.Cluster.Tasks

set_option autoImplicit false

/-!
# Replication through the backplane

A node publishes every event it stores to each transport it is attached to,
wrapped in an envelope that names the node's source.  Each attachment has a
consumer, which hands what it reads to its node's hub unless the envelope
does not decode or names the node's own source.

A run is any interleaving of publishes and consumer turns (`replicate`).
Along every run the hubs change only by the consumers' hand-overs, in order,
and every payload handed over is the text of an envelope some node sent
(`replication_hands_over_sent_envelopes`): a consumer of a node with the
sender's source drops it, and a consumer of any other node broadcasts the
event once on its hub.  So an event never comes back to its publisher's own
hub, and it reaches another node's hub once for every hand-over to one of
that node's consumers, that is once for every path between the two nodes:
nothing compares event identifiers.  Two nodes attached to the same two
buses show it, one publish reaching a client of the other node twice
(`shared_buses_deliver_twice`).
-/

namespace Herald.Cluster

namespace World

/-- The nodes, whose hubs hold the registrations and count the drops, and
the channels the registrations are offered events on. -/
def hubs (w : World) : Array Node × Array EventChannel := (w.nodes, w.eventChannels)

end World

/-- What broadcasting `e` on node `q`'s hub makes of the hubs: `e` offered
to every registration on its topic, the full channels counted as drops. -/
def broadcastHubs (q : Nat) (e : Event) (hubs : Array Node × Array EventChannel) : Array Node × Array EventChannel :=
  let offered := offerAll e (((hubs.1.getD q default).hub.entries e.topic).map (·.2)) hubs.2
  (hubs.1.modify q (Node.addDropped offered.2.2), offered.1)

/-- What a consumer of node `q` makes of the hubs when it is handed payload
`p`: an envelope that decodes and names another source is broadcast on
`q`'s hub; the node's own envelopes and undecodable payloads change nothing. -/
def handOver (q : Nat) (p : ByteArray) (hubs : Array Node × Array EventChannel) : Array Node × Array EventChannel :=
  match Envelope.decode p with
  | .error _ => hubs
  | .ok env => if env.isFrom (hubs.1.getD q default).source then hubs else broadcastHubs q env.payload hubs

/-- A dispatch changes the hubs as a hand-over does, and nothing else but
the run queue. -/
theorem dispatchEnvelope_run (q : Nat) (p : ByteArray) (w : World) :
    ((dispatchEnvelope q p).run w).2 =
      { w with nodes := (handOver q p w.hubs).1, eventChannels := (handOver q p w.hubs).2,
               runQueue := ((dispatchEnvelope q p).run w).2.runQueue } := by
  unfold dispatchEnvelope handOver
  cases decoded : Envelope.decode p with
  | error _ => rfl
  | ok env =>
      have source : (w.hubs.1.getD q default).source = (w.node q).source := rfl
      simp only [StateT.run_bind, StateT.run_get, pure_bind, source]
      by_cases own : env.isFrom (w.node q).source
      · simp only [own, if_true]
        rfl
      · simp only [own, if_false, Bool.false_eq_true]
        rw [StateT.run_bind, broadcast_run]
        rfl

theorem retireConsumer_run (c : Nat) (w : World) :
    ((retireConsumer c).run w).2 =
      { w with transports := w.transports.release (w.consumers.getD c default).stream,
               consumers := w.consumers.modify c fun x => { x with step := .done } } := rfl

theorem startBackoff_hubs (c : Nat) (w : World) :
    ((startBackoff c).run w).2.hubs = w.hubs ∧
      Transports.Reads w.transports ((startBackoff c).run w).2.transports := by
  unfold startBackoff
  simp only [StateT.run_bind, StateT.run_get, pure_bind]
  split
  · rw [retireConsumer_run]
    exact ⟨rfl, .release _ (.refl _)⟩
  · exact ⟨rfl, .refl _⟩

/-- A step of a consumer that hands nothing to a hub: it answers something
other than a hand-over, leaves the hubs as they are and changes the
transports only by reads, subscribes and releases. -/
def Quiet (x : ClusterM ConsumerTurn) : Prop :=
  ∀ w, (∀ p, (x.run w).1 ≠ .handed p) ∧ (x.run w).2.hubs = w.hubs ∧
    Transports.Reads w.transports (x.run w).2.transports

namespace Quiet

theorem of_unit (x : ClusterM Unit) {t : ConsumerTurn} (notHanded : ∀ p, t ≠ .handed p)
    (keeps : ∀ w, (x.run w).2.hubs = w.hubs ∧ Transports.Reads w.transports (x.run w).2.transports) :
    Quiet (do x; pure t) := fun w =>
  ⟨notHanded, (keeps w).1, (keeps w).2⟩

theorem rests : Quiet (pure .rests) := fun _ => ⟨fun _ => nofun, rfl, .refl _⟩

theorem retire (c : Nat) : Quiet (do retireConsumer c; pure .rests) :=
  of_unit _ (fun _ => nofun) fun w => by
    rw [retireConsumer_run]
    exact ⟨rfl, .release _ (.refl _)⟩

theorem backoff (c : Nat) : Quiet (do startBackoff c; pure .moved) :=
  of_unit _ (fun _ => nofun) (startBackoff_hubs c)

/-- A quiet step taken after the cluster moved without touching the hubs is
quiet from where the cluster started. -/
theorem after {x : ClusterM ConsumerTurn} (quiet : Quiet x) (w w' : World) (hubs : w'.hubs = w.hubs)
    (reads : Transports.Reads w.transports w'.transports) :
    (∀ p, (x.run w').1 ≠ .handed p) ∧ (x.run w').2.hubs = w.hubs ∧
      Transports.Reads w.transports (x.run w').2.transports :=
  ⟨(quiet w').1, (quiet w').2.1.trans hubs, reads.trans (quiet w').2.2⟩

end Quiet

/-- A receiving consumer whose stream holds a payload hands it over: its
stream moves on, and the payload is dispatched to its node's hub. -/
theorem consumerTurn_handed {c : Nat} {w : World} {con : Consumer} (current : w.consumers.getD c default = con)
    (receiving : con.step = .receiving) (live : w.cancelled = false) {ts : Transports} {stream : Stream}
    {p : ByteArray} (read : w.transports.next con.stream = (ts, stream, .ok (.item p))) :
    (consumerTurn c).run w =
      (.handed p, ((dispatchEnvelope con.node p).run
        { w with transports := ts, consumers := w.consumers.modify c fun x => { x with stream } }).2) := by
  simp only [consumerTurn, run_get_bind, current, receiving, live, read]
  rfl

/-- A turn that hands a payload over leaves the cluster with the hand-over
made on its hubs, the stream moved on, and nothing else changed that a later
turn reads. -/
theorem consumerTurn_handed_after {c : Nat} {w : World} {con : Consumer} (current : w.consumers.getD c default = con)
    (receiving : con.step = .receiving) (live : w.cancelled = false) {ts : Transports} {stream : Stream}
    {p : ByteArray} (read : w.transports.next con.stream = (ts, stream, .ok (.item p))) :
    let after := ((consumerTurn c).run w).2
    ((consumerTurn c).run w).1 = .handed p ∧ after.hubs = handOver con.node p w.hubs ∧ after.transports = ts ∧
      after.consumers = w.consumers.modify c (fun x => { x with stream }) ∧ after.cancelled = w.cancelled := by
  intro after
  have turn := consumerTurn_handed current receiving live read
  have moved := congrArg Prod.snd turn
  rw [dispatchEnvelope_run] at moved
  refine ⟨by rw [turn], ?_, ?_, ?_, ?_⟩
  · simp only [after]
    rw [moved]
    rfl
  all_goals simp only [after]; rw [moved]

/-- What one turn of a consumer can do: read a payload from its stream and
hand it to its node's hub, or, in every other case, leave the hubs as they
are and change the transports only by reads, subscribes and releases. -/
theorem consumerTurn_cases {c : Nat} {w : World} {con : Consumer} (current : w.consumers.getD c default = con) :
    (∃ p, ((consumerTurn c).run w).1 = .handed p ∧ (w.transports.next con.stream).2.2 = .ok (.item p) ∧
        ((consumerTurn c).run w).2.hubs = handOver con.node p w.hubs ∧
        ((consumerTurn c).run w).2.transports = (w.transports.next con.stream).1) ∨
      ((∀ p, ((consumerTurn c).run w).1 ≠ .handed p) ∧ ((consumerTurn c).run w).2.hubs = w.hubs ∧
        Transports.Reads w.transports ((consumerTurn c).run w).2.transports) := by
  simp only [consumerTurn, run_get_bind, current]
  cases step : con.step with
  | done => exact .inr (Quiet.rests w)
  | receiving =>
      dsimp only
      split
      · exact .inr (Quiet.retire c w)
      · have reads := Transports.Reads.next con.stream (.refl w.transports)
        generalize w.transports.next con.stream = read at reads ⊢
        obtain ⟨ts, stream, got⟩ := read
        -- the cluster once the stream is read and the consumer moved on
        let moved : World :=
          { w with transports := ts, consumers := w.consumers.modify c fun x => { x with stream } }
        cases got with
        | error e => exact .inr ((Quiet.backoff c).after w moved rfl reads)
        | ok r =>
            cases r with
            | item p =>
                refine .inl ⟨p, rfl, rfl, ?_, ?_⟩
                · show ((dispatchEnvelope con.node p).run moved).2.hubs = _
                  rw [dispatchEnvelope_run]
                  rfl
                · show ((dispatchEnvelope con.node p).run moved).2.transports = _
                  rw [dispatchEnvelope_run]
            | empty => exact .inr (Quiet.rests.after w moved rfl reads)
            | finished => exact .inr ((Quiet.retire c).after w moved rfl reads)
  | backoff attempt delay deadline =>
      dsimp only
      split
      · exact .inr (Quiet.retire c w)
      · split
        · exact .inr (Quiet.rests w)
        · have reads := Transports.Reads.subscribe con.transport (w.node con.node).backplane.subject
            (.refl w.transports)
          generalize w.transports.subscribe con.transport (w.node con.node).backplane.subject = attempted
            at reads ⊢
          obtain ⟨ts, got⟩ := attempted
          let subscribed : World := { w with transports := ts }
          cases got with
          | ok stream =>
              -- the consumer lets go of its old stream and reads the new one
              exact .inr ⟨fun _ => nofun, rfl, .release _ reads⟩
          | error e =>
              dsimp only
              split
              · exact .inr ((Quiet.retire c).after w subscribed rfl reads)
              · split
                · exact .inr ((Quiet.retire c).after w subscribed rfl reads)
                · exact .inr ⟨fun _ => nofun, rfl, reads⟩

/-! ## Payloads the nodes sent -/

/-- A payload that is the text of an envelope a node wrapped an event in. -/
def SentBy (nd : Node) (p : ByteArray) : Prop :=
  ∃ e sentAt text, (envelopeOf nd e sentAt).encode = .ok text ∧ p = text.toUTF8

/-- A payload one of `nodes` sent. -/
def Sent (nodes : Array Node) (p : ByteArray) : Prop :=
  ∃ P, P < nodes.size ∧ SentBy (nodes.getD P default) p

theorem sentBy_modify_addDropped (nodes : Array Node) (q x P : Nat) :
    SentBy ((nodes.modify q (Node.addDropped x)).getD P default) = SentBy (nodes.getD P default) := by
  rw [getD_modify]
  split
  · next same =>
      rw [same.1]
      rfl
  · rfl

theorem sent_modify_addDropped (nodes : Array Node) (q x : Nat) :
    Sent (nodes.modify q (Node.addDropped x)) = Sent nodes := by
  funext p
  simp only [Sent, Array.size_modify, sentBy_modify_addDropped]

theorem sent_handOver (q : Nat) (p : ByteArray) (hubs : Array Node × Array EventChannel) :
    Sent (handOver q p hubs).1 = Sent hubs.1 := by
  unfold handOver
  split
  · rfl
  · split
    · rfl
    · exact sent_modify_addDropped _ _ _


/-- Replicating an event puts on the transports only the text of the
node's envelope. -/
theorem carries_publishEvent (n : Nat) (e : Event) {w : World} (carried : w.transports.Carries (Sent w.nodes)) :
    ((publishEvent n e).run w).2.transports.Carries (Sent w.nodes) := by
  rw [transports_publishEvent]
  unfold replicated
  split
  · exact carried
  · next published =>
      -- a node that publishes has transports, so it is one of the cluster's
      have present : n < w.nodes.size := by
        by_contra outside
        apply published
        simp [World.node, Array.getD, outside, List.isEmpty]
        rfl
      split
      · exact carried
      · next text encoded => exact carried.publishAll _ _ ⟨n, present, e, _, text, encoded, rfl⟩

/-! ## Runs of publishes and consumer turns -/

/-- What the nodes do with the backplane: publish an event, or let a
consumer take a turn. -/
inductive ReplicaAction where
  | publish (n : Nat) (e : Event)
  | turn (c : Nat)

/-- The hand-over a turn made: the node whose hub it went to, and the payload. -/
def handedTo (q : Nat) : ConsumerTurn → List (Nat × ByteArray)
  | .handed p => [(q, p)]
  | _ => []

/-- Perform actions in turn: the cluster after them, and the hand-overs the
consumers made, in order. -/
def replicate : List ReplicaAction → World → World × List (Nat × ByteArray)
  | [], w => (w, [])
  | .publish n e :: rest, w => replicate rest ((publishEvent n e).run w).2
  | .turn c :: rest, w =>
    let turn := (consumerTurn c).run w
    let later := replicate rest turn.2
    (later.1, handedTo (w.consumers.getD c default).node turn.1 ++ later.2)

def handOverAll (handed : List (Nat × ByteArray)) (hubs : Array Node × Array EventChannel) :
    Array Node × Array EventChannel :=
  handed.foldl (fun hubs h => handOver h.1 h.2 hubs) hubs

/-- Along any run the hubs change only by the consumers' hand-overs, and
every payload handed over is one the nodes sent. -/
theorem replicate_hands_over {w : World} (carried : w.transports.Carries (Sent w.nodes)) :
    ∀ actions : List ReplicaAction,
      (replicate actions w).1.hubs = handOverAll (replicate actions w).2 w.hubs ∧
        ∀ h ∈ (replicate actions w).2, Sent w.nodes h.2 := by
  -- induction on the actions, from any cluster whose transports carry only sent payloads
  intro actions
  induction actions generalizing w with
  | nil => exact ⟨rfl, by simp [replicate]⟩
  | cons action rest inductionHypothesis =>
      cases action with
      | publish n e =>
          obtain ⟨sameNodes, sameChannels⟩ := nodes_publishEvent n e w
          have carriedAfter := carries_publishEvent n e carried
          rw [← sameNodes] at carriedAfter
          obtain ⟨hubs, sent⟩ := inductionHypothesis carriedAfter
          have sameHubs : ((publishEvent n e).run w).2.hubs = w.hubs := by
            simp only [World.hubs, sameNodes, sameChannels]
          refine ⟨?_, ?_⟩
          · rw [replicate, hubs, sameHubs]
          · rw [replicate, ← sameNodes]
            exact sent
      | turn c =>
          rcases consumerTurn_cases (c := c) (w := w) rfl with ⟨p, answered, read, hubs, transports⟩ |
            ⟨notHanded, hubs, reads⟩
          · -- the turn handed a payload over, which the transports carried
            have sentP : Sent w.nodes p := carried.next_item read
            have sameSent : Sent ((consumerTurn c).run w).2.nodes = Sent w.nodes := by
              rw [show ((consumerTurn c).run w).2.nodes = ((consumerTurn c).run w).2.hubs.1 from rfl, hubs,
                sent_handOver]
              rfl
            have carriedAfter : ((consumerTurn c).run w).2.transports.Carries (Sent ((consumerTurn c).run w).2.nodes) := by
              rw [sameSent, transports]
              exact carried.next _
            obtain ⟨hubsLater, sentLater⟩ := inductionHypothesis carriedAfter
            refine ⟨?_, ?_⟩
            · simp only [replicate, answered, handedTo, hubsLater, hubs, handOverAll, List.singleton_append,
                List.foldl_cons]
            · intro h mem
              simp only [replicate, answered, handedTo, List.singleton_append, List.mem_cons] at mem
              rcases mem with rfl | later
              · exact sentP
              · exact sameSent ▸ sentLater h later
          · -- the turn handed nothing over, and the hubs are as they were
            have sameNodes : ((consumerTurn c).run w).2.nodes = w.nodes := congrArg Prod.fst hubs
            have carriedAfter : ((consumerTurn c).run w).2.transports.Carries (Sent ((consumerTurn c).run w).2.nodes) := by
              rw [sameNodes]
              exact carried.of_reads reads
            obtain ⟨hubsLater, sentLater⟩ := inductionHypothesis carriedAfter
            have nothing : handedTo (w.consumers.getD c default).node ((consumerTurn c).run w).1 = [] := by
              cases answer : ((consumerTurn c).run w).1 with
              | handed p => exact absurd answer (notHanded p)
              | moved => rfl
              | rests => rfl
            refine ⟨?_, ?_⟩
            · simp only [replicate, nothing, List.nil_append, hubsLater, hubs]
            · simp only [replicate, nothing, List.nil_append]
              exact sameNodes ▸ sentLater

/-- A consumer handed the text of a node's envelope, when the envelope reads
back, drops it on a node with the sender's source and broadcasts the event
once on the hub of any other. -/
theorem handOver_sentBy {nd : Node} {e : Event} {sentAt : Timestamp} {text : String}
    (encoded : (envelopeOf nd e sentAt).encode = .ok text) (representable : (envelopeOf nd e sentAt).Representable)
    (q : Nat) (hubs : Array Node × Array EventChannel) :
    handOver q text.toUTF8 hubs = if (hubs.1.getD q default).source = nd.source then hubs else broadcastHubs q e hubs := by
  unfold handOver
  rw [Envelope.decode_encode representable encoded]
  dsimp only
  by_cases own : (hubs.1.getD q default).source = nd.source
  · have dropped : (envelopeOf nd e sentAt).isFrom (hubs.1.getD q default).source = true := by
      simp only [Envelope.isFrom, envelopeOf, own, beq_self_eq_true]
    rw [if_pos dropped, if_pos own]
  · have kept : (envelopeOf nd e sentAt).isFrom (hubs.1.getD q default).source = false :=
      beq_false_of_ne (Ne.symm own)
    rw [if_neg (by rw [kept]; decide), if_neg own]
    rfl

/-! ## Two processes sharing two buses -/

section SharedBuses

open Json

/-- A message posted in room `r1`. -/
def helloInR1 : Event := .message
  { id := ⟨0x6f1c1f4e3b1a4c579a3e0c2d1f3e4a5b⟩, senderId := "alice", roomId := "r1", content := "hello",
    createdAt := ⟨1704067200, 0⟩ }

/-- Two processes attached to the same two buses, each with a consumer on
each bus, and one client of the second process's hub on room `r1`. -/
def twoSharedBuses : World :=
  { nodes := #[{ source := "node-0", transports := ["b1", "b2"] },
      { source := "node-1", transports := ["b1", "b2"],
        hub := { topics := [(.room "r1", [(1, 0)])], nextId := 2, subscribers := 1 } }],
    transports :=
      { named := [("b1", .bus { capacity := 1024, subjects := [("courier.events", 0)] }),
          ("b2", .bus { capacity := 1024, subjects := [("courier.events", 1)] })],
        rings := #[{ bound := 1024, receivers := 2 }, { bound := 1024, receivers := 2 }] },
    eventChannels := #[{ channel := Channel.bounded 256 }],
    consumers := #[{ node := 0, transport := "b1", stream := .ring 0 0 },
      { node := 0, transport := "b2", stream := .ring 1 0 },
      { node := 1, transport := "b1", stream := .ring 0 0 },
      { node := 1, transport := "b2", stream := .ring 1 0 }] }

/-- The envelope the first process wraps the message in encodes: its text
is far within the frame limit. -/
theorem helloInR1_encodes :
    ∃ text, (envelopeOf (twoSharedBuses.node 0) helloInR1
      { twoSharedBuses with wallTicks := twoSharedBuses.wallTicks + 1 }.wallNow).encode = .ok text := by
  have sized : (render (envelopeOf (twoSharedBuses.node 0) helloInR1
      { twoSharedBuses with wallTicks := twoSharedBuses.wallTicks + 1 }.wallNow).toJson).utf8ByteSize ≤ maxFrameSize := by
    rw [← length_bytesOf]
    change (textOf _).length ≤ _
    rw [Envelope.textOf_toJson]
    simp only [Envelope.fields, Envelope.values, membersOf, List.zipWith_cons_cons, List.zipWith_nil_left,
      envelopeOf, helloInR1, Event.encode, Message.encode, length_membersText_cons, textOf_recordContent,
      textOf_str, List.length_cons, List.length_append, ofContent, uuidContent, if_true, List.cons_append,
      List.nil_append, List.append_nil, membersText, List.map_nil, writeMembers, bytesOf_empty, List.length_nil]
    decide
  exact ⟨_, by unfold Envelope.encode; exact if_neg (Nat.not_lt.mpr sized)⟩

/-- The envelope reads back: the message's identifier fits and both times
read back from their text. -/
theorem helloInR1_representable :
    (envelopeOf (twoSharedBuses.node 0) helloInR1
      { twoSharedBuses with wallTicks := twoSharedBuses.wallTicks + 1 }.wallNow).Representable := by
  refine ⟨⟨by decide, ?created⟩, ?sent⟩
  case created =>
    unfold Timestamp.ReadsBack
    decide +kernel
  case sent =>
    unfold Timestamp.ReadsBack
    decide +kernel

theorem twoSharedBuses_carries : twoSharedBuses.transports.Carries (Sent twoSharedBuses.nodes) where
  rings r x held := by
    rcases r with _ | _ | r <;> simp [twoSharedBuses] at held
    exact absurd held List.not_mem_nil
  inboxes c p held := by
    simp [twoSharedBuses] at held
    exact absurd held List.not_mem_nil
  backlogs name q found := by
    simp only [twoSharedBuses, Transports.get?, List.lookup] at found
    split at found
    · cases found
    · split at found <;> cases found

end SharedBuses

/-! ## Replication -/

/-- Whatever the interleaving of publishes and consumer turns, from a cluster
whose transports carry only envelopes its nodes sent: the hubs change only
by the consumers' hand-overs, in order; and every payload handed over is the
text of an envelope some node `P` wrapped an event in, which, when it reads
back, a consumer of a node with `P`'s source drops and a consumer of any
other node broadcasts once on its hub. -/
theorem replication_hands_over_sent_envelopes (w : World) (authentic : w.transports.Carries (Sent w.nodes))
    (actions : List ReplicaAction) :
    (replicate actions w).1.hubs = handOverAll (replicate actions w).2 w.hubs ∧
      ∀ h ∈ (replicate actions w).2, ∃ P < w.nodes.size, ∃ e sentAt text,
        (envelopeOf (w.node P) e sentAt).encode = .ok text ∧ h.2 = text.toUTF8 ∧
        ((envelopeOf (w.node P) e sentAt).Representable →
          handOver h.1 h.2 = fun hubs =>
            if (hubs.1.getD h.1 default).source = (w.node P).source then hubs else broadcastHubs h.1 e hubs) := by
  obtain ⟨hubs, sent⟩ := replicate_hands_over authentic actions
  refine ⟨hubs, fun h handed => ?_⟩
  obtain ⟨P, present, e, sentAt, text, encoded, payload⟩ := sent h handed
  refine ⟨P, present, e, sentAt, text, encoded, payload, fun representable => ?_⟩
  funext hubs
  rw [payload]
  exact handOver_sentBy encoded representable h.1 hubs

theorem shared_buses_hand_over_sent_envelopes :
    twoSharedBuses.transports.Carries (Sent twoSharedBuses.nodes) ∧
      (replicate [.publish 0 helloInR1, .turn 2] twoSharedBuses).1.hubs =
        handOverAll (replicate [.publish 0 helloInR1, .turn 2] twoSharedBuses).2 twoSharedBuses.hubs ∧
      ∀ h ∈ (replicate [.publish 0 helloInR1, .turn 2] twoSharedBuses).2,
        ∃ P < twoSharedBuses.nodes.size, ∃ e sentAt text,
          (envelopeOf (twoSharedBuses.node P) e sentAt).encode = .ok text ∧ h.2 = text.toUTF8 ∧
          ((envelopeOf (twoSharedBuses.node P) e sentAt).Representable →
            handOver h.1 h.2 = fun hubs =>
              if (hubs.1.getD h.1 default).source = (twoSharedBuses.node P).source then hubs
              else broadcastHubs h.1 e hubs) :=
  ⟨twoSharedBuses_carries,
    replication_hands_over_sent_envelopes twoSharedBuses twoSharedBuses_carries [.publish 0 helloInR1, .turn 2]⟩

section Duplicates

open Json

/-- One publish of the first process reaches the client of the second twice,
once through each bus; the first process drops both of its own copies. -/
theorem shared_buses_deliver_twice :
    ((replicate [.publish 0 helloInR1, .turn 0, .turn 1, .turn 2, .turn 3] twoSharedBuses).1.eventChannels.getD 0
      default).channel.items = [helloInR1, helloInR1] := by
  obtain ⟨text, encoded⟩ := helloInR1_encodes
  have published := publishEvent_after 0 helloInR1 twoSharedBuses
  rw [if_neg (by decide)] at published
  dsimp only at published
  rw [encoded] at published
  simp only [replicate]
  generalize ((publishEvent 0 helloInR1).run twoSharedBuses).2 = w₁ at published ⊢
  -- the first process's publish puts the envelope's text on both buses
  have transports₁ : w₁.transports = publishAll twoSharedBuses.transports ["b1", "b2"] "courier.events" text.toUTF8 := by
    rw [published]
    rfl
  have consumers₁ : w₁.consumers = twoSharedBuses.consumers := by rw [published]
  have live₁ : w₁.cancelled = false := by rw [published]; rfl
  have hubs₁ : w₁.hubs = twoSharedBuses.hubs := by rw [published]; rfl
  have rings₁ : w₁.transports.rings =
      #[{ bound := 1024, buffer := [(0, text.toUTF8)], nextSeq := 1, receivers := 2 },
        { bound := 1024, buffer := [(0, text.toUTF8)], nextSeq := 1, receivers := 2 }] := by
    rw [transports₁]
    simp [publishAll, Transports.publish, Transports.get?, twoSharedBuses, Transports.busPublish,
      Transports.busRing, Transports.put, Ring.send, List.lookup]
  -- each of the four consumers then reads it from its own bus
  have read : ∀ ts r, ts = w₁.transports → r < 2 →
      ts.next (.ring r 0) = (w₁.transports, .ring r 1, .ok (.item text.toUTF8)) := by
    intro ts r same small
    rw [same]
    interval_cases r <;> simp [Transports.next, rings₁, Ring.read, Ring.oldest]
  obtain ⟨-, hubs₂, ts₂, cons₂, live₂⟩ :=
    consumerTurn_handed_after (show w₁.consumers.getD 0 default = _ by rw [consumers₁]) rfl live₁
      (read _ 0 rfl (by decide))
  generalize ((consumerTurn 0).run w₁).2 = w₂ at hubs₂ ts₂ cons₂ live₂ ⊢
  obtain ⟨-, hubs₃, ts₃, cons₃, live₃⟩ :=
    consumerTurn_handed_after (show w₂.consumers.getD 1 default = _ by rw [cons₂, consumers₁]) rfl
      (live₂.trans live₁) (read _ 1 ts₂ (by decide))
  generalize ((consumerTurn 1).run w₂).2 = w₃ at hubs₃ ts₃ cons₃ live₃ ⊢
  obtain ⟨-, hubs₄, ts₄, cons₄, live₄⟩ :=
    consumerTurn_handed_after (show w₃.consumers.getD 2 default = _ by rw [cons₃, cons₂, consumers₁]) rfl
      (live₃.trans (live₂.trans live₁)) (read _ 0 ts₃ (by decide))
  generalize ((consumerTurn 2).run w₃).2 = w₄ at hubs₄ ts₄ cons₄ live₄ ⊢
  obtain ⟨-, hubs₅, -, -, -⟩ :=
    consumerTurn_handed_after (show w₄.consumers.getD 3 default = _ by rw [cons₄, cons₃, cons₂, consumers₁]) rfl
      (live₄.trans (live₃.trans (live₂.trans live₁))) (read _ 1 ts₄ (by decide))
  generalize ((consumerTurn 3).run w₄).2 = w₅ at hubs₅ ⊢
  -- the first process drops its own envelope twice; the second broadcasts it twice
  show (w₅.hubs.2.getD 0 default).channel.items = _
  rw [hubs₅, hubs₄, hubs₃, hubs₂, hubs₁]
  simp only [handOver_sentBy encoded helloInR1_representable]
  rfl

end Duplicates

end Herald.Cluster
