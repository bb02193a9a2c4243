import Herald.Proofs.ClusterRun
import Herald.Cluster.Transport

set_option autoImplicit false

/-!
# Delivery through a durable queue

The users of one queue subject publish payloads, bind consumers, read and
drop their streams, and shut the queue down, one step at a time
(`QueueAction`).  What a durable queue owes its consumers is written as a
ledger kept from what the steps did and answered, with no look at the queue
itself (`QueueLedger`): a consumer is attached from its subscribe until its stream
is dropped or the queue shuts down; a payload whose publish succeeded is
owed once to every consumer attached then, or, when none is, held until the
next consumer subscribes, which is owed all that is held, before anything
later.

The queue keeps that ledger (`QueueMatches`): what a consumer has read,
followed by what still waits in its channel, is exactly what it is owed;
the backlog is what is held, never more than the bound; and a publish is
refused as full exactly when no consumer is attached and the backlog is at
its bound, which it then leaves as it was (`queue_delivers_as_owed`).
-/

namespace Herald.Cluster

/-! ## The registry of transports -/

theorem lookup_replace {α : Type} (rows : List (String × α)) (name : String) (a : α)
    (present : (rows.lookup name).isSome) :
    (rows.map fun (n, a') => if n == name then (n, a) else (n, a')).lookup name = some a := by
  induction rows with
  | nil => simp at present
  | cons row rest inductionHypothesis =>
      obtain ⟨n, a'⟩ := row
      by_cases same : n = name
      · subst same
        simp
      · have other : (name == n) = false := beq_false_of_ne (Ne.symm same)
        simp only [List.lookup_cons, other] at present
        simp only [List.map_cons, beq_false_of_ne same, Bool.false_eq_true, if_false,
          List.lookup_cons, other]
        exact inductionHypothesis present

namespace Transports

theorem get?_put_self {ts : Transports} {name : String} {t₀ : Transport} (t : Transport)
    (present : ts.get? name = some t₀) : (ts.put name t).get? name = some t :=
  lookup_replace ts.named name t (by rw [show ts.named.lookup name = some t₀ from present]; rfl)

@[simp]
theorem get?_with_inboxes (ts : Transports) (inboxes : Array (Channel ByteArray)) (name : String) :
    ({ ts with inboxes } : Transports).get? name = ts.get? name := rfl

@[simp]
theorem inboxes_put (ts : Transports) (name : String) (t : Transport) :
    (ts.put name t).inboxes = ts.inboxes := rfl

theorem queueSubject_set (q : Queue) (subject : String) (s : QueueSubject) :
    queueSubject (setQueueSubject q subject s) subject = s := by
  unfold queueSubject setQueueSubject
  split
  · next listed =>
      have found : (q.subjects.lookup subject).isSome := by
        obtain ⟨row, present, named⟩ := List.any_eq_true.mp listed
        exact List.lookup_isSome_iff.mpr ⟨row, present, beq_iff_eq.mpr (beq_iff_eq.mp named).symm⟩
      rw [lookup_replace q.subjects subject s found]
      rfl
  · next unlisted =>
      have absent : q.subjects.lookup subject = none := by
        refine List.lookup_eq_none_iff.mpr fun row present => bne_iff_ne.mpr fun named => ?_
        exact unlisted (List.any_eq_true.mpr ⟨row, present, by simp [named]⟩)
      simp [List.lookup_append, absent]

@[simp]
theorem maxBacklog_set (q : Queue) (subject : String) (s : QueueSubject) :
    (setQueueSubject q subject s).maxBacklog = q.maxBacklog := by
  unfold setQueueSubject
  split <;> rfl

/-- Shutting a queue down unbinds the consumers of every subject and keeps
the backlogs. -/
theorem queueSubject_unbind (q : Queue) (subject : String) :
    queueSubject { q with subjects := q.subjects.map fun (n, s) => (n, { s with consumers := [] }) }
      subject = { queueSubject q subject with consumers := [] } := by
  unfold queueSubject
  dsimp only
  induction q.subjects with
  | nil => rfl
  | cons row rest inductionHypothesis =>
      obtain ⟨n, s⟩ := row
      by_cases same : subject = n
      · subst same
        simp
      · simpa [List.lookup_cons, beq_false_of_ne same] using inductionHypothesis

end Transports

/-! ## Channels under repeated updates -/

section Updates

variable {α : Type} (d : α)

/-- Updating a cell with a map that keeps a view keeps that view of every
cell. -/
theorem view_modify {β : Type} (view : α → β) (f : α → α) (keeps : ∀ a, view (f a) = view a)
    (xs : Array α) (i j : Nat) : view ((xs.modify i f).getD j d) = view (xs.getD j d) := by
  rw [getD_modify]
  split
  · next here => rw [keeps, here.1]
  · rfl

/-- Updating cells one after another with a map that keeps a view keeps
that view of every cell. -/
theorem view_foldl_modify {β : Type} (view : α → β) (f : α → α) (keeps : ∀ a, view (f a) = view a)
    (cells : List Nat) (xs : Array α) (j : Nat) :
    view ((cells.foldl (fun acc c => acc.modify c f) xs).getD j d) = view (xs.getD j d) := by
  induction cells generalizing xs with
  | nil => rfl
  | cons c rest inductionHypothesis =>
      rw [List.foldl_cons, inductionHypothesis, view_modify d view f keeps]

theorem getD_foldl_modify (f : α → α) (cells : List Nat) (distinct : cells.Nodup) (xs : Array α)
    (j : Nat) :
    (cells.foldl (fun acc c => acc.modify c f) xs).getD j d =
      if j ∈ cells ∧ j < xs.size then f (xs.getD j d) else xs.getD j d := by
  induction cells generalizing xs with
  | nil => simp
  | cons c rest inductionHypothesis =>
      rw [List.nodup_cons] at distinct
      rw [List.foldl_cons, inductionHypothesis distinct.2, Array.size_modify, getD_modify]
      by_cases here : j = c
      · subst here
        simp [distinct.1]
      · simp [here, Ne.symm here]

@[simp]
theorem size_foldl_modify (f : α → α) (cells : List Nat) (xs : Array α) :
    (cells.foldl (fun acc c => acc.modify c f) xs).size = xs.size := by
  induction cells generalizing xs with
  | nil => rfl
  | cons c rest inductionHypothesis => rw [List.foldl_cons, inductionHypothesis, Array.size_modify]

/-- Writing a cell back with a value of the same view keeps that view of
every cell. -/
theorem view_set! {β : Type} (view : α → β) (xs : Array α) (i j : Nat) (v : α)
    (same : view v = view (xs.getD i d)) :
    view ((xs.set! i v).getD j d) = view (xs.getD j d) := by
  rw [getD_set!]
  split
  · next here => rw [same, here.1]
  · rfl

theorem nodup_append_fresh {l : List α} {x : α} (distinct : l.Nodup) (fresh : x ∉ l) : (l ++ [x]).Nodup :=
  List.nodup_append.mpr ⟨distinct, List.pairwise_singleton _ x, fun a old b new => by
    rw [List.mem_singleton.mp new]
    exact fun same => fresh (same ▸ old)⟩

end Updates

namespace Channel

variable {α : Type} (a : α) (ch : Channel α)

/-- Send, keeping the channel as it was when the send is refused. -/
def offer : Channel α :=
  match ch.trySend a with
  | .ok ch' => ch'
  | .error _ => ch

@[simp]
theorem receiverOpen_offer : (offer a ch).receiverOpen = ch.receiverOpen := by
  by_cases listening : ch.receiverOpen <;> by_cases room : ch.hasRoom <;>
    simp [offer, trySend, listening, room]

@[simp]
theorem bound_offer : (offer a ch).bound = ch.bound := by
  by_cases listening : ch.receiverOpen <;> by_cases room : ch.hasRoom <;>
    simp [offer, trySend, listening, room]

theorem items_offer_unbounded (listening : ch.receiverOpen = true) (unbounded : ch.bound = none) :
    (offer a ch).items = ch.items ++ [a] := by
  simp [offer, trySend, hasRoom, listening, unbounded]

@[simp] theorem items_dropReceiver : (dropReceiver ch).items = ch.items := rfl
@[simp] theorem bound_dropReceiver : (dropReceiver ch).bound = ch.bound := rfl
@[simp] theorem receiverOpen_dropReceiver : (dropReceiver ch).receiverOpen = false := rfl
@[simp] theorem items_dropSender : (dropSender ch).items = ch.items := rfl
@[simp] theorem bound_dropSender : (dropSender ch).bound = ch.bound := rfl

theorem tryRecv_cons {rest : List α} (head : ch.items = a :: rest) :
    ch.tryRecv = (.item a, { ch with items := rest }) := by
  simp [tryRecv, head]

theorem tryRecv_nil (empty : ch.items = []) :
    ch.tryRecv = (if ch.senderOpen then .empty else .finished, ch) := by
  simp [tryRecv, empty]

end Channel

/-! ## A queue's steps -/

namespace Transports

section QueueSteps

variable {ts : Transports} {name : String} {q : Queue} (subject : String)
  (present : ts.get? name = some (.queue q))

include present

/-- A publish that finds no consumer listening holds the payload while the
backlog has room, and is refused as full once it has none; either way the
consumers whose stream was dropped are let go. -/
theorem publish_queue_held (p : ByteArray)
    (noneLive : (queueSubject q subject).consumers.filter
      (fun c => (ts.inboxes.getD c default).receiverOpen) = []) :
    ts.publish name subject p =
      if q.maxBacklog ≤ (queueSubject q subject).backlog.length then
        (ts.put name (.queue (setQueueSubject q subject { queueSubject q subject with consumers := [] })),
          { result := .error (.queueFull subject) })
      else
        (ts.put name (.queue (setQueueSubject q subject
          { consumers := [], backlog := (queueSubject q subject).backlog ++ [p] })), {}) := by
  unfold publish
  rw [present]
  dsimp only
  rw [noneLive]
  rfl

/-- A publish that finds consumers listening sends the payload to each of
them, and keeps only them. -/
theorem publish_queue_live (p : ByteArray) {live : List Nat}
    (liveEq : (queueSubject q subject).consumers.filter
      (fun c => (ts.inboxes.getD c default).receiverOpen) = live)
    (someLive : live ≠ []) :
    ts.publish name subject p =
      ({ ts.put name (.queue (setQueueSubject q subject { queueSubject q subject with consumers := live }))
          with inboxes := live.foldl (fun ib c => ib.modify c (Channel.offer p)) ts.inboxes },
        { touched := live.map Stream.inbox }) := by
  unfold publish
  rw [present]
  dsimp only
  rw [liveEq, if_neg fun empty => someLive (List.isEmpty_iff.mp empty)]
  -- the channel update written out in the publish is an offer
  congr
  funext ib c
  congr
  funext ch
  unfold Channel.offer
  cases ch.trySend p <;> rfl

theorem subscribe_queue :
    ts.subscribe name subject =
      ({ ts.put name (.queue (setQueueSubject q subject
            { consumers := (queueSubject q subject).consumers ++ [ts.inboxes.size], backlog := [] }))
          with inboxes := ts.inboxes.push { items := (queueSubject q subject).backlog } },
        .ok (.inbox ts.inboxes.size)) := by
  unfold subscribe
  rw [present]

omit subject in
/-- A shutdown unbinds the consumers of every subject and lets their
senders go. -/
theorem shutdown_queue :
    (ts.shutdown name).1 =
      { ts.put name (.queue { q with subjects := q.subjects.map fun (n, s) => (n, { s with consumers := [] }) })
          with
          inboxes := (q.subjects.foldl (fun acc (_, s) => acc ++ s.consumers) []).foldl
            (fun ib c => ib.modify c Channel.dropSender) ts.inboxes } := by
  unfold shutdown
  rw [present]

end QueueSteps

end Transports

/-! ## Steps on one subject -/

/-- What the users of one queue subject do, one step at a time. -/
inductive QueueAction where
  | publish (payload : ByteArray)
  | subscribe
  | next (consumer : Nat)
  | drop (consumer : Nat)
  | shutdown

/-- What a step answers. -/
inductive QueueAnswer where
  | published (result : Except TransportError Unit)
  | subscribed (stream : Except TransportError Stream)
  | received (got : Except TransportError (Received ByteArray))
  | dropped
  | shutDown

namespace QueueAction

variable (name subject : String)

/-- Perform a step on subject `subject` of the queue `name`; a consumer is
named by its channel. -/
def perform (ts : Transports) : QueueAction → QueueAnswer × Transports
  | .publish p =>
    let (ts', pub) := ts.publish name subject p
    (.published pub.result, ts')
  | .subscribe =>
    let (ts', stream) := ts.subscribe name subject
    (.subscribed stream, ts')
  | .next c =>
    let (ts', _, got) := ts.next (.inbox c)
    (.received got, ts')
  | .drop c => (.dropped, ts.release (.inbox c))
  | .shutdown => (.shutDown, (ts.shutdown name).1)

/-- The steps performed in turn, each with its answer. -/
def history (ts : Transports) : List QueueAction → List (QueueAction × QueueAnswer)
  | [] => []
  | a :: rest => (a, (perform name subject ts a).1) :: history (perform name subject ts a).2 rest

/-- The registry after performing steps in turn. -/
def final (ts : Transports) : List QueueAction → Transports
  | [] => ts
  | a :: rest => final (perform name subject ts a).2 rest

variable (ts : Transports)

theorem perform_publish (p : ByteArray) :
    (publish p).perform name subject ts =
      (.published (ts.publish name subject p).2.result, (ts.publish name subject p).1) := rfl

theorem perform_subscribe :
    subscribe.perform name subject ts = (.subscribed (ts.subscribe name subject).2, (ts.subscribe name subject).1) :=
  rfl

theorem perform_next (c : Nat) :
    (next c).perform name subject ts =
      (.received (.ok (ts.inboxes.getD c default).tryRecv.1),
        { ts with inboxes := ts.inboxes.set! c (ts.inboxes.getD c default).tryRecv.2 }) := rfl

theorem perform_drop (c : Nat) :
    (drop c).perform name subject ts =
      (.dropped, { ts with inboxes := ts.inboxes.modify c Channel.dropReceiver }) := rfl

theorem perform_shutdown : shutdown.perform name subject ts = (.shutDown, (ts.shutdown name).1) := rfl

end QueueAction

/-! ## What is owed -/

/-- What the queue owes, booked from the steps and their answers alone. -/
structure QueueLedger where
  /-- Consumers subscribed and neither dropped nor shut down since, in order. -/
  attached : List Nat := []
  /-- Payloads accepted while no consumer was attached, not yet handed on. -/
  held : List ByteArray := []
  /-- What each consumer is owed, in order. -/
  owed : Nat → List ByteArray := fun _ => []

namespace QueueLedger

def record (l : QueueLedger) : QueueAction × QueueAnswer → QueueLedger
  | (.publish p, .published (.ok ())) =>
    if l.attached = [] then { l with held := l.held ++ [p] }
    else { l with owed := fun c => if c ∈ l.attached then l.owed c ++ [p] else l.owed c }
  | (.subscribe, .subscribed (.ok (.inbox c))) =>
    { attached := l.attached ++ [c], held := [],
      owed := fun d => if d = c then l.owed d ++ l.held else l.owed d }
  | (.drop c, _) => { l with attached := l.attached.filter (· != c) }
  | (.shutdown, _) => { l with attached := [] }
  | _ => l

def ofHistory (h : List (QueueAction × QueueAnswer)) : QueueLedger := h.foldl record {}

@[simp]
theorem ofHistory_append_single (h : List (QueueAction × QueueAnswer)) (step : QueueAction × QueueAnswer) :
    ofHistory (h ++ [step]) = (ofHistory h).record step := by
  simp [ofHistory]

end QueueLedger

/-- The consumer a step bound, if it was a subscribe. -/
def boundBy : QueueAction × QueueAnswer → List Nat
  | (.subscribe, .subscribed (.ok (.inbox c))) => [c]
  | _ => []

/-- The consumers a history bound, in order. -/
def subscribers (h : List (QueueAction × QueueAnswer)) : List Nat := h.flatMap boundBy

/-- The payload a step read for consumer `c`. -/
def readBy (c : Nat) : QueueAction × QueueAnswer → List ByteArray
  | (.next c', .received (.ok (.item p))) => if c' = c then [p] else []
  | _ => []

/-- What consumer `c` has read, in order. -/
def takenBy (c : Nat) (h : List (QueueAction × QueueAnswer)) : List ByteArray := h.flatMap (readBy c)

@[simp]
theorem subscribers_append_single (h : List (QueueAction × QueueAnswer)) (step : QueueAction × QueueAnswer) :
    subscribers (h ++ [step]) = subscribers h ++ boundBy step := by
  simp [subscribers]

@[simp]
theorem takenBy_append_single (c : Nat) (h : List (QueueAction × QueueAnswer))
    (step : QueueAction × QueueAnswer) : takenBy c (h ++ [step]) = takenBy c h ++ readBy c step := by
  simp [takenBy]

@[simp] theorem boundBy_subscribe_inbox (c : Nat) :
    boundBy (.subscribe, .subscribed (.ok (.inbox c))) = [c] := rfl
@[simp] theorem boundBy_publish (p : ByteArray) (r : QueueAnswer) : boundBy (.publish p, r) = [] := rfl
@[simp] theorem boundBy_next (c : Nat) (r : QueueAnswer) : boundBy (.next c, r) = [] := rfl
@[simp] theorem boundBy_drop (c : Nat) (r : QueueAnswer) : boundBy (.drop c, r) = [] := rfl
@[simp] theorem boundBy_shutdown (r : QueueAnswer) : boundBy (.shutdown, r) = [] := rfl
@[simp] theorem readBy_publish (c : Nat) (p : ByteArray) (r : QueueAnswer) :
    readBy c (.publish p, r) = [] := rfl
@[simp] theorem readBy_subscribe (c : Nat) (r : QueueAnswer) : readBy c (.subscribe, r) = [] := rfl
@[simp] theorem readBy_drop (c d : Nat) (r : QueueAnswer) : readBy c (.drop d, r) = [] := rfl
@[simp] theorem readBy_shutdown (c : Nat) (r : QueueAnswer) : readBy c (.shutdown, r) = [] := rfl

/-! ## The consumers' channels against the ledger -/

/-- How the consumers' channels stand against the ledger of a history: what
a bound consumer has read, followed by what waits in its channel, is what it
is owed. -/
structure ChannelsMatch (inboxes : Array (Channel ByteArray)) (h : List (QueueAction × QueueAnswer)) :
    Prop where
  subscribers_nodup : (subscribers h).Nodup
  subscribers_lt : ∀ c ∈ subscribers h, c < inboxes.size
  unbounded : ∀ c ∈ subscribers h, (inboxes.getD c default).bound = none
  delivered : ∀ c ∈ subscribers h,
    takenBy c h ++ (inboxes.getD c default).items = (QueueLedger.ofHistory h).owed c
  unowed : ∀ c, c ∉ subscribers h → (QueueLedger.ofHistory h).owed c = []
  attached_bound : ∀ c ∈ (QueueLedger.ofHistory h).attached, c ∈ subscribers h
  untaken : ∀ c, inboxes.size ≤ c → takenBy c h = []

section ChannelSteps

variable {inboxes : Array (Channel ByteArray)} {h : List (QueueAction × QueueAnswer)}

/-- A step that binds no consumer, reads nothing, owes nothing new and
attaches no one keeps the match through any change of the channels that
keeps their number, their contents and their bounds. -/
theorem ChannelsMatch.frame (m : ChannelsMatch inboxes h) {inboxes' : Array (Channel ByteArray)}
    {step : QueueAction × QueueAnswer} (size : inboxes'.size = inboxes.size)
    (items : ∀ c, (inboxes'.getD c default).items = (inboxes.getD c default).items)
    (bounds : ∀ c, (inboxes'.getD c default).bound = (inboxes.getD c default).bound)
    (binds : boundBy step = []) (reads : ∀ c, readBy c step = [])
    (owes : ((QueueLedger.ofHistory h).record step).owed = (QueueLedger.ofHistory h).owed)
    (detaches : ∀ c ∈ ((QueueLedger.ofHistory h).record step).attached,
      c ∈ (QueueLedger.ofHistory h).attached) :
    ChannelsMatch inboxes' (h ++ [step]) := by
  have sameSubscribers : subscribers (h ++ [step]) = subscribers h := by simp [binds]
  have sameTaken : ∀ c, takenBy c (h ++ [step]) = takenBy c h := by simp [reads]
  constructor
  · rw [sameSubscribers]
    exact m.subscribers_nodup
  · intro c listed
    rw [sameSubscribers] at listed
    exact size ▸ m.subscribers_lt c listed
  · intro c listed
    rw [sameSubscribers] at listed
    rw [bounds]
    exact m.unbounded c listed
  · intro c listed
    rw [sameSubscribers] at listed
    rw [sameTaken, items, QueueLedger.ofHistory_append_single, owes]
    exact m.delivered c listed
  · intro c unlisted
    rw [sameSubscribers] at unlisted
    rw [QueueLedger.ofHistory_append_single, owes]
    exact m.unowed c unlisted
  · intro c attached
    rw [QueueLedger.ofHistory_append_single] at attached
    rw [sameSubscribers]
    exact m.attached_bound c (detaches c attached)
  · intro c beyond
    rw [sameTaken]
    exact m.untaken c (size ▸ beyond)

/-- A publish that reaches the attached consumers, all listening and all
different, adds the payload at the end of each of their channels. -/
theorem ChannelsMatch.publish (m : ChannelsMatch inboxes h) (p : ByteArray)
    (distinct : (QueueLedger.ofHistory h).attached.Nodup)
    (listening : ∀ c ∈ (QueueLedger.ofHistory h).attached, (inboxes.getD c default).receiverOpen)
    (someAttached : (QueueLedger.ofHistory h).attached ≠ []) :
    ChannelsMatch ((QueueLedger.ofHistory h).attached.foldl (fun ib c => ib.modify c (Channel.offer p)) inboxes)
      (h ++ [(.publish p, .published (.ok ()))]) := by
  have booked : QueueLedger.ofHistory (h ++ [(.publish p, .published (.ok ()))]) =
      { QueueLedger.ofHistory h with
        owed := fun c => if c ∈ (QueueLedger.ofHistory h).attached then
          (QueueLedger.ofHistory h).owed c ++ [p] else (QueueLedger.ofHistory h).owed c } := by
    simp [QueueLedger.record, someAttached]
  constructor
  · simpa using m.subscribers_nodup
  · intro c listed
    rw [size_foldl_modify]
    exact m.subscribers_lt c (by simpa using listed)
  · intro c listed
    rw [view_foldl_modify default Channel.bound _ (Channel.bound_offer p)]
    exact m.unbounded c (by simpa using listed)
  · intro c listed
    have old : c ∈ subscribers h := by simpa using listed
    rw [getD_foldl_modify default _ _ distinct, booked, takenBy_append_single, readBy_publish,
      List.append_nil]
    dsimp only
    by_cases attached : c ∈ (QueueLedger.ofHistory h).attached
    · -- a listening consumer's channel takes the payload at its end
      rw [if_pos ⟨attached, m.subscribers_lt c old⟩, if_pos attached,
        Channel.items_offer_unbounded p _ (listening c attached) (m.unbounded c old),
        ← List.append_assoc, m.delivered c old]
    · rw [if_neg fun both => attached both.1, if_neg attached]
      exact m.delivered c old
  · intro c unlisted
    have old : c ∉ subscribers h := by simpa using unlisted
    have detached : c ∉ (QueueLedger.ofHistory h).attached :=
      fun attached => old (m.attached_bound c attached)
    simp [booked, detached, m.unowed c old]
  · simpa [booked] using m.attached_bound
  · intro c beyond
    rw [size_foldl_modify] at beyond
    simpa using m.untaken c beyond

/-- A subscribe binds the next channel, which starts with what was held; the
new consumer is owed exactly that. -/
theorem ChannelsMatch.subscribe (m : ChannelsMatch inboxes h) :
    ChannelsMatch (inboxes.push { items := (QueueLedger.ofHistory h).held })
      (h ++ [(.subscribe, .subscribed (.ok (.inbox inboxes.size)))]) := by
  have fresh : inboxes.size ∉ subscribers h := fun listed => Nat.lt_irrefl _ (m.subscribers_lt _ listed)
  have grown : subscribers (h ++ [(.subscribe, .subscribed (.ok (.inbox inboxes.size)))]) =
      subscribers h ++ [inboxes.size] := by
    simp
  have booked : QueueLedger.ofHistory (h ++ [(.subscribe, .subscribed (.ok (.inbox inboxes.size)))]) =
      { attached := (QueueLedger.ofHistory h).attached ++ [inboxes.size], held := [],
        owed := fun d => if d = inboxes.size then (QueueLedger.ofHistory h).owed d ++
          (QueueLedger.ofHistory h).held else (QueueLedger.ofHistory h).owed d } := by
    simp [QueueLedger.record]
  constructor
  · rw [grown]
    exact nodup_append_fresh m.subscribers_nodup fresh
  · intro c listed
    rw [grown] at listed
    rw [Array.size_push]
    rcases List.mem_append.mp listed with old | new
    · exact Nat.lt_succ_of_lt (m.subscribers_lt c old)
    · rw [List.mem_singleton.mp new]
      exact Nat.lt_succ_self _
  · intro c listed
    rw [grown] at listed
    rw [getD_push]
    split
    · rfl
    · next other => exact m.unbounded c (by simpa [other] using listed)
  · intro c listed
    rw [grown] at listed
    rw [getD_push, booked, takenBy_append_single, readBy_subscribe, List.append_nil]
    dsimp only
    by_cases new : c = inboxes.size
    · -- the new consumer has read nothing and was owed nothing before
      subst new
      rw [if_pos rfl, if_pos rfl, m.untaken _ (Nat.le_refl _), m.unowed _ fresh]
    · rw [if_neg new, if_neg new]
      exact m.delivered c (by simpa [new] using listed)
  · intro c unlisted
    rw [grown, List.mem_append, not_or, List.mem_singleton] at unlisted
    rw [booked]
    simpa [unlisted.2] using m.unowed c unlisted.1
  · intro c attached
    rw [booked] at attached
    rw [grown]
    rcases List.mem_append.mp attached with old | new
    · exact List.mem_append_left _ (m.attached_bound c old)
    · exact List.mem_append_right _ new
  · intro c beyond
    rw [Array.size_push] at beyond
    simpa using m.untaken c (Nat.le_of_succ_le beyond)

/-- Reading the head of a channel moves it from the channel to what its
consumer has read. -/
theorem ChannelsMatch.take (m : ChannelsMatch inboxes h) {c : Nat} {a : ByteArray} {rest : List ByteArray}
    (head : (inboxes.getD c default).items = a :: rest) :
    ChannelsMatch (inboxes.set! c { inboxes.getD c default with items := rest })
      (h ++ [(.next c, .received (.ok (.item a)))]) := by
  have inside : c < inboxes.size := by
    refine Nat.lt_of_not_le fun beyond => ?_
    simp only [Array.getD_eq_getD_getElem?, Array.getElem?_eq_none beyond, Option.getD_none] at head
    cases head
  have unbooked : QueueLedger.ofHistory (h ++ [(.next c, .received (.ok (.item a)))]) =
      QueueLedger.ofHistory h := by
    simp [QueueLedger.record]
  constructor
  · simpa using m.subscribers_nodup
  · intro d listed
    rw [size_set!]
    exact m.subscribers_lt d (by simpa using listed)
  · intro d listed
    rw [view_set! default Channel.bound _ _ _ { inboxes.getD c default with items := rest } rfl]
    exact m.unbounded d (by simpa using listed)
  · intro d listed
    have old : d ∈ subscribers h := by simpa using listed
    rw [getD_set!, unbooked, takenBy_append_single]
    by_cases same : c = d
    · -- the head moves from the channel to what was read
      subst same
      rw [if_pos ⟨rfl, inside⟩, ← m.delivered c old, head]
      simp [readBy]
    · rw [if_neg fun both => same both.1]
      simpa [readBy, same] using m.delivered d old
  · intro d unlisted
    rw [unbooked]
    exact m.unowed d (by simpa using unlisted)
  · intro d attached
    rw [unbooked] at attached
    simpa using m.attached_bound d attached
  · intro d beyond
    rw [size_set!] at beyond
    have other : c ≠ d := fun same => Nat.lt_irrefl _ (Nat.lt_of_lt_of_le inside (same ▸ beyond))
    simpa [readBy, other] using m.untaken d beyond

end ChannelSteps

/-! ## The queue against the ledger -/

/-- How the queue stands against the ledger of its history. -/
structure QueueMatches (name subject : String) (max : Nat) (ts : Transports) (q : Queue)
    (h : List (QueueAction × QueueAnswer)) : Prop where
  present : ts.get? name = some (.queue q)
  bound : q.maxBacklog = max
  live : (Transports.queueSubject q subject).consumers.filter
      (fun c => (ts.inboxes.getD c default).receiverOpen) = (QueueLedger.ofHistory h).attached
  consumers_nodup : (Transports.queueSubject q subject).consumers.Nodup
  consumers_bound : ∀ c ∈ (Transports.queueSubject q subject).consumers, c ∈ subscribers h
  backlog : (Transports.queueSubject q subject).backlog = (QueueLedger.ofHistory h).held
  held_le : (QueueLedger.ofHistory h).held.length ≤ max
  channels : ChannelsMatch ts.inboxes h

section QueueStepLemmas

variable {name subject : String} {max : Nat} {ts : Transports} {q : Queue}
  {h : List (QueueAction × QueueAnswer)}

theorem QueueMatches.consumer_lt (inv : QueueMatches name subject max ts q h) {c : Nat}
    (bound : c ∈ (Transports.queueSubject q subject).consumers) : c < ts.inboxes.size :=
  inv.channels.subscribers_lt c (inv.consumers_bound c bound)

theorem QueueMatches.publish_full (inv : QueueMatches name subject max ts q h) (p : ByteArray)
    (detached : (QueueLedger.ofHistory h).attached = []) :
    QueueMatches name subject max
      (ts.put name (.queue (Transports.setQueueSubject q subject
        { Transports.queueSubject q subject with consumers := [] })))
      (Transports.setQueueSubject q subject { Transports.queueSubject q subject with consumers := [] })
      (h ++ [(.publish p, .published (.error (.queueFull subject)))]) := by
  have unbooked : QueueLedger.ofHistory (h ++ [(.publish p, .published (.error (.queueFull subject)))]) =
      QueueLedger.ofHistory h := by
    rw [QueueLedger.ofHistory_append_single]
    rfl
  constructor
  · exact Transports.get?_put_self _ inv.present
  · simpa using inv.bound
  · rw [Transports.queueSubject_set, unbooked, detached]
    rfl
  · rw [Transports.queueSubject_set]
    exact List.nodup_nil
  · simp [Transports.queueSubject_set]
  · rw [Transports.queueSubject_set, unbooked]
    exact inv.backlog
  · rw [unbooked]
    exact inv.held_le
  · exact inv.channels.frame rfl (fun _ => rfl) (fun _ => rfl) rfl (fun _ => rfl) rfl (fun _ => id)

/-- A publish with no consumer listening and room in the backlog holds the
payload. -/
theorem QueueMatches.publish_held (inv : QueueMatches name subject max ts q h) (p : ByteArray)
    (detached : (QueueLedger.ofHistory h).attached = []) (room : (QueueLedger.ofHistory h).held.length < max) :
    QueueMatches name subject max
      (ts.put name (.queue (Transports.setQueueSubject q subject
        { consumers := [], backlog := (Transports.queueSubject q subject).backlog ++ [p] })))
      (Transports.setQueueSubject q subject
        { consumers := [], backlog := (Transports.queueSubject q subject).backlog ++ [p] })
      (h ++ [(.publish p, .published (.ok ()))]) := by
  have booked : QueueLedger.ofHistory (h ++ [(.publish p, .published (.ok ()))]) =
      { QueueLedger.ofHistory h with held := (QueueLedger.ofHistory h).held ++ [p] } := by
    simp [QueueLedger.record, detached]
  constructor
  · exact Transports.get?_put_self _ inv.present
  · simpa using inv.bound
  · rw [Transports.queueSubject_set, booked, detached]
    rfl
  · rw [Transports.queueSubject_set]
    exact List.nodup_nil
  · simp [Transports.queueSubject_set]
  · rw [Transports.queueSubject_set, booked, inv.backlog]
  · rw [booked, List.length_append, List.length_singleton]
    exact room
  · refine inv.channels.frame rfl (fun _ => rfl) (fun _ => rfl) rfl (fun _ => rfl) ?_ ?_
    · simp [QueueLedger.record, detached]
    · simp [QueueLedger.record, detached]

theorem QueueMatches.publish_live (inv : QueueMatches name subject max ts q h) (p : ByteArray)
    (someAttached : (QueueLedger.ofHistory h).attached ≠ []) :
    QueueMatches name subject max
      { ts.put name (.queue (Transports.setQueueSubject q subject
          { Transports.queueSubject q subject with consumers := (QueueLedger.ofHistory h).attached }))
        with
        inboxes := (QueueLedger.ofHistory h).attached.foldl
          (fun ib c => ib.modify c (Channel.offer p)) ts.inboxes }
      (Transports.setQueueSubject q subject
        { Transports.queueSubject q subject with consumers := (QueueLedger.ofHistory h).attached })
      (h ++ [(.publish p, .published (.ok ()))]) := by
  have listening : ∀ c ∈ (QueueLedger.ofHistory h).attached, (ts.inboxes.getD c default).receiverOpen := by
    rw [← inv.live]
    exact fun c listed => (List.mem_filter.mp listed).2
  have distinct : (QueueLedger.ofHistory h).attached.Nodup := by
    rw [← inv.live]
    exact inv.consumers_nodup.filter _
  have booked : (QueueLedger.ofHistory (h ++ [(.publish p, .published (.ok ()))])).attached =
      (QueueLedger.ofHistory h).attached ∧
      (QueueLedger.ofHistory (h ++ [(.publish p, .published (.ok ()))])).held =
      (QueueLedger.ofHistory h).held := by
    simp [QueueLedger.record, someAttached]
  constructor
  · exact (Transports.get?_with_inboxes _ _ _).trans (Transports.get?_put_self _ inv.present)
  · simpa using inv.bound
  · -- every listening consumer still listens after the publish
    rw [Transports.queueSubject_set, booked.1]
    refine List.filter_eq_self.mpr fun c listed => ?_
    rw [view_foldl_modify default Channel.receiverOpen _ (Channel.receiverOpen_offer p)]
    exact listening c listed
  · rw [Transports.queueSubject_set]
    exact distinct
  · rw [Transports.queueSubject_set]
    intro c listed
    simpa using inv.channels.attached_bound c listed
  · rw [Transports.queueSubject_set, booked.2]
    exact inv.backlog
  · rw [booked.2]
    exact inv.held_le
  · exact inv.channels.publish p distinct listening someAttached

theorem QueueMatches.publish (inv : QueueMatches name subject max ts q h) (p : ByteArray) :
    ∃ q', QueueMatches name subject max ((QueueAction.publish p).perform name subject ts).2 q'
      (h ++ [(.publish p, ((QueueAction.publish p).perform name subject ts).1)]) := by
  rw [QueueAction.perform_publish]
  by_cases detached : (QueueLedger.ofHistory h).attached = []
  · rw [Transports.publish_queue_held subject inv.present p (inv.live.trans detached)]
    by_cases full : q.maxBacklog ≤ (Transports.queueSubject q subject).backlog.length
    · rw [if_pos full]
      exact ⟨_, inv.publish_full p detached⟩
    · rw [if_neg full]
      rw [inv.backlog, inv.bound] at full
      exact ⟨_, inv.publish_held p detached (Nat.lt_of_not_le full)⟩
  · rw [Transports.publish_queue_live subject inv.present p inv.live detached]
    exact ⟨_, inv.publish_live p detached⟩

theorem QueueMatches.subscribe (inv : QueueMatches name subject max ts q h) :
    ∃ q', QueueMatches name subject max (QueueAction.subscribe.perform name subject ts).2 q'
      (h ++ [(.subscribe, (QueueAction.subscribe.perform name subject ts).1)]) := by
  rw [QueueAction.perform_subscribe, Transports.subscribe_queue subject inv.present]
  have fresh : ts.inboxes.size ∉ (Transports.queueSubject q subject).consumers :=
    fun bound => Nat.lt_irrefl _ (inv.consumer_lt bound)
  have booked : (QueueLedger.ofHistory (h ++ [(.subscribe, .subscribed (.ok (.inbox ts.inboxes.size)))])).attached =
      (QueueLedger.ofHistory h).attached ++ [ts.inboxes.size] ∧
      (QueueLedger.ofHistory (h ++ [(.subscribe, .subscribed (.ok (.inbox ts.inboxes.size)))])).held = [] := by
    simp [QueueLedger.record]
  apply Exists.intro
  constructor
  · exact (Transports.get?_with_inboxes _ _ _).trans (Transports.get?_put_self _ inv.present)
  · simpa using inv.bound
  · -- the old consumers read the channels they read before; the new one listens
    rw [Transports.queueSubject_set, booked.1, List.filter_append, ← inv.live]
    congr 1
    · refine List.filter_congr fun c bound => ?_
      rw [getD_push, if_neg (Nat.ne_of_lt (inv.consumer_lt bound))]
    · simp
  · rw [Transports.queueSubject_set]
    exact nodup_append_fresh inv.consumers_nodup fresh
  · rw [Transports.queueSubject_set]
    intro c listed
    rw [subscribers_append_single, boundBy_subscribe_inbox]
    rcases List.mem_append.mp listed with old | new
    · exact List.mem_append_left _ (inv.consumers_bound c old)
    · exact List.mem_append_right _ new
  · rw [Transports.queueSubject_set, booked.2]
  · rw [booked.2]
    exact Nat.zero_le _
  · rw [inv.backlog]
    exact inv.channels.subscribe

theorem QueueMatches.next (inv : QueueMatches name subject max ts q h) (c : Nat) :
    ∃ q', QueueMatches name subject max ((QueueAction.next c).perform name subject ts).2 q'
      (h ++ [(.next c, ((QueueAction.next c).perform name subject ts).1)]) := by
  rw [QueueAction.perform_next]
  have unbooked : ∀ r, QueueLedger.ofHistory (h ++ [(.next c, r)]) = QueueLedger.ofHistory h := by
    intro r
    simp [QueueLedger.record]
  -- a read changes no channel's receiver
  have listening : ∀ d, ((ts.inboxes.set! c (ts.inboxes.getD c default).tryRecv.2).getD d default).receiverOpen =
      (ts.inboxes.getD d default).receiverOpen := by
    refine fun d => view_set! default Channel.receiverOpen _ _ _ _ ?_
    unfold Channel.tryRecv
    split <;> rfl
  refine ⟨q, ?_⟩
  constructor
  · exact inv.present
  · exact inv.bound
  · simp only [listening, unbooked]
    exact inv.live
  · exact inv.consumers_nodup
  · intro d bound
    simpa using inv.consumers_bound d bound
  · rw [unbooked]
    exact inv.backlog
  · rw [unbooked]
    exact inv.held_le
  · cases items : (ts.inboxes.getD c default).items with
    | cons a rest =>
        rw [Channel.tryRecv_cons _ _ items]
        exact inv.channels.take items
    | nil =>
        rw [Channel.tryRecv_nil _ items]
        refine inv.channels.frame (size_set! _ _ _) (fun d => view_set! default Channel.items _ _ _ _ rfl)
          (fun d => view_set! default Channel.bound _ _ _ _ rfl) rfl (fun d => ?_) rfl (fun _ => id)
        split <;> rfl

theorem QueueMatches.drop (inv : QueueMatches name subject max ts q h) (c : Nat) :
    ∃ q', QueueMatches name subject max ((QueueAction.drop c).perform name subject ts).2 q'
      (h ++ [(.drop c, ((QueueAction.drop c).perform name subject ts).1)]) := by
  rw [QueueAction.perform_drop]
  have booked : QueueLedger.ofHistory (h ++ [(.drop c, .dropped)]) =
      { QueueLedger.ofHistory h with attached := (QueueLedger.ofHistory h).attached.filter (· != c) } := by
    simp [QueueLedger.record]
  refine ⟨q, ?_⟩
  constructor
  · exact inv.present
  · exact inv.bound
  · -- the dropped consumer is the only one whose receiver goes
    rw [booked, ← inv.live, List.filter_filter]
    refine List.filter_congr fun d bound => ?_
    rw [getD_modify]
    by_cases same : c = d
    · subst same
      simp [inv.consumer_lt bound]
    · simp [same, Ne.symm same]
  · exact inv.consumers_nodup
  · intro d bound
    simpa using inv.consumers_bound d bound
  · rw [booked]
    exact inv.backlog
  · rw [booked]
    exact inv.held_le
  · exact inv.channels.frame Array.size_modify
      (fun d => view_modify default Channel.items _ (Channel.items_dropReceiver) _ _ _)
      (fun d => view_modify default Channel.bound _ (Channel.bound_dropReceiver) _ _ _) rfl (fun _ => rfl) rfl
      (fun d detached => (List.mem_filter.mp detached).1)

theorem QueueMatches.shutdown (inv : QueueMatches name subject max ts q h) :
    ∃ q', QueueMatches name subject max (QueueAction.shutdown.perform name subject ts).2 q'
      (h ++ [(.shutdown, (QueueAction.shutdown.perform name subject ts).1)]) := by
  rw [QueueAction.perform_shutdown, Transports.shutdown_queue inv.present]
  have booked : QueueLedger.ofHistory (h ++ [(.shutdown, .shutDown)]) =
      { QueueLedger.ofHistory h with attached := [] } := by
    simp [QueueLedger.record]
  apply Exists.intro
  constructor
  · exact (Transports.get?_with_inboxes _ _ _).trans (Transports.get?_put_self _ inv.present)
  · exact inv.bound
  · rw [Transports.queueSubject_unbind, booked]
    rfl
  · rw [Transports.queueSubject_unbind]
    exact List.nodup_nil
  · simp [Transports.queueSubject_unbind]
  · rw [Transports.queueSubject_unbind, booked]
    exact inv.backlog
  · rw [booked]
    exact inv.held_le
  · exact inv.channels.frame (size_foldl_modify _ _ _)
      (fun d => view_foldl_modify default Channel.items _ Channel.items_dropSender _ _ _)
      (fun d => view_foldl_modify default Channel.bound _ Channel.bound_dropSender _ _ _) rfl (fun _ => rfl) rfl
      (fun d detached => nomatch detached)

theorem QueueMatches.step (inv : QueueMatches name subject max ts q h) (a : QueueAction) :
    ∃ q', QueueMatches name subject max (a.perform name subject ts).2 q' (h ++ [(a, (a.perform name subject ts).1)]) := by
  cases a with
  | publish p => exact inv.publish p
  | subscribe => exact inv.subscribe
  | next c => exact inv.next c
  | drop c => exact inv.drop c
  | shutdown => exact inv.shutdown

theorem QueueMatches.run (inv : QueueMatches name subject max ts q h) (acts : List QueueAction) :
    ∃ q', QueueMatches name subject max (QueueAction.final name subject ts acts) q'
      (h ++ QueueAction.history name subject ts acts) := by
  induction acts generalizing ts q h with
  | nil => exact ⟨q, by simpa [QueueAction.final, QueueAction.history] using inv⟩
  | cons a rest inductionHypothesis =>
      obtain ⟨q', stepped⟩ := inv.step a
      obtain ⟨q'', ran⟩ := inductionHypothesis stepped
      exact ⟨q'', by simpa [QueueAction.final, QueueAction.history] using ran⟩

/-- What the next publish answers: refused as full exactly when no consumer
is attached and the backlog is at its bound, and then with the backlog left
as it was. -/
theorem QueueMatches.publish_answer (inv : QueueMatches name subject max ts q h) (p : ByteArray) :
    ((QueueAction.publish p).perform name subject ts).1 =
        .published (if (QueueLedger.ofHistory h).attached = [] ∧ max ≤ (QueueLedger.ofHistory h).held.length
          then .error (.queueFull subject) else .ok ()) ∧
      ((QueueLedger.ofHistory h).attached = [] → max ≤ (QueueLedger.ofHistory h).held.length →
        ∃ q', ((QueueAction.publish p).perform name subject ts).2.get? name = some (.queue q') ∧
          (Transports.queueSubject q' subject).backlog = (QueueLedger.ofHistory h).held) := by
  rw [QueueAction.perform_publish]
  by_cases detached : (QueueLedger.ofHistory h).attached = []
  · rw [Transports.publish_queue_held subject inv.present p (inv.live.trans detached), inv.bound]
    by_cases full : max ≤ (QueueLedger.ofHistory h).held.length
    · rw [if_pos (by rw [inv.backlog]; exact full)]
      refine ⟨by simp [detached, full], fun _ _ => ⟨_, Transports.get?_put_self _ inv.present, ?_⟩⟩
      rw [Transports.queueSubject_set]
      exact inv.backlog
    · rw [if_neg (by rw [inv.backlog]; exact full)]
      exact ⟨by simp [full], fun _ reached => absurd reached full⟩
  · rw [Transports.publish_queue_live subject inv.present p inv.live detached]
    exact ⟨by simp [detached], fun attached => absurd attached detached⟩

end QueueStepLemmas

theorem ChannelsMatch.init (inboxes : Array (Channel ByteArray)) : ChannelsMatch inboxes [] where
  subscribers_nodup := List.nodup_nil
  subscribers_lt _ listed := nomatch listed
  unbounded _ listed := nomatch listed
  delivered _ listed := nomatch listed
  unowed _ _ := rfl
  attached_bound _ attached := nomatch attached
  untaken _ _ := rfl

theorem QueueMatches.init {name subject : String} {ts : Transports} {q : Queue}
    (present : ts.get? name = some (.queue q)) (fresh : Transports.queueSubject q subject = {}) :
    QueueMatches name subject q.maxBacklog ts q [] where
  present := present
  bound := rfl
  live := by rw [fresh]; rfl
  consumers_nodup := by rw [fresh]; exact List.nodup_nil
  consumers_bound c bound := by simp [fresh] at bound
  backlog := by rw [fresh]; rfl
  held_le := Nat.zero_le _
  channels := ChannelsMatch.init ts.inboxes

/-- Over every run of steps on a subject of a queue that nothing has used
yet: what each bound consumer has read, followed by what waits in its
channel, is exactly what the ledger owes it, so a payload is handed to each
consumer it is owed to once, in publish order, what was held first; the
backlog is what the ledger holds and never exceeds the bound; and the next
publish is refused as full exactly when no consumer is attached and the
backlog is at its bound, and then leaves the backlog as it was. -/
theorem queue_delivers_as_owed (ts : Transports) (name subject : String) (q : Queue)
    (present : ts.get? name = some (.queue q)) (fresh : Transports.queueSubject q subject = {})
    (acts : List QueueAction) :
    let h := QueueAction.history name subject ts acts
    let ts' := QueueAction.final name subject ts acts
    let ledger := QueueLedger.ofHistory h
    (∀ c ∈ subscribers h, takenBy c h ++ (ts'.inboxes.getD c default).items = ledger.owed c) ∧
    (∃ q', ts'.get? name = some (.queue q') ∧ (Transports.queueSubject q' subject).backlog = ledger.held) ∧
    ledger.held.length ≤ q.maxBacklog ∧
    ∀ p, ((QueueAction.publish p).perform name subject ts').1 =
        .published (if ledger.attached = [] ∧ q.maxBacklog ≤ ledger.held.length
          then .error (.queueFull subject) else .ok ()) ∧
      (ledger.attached = [] → q.maxBacklog ≤ ledger.held.length →
        ∃ q', ((QueueAction.publish p).perform name subject ts').2.get? name = some (.queue q') ∧
          (Transports.queueSubject q' subject).backlog = ledger.held) := by
  intro h ts' ledger
  obtain ⟨q', inv⟩ := (QueueMatches.init present fresh).run acts
  rw [List.nil_append] at inv
  exact ⟨inv.channels.delivered, ⟨q', inv.present, inv.backlog⟩, inv.held_le, inv.publish_answer⟩

/-- A payload published before any consumer is held, handed to the first
consumer that subscribes, and read by it. -/
theorem held_payload_read_by_first_consumer :
    let q : Queue := { maxBacklog := 1 }
    let ts : Transports := { named := [("queue", .queue q)] }
    let acts := [QueueAction.publish "early".toUTF8, .subscribe, .next 0]
    let h := QueueAction.history "queue" "events" ts acts
    let ts' := QueueAction.final "queue" "events" ts acts
    let ledger := QueueLedger.ofHistory h
    ts.get? "queue" = some (.queue q) ∧ Transports.queueSubject q "events" = {} ∧
    (∀ c ∈ subscribers h, takenBy c h ++ (ts'.inboxes.getD c default).items = ledger.owed c) ∧
    (∃ q', ts'.get? "queue" = some (.queue q') ∧ (Transports.queueSubject q' "events").backlog = ledger.held) ∧
    ledger.held.length ≤ q.maxBacklog ∧
    ∀ p, ((QueueAction.publish p).perform "queue" "events" ts').1 =
        .published (if ledger.attached = [] ∧ q.maxBacklog ≤ ledger.held.length
          then .error (.queueFull "events") else .ok ()) ∧
      (ledger.attached = [] → q.maxBacklog ≤ ledger.held.length →
        ∃ q', ((QueueAction.publish p).perform "queue" "events" ts').2.get? "queue" = some (.queue q') ∧
          (Transports.queueSubject q' "events").backlog = ledger.held) :=
  ⟨rfl, rfl, queue_delivers_as_owed _ "queue" "events" _ rfl rfl _⟩

end Herald.Cluster
