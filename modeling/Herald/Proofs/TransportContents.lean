import Herald.Proofs.QueueDelivery
import Herald.Proofs.ChatSend

set_option autoImplicit false

/-!
# What the backplane transports hold

A transport holds payloads in three places: the ring a bus keeps for each
subject, the inbox of every queue consumer, and the backlog a queue keeps
for a subject while nobody consumes it.  `Transports.Carries good ts` says
that every payload held in any of them satisfies `good`.

Publishing a payload that satisfies `good` keeps that so, and so do
subscribing, reading a stream and letting a stream go; a stream reads out
only payloads that are held (`Carries.next_item`).  So whatever a consumer
is handed was published.  `Transports.Reads` gathers the changes made
without a publish, which are all a consumer ever makes.
-/

namespace Herald.Cluster

theorem lookup_replace_other {α : Type} (rows : List (String × α)) {name name' : String} (a : α)
    (other : name' ≠ name) :
    (rows.map fun (n, a') => if n == name then (n, a) else (n, a')).lookup name' = rows.lookup name' := by
  induction rows with
  | nil => rfl
  | cons row rest inductionHypothesis =>
      obtain ⟨n, a'⟩ := row
      by_cases same : n = name
      · subst same
        simp only [List.map_cons, beq_self_eq_true, if_true, List.lookup_cons, beq_false_of_ne other]
        exact inductionHypothesis
      · simp only [List.map_cons, beq_false_of_ne same, Bool.false_eq_true, if_false, List.lookup_cons]
        rw [inductionHypothesis]

/-- Replacing the rows of a name, the name finds the new value exactly when
it found a row before. -/
theorem lookup_replace_map {α : Type} (rows : List (String × α)) (name : String) (a : α) :
    (rows.map fun (n, a') => if n == name then (n, a) else (n, a')).lookup name =
      (rows.lookup name).map fun _ => a := by
  induction rows with
  | nil => rfl
  | cons row rest inductionHypothesis =>
      obtain ⟨n, a'⟩ := row
      by_cases same : n = name
      · subst same
        simp
      · have other : (name == n) = false := beq_false_of_ne (Ne.symm same)
        simp only [List.map_cons, beq_false_of_ne same, Bool.false_eq_true, if_false, List.lookup_cons, other]
        exact inductionHypothesis


/-- Updating cells one after another with a map that keeps a property of a
cell keeps it of every cell. -/
theorem getD_foldl_modify_holds {α : Type} (d : α) (Q : α → Prop) (f : α → α) (keeps : ∀ a, Q a → Q (f a))
    (cells : List Nat) (xs : Array α) (holds : ∀ j, Q (xs.getD j d)) (j : Nat) :
    Q ((cells.foldl (fun acc c => acc.modify c f) xs).getD j d) := by
  induction cells generalizing xs with
  | nil => exact holds j
  | cons c rest inductionHypothesis =>
      apply inductionHypothesis
      intro i
      rw [getD_modify]
      split
      · exact keeps _ (holds c)
      · exact holds i

namespace Ring

theorem mem_send {r : Ring} {p : ByteArray} {x : Nat × ByteArray} (mem : x ∈ (r.send p).buffer) :
    x ∈ r.buffer ∨ x.2 = p := by
  unfold send at mem
  split at mem
  · exact .inl mem
  · rcases List.mem_append.mp (List.mem_of_mem_drop mem) with old | new
    · exact .inl old
    · rw [List.mem_singleton.mp new]
      exact .inr rfl

theorem mem_of_read {r : Ring} {next next' : Nat} {p : ByteArray} (read : r.read next = .item (p, next')) :
    ∃ seq, (seq, p) ∈ r.buffer := by
  unfold Ring.read at read
  dsimp only at read
  cases found : r.buffer.find? (·.1 == max next r.oldest) with
  | some entry =>
      rw [found] at read
      cases read
      exact ⟨entry.1, List.mem_of_find?_eq_some found⟩
  | none =>
      rw [found] at read
      cases opened : r.senderOpen <;> simp [opened] at read

end Ring

namespace Channel

variable {α : Type} {a x : α} {ch : Channel α}

theorem mem_offer (mem : x ∈ (offer a ch).items) : x ∈ ch.items ∨ x = a := by
  unfold offer trySend at mem
  split at mem
  · next sent =>
      split at sent
      · cases sent
      · split at sent
        · cases sent
          rcases List.mem_append.mp mem with old | new
          · exact .inl old
          · exact .inr (List.mem_singleton.mp new)
        · cases sent
  · exact .inl mem

theorem mem_tryRecv (mem : x ∈ ch.tryRecv.2.items) : x ∈ ch.items := by
  unfold tryRecv at mem
  split at mem
  · next head =>
      rw [head]
      exact List.mem_cons_of_mem _ mem
  · exact mem

theorem mem_of_tryRecv (got : ch.tryRecv.1 = .item x) : x ∈ ch.items := by
  unfold tryRecv at got
  split at got
  · next head =>
      cases got
      rw [head]
      exact List.mem_cons_self
  · split at got <;> cases got

end Channel

namespace Transports

/-- After a transport is put under a name, every name finds either that
transport or what it found before. -/
theorem get?_put_cases {ts : Transports} {name name' : String} {t t' : Transport}
    (found : (ts.put name t).get? name' = some t') : t' = t ∨ ts.get? name' = some t' := by
  unfold get? put at found
  by_cases same : name' = name
  · subst same
    rw [lookup_replace_map] at found
    obtain ⟨_, -, rfl⟩ := Option.map_eq_some_iff.mp found
    exact .inl rfl
  · rw [lookup_replace_other _ _ same] at found
    exact .inr found

/-- Setting one subject of a queue, every subject reads either the new state
or the one it had. -/
theorem queueSubject_set_cases (q : Queue) (subject subject' : String) (s : QueueSubject) :
    queueSubject (setQueueSubject q subject s) subject' = s ∨
      queueSubject (setQueueSubject q subject s) subject' = queueSubject q subject' := by
  by_cases same : subject' = subject
  · subst same
    exact .inl (queueSubject_set q subject' s)
  · right
    unfold queueSubject setQueueSubject
    split
    · rw [lookup_replace_other _ _ same]
    · rw [List.lookup_append]
      cases q.subjects.lookup subject' with
      | some _ => rfl
      | none => simp [List.lookup_cons, beq_false_of_ne same]

section Carrying

variable (good : ByteArray → Prop)

/-- Every payload the transports hold is `good`: those a bus ring retains,
those waiting in a consumer's inbox, and those a queue subject keeps for its
next consumer. -/
structure Carries (ts : Transports) : Prop where
  rings : ∀ r x, x ∈ (ts.rings.getD r default).buffer → good x.2
  inboxes : ∀ c p, p ∈ (ts.inboxes.getD c default).items → good p
  backlogs : ∀ name q, ts.get? name = some (.queue q) → ∀ subject, ∀ p ∈ (queueSubject q subject).backlog, good p

variable {good}

/-- A transport put under a name keeps the payloads carried when the
backlogs it holds, if it is a queue, are. -/
theorem Carries.put {ts : Transports} (carried : Carries good ts) (name : String) {t : Transport}
    (held : ∀ q, t = .queue q → ∀ subject, ∀ p ∈ (queueSubject q subject).backlog, good p) :
    Carries good (ts.put name t) where
  rings := carried.rings
  inboxes := carried.inboxes
  backlogs name' q found := by
    rcases get?_put_cases found with same | before
    · exact held q same.symm
    · exact carried.backlogs name' q before

theorem Carries.of_rings {ts : Transports} (carried : Carries good ts) {rings : Array Ring}
    (kept : ∀ r x, x ∈ (rings.getD r default).buffer → good x.2) : Carries good { ts with rings } where
  rings := kept
  inboxes := carried.inboxes
  backlogs := carried.backlogs

theorem Carries.of_inboxes {ts : Transports} (carried : Carries good ts) {inboxes : Array (Channel ByteArray)}
    (kept : ∀ c p, p ∈ (inboxes.getD c default).items → good p) : Carries good { ts with inboxes } where
  rings := carried.rings
  inboxes := kept
  backlogs := carried.backlogs

theorem Carries.busRing {ts : Transports} (carried : Carries good ts) (b : Bus) (subject : String) :
    Carries good (ts.busRing b subject).1 := by
  unfold Transports.busRing
  split
  · exact carried
  · apply carried.of_rings
    intro r x mem
    rw [getD_push] at mem
    split at mem
    · cases mem
    · exact carried.rings r x mem

theorem Carries.busPublish {ts : Transports} (carried : Carries good ts) (b : Bus) (subject : String)
    {p : ByteArray} (sent : good p) : Carries good (ts.busPublish b subject p).1 := by
  have made := carried.busRing b subject
  unfold Transports.busPublish
  generalize ts.busRing b subject = ring at made
  obtain ⟨ts', b', r⟩ := ring
  apply made.of_rings
  intro r' x mem
  rw [getD_modify] at mem
  split at mem
  · rcases Ring.mem_send mem with old | new
    · exact made.rings r x old
    · rw [new]
      exact sent
  · exact made.rings r' x mem

theorem Carries.busSubscribe {ts : Transports} (carried : Carries good ts) (b : Bus) (subject : String) :
    Carries good (ts.busSubscribe b subject).1 := by
  have made := carried.busRing b subject
  unfold Transports.busSubscribe
  generalize ts.busRing b subject = ring at made
  obtain ⟨ts', b', r⟩ := ring
  apply made.of_rings
  intro r' x mem
  rw [getD_set!] at mem
  split at mem
  · exact made.rings r x mem
  · exact made.rings r' x mem

/-- Setting a subject of a queue to a state whose backlog is good keeps
every payload carried good. -/
theorem Carries.setQueue {ts : Transports} (carried : Carries good ts) {name : String} {q : Queue}
    (found : ts.get? name = some (.queue q)) (subject : String) {s : QueueSubject}
    (held : ∀ p ∈ s.backlog, good p) : Carries good (ts.put name (.queue (setQueueSubject q subject s))) := by
  apply carried.put name
  rintro q' ⟨⟩ subject' p mem
  rcases queueSubject_set_cases q subject subject' s with new | old
  · rw [new] at mem
    exact held p mem
  · rw [old] at mem
    exact carried.backlogs name q found subject' p mem

theorem Carries.publish {ts : Transports} (carried : Carries good ts) (name subject : String) {p : ByteArray}
    (sent : good p) : Carries good (ts.publish name subject p).1 := by
  cases found : ts.get? name with
  | none =>
      simp only [Transports.publish, found]
      exact carried
  | some t =>
      cases t with
      | bus b =>
          simp only [Transports.publish, found]
          exact (carried.busPublish b subject sent).put name (by rintro q ⟨⟩)
      | faulty f =>
          simp only [Transports.publish, found]
          split
          · exact carried
          · exact (carried.busPublish f.inner subject sent).put name (by rintro q ⟨⟩)
      | queue q =>
          have backlog := carried.backlogs name q found subject
          by_cases noneLive : (queueSubject q subject).consumers.filter
              (fun c => (ts.inboxes.getD c default).receiverOpen) = []
          · rw [publish_queue_held subject found p noneLive]
            split
            · exact carried.setQueue found subject backlog
            · refine carried.setQueue found subject fun p' mem => ?_
              rcases List.mem_append.mp mem with old | new
              · exact backlog p' old
              · rw [List.mem_singleton.mp new]
                exact sent
          · rw [publish_queue_live subject found p rfl noneLive]
            refine Carries.of_inboxes (carried.setQueue found subject ?held) ?offered
            case held => exact backlog
            -- every live consumer's inbox is offered the payload
            exact getD_foldl_modify_holds default (fun ch => ∀ x ∈ ch.items, good x) (Channel.offer p)
              (fun ch held x mem => (Channel.mem_offer mem).elim (held x) fun same => same ▸ sent)
              _ ts.inboxes carried.inboxes
      | mesh m =>
          simp only [Transports.publish, found]
          exact carried.put name (by rintro q ⟨⟩)

/-- Subscribing keeps every payload carried good: a queue's new consumer
starts from the subject's backlog. -/
theorem Carries.subscribe {ts : Transports} (carried : Carries good ts) (name subject : String) :
    Carries good (ts.subscribe name subject).1 := by
  cases found : ts.get? name with
  | none =>
      simp only [Transports.subscribe, found]
      exact carried
  | some t =>
      cases t with
      | bus b =>
          simp only [Transports.subscribe, found]
          exact (carried.busSubscribe b subject).put name (by rintro q ⟨⟩)
      | faulty f =>
          simp only [Transports.subscribe, found]
          -- a scripted subscribe either subscribes on the inner bus or only moves the script on
          split
          · exact (carried.busSubscribe f.inner subject).put name (by rintro q ⟨⟩)
          · exact (carried.busSubscribe f.inner subject).put name (by rintro q ⟨⟩)
          · exact carried.put name (by rintro q ⟨⟩)
          · exact carried.put name (by rintro q ⟨⟩)
      | queue q =>
          rw [subscribe_queue subject found]
          apply (carried.setQueue found subject (by simp)).of_inboxes
          intro c p mem
          rw [getD_push] at mem
          split at mem
          · exact carried.backlogs name q found subject p mem
          · exact carried.inboxes c p mem
      | mesh m =>
          simp only [Transports.subscribe, found]
          exact carried

theorem Carries.next {ts : Transports} (carried : Carries good ts) (s : Stream) :
    Carries good (ts.next s).1 := by
  cases s with
  | silent => exact carried
  | broken => exact carried
  | ring r pos =>
      simp only [Transports.next]
      split <;> exact carried
  | inbox c =>
      apply carried.of_inboxes
      intro c' p mem
      rw [getD_set!] at mem
      split at mem
      · exact carried.inboxes c p (Channel.mem_tryRecv mem)
      · exact carried.inboxes c' p mem

theorem Carries.next_item {ts : Transports} (carried : Carries good ts) {s : Stream} {p : ByteArray}
    (got : (ts.next s).2.2 = .ok (.item p)) : good p := by
  cases s with
  | silent => cases got
  | broken => cases got
  | ring r pos =>
      simp only [Transports.next] at got
      cases read : (ts.rings.getD r default).read pos with
      | item x =>
          obtain ⟨p', pos'⟩ := x
          rw [read] at got
          cases got
          obtain ⟨seq, mem⟩ := Ring.mem_of_read read
          exact carried.rings r _ mem
      | empty =>
          rw [read] at got
          cases got
      | finished =>
          rw [read] at got
          cases got
  | inbox c =>
      have taken : (ts.inboxes.getD c default).tryRecv.1 = .item p := by
        simpa [Transports.next] using got
      exact carried.inboxes c p (Channel.mem_of_tryRecv taken)

theorem Carries.release {ts : Transports} (carried : Carries good ts) (s : Stream) :
    Carries good (ts.release s) := by
  cases s with
  | silent => exact carried
  | broken => exact carried
  | ring r pos =>
      apply carried.of_rings
      intro r' x mem
      rw [getD_modify] at mem
      split at mem
      · exact carried.rings r x mem
      · exact carried.rings r' x mem
  | inbox c =>
      apply carried.of_inboxes
      intro c' p mem
      rw [getD_modify] at mem
      split at mem
      · exact carried.inboxes c p mem
      · exact carried.inboxes c' p mem

/-- Publishing a good payload on several transports in turn keeps every
payload carried good. -/
theorem Carries.publishAll {ts : Transports} (carried : Carries good ts)
    (names : List String) (subject : String) {p : ByteArray} (sent : good p) :
    Carries good (publishAll ts names subject p) := by
  induction names generalizing ts with
  | nil => exact carried
  | cons name rest inductionHypothesis => exact inductionHypothesis (carried.publish name subject sent)

end Carrying

/-- The transports after reads, subscribes and releases, with no publish
among them. -/
inductive Reads : Transports → Transports → Prop
  | refl (ts : Transports) : Reads ts ts
  | next {ts ts' : Transports} (s : Stream) : Reads ts ts' → Reads ts (ts'.next s).1
  | subscribe {ts ts' : Transports} (name subject : String) : Reads ts ts' → Reads ts (ts'.subscribe name subject).1
  | release {ts ts' : Transports} (s : Stream) : Reads ts ts' → Reads ts (ts'.release s)

theorem Reads.trans {ts ts' ts'' : Transports} (first : Reads ts ts') (second : Reads ts' ts'') : Reads ts ts'' := by
  induction second with
  | refl => exact first
  | next s _ inductionHypothesis => exact .next s inductionHypothesis
  | subscribe name subject _ inductionHypothesis => exact .subscribe name subject inductionHypothesis
  | release s _ inductionHypothesis => exact .release s inductionHypothesis

theorem Carries.of_reads {good : ByteArray → Prop} {ts ts' : Transports} (carried : Carries good ts)
    (reads : Reads ts ts') : Carries good ts' := by
  induction reads with
  | refl => exact carried
  | next s _ inductionHypothesis => exact inductionHypothesis.next s
  | subscribe name subject _ inductionHypothesis => exact inductionHypothesis.subscribe name subject
  | release s _ inductionHypothesis => exact inductionHypothesis.release s

end Transports

end Herald.Cluster
