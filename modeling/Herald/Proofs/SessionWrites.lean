import Herald.Proofs.SessionSteps
import Herald.Proofs.RecallLatest

set_option autoImplicit false

/-!
# The order of a session's writes

Three sources meet in the writer's select: the first frame (Connected), the
reply channel, fed first with the join frames and then with the replies to
the frames read, and the hub channel. This module shows that every run of a
session from its start writes Connected first, the join frames and then the
replies owed as a prefix in reading order, the events queued as a prefix in
queue order, and nothing after the close (`session_writes_in_order`).

The join frames need not come before the deliveries. The reader queues them
only after the session is registered, so the hub can queue an event while
the reader still holds them; the writer's select then finds the reply
channel empty and writes the event first (`delivery_overtakes_join_frame`).

The proof follows each write back to where it came from (`Origin`) and keeps
an invariant (`Tracks`) over the steps of the session's view, one lemma per
step; a run of the cluster is a run of that view (`SessionRun.viewRun`).
-/

namespace Herald.Cluster

/-! ## Where each write comes from -/

/-- Where a write to the client comes from: the session's first frame, a
frame taken from the reply channel, a hub delivery, a keepalive ping, or the
close notice. -/
inductive Origin where
  | connected (f : Frame)
  | reply (f : Frame)
  | delivery (e : Event)
  | ping
  | close
  deriving DecidableEq

namespace Origin

@[simp]
def event : Origin → PeerEvent
  | .connected f | .reply f => .frame f
  | .delivery e => .frame (Frame.deliver e)
  | .ping => .ping
  | .close => .closed

@[simp]
def replies : Origin → List Frame
  | .reply f => [f]
  | _ => []

@[simp]
def deliveries : Origin → List Event
  | .delivery e => [e]
  | _ => []

end Origin

namespace SessionLabel

@[simp]
def joins : SessionLabel → List Frame
  | .joined frames => frames
  | _ => []

@[simp]
def owes : SessionLabel → List Frame
  | .read f handled => (owedReply f handled).toList
  | _ => []

@[simp]
def queues : SessionLabel → List Event
  | .queued events => events
  | _ => []

@[simp]
def writes : SessionLabel → List PeerEvent
  | .wrote e => [e]
  | _ => []

end SessionLabel

/-- The frames the reader holds and has yet to queue: the rest of the join
frames, or the reply to the last frame read. -/
@[simp]
def ReaderStep.holds : ReaderStep → List Frame
  | .joining frames => frames
  | .replying r => [r]
  | _ => []

@[simp]
theorem ReaderStep.holds_afterRead (reply : Option Frame) :
    (ReaderStep.afterRead reply).holds = reply.toList := by
  cases reply <;> rfl

@[simp]
theorem ReaderStep.afterRead_ne_fresh (reply : Option Frame) : ReaderStep.afterRead reply ≠ .fresh := by
  cases reply <;> nofun

@[simp]
theorem ReaderStep.joins_afterRead (reply : Option Frame) : (ReaderStep.afterRead reply).joins = false := by
  cases reply <;> rfl

/-- The writer's pending write is the item it took last, never the close
notice; a writer in its select holds none. -/
def PendingWrite : WriterStep → List Origin → Prop
  | .writing e, taken => ∃ o, taken = [o] ∧ o.event = e ∧ o ≠ .close
  | .selecting _, taken => taken = []
  | _, _ => True

theorem append_singleton_eq_append_cons {α : Type} {l pre post : List α} {x y : α}
    (split : l ++ [y] = pre ++ x :: post) :
    (pre = l ∧ x = y ∧ post = []) ∨ ∃ rest, l = pre ++ x :: rest ∧ post = rest ++ [y] := by
  rcases List.eq_nil_or_concat post with rfl | ⟨rest, z, rfl⟩
  · obtain ⟨same, last⟩ := List.append_inj' split rfl
    simp only [List.cons.injEq, and_true] at last
    exact .inl ⟨same.symm, last.symm, rfl⟩
  · rw [List.concat_eq_append, ← List.cons_append, ← List.append_assoc] at split
    obtain ⟨same, last⟩ := List.append_inj' split rfl
    simp only [List.cons.injEq, and_true] at last
    exact .inr ⟨rest, same, by rw [List.concat_eq_append, last]⟩

/-! ## The invariant of a session's run -/

/-- What holds after a run of a session that showed the join frames `joins`,
the replies `owed`, the events `queued` for it and the writes `writes`;
`written` are the origins of the writes so far and `taken` the item the
writer took last and has not written: the write it holds, or one it gave up
when it left its loop. -/
structure Tracks (connected : Frame) (joins owed : List Frame) (queued : List Event)
    (writes : List PeerEvent) (written taken : List Origin) (v : SessionView) : Prop where
  writes : written.map Origin.event = writes
  pending : PendingWrite v.writer taken
  /-- The reply channel carries the join frames, then the replies owed, in
  order: taken by the writer, still queued, or held by the reader. Only a
  reader that is done can have lost some. -/
  replyFlow : (written ++ taken).flatMap Origin.replies ++ v.replies.items ++ v.reader.holds <+: joins ++ owed
  replyExact : v.reader ≠ .done →
    (written ++ taken).flatMap Origin.replies ++ v.replies.items ++ v.reader.holds = joins ++ owed
  /-- The hub channel hands over its events in order. -/
  eventFlow : (written ++ taken).flatMap Origin.deliveries ++ v.queued = queued
  /-- No frame is read before the join frames are passed on. -/
  unread : v.reader.joins → owed = []
  unjoined : v.reader = .fresh → joins = []
  opening : v.writer.active → written = [] → taken = [.connected connected]
  closeDone : Origin.close ∈ written → v.writer = .done
  opens : written.head? = some (.connected connected) ∨ ∀ o ∈ written, o = .close
  closeLast : ∀ pre post, written = pre ++ .close :: post → post = []

namespace Tracks

variable {c : Frame} {joins owed : List Frame} {queued : List Event} {writes : List PeerEvent}
  {written taken : List Origin} {v : SessionView}

theorem join (inv : Tracks c joins owed queued writes written taken v) (fresh : v.reader = .fresh)
    (frames : List Frame) :
    Tracks c (joins ++ frames) owed queued writes written taken { v with reader := .joining frames } := by
  have unjoined := inv.unjoined fresh
  have unread := inv.unread (by rw [fresh]; rfl)
  -- nothing has gone through the reply channel yet
  have nothing := inv.replyExact (by rw [fresh]; nofun)
  rw [fresh, unjoined, unread] at nothing
  simp only [ReaderStep.holds, List.append_nil, List.append_eq_nil_iff] at nothing
  refine { inv with
    replyFlow := ?_, replyExact := fun _ => ?_, unread := fun _ => unread, unjoined := nofun }
  · simp [nothing.1, nothing.2, unjoined, unread]
  · simp [nothing.1, nothing.2, unjoined, unread]

theorem joined (inv : Tracks c joins owed queued writes written taken v) (done : v.reader = .joining []) :
    Tracks c joins owed queued writes written taken { v with reader := .receiving } := by
  have unread := inv.unread (by rw [done]; rfl)
  have exact := inv.replyExact (by rw [done]; nofun)
  rw [done, unread] at exact
  simp only [ReaderStep.holds, List.append_nil] at exact
  refine { inv with
    replyFlow := ?_, replyExact := fun _ => ?_, unread := nofun, unjoined := nofun }
  · simp only [ReaderStep.holds, List.append_nil, exact, unread]
    exact List.prefix_refl _
  · simp only [ReaderStep.holds, List.append_nil, exact, unread]

theorem queueJoin {f : Frame} {rest : List Frame} (inv : Tracks c joins owed queued writes written taken v)
    (joining : v.reader = .joining (f :: rest)) :
    Tracks c joins owed queued writes written taken
      { v with replies := { v.replies with items := v.replies.items ++ [f] }, reader := .joining rest } := by
  have moved : ∀ front : List Frame, front ++ (v.replies.items ++ [f]) ++ rest =
      front ++ v.replies.items ++ v.reader.holds := by
    intro front
    simp [joining]
  refine { inv with
    replyFlow := ?_, replyExact := fun _ => ?_, unread := fun _ => inv.unread (by rw [joining]; rfl)
    unjoined := nofun }
  · simp only [ReaderStep.holds]
    rw [moved]
    exact inv.replyFlow
  · simp only [ReaderStep.holds]
    rw [moved]
    exact inv.replyExact (by rw [joining]; nofun)

/-- The reader takes a frame; the service may queue events for the session
meanwhile. -/
theorem read {f : Frame} {handled : Option Frame} {more : List Event}
    (inv : Tracks c joins owed queued writes written taken v) (receiving : v.reader = .receiving) :
    Tracks c joins (owed ++ (owedReply f handled).toList) (queued ++ more) writes written taken
      { v with reader := ReaderStep.afterRead (owedReply f handled), queued := v.queued ++ more } := by
  have exact := inv.replyExact (by rw [receiving]; nofun)
  rw [receiving] at exact
  simp only [ReaderStep.holds, List.append_nil] at exact
  refine { inv with
    replyFlow := ?_, replyExact := fun _ => ?_, eventFlow := ?_
    unread := fun joining => absurd joining (by simp)
    unjoined := fun fresh => absurd fresh (ReaderStep.afterRead_ne_fresh _) }
  · simp only [ReaderStep.holds_afterRead, exact, ← List.append_assoc]
    exact List.prefix_refl _
  · simp only [ReaderStep.holds_afterRead, exact, ← List.append_assoc]
  · simp only [← List.append_assoc, inv.eventFlow]

theorem queueReply {r : Frame} (inv : Tracks c joins owed queued writes written taken v)
    (replying : v.reader = .replying r) :
    Tracks c joins owed queued writes written taken
      { v with replies := { v.replies with items := v.replies.items ++ [r] }, reader := .receiving } := by
  have moved : ∀ front : List Frame, front ++ (v.replies.items ++ [r]) ++ ReaderStep.holds .receiving =
      front ++ v.replies.items ++ v.reader.holds := by
    intro front
    simp [replying]
  refine { inv with
    replyFlow := ?_, replyExact := fun _ => ?_, unread := nofun, unjoined := nofun }
  · simp only [ReaderStep.holds] at moved ⊢
    rw [moved]
    exact inv.replyFlow
  · simp only [ReaderStep.holds] at moved ⊢
    rw [moved]
    exact inv.replyExact (by rw [replying]; nofun)

/-- The reader ends; the frames it still holds are never queued. -/
theorem leave (inv : Tracks c joins owed queued writes written taken v) :
    Tracks c joins owed queued writes written taken
      { v with replies := v.replies.dropSender, reader := .done } := by
  refine { inv with
    replyFlow := ?_, replyExact := fun done => absurd rfl done, unread := nofun, unjoined := nofun }
  refine List.IsPrefix.trans ?_ inv.replyFlow
  simp only [ReaderStep.holds, List.append_nil]
  exact List.prefix_append _ _

theorem close_not_written (inv : Tracks c joins owed queued writes written taken v) (notDone : v.writer ≠ .done) :
    Origin.close ∉ written :=
  fun written => notDone (inv.closeDone written)

theorem selecting {deadline : Nat} (inv : Tracks c joins owed queued writes written taken v)
    (selecting : v.writer = .selecting deadline) :
    taken = [] ∧ written ≠ [] := by
  have nothing : taken = [] := by
    have pending := inv.pending
    rw [selecting] at pending
    exact pending
  have active : v.writer.active := by rw [selecting]; rfl
  refine ⟨nothing, fun empty => ?_⟩
  have first := inv.opening active empty
  rw [nothing] at first
  cases first

theorem write {e : PeerEvent} {o : Origin} (inv : Tracks c joins owed queued writes written [o] v)
    (writing : v.writer = .writing e) (deadline : Nat) :
    Tracks c joins owed queued (writes ++ [e]) (written ++ [o]) [] { v with writer := .selecting deadline } := by
  obtain ⟨o', same, event, notClose⟩ : ∃ o', [o] = [o'] ∧ o'.event = e ∧ o' ≠ .close := by
    have pending := inv.pending
    rw [writing] at pending
    exact pending
  cases same
  have active : v.writer.active := by rw [writing]; rfl
  have unclosed := inv.close_not_written (by rw [writing]; nofun)
  refine { inv with
    writes := by rw [List.map_append, inv.writes, List.map_singleton, event]
    pending := rfl
    replyFlow := by simpa using inv.replyFlow
    replyExact := by simpa using inv.replyExact
    eventFlow := by simpa using inv.eventFlow
    opening := fun _ empty => absurd empty (by simp)
    closeDone := fun closed => absurd closed (by simp [unclosed, Ne.symm notClose])
    opens := ?_, closeLast := ?_ }
  · rcases written with _ | ⟨first, rest⟩
    · left
      have opened := inv.opening active rfl
      simp only [List.cons.injEq, and_true] at opened
      simp [opened]
    · rcases inv.opens with head | allClosed
      · exact .inl (by simpa using head)
      · exact absurd (allClosed first (by simp) ▸ List.mem_cons_self) unclosed
  · intro pre post split
    rcases append_singleton_eq_append_cons split with ⟨-, closing, -⟩ | ⟨rest, earlier, -⟩
    · exact absurd closing.symm notClose
    · exact absurd (by simp [earlier]) unclosed

/-- The writer takes an item in its select: what it takes, with what is left
in both channels, is what they held. -/
theorem take {deadline : Nat} {o : Origin} {v' : SessionView}
    (inv : Tracks c joins owed queued writes written taken v) (selecting : v.writer = .selecting deadline)
    (writer : v'.writer = .writing o.event) (notClose : o ≠ .close) (reader : v'.reader = v.reader)
    (replies : (written ++ [o]).flatMap Origin.replies ++ v'.replies.items =
      written.flatMap Origin.replies ++ v.replies.items)
    (events : (written ++ [o]).flatMap Origin.deliveries ++ v'.queued = written.flatMap Origin.deliveries ++ v.queued) :
    Tracks c joins owed queued writes written [o] v' := by
  obtain ⟨rfl, started⟩ := inv.selecting selecting
  have flow := inv.replyFlow
  have exact := inv.replyExact
  have delivered := inv.eventFlow
  simp only [List.append_nil] at flow exact delivered
  exact { inv with
    pending := by rw [writer]; exact ⟨o, rfl, rfl, notClose⟩
    replyFlow := by rw [reader, replies]; exact flow
    replyExact := fun notDone => by rw [reader, replies]; exact exact (reader ▸ notDone)
    eventFlow := by rw [events]; exact delivered
    unread := fun joining => inv.unread (reader ▸ joining)
    unjoined := fun fresh => inv.unjoined (reader ▸ fresh)
    opening := fun _ empty => absurd empty started
    closeDone := fun closed => absurd (inv.closeDone closed) (by rw [selecting]; nofun) }

theorem takeReply {deadline : Nat} {r : Frame} {rest : List Frame}
    (inv : Tracks c joins owed queued writes written taken v) (selecting : v.writer = .selecting deadline)
    (head : v.replies.items = r :: rest) :
    Tracks c joins owed queued writes written [.reply r]
      { v with replies := { v.replies with items := rest }, writer := .writing (.frame r) } :=
  inv.take selecting rfl nofun rfl (by simp [head]) (by simp)

/-- The writer takes the event at the head of the hub channel. -/
theorem takeEvent {deadline : Nat} {e : Event} {rest : List Event}
    (inv : Tracks c joins owed queued writes written taken v) (selecting : v.writer = .selecting deadline)
    (head : v.queued = e :: rest) :
    Tracks c joins owed queued writes written [.delivery e]
      { v with writer := .writing (.frame (Frame.deliver e)), queued := rest } :=
  inv.take selecting rfl nofun rfl (by simp) (by simp [head])

theorem ping {deadline : Nat} (inv : Tracks c joins owed queued writes written taken v)
    (selecting : v.writer = .selecting deadline) :
    Tracks c joins owed queued writes written [.ping] { v with writer := .writing .ping } :=
  inv.take selecting rfl nofun rfl (by simp) (by simp)

theorem stop (inv : Tracks c joins owed queued writes written taken v) (active : v.writer.active)
    (deadline : Nat) :
    Tracks c joins owed queued writes written taken
      { v with writer := .closing deadline, replies := v.replies.dropReceiver } := by
  refine { inv with
    pending := trivial
    opening := nofun
    closeDone := fun closed => absurd active (by rw [inv.closeDone closed]; nofun) }

theorem notice {deadline : Nat} (inv : Tracks c joins owed queued writes written taken v)
    (closing : v.writer = .closing deadline) :
    Tracks c joins owed queued (writes ++ [.closed]) (written ++ [.close]) taken { v with writer := .done } := by
  have unclosed := inv.close_not_written (by rw [closing]; nofun)
  have skip : ∀ {β : Type} (f : Origin → List β), f .close = [] →
      (written ++ [Origin.close] ++ taken).flatMap f = (written ++ taken).flatMap f := by
    intro β f nothing
    simp [nothing]
  refine { inv with
    writes := by rw [List.map_append, inv.writes]; rfl
    pending := trivial
    replyFlow := by rw [skip _ rfl]; exact inv.replyFlow
    replyExact := fun notDone => by rw [skip _ rfl]; exact inv.replyExact notDone
    eventFlow := by rw [skip _ rfl]; exact inv.eventFlow
    opening := nofun
    closeDone := fun _ => rfl
    opens := ?_, closeLast := ?_ }
  · rcases inv.opens with head | allClosed
    · rcases written with _ | ⟨first, rest⟩
      · cases head
      · exact .inl head
    · exact .inr fun o written => by
        rcases List.mem_append.mp written with earlier | last
        · exact allClosed o earlier
        · exact List.mem_singleton.mp last
  · intro pre post split
    rcases append_singleton_eq_append_cons split with ⟨-, -, last⟩ | ⟨rest, earlier, -⟩
    · exact last
    · exact absurd (by simp [earlier]) unclosed

theorem retire {deadline : Nat} (inv : Tracks c joins owed queued writes written taken v)
    (closing : v.writer = .closing deadline) :
    Tracks c joins owed queued writes written taken { v with writer := .done } := by
  have unclosed := inv.close_not_written (by rw [closing]; nofun)
  refine { inv with
    pending := trivial
    opening := nofun
    closeDone := fun closed => absurd closed unclosed }

/-- Events arrive on the hub channel, whatever the reader is doing. -/
theorem arrive {more : List Event} (inv : Tracks c joins owed queued writes written taken v) :
    Tracks c joins owed (queued ++ more) writes written taken { v with queued := v.queued ++ more } :=
  { inv with eventFlow := by rw [← List.append_assoc, inv.eventFlow] }

/-- Every step of a session's view keeps the invariant, with what it shows
added to what the run showed. -/
theorem step {l : List SessionLabel} {v' : SessionView} (inv : Tracks c joins owed queued writes written taken v)
    (moved : SessionStep v l v') :
    ∃ written' taken', Tracks c (joins ++ l.flatMap SessionLabel.joins) (owed ++ l.flatMap SessionLabel.owes)
      (queued ++ l.flatMap SessionLabel.queues) (writes ++ l.flatMap SessionLabel.writes) written' taken' v' := by
  cases moved with
  | stay => exact ⟨written, taken, by simpa using inv⟩
  | join frames fresh => exact ⟨written, taken, by simpa using inv.join fresh frames⟩
  | joined done => exact ⟨written, taken, by simpa using inv.joined done⟩
  | queueJoin joining => exact ⟨written, taken, by simpa using inv.queueJoin joining⟩
  | read f handled more receiving => exact ⟨written, taken, by simpa using inv.read receiving⟩
  | queueReply replying => exact ⟨written, taken, by simpa using inv.queueReply replying⟩
  | leave _ => exact ⟨written, taken, by simpa using inv.leave⟩
  | write deadline writing =>
    obtain ⟨o, held, -⟩ : ∃ o, taken = [o] ∧ _ := by
      have pending := inv.pending
      rw [writing] at pending
      exact pending
    subst held
    exact ⟨written ++ [o], [], by simpa using inv.write writing deadline⟩
  | takeReply selecting head => exact ⟨written, _, by simpa using inv.takeReply selecting head⟩
  | takeEvent selecting _ head => exact ⟨written, _, by simpa using inv.takeEvent selecting head⟩
  | ping selecting => exact ⟨written, _, by simpa using inv.ping selecting⟩
  | stop deadline active => exact ⟨written, taken, by simpa using inv.stop active deadline⟩
  | notice closing => exact ⟨written ++ [.close], taken, by simpa using inv.notice closing⟩
  | retire closing => exact ⟨written, taken, by simpa using inv.retire closing⟩
  | arrive more => exact ⟨written, taken, by simpa using inv.arrive⟩

end Tracks

/-! ## Runs of a session -/

/-- The rest of the cluster as session `s` sees it: other sessions, the
nodes and the hubs move, and may queue events for the session at any time. -/
structure Around (s : Nat) (w w' : World) (more : List Event) : Prop where
  view : w'.view s = { w.view s with queued := (w.view s).queued ++ more }
  present : s < w.sessions.size → s < w'.sessions.size

/-- What the services do, a hub broadcast among them, is a move of the rest
of the cluster. -/
theorem Around.of_grown {s : Nat} {w w' : World} (grown : Grown w w') :
    Around s w w' ((w'.view s).queued.drop (w.view s).queued.length) where
  view := grown.view
  present := fun present => by rw [grown.sessions]; exact present

/-- A run of the cluster seen from session `s`: turns of its reader and its
writer, and moves of the rest of the cluster between them, with what each
showed. -/
inductive SessionRun (s : Nat) : World → List SessionLabel → World → Prop
  | stop (w : World) : SessionRun s w [] w
  | reader {w w' : World} {t : List SessionLabel} :
      SessionRun s ((readerTurn s).run w).2 t w' → SessionRun s w (readerLabels s w ++ t) w'
  | writer {w w' : World} {t : List SessionLabel} :
      SessionRun s ((writerTurn s).run w).2 t w' → SessionRun s w (writerLabels s w ++ t) w'
  | around {w w₁ w' : World} {more : List Event} {t : List SessionLabel} :
      Around s w w₁ more → SessionRun s w₁ t w' → SessionRun s w (.queued more :: t) w'

namespace SessionRun

variable {s : Nat}

theorem pollReader (fuel : Nat) (w : World) : ∃ t, SessionRun s w t ((Herald.Cluster.pollReader s fuel).run w).2 := by
  induction fuel generalizing w with
  | zero => exact ⟨[], stop w⟩
  | succ fuel ih =>
    simp only [Herald.Cluster.pollReader, StateT.run_bind]
    cases going : ((readerTurn s).run w).1 with
    | false => exact ⟨readerLabels s w, by simpa [going] using reader (stop ((readerTurn s).run w).2)⟩
    | true =>
      obtain ⟨t, run⟩ := ih ((readerTurn s).run w).2
      exact ⟨readerLabels s w ++ t, by simpa [going] using reader run⟩

theorem pollWriter (fuel : Nat) (w : World) : ∃ t, SessionRun s w t ((Herald.Cluster.pollWriter s fuel).run w).2 := by
  induction fuel generalizing w with
  | zero => exact ⟨[], stop w⟩
  | succ fuel ih =>
    simp only [Herald.Cluster.pollWriter, StateT.run_bind]
    cases going : ((writerTurn s).run w).1 with
    | false => exact ⟨writerLabels s w, by simpa [going] using writer (stop ((writerTurn s).run w).2)⟩
    | true =>
      obtain ⟨t, run⟩ := ih ((writerTurn s).run w).2
      exact ⟨writerLabels s w ++ t, by simpa [going] using writer run⟩

end SessionRun

/-- A run of a session's view: its steps one after another, with what each
showed. -/
inductive ViewRun : SessionView → List SessionLabel → SessionView → Prop
  | stop (v : SessionView) : ViewRun v [] v
  | step {v v₁ v' : SessionView} {l t : List SessionLabel} :
      SessionStep v l v₁ → ViewRun v₁ t v' → ViewRun v (l ++ t) v'

/-- Every run of the cluster is, as the session sees it, a run of its view:
each turn of its tasks is one of its steps, and each move of the rest of the
cluster an arrival of events. -/
theorem SessionRun.viewRun {s : Nat} {w w' : World} {t : List SessionLabel} (run : SessionRun s w t w')
    (present : s < w.sessions.size) : ViewRun (w.view s) t (w'.view s) := by
  induction run with
  | stop => exact .stop _
  | @reader w _ _ _ ih =>
    obtain ⟨moved, size⟩ := readerTurn_step (w := w) present
    exact .step moved (ih (size ▸ present))
  | @writer w _ _ _ ih =>
    obtain ⟨moved, size⟩ := writerTurn_step (w := w) present
    exact .step moved (ih (size ▸ present))
  | @around w w₁ _ more _ rest _ ih =>
    have moved : SessionStep (w.view s) [.queued more] (w₁.view s) := by
      rw [rest.view]
      exact .arrive more
    exact .step moved (ih (rest.present present))

/-- The invariant holds along every run of the view, with what the run
showed added to what it held for. -/
theorem Tracks.run {v v' : SessionView} {t : List SessionLabel} {c : Frame} {joins owed : List Frame}
    {queued : List Event} {writes : List PeerEvent} {written taken : List Origin}
    (run : ViewRun v t v') (inv : Tracks c joins owed queued writes written taken v) :
    ∃ written' taken', Tracks c (joins ++ t.flatMap SessionLabel.joins) (owed ++ t.flatMap SessionLabel.owes)
      (queued ++ t.flatMap SessionLabel.queues) (writes ++ t.flatMap SessionLabel.writes) written' taken' v' := by
  induction run generalizing joins owed queued writes written taken with
  | stop => exact ⟨written, taken, by simpa using inv⟩
  | step moved _ ih =>
    obtain ⟨written₁, taken₁, inv₁⟩ := inv.step moved
    obtain ⟨written', taken', inv'⟩ := ih inv₁
    exact ⟨written', taken', by simpa using inv'⟩

/-! ## A session from its start -/

/-- The connection's first frame: Connected, with the connection id, the
topic's display text and the keepalive interval in milliseconds saturated to
32 bits. -/
def Session.connectedFrame (ses : Session) : Frame :=
  Frame.connectedNow ses.connectionId ses.topic.display (min ses.keepalive 4294967295)

/-- A session as it starts: its reader has not joined, its writer is about
to write Connected, and neither of its channels holds anything. -/
structure Opened (s : Nat) (w : World) : Prop where
  present : s < w.sessions.size
  fresh : (w.view s).reader = .fresh
  connecting : (w.view s).writer = .writing (.frame (w.session s).connectedFrame)
  empty : (w.view s).replies.items = []
  listening : (w.view s).replies.receiverOpen = true
  unqueued : (w.view s).queued = []

theorem KeepsChannels.of_queueOnly {α : Type} {x : ClusterM α} (only : QueueOnly x) : KeepsChannels x := fun w => by
  rw [only w]
  exact ⟨rfl, rfl⟩

/-- Whether a session is opened depends on the number of sessions, the
session's view and the Connected frame its record gives. -/
theorem Opened.of_keeps {s : Nat} {w w' : World} (size : w'.sessions.size = w.sessions.size)
    (view : w'.view s = w.view s) (frame : (w'.session s).connectedFrame = (w.session s).connectedFrame)
    (start : Opened s w) : Opened s w' := by
  obtain ⟨present, fresh, connecting, empty, listening, unqueued⟩ := start
  rw [← view] at fresh connecting empty listening unqueued
  rw [← frame] at connecting
  rw [← size] at present
  exact ⟨present, fresh, connecting, empty, listening, unqueued⟩

/-- An action that keeps what a session's Connected frame is made of. -/
def KeepsFrame (s : Nat) {α : Type} (x : ClusterM α) : Prop :=
  ∀ w, ((x.run w).2.session s).connectedFrame = (w.session s).connectedFrame

namespace KeepsFrame

variable {s : Nat} {α β : Type}

theorem of_pure (a : α) : KeepsFrame s (pure a : ClusterM α) := fun _ => rfl

theorem of_get : KeepsFrame s (get : ClusterM World) := fun _ => rfl

theorem of_bind {x : ClusterM α} {f : α → ClusterM β} (first : KeepsFrame s x)
    (rest : ∀ a, KeepsFrame s (f a)) : KeepsFrame s (x >>= f) := fun w =>
  (rest _ _).trans (first w)

theorem of_queueOnly {x : ClusterM α} (only : QueueOnly x) : KeepsFrame s x := fun w => by
  rw [only w]
  rfl

theorem of_modifyNode (n : Nat) (f : Node → Node) : KeepsFrame s (modifyNode n f) := fun _ => rfl

theorem of_modifySession (s' : Nat) (f : Session → Session)
    (keeps : ∀ x, (f x).connectedFrame = x.connectedFrame) : KeepsFrame s (modifySession s' f) := fun w => by
  simp only [modifySession_run, World.session, getD_modify]
  split
  · next same => rw [keeps, same.1]
  · rfl

end KeepsFrame

/-- An action that keeps a session's view and what its Connected frame is
made of keeps it opened. -/
theorem Opened.of_keepsAll {s : Nat} {w : World} {α : Type} {x : ClusterM α} (view : KeepsView s x)
    (frame : KeepsFrame s x) (start : Opened s w) : Opened s (x.run w).2 :=
  start.of_keeps (view w).2 (view w).1 (frame w)

/-- Every session the cluster starts is opened. -/
theorem startSession_opened (n : Nat) (service : ServiceKind) (actor : Actor) (topic : Topic)
    (link : SessionLink) (outboundCapacity replyCapacity keepalive : Nat) (w : World) :
    Opened w.sessions.size
      ((startSession n service actor topic link outboundCapacity replyCapacity keepalive).run w).2 := by
  obtain ⟨conn, w₁, named, sessions, -⟩ : ∃ conn w₁, freshConnectionId.run w = (conn, w₁) ∧
      w₁.sessions = w.sessions ∧ w₁.eventChannels = w.eventChannels := ⟨_, _, rfl, rfl, rfl⟩
  unfold startSession
  rw [StateT.run_bind, named, id_bind, StateT.run_bind, StateT.run_get, id_bind, id_pure]
  dsimp only
  rw [StateT.run_bind, StateT.run_set, id_bind, ← sessions]
  -- registering it, storing its state, waking its tasks and making it active keep it opened
  refine Opened.of_keepsAll ?view ?frame ?pushed
  case view =>
    exact .of_bind (.of_registerSession _) fun _ => .of_bind (.of_storeLifecycle _ _) fun _ =>
      .of_bind (.of_queueOnly (.of_wake _)) fun _ => .of_bind (.of_queueOnly (.of_wake _)) fun _ =>
        .of_bind (.of_activateSession _) fun _ => .of_pure _
  case frame =>
    exact .of_bind (.of_bind .of_get fun _ => .of_bind .of_get fun _ => .of_bind (.of_modifyNode _ _) fun _ =>
        .of_modifySession _ _ fun _ => rfl) fun _ =>
      .of_bind (.of_modifySession _ _ fun _ => rfl) fun _ =>
      .of_bind (.of_queueOnly (.of_wake _)) fun _ => .of_bind (.of_queueOnly (.of_wake _)) fun _ =>
        .of_bind (.of_modifySession _ _ fun x => by split <;> rfl) fun _ => .of_pure _
  case pushed =>
    constructor <;> simp [World.view, World.session, World.queuedFor, Session.connectedFrame, Channel.bounded]

/-- What the writes of a session show, in the order they were made: the
first is Connected unless the writer only closed; the frames taken from the
reply channel are the join frames and then the replies owed, in order, so
every join frame comes before every reply; the deliveries are the events
queued for the session, in order; and nothing comes after the close. -/
structure WrittenInOrder (connected : Frame) (joins owed : List Frame) (queued : List Event)
    (written : List Origin) : Prop where
  opens : written.head? = some (.connected connected) ∨ ∀ o ∈ written, o = .close
  replies : written.flatMap Origin.replies <+: joins ++ owed
  deliveries : written.flatMap Origin.deliveries <+: queued
  closeLast : ∀ pre post, written = pre ++ .close :: post → post = []

namespace Tracks

theorem opened {s : Nat} {w : World} (start : Opened s w) :
    Tracks (w.session s).connectedFrame [] [] [] [] [] [.connected (w.session s).connectedFrame] (w.view s) where
  writes := rfl
  pending := by
    rw [start.connecting]
    exact ⟨_, rfl, rfl, nofun⟩
  replyFlow := by simp [start.empty, start.fresh]
  replyExact := fun _ => by simp [start.empty, start.fresh]
  eventFlow := by simp [start.unqueued]
  unread := fun _ => rfl
  unjoined := fun _ => rfl
  opening := fun _ _ => rfl
  closeDone := nofun
  opens := .inr nofun
  closeLast := by simp

variable {c : Frame} {joins owed : List Frame} {queued : List Event} {writes : List PeerEvent}
  {written taken : List Origin} {v : SessionView}

theorem inOrder (inv : Tracks c joins owed queued writes written taken v) :
    WrittenInOrder c joins owed queued written where
  opens := inv.opens
  replies := by
    have flow := inv.replyFlow
    rw [List.flatMap_append, List.append_assoc, List.append_assoc] at flow
    exact (List.prefix_append _ _).trans flow
  deliveries := by
    rw [← inv.eventFlow, List.flatMap_append, List.append_assoc]
    exact List.prefix_append _ _
  closeLast := inv.closeLast

end Tracks

/-- Every run of a session from its start writes to the client in order:
Connected first; the join frames and then the replies owed to the frames
read, as a prefix in that order; the events queued for it as a prefix in
queue order, each as a delivery; and nothing after the close. -/
theorem session_writes_in_order {s : Nat} {w w' : World} {t : List SessionLabel} (start : Opened s w)
    (run : SessionRun s w t w') :
    ∃ written : List Origin, written.map Origin.event = t.flatMap SessionLabel.writes ∧
      WrittenInOrder (w.session s).connectedFrame (t.flatMap SessionLabel.joins)
        (t.flatMap SessionLabel.owes) (t.flatMap SessionLabel.queues) written := by
  obtain ⟨written, taken, inv⟩ := (Tracks.opened start).run (run.viewRun start.present)
  simp only [List.nil_append] at inv
  exact ⟨written, inv.writes, inv.inOrder⟩

/-- A chat session on the lobby, started on a cluster with no session yet. -/
def lobbyStarted : World :=
  ((startSession 0 .chat default (.room "lobby") { inbound := .unbounded, outbound := .unbounded } 256 32 30000).run
    default).2

/-- The lobby session's writer, on its first turn, writes in order. -/
theorem lobby_writer_turn_in_order :
    Opened 0 lobbyStarted ∧ ∃ written : List Origin,
      written.map Origin.event = (writerLabels 0 lobbyStarted ++ []).flatMap SessionLabel.writes ∧
      WrittenInOrder (lobbyStarted.session 0).connectedFrame
        ((writerLabels 0 lobbyStarted ++ []).flatMap SessionLabel.joins)
        ((writerLabels 0 lobbyStarted ++ []).flatMap SessionLabel.owes)
        ((writerLabels 0 lobbyStarted ++ []).flatMap SessionLabel.queues) written :=
  have start : Opened 0 lobbyStarted := startSession_opened 0 .chat default (.room "lobby") _ 256 32 30000 default
  ⟨start, session_writes_in_order start (.writer (.stop _))⟩

/-! ## A delivery ahead of the join frames -/

theorem SessionRun.reader_of {s : Nat} {w w₁ w' : World} {l t : List SessionLabel}
    (turn : ((readerTurn s).run w).2 = w₁) (shown : readerLabels s w = l) (rest : SessionRun s w₁ t w') :
    SessionRun s w (l ++ t) w' := by
  subst turn shown
  exact .reader rest

/-- A fresh reader of a chat session on a room whose recall gives a message
takes that message's frame as its join frames, and shows it. -/
theorem readerTurn_of_recall {s : Nat} {w : World} {room : String} {m : Message}
    (fresh : (w.session s).reader = .fresh) (chat : (w.session s).service = .chat)
    (topic : (w.session s).topic = .room room)
    (recalled : ((chatRecall (w.session s).node room).run w).1 = some m) :
    ((readerTurn s).run w).2 = ((modifySession s fun x => { x with reader := .joining [.deliver (.message m)] }).run
        ((chatRecall (w.session s).node room).run w).2).2 ∧
      readerLabels s w = [.joined [.deliver (.message m)]] := by
  have frames := @joinFrames_run_of_recall w (w.session s).node room m
    { actor := (w.session s).actor, topic := (w.session s).topic } topic recalled
  constructor
  · unfold readerTurn
    simp only [StateT.run_bind, StateT.run_get, id_pure, id_bind, fresh, StateT.run_pure]
    rw [chat, frames]
  · simp only [readerLabels, fresh]
    rw [chat, frames]

def lobbyLastWord : Message :=
  { id := ⟨7⟩, senderId := "alice", roomId := "lobby", content := "hello", createdAt := ⟨1700000000, 0⟩ }

/-- A node whose recall cache holds the lobby's last message for an hour. -/
def recallingNode : Node :=
  { recallCache := { entries := [(recallKey "lobby", (messageText lobbyLastWord).toUTF8, instantBase + 3600000000000)] } }

/-- A chat session on the lobby, started on a node that recalls the lobby's last message. -/
def recallLobby : World :=
  ((startSession 0 .chat default (.room "lobby") { inbound := .unbounded, outbound := .unbounded } 256 32 30000).run
    { nodes := #[recallingNode] }).2

/-- A message the hub delivers to the lobby while the session joins. -/
def lobbyNews : Event := .message { lobbyLastWord with id := ⟨8⟩, content := "news" }

theorem recallLobby_recalls :
    ((chatRecall (recallLobby.session 0).node "lobby").run recallLobby).1 = some lobbyLastWord := by
  have node : (recallLobby.session 0).node = 0 := rfl
  have on : ((recallLobby.node 0).recallAttached && (recallLobby.node 0).chat.recallEnabled) = true := by
    decide +kernel
  have found : (recallLobby.node 0).recallCache.entries.find? (·.1 == recallKey "lobby") =
      some (recallKey "lobby", (messageText lobbyLastWord).toUTF8, instantBase + 3600000000000) := by
    have cached : (recallLobby.node 0).recallCache = recallingNode.recallCache := rfl
    simp [cached, recallingNode]
  have live : recallLobby.instant < instantBase + 3600000000000 := by decide +kernel
  have created : Timestamp.ReadsBack ⟨1700000000, 0⟩ := by
    unfold Timestamp.ReadsBack
    decide +kernel
  rw [node, chatRecall_of_entry on found live, decodeMessage, Message.ofBytes_messageText lobbyLastWord ⟨by decide, created⟩]
  rfl

/-- The hub can deliver an event ahead of the join frames: the session's
reader takes the lobby's last message as its join frame, the writer writes
Connected, the hub then delivers a new message, and the writer, finding the
reply channel empty, writes that delivery before the reader queues the join
frame. -/
theorem delivery_overtakes_join_frame :
    Opened 0 recallLobby ∧ ∃ t w', SessionRun 0 recallLobby t w' ∧
      t.flatMap SessionLabel.joins = [.deliver (.message lobbyLastWord)] ∧
      t.flatMap SessionLabel.queues = [lobbyNews] ∧
      t.flatMap SessionLabel.writes = [.frame (recallLobby.session 0).connectedFrame,
        .frame (Frame.deliver lobbyNews), .frame (.deliver (.message lobbyLastWord))] := by
  have opened : Opened 0 recallLobby :=
    startSession_opened 0 .chat default (.room "lobby") _ 256 32 30000 { nodes := #[recallingNode] }
  obtain ⟨joined, shown⟩ := @readerTurn_of_recall 0 recallLobby "lobby" lobbyLastWord rfl rfl rfl recallLobby_recalls
  refine ⟨opened, _, _,
    .reader_of joined shown <| .writer <|
      .around (.of_grown (KeepsSessions.of_broadcast 0 (.room "lobby") lobbyNews _)) <|
      .writer <| .writer <| .reader <| .writer <| .writer <| .stop _, ?_, ?_, ?_⟩
  · decide +kernel
  · decide +kernel
  · decide +kernel

end Herald.Cluster
