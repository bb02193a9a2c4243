import Mathlib
import Herald.Proofs.HubDelivery

set_option autoImplicit false

/-!
# The counters a hub keeps

A hub lists each topic while it has registrations, counts its subscribers
and counts the deliveries it dropped. Here each call runs whole, one after
another; `Herald.Proofs.HubInterleaving` splits the calls into the stages
they take the hub through. Between calls, the listing and the counters agree
with the registrations (`hub_counters_match_registrations`):

* every listed topic has a registration, so the topic count is the number
  of topics registered on;
* the subscriber count is the number of registrations, so taking one off
  never counts below zero;
* a subscription is taken off by exactly one call however often the call is
  repeated, because registration numbers are never handed out twice;
* the drop count is the sum of what the broadcasts answered.
-/

namespace Herald.Hub

/-- What a hub's listing and subscriber count keep: every listed topic has a
registration, and the count of subscribers is the number of registrations. -/
structure Counted (h : Hub) : Prop where
  rows_nonempty : ∀ row ∈ h.topics, row.2 ≠ []
  subscribers_eq : h.subscribers = h.registrations.length

section Counting

variable {h : Hub}

theorem Counted.of_empty (empty : h.topics = []) (noSubscribers : h.subscribers = 0) : h.Counted where
  rows_nonempty := by simp [empty]
  subscribers_eq := by simp [registrations, empty, noSubscribers]

/-- An empty row after a registration is put in is an old row of another
topic. -/
theorem empty_row_insertEntry {t : Topic} {id ch : Nat} {row : Topic × List (Nat × Nat)}
    (listed : row ∈ (h.insertEntry t id ch).topics) (empty : row.2 = []) :
    row ∈ h.topics ∧ row.1 ≠ t := by
  unfold Hub.insertEntry at listed
  dsimp only at listed
  split at listed
  · -- the topic is listed: its row grows, the others stay
    obtain ⟨⟨key, es⟩, old, rfl⟩ := List.mem_map.mp listed
    by_cases same : key = t
    · simp [same] at empty
    · simpa [same] using old
  · next unlisted =>
      rcases List.mem_append.mp listed with old | new
      · refine ⟨old, fun same => unlisted (List.any_eq_true.mpr ⟨row, old, by simp [same]⟩)⟩
      · rw [List.mem_singleton.mp new] at empty
        cases empty

theorem empty_row_removeEntry {s : Subscription} {row : Topic × List (Nat × Nat)}
    (listed : row ∈ (h.removeEntry s).1.topics) : row ∈ h.topics ∨ row.1 = s.topic := by
  unfold Hub.removeEntry at listed
  split at listed
  · exact .inl listed
  · obtain ⟨⟨key, es⟩, old, rfl⟩ := List.mem_map.mp listed
    by_cases same : key = s.topic
    · simp [same]
    · simpa [same] using old

theorem removeEntry_of_absent {s : Subscription} (absent : (h.removeEntry s).2 = none) :
    (h.removeEntry s).1 = h := by
  unfold Hub.removeEntry at absent ⊢
  split
  · rfl
  · next found => rw [found] at absent; cases absent

theorem mem_topics_dropEmptyRow {t : Topic} {row : Topic × List (Nat × Nat)} :
    row ∈ (h.dropEmptyRow t).topics ↔ row ∈ h.topics ∧ ¬(row.1 = t ∧ row.2 = []) := by
  obtain ⟨key, es⟩ := row
  by_cases same : key = t <;> simp [Hub.dropEmptyRow, List.mem_filter, same]

theorem Counted.register (wf : h.WellFormed) (counted : h.Counted) (t : Topic) (ch : Nat) :
    (h.register t ch).1.Counted where
  rows_nonempty := fun row listed empty =>
    counted.rows_nonempty row (empty_row_insertEntry listed empty).1 empty
  subscribers_eq := by
    rw [(registrations_register_perm h t ch wf).length_eq, List.length_append, ← counted.subscribers_eq]
    rfl

theorem dropped_unregister (s : Subscription) : (h.unregister s).1.dropped = h.dropped := by
  cases found : (h.removeEntry s).2 with
  | none => rw [unregister_eq_of_absent h s found, dropped_removeEntry]
  | some channel =>
      rw [unregister_eq_of_removed h s found]
      exact dropped_removeEntry h s

theorem subscribers_unregister (s : Subscription) :
    (h.unregister s).1.subscribers = if (h.unregister s).2.isSome then h.subscribers - 1 else h.subscribers := by
  cases found : (h.removeEntry s).2 with
  | none => rw [unregister_eq_of_absent h s found, subscribers_removeEntry]; rfl
  | some channel =>
      rw [unregister_eq_of_removed h s found]
      simp [Hub.countDown, Hub.dropEmptyRow]

/-- Registration numbers are never repeated, so a subscription names at most
one registration: taking it off removes exactly one. -/
theorem length_filter_names (wf : h.WellFormed) {s : Subscription} {ch : Nat}
    (present : (s.topic, s.id, ch) ∈ h.registrations) :
    (h.registrations.filter (!names s ·)).length + 1 = h.registrations.length := by
  have nodup : h.registrations.Nodup := List.Nodup.of_map (·.2.1) wf.numbers_nodup
  have named : ∀ r ∈ h.registrations, names s r = (r == (s.topic, s.id, ch)) := by
    intro r listed
    by_cases same : r = (s.topic, s.id, ch)
    · simp [same, names]
    · have differs : ¬(r.1 = s.topic ∧ r.2.1 = s.id) := fun both =>
        same (eq_of_map_nodup wf.numbers_nodup listed present both.2)
      simp only [names, beq_eq_false_iff_ne.mpr same]
      simpa using differs
  have once : (h.registrations.filter (names s ·)).length = 1 := by
    rw [List.filter_congr named, ← List.count_eq_length_filter]
    exact List.count_eq_one_of_mem nodup present
  have split := List.length_eq_length_filter_add (names s ·) (l := h.registrations)
  omega

theorem Counted.unregister (wf : h.WellFormed) (counted : h.Counted) (s : Subscription) :
    (h.unregister s).1.Counted where
  rows_nonempty := by
    intro row listed empty
    cases found : (h.removeEntry s).2 with
    | none =>
        rw [unregister_eq_of_absent h s found, removeEntry_of_absent found] at listed
        exact counted.rows_nonempty row listed empty
    | some channel =>
        -- a row left empty is dropped
        rw [unregister_eq_of_removed h s found] at listed
        obtain ⟨removed, kept⟩ := mem_topics_dropEmptyRow.mp listed
        rcases empty_row_removeEntry removed with old | same
        · exact counted.rows_nonempty row old empty
        · exact kept ⟨same, empty⟩
  subscribers_eq := by
    rw [subscribers_unregister, registrations_unregister h s wf]
    cases found : (h.unregister s).2 with
    | none =>
      have untouched : h.registrations.filter (!names s ·) = h.registrations := by
        refine List.filter_eq_self.mpr fun r listed => ?_
        cases namesIt : names s r with
        | false => rfl
        | true =>
          obtain ⟨t, id, ch⟩ := r
          simp only [names, Bool.and_eq_true, beq_iff_eq] at namesIt
          obtain ⟨rfl, rfl⟩ := namesIt
          have taken := (unregister_channel_eq_some_iff h s wf).mpr listed
          rw [found] at taken
          cases taken
      simp [untouched, counted.subscribers_eq]
    | some ch =>
      have present := (unregister_channel_eq_some_iff h s wf).mp found
      have removed := length_filter_names wf present
      simp only [Option.isSome_some, if_true, counted.subscribers_eq]
      omega

theorem topicCount_eq_card (wf : h.WellFormed) (counted : h.Counted) :
    h.topicCount = (h.registrations.map (·.1)).toFinset.card := by
  have listed : (h.registrations.map (·.1)).toFinset = (h.topics.map (·.1)).toFinset := by
    ext t
    simp only [List.mem_toFinset, List.mem_map, registrations, List.mem_flatMap, spread]
    constructor
    · rintro ⟨r, ⟨row, inTopics, e, _, rfl⟩, rfl⟩
      exact ⟨row, inTopics, rfl⟩
    · rintro ⟨row, inTopics, rfl⟩
      obtain ⟨e, inRow⟩ := List.exists_mem_of_ne_nil _ (counted.rows_nonempty row inTopics)
      exact ⟨(row.1, e), ⟨row, inTopics, e, inRow, rfl⟩, rfl⟩
  rw [listed, List.toFinset_card_of_nodup wf.topics_nodup, List.length_map]
  rfl

end Counting

end Herald.Hub

namespace Herald.Cluster

/-- The deliveries a step answers as dropped: a broadcast's count, nothing
for any other call. -/
def HubStep.droppedCount (st : HubStep) : Nat :=
  match st.answer with
  | .broadcasted _ dropped => dropped
  | _ => 0

/-- Whether a step is a call taking registration `s` off that removed it. -/
def HubStep.removes (s : Subscription) (st : HubStep) : Bool :=
  st.action == .unregister s && st.answer == .unregistered true

/-- A subscription taken off for good: it names no registration, and its
number is below the next one to hand out, so it never will again. -/
def Gone (n : Nat) (s : Subscription) (w : World) : Prop :=
  (∀ ch, ¬Holds n s ch w) ∧ s.id < (w.node n).hub.nextId

section Step

variable {n : Nat} {w : World}

theorem counted_after_perform (inv : HubInv n w) (counted : (w.node n).hub.Counted) (a : HubAction) :
    ((((a.perform n).run w).2).node n).hub.Counted := by
  rw [hub_after_perform inv.present]
  cases a with
  | register t capacity => exact counted.register inv.wellFormed t _
  | unregister s => exact counted.unregister inv.wellFormed s
  | broadcast t e => exact ⟨counted.rows_nonempty, counted.subscribers_eq⟩
  | receive ch => exact counted
  | closeReceiver ch => exact counted

theorem dropped_after_perform (inv : HubInv n w) (a : HubAction) :
    ((((a.perform n).run w).2).node n).hub.dropped =
      (w.node n).hub.dropped + (HubStep.mk w a ((a.perform n).run w).1 ((a.perform n).run w).2).droppedCount := by
  rw [hub_after_perform inv.present]
  cases a with
  | register t capacity => rw [HubAction.perform_register]; rfl
  | unregister s =>
    rw [HubAction.perform_unregister]
    exact Hub.dropped_unregister s
  | broadcast t e => rw [HubAction.perform_broadcast]; rfl
  | receive ch => rw [HubAction.perform_receive]; rfl
  | closeReceiver ch => rfl

theorem nextId_after_perform (inv : HubInv n w) (a : HubAction) :
    (w.node n).hub.nextId ≤ ((((a.perform n).run w).2).node n).hub.nextId := by
  rw [hub_after_perform inv.present]
  cases a with
  | register t capacity => exact Nat.le_succ _
  | unregister s => exact Nat.le_of_eq (Hub.nextId_unregister _ s).symm
  | broadcast t e => exact Nat.le_refl _
  | receive ch => exact Nat.le_refl _
  | closeReceiver ch => exact Nat.le_refl _

/-- Taking a subscription off answers that it removed one exactly when the
subscription names a registration. -/
theorem unregister_answer (inv : HubInv n w) (s : Subscription) :
    (((HubAction.unregister s).perform n).run w).1 = .unregistered true ↔ ∃ ch, Holds n s ch w := by
  rw [HubAction.perform_unregister]
  simp only [HubAnswer.unregistered.injEq, Option.isSome_iff_exists]
  exact exists_congr fun ch => Hub.unregister_channel_eq_some_iff _ s inv.wellFormed

theorem subscribers_pos_of_removed (inv : HubInv n w) (counted : (w.node n).hub.Counted) (a : HubAction)
    (answered : ((a.perform n).run w).1 = .unregistered true) : 1 ≤ (w.node n).hub.subscribers := by
  cases a with
  | unregister s =>
    obtain ⟨ch, holding⟩ := (unregister_answer inv s).mp answered
    rw [counted.subscribers_eq]
    exact List.length_pos_of_mem holding
  | register t capacity => rw [HubAction.perform_register] at answered; cases answered
  | broadcast t e => rw [HubAction.perform_broadcast] at answered; cases answered
  | receive ch => rw [HubAction.perform_receive] at answered; cases answered
  | closeReceiver ch => rw [HubAction.perform_closeReceiver] at answered; cases answered

theorem Gone.perform {s : Subscription} (inv : HubInv n w) (gone : Gone n s w) (a : HubAction) :
    Gone n s (((a.perform n).run w).2) := by
  refine ⟨fun ch holding => ?_, Nat.lt_of_lt_of_le gone.2 (nextId_after_perform inv a)⟩
  have before := (mem_registrations_after_perform inv a).mp holding
  cases a with
  | register t capacity =>
    rcases before with old | fresh
    · exact gone.1 ch old
    · -- the new registration has the next number, above the subscription's
      have sameId : s.id = (w.node n).hub.nextId := congrArg (·.2.1) fresh
      exact Nat.ne_of_lt gone.2 sameId
  | unregister s' => exact gone.1 ch before.1
  | broadcast t e => exact gone.1 ch before
  | receive c => exact gone.1 ch before
  | closeReceiver c => exact gone.1 ch before

theorem gone_after_unregister {s : Subscription} {ch : Nat} (inv : HubInv n w) (holding : Holds n s ch w) :
    Gone n s (((HubAction.unregister s).perform n).run w).2 := by
  refine ⟨fun ch' held => ?_, ?_⟩
  · have before := (mem_registrations_after_perform inv (.unregister s)).mp held
    simp [Hub.names] at before
  · rw [hub_after_perform inv.present]
    rw [Hub.nextId_unregister]
    exact inv.wellFormed.numbers_lt _ holding

end Step

section Run

variable {n : Nat}

/-- What every call does from a counted hub of the registry's shape, every
step of a run from such a hub does. -/
theorem forall_counted_steps (P : HubStep → Prop)
    (step : ∀ w a, HubInv n w → (w.node n).hub.Counted →
      P ⟨w, a, ((a.perform n).run w).1, ((a.perform n).run w).2⟩)
    {w : World} (inv : HubInv n w) (counted : (w.node n).hub.Counted) (acts : List HubAction) :
    ∀ st ∈ HubAction.steps n acts w, P st :=
  -- the hub's shape and its counters are kept together
  forall_steps_of_kept (fun w => HubInv n w ∧ (w.node n).hub.Counted)
    (fun _ a holds => ⟨holds.1.perform a, counted_after_perform holds.1 holds.2 a⟩) P
    (fun w a holds => step w a holds.1 holds.2) ⟨inv, counted⟩ acts

theorem dropped_final {w : World} (inv : HubInv n w) (acts : List HubAction) :
    ((HubAction.final n acts w).node n).hub.dropped =
      (w.node n).hub.dropped + ((HubAction.steps n acts w).map (·.droppedCount)).sum := by
  induction acts generalizing w with
  | nil => rfl
  | cons a rest inductionHypothesis =>
    simp only [HubAction.final, HubAction.steps, List.map_cons, List.sum_cons]
    rw [inductionHypothesis (inv.perform a), dropped_after_perform inv a, Nat.add_assoc]

theorem removals_of_gone {s : Subscription} {w : World} (inv : HubInv n w) (gone : Gone n s w)
    (acts : List HubAction) : (HubAction.steps n acts w).countP (·.removes s) = 0 := by
  induction acts generalizing w with
  | nil => rfl
  | cons a rest inductionHypothesis =>
    have kept : (HubStep.mk w a ((a.perform n).run w).1 ((a.perform n).run w).2).removes s = false := by
      by_cases same : a = .unregister s
      · subst same
        have refused : (((HubAction.unregister s).perform n).run w).1 ≠ .unregistered true :=
          fun answered => Exists.elim ((unregister_answer inv s).mp answered) gone.1
        simp [HubStep.removes, refused]
      · simp [HubStep.removes, same]
    simp only [HubAction.steps, List.countP_cons, kept, inductionHypothesis (inv.perform a) (gone.perform inv a)]
    rfl

theorem removals_of_holds {s : Subscription} {ch : Nat} {w : World} (inv : HubInv n w)
    (holding : Holds n s ch w) (acts : List HubAction) :
    (HubAction.steps n acts w).countP (·.removes s) = if .unregister s ∈ acts then 1 else 0 := by
  induction acts generalizing w with
  | nil => rfl
  | cons a rest inductionHypothesis =>
    by_cases same : a = .unregister s
    · subst same
      have answered := (unregister_answer inv s).mpr ⟨ch, holding⟩
      simp only [HubAction.steps, List.countP_cons,
        removals_of_gone (inv.perform _) (gone_after_unregister inv holding)]
      simp [HubStep.removes, answered]
    · simp only [HubAction.steps, List.countP_cons,
        inductionHypothesis (inv.perform a) (holding.perform inv a same)]
      simp [HubStep.removes, same, Ne.symm same]

end Run

/-- The counters of a hub along every run of its calls from a hub with no
registrations. After every call the listed topics are the topics registered
on, each with a registration, and the subscriber count is the number of
registrations; a call that takes a registration off finds the count at one or
more, so it never counts below zero. After a registration, the calls taking
its subscription off remove it exactly once if there is any, however often
they are repeated. The drop count grows by what each broadcast answers. -/
theorem hub_counters_match_registrations {n : Nat} {w : World} (present : n < w.nodes.size)
    (empty : (w.node n).hub.topics = []) (noSubscribers : (w.node n).hub.subscribers = 0)
    (acts : List HubAction) :
    (∀ st ∈ HubAction.steps n acts w,
      (∀ row ∈ (st.after.node n).hub.topics, row.2 ≠ []) ∧
      (st.after.node n).hub.topicCount = ((st.after.node n).hub.registrations.map (·.1)).toFinset.card ∧
      (st.after.node n).hub.subscribers = (st.after.node n).hub.registrations.length ∧
      (st.answer = .unregistered true → 1 ≤ (st.before.node n).hub.subscribers)) ∧
    (∀ pre post t capacity, acts = pre ++ .register t capacity :: post →
      let registered := ((HubAction.register t capacity).perform n).run (HubAction.final n pre w)
      ∃ s ch, registered.1 = .registered s ch ∧
        (HubAction.steps n post registered.2).countP (·.removes s) = if .unregister s ∈ post then 1 else 0) ∧
    ((HubAction.final n acts w).node n).hub.dropped =
      (w.node n).hub.dropped + ((HubAction.steps n acts w).map (·.droppedCount)).sum := by
  have inv : HubInv n w := HubInv.of_empty present empty
  have counted : (w.node n).hub.Counted := Hub.Counted.of_empty empty noSubscribers
  refine ⟨forall_counted_steps _ (fun w a inv counted => ?_) inv counted acts, ?_, dropped_final inv acts⟩
  · have after := counted_after_perform inv counted a
    exact ⟨after.rows_nonempty, Hub.topicCount_eq_card (inv.perform a).wellFormed after, after.subscribers_eq,
      subscribers_pos_of_removed inv counted a⟩
  · intro pre post t capacity _
    -- the registration holds its subscription until a call takes it off
    have start := inv.final pre
    obtain ⟨answered, _, _, holding, _⟩ := registered_channel start t capacity
    exact ⟨_, _, answered, removals_of_holds (start.perform _) holding post⟩

end Herald.Cluster
