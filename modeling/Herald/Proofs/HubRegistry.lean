import Mathlib.Data.List.Basic
import Herald.Core.Hub

set_option autoImplicit false

/-!
# The registry kept by a hub

A hub lists each topic once, with the registrations of that topic in the
order they were made.  Flattened, the table is a list of registrations
`(topic, number, channel)`; `entries` is that list cut down to one topic.

`register` appends one registration under its topic and `unregister`
removes exactly the registration it names, so both keep the table's shape
(`Hub.WellFormed`): topics listed once, registration numbers below the next
one to hand out and never repeated, and no channel held twice.  Later proofs
use the equations of this module and never look inside the topic table.
-/

namespace Herald.Hub

theorem nodup_append_singleton {α : Type} {l : List α} {x : α} (absent : x ∉ l)
    (nodup : l.Nodup) : (l ++ [x]).Nodup := by
  refine List.nodup_append.mpr ⟨nodup, List.nodup_cons.mpr ⟨List.not_mem_nil, List.nodup_nil⟩, ?_⟩
  rintro a present b single rfl
  exact absent (List.mem_singleton.mp single ▸ present)

/-- Two members of a list with one image under a map that leaves no
duplicates are the same member. -/
theorem eq_of_map_nodup {α β : Type} {f : α → β} {l : List α} (nodup : (l.map f).Nodup)
    {a b : α} (aListed : a ∈ l) (bListed : b ∈ l) (same : f a = f b) : a = b := by
  induction l with
  | nil => simp at aListed
  | cons c rest inductionHypothesis =>
      rw [List.map_cons, List.nodup_cons] at nodup
      rcases List.mem_cons.mp aListed with rfl | aRest <;>
        rcases List.mem_cons.mp bListed with rfl | bRest
      · rfl
      · exact absurd (same ▸ List.mem_map_of_mem bRest) nodup.1
      · exact absurd (same.symm ▸ List.mem_map_of_mem aRest) nodup.1
      · exact inductionHypothesis nodup.2 aRest bRest

/-- The registrations of one row of the topic table. -/
def spread (entry : Topic × List (Nat × Nat)) : List (Topic × Nat × Nat) :=
  entry.2.map (entry.1, ·)

/-- Every registration of a hub as (topic, number, channel), topic by topic. -/
def registrations (h : Hub) : List (Topic × Nat × Nat) := h.topics.flatMap spread

/-- The channels a hub sends into, one per registration. -/
def channels (h : Hub) : List Nat := h.registrations.map (·.2.2)

/-- The shape `register` and `unregister` keep. -/
structure WellFormed (h : Hub) : Prop where
  topics_nodup : (h.topics.map (·.1)).Nodup
  numbers_nodup : (h.registrations.map (·.2.1)).Nodup
  channels_nodup : h.channels.Nodup
  numbers_lt : ∀ r ∈ h.registrations, r.2.1 < h.nextId

theorem WellFormed.withDropped {h : Hub} (wf : h.WellFormed) (x : Nat) :
    ({ h with dropped := x } : Hub).WellFormed :=
  ⟨wf.topics_nodup, wf.numbers_nodup, wf.channels_nodup, wf.numbers_lt⟩

@[simp]
theorem filter_spread (entry : Topic × List (Nat × Nat)) (t : Topic) :
    (spread entry).filter (·.1 == t) = if entry.1 = t then spread entry else [] := by
  obtain ⟨key, es⟩ := entry
  by_cases same : key = t
  · subst same
    simp only [spread, List.filter_map, Function.comp_def, beq_self_eq_true, if_true]
    rw [List.filter_eq_self.mpr fun _ _ => rfl]
  · simp [spread, List.filter_map, Function.comp_def, same]

theorem flatMap_spread_filter_of_not_mem (topics : List (Topic × List (Nat × Nat))) {t : Topic}
    (absent : t ∉ topics.map (·.1)) : (topics.flatMap spread).filter (·.1 == t) = [] := by
  induction topics with
  | nil => rfl
  | cons entry rest inductionHypothesis =>
      simp only [List.map_cons, List.mem_cons, not_or] at absent
      rw [List.flatMap_cons, List.filter_append, inductionHypothesis absent.2, filter_spread,
        if_neg (Ne.symm absent.1), List.nil_append]

theorem lookup_eq_filter (topics : List (Topic × List (Nat × Nat)))
    (nodup : (topics.map (·.1)).Nodup) (t : Topic) :
    (topics.lookup t).getD [] = ((topics.flatMap spread).filter (·.1 == t)).map (·.2) := by
  induction topics with
  | nil => rfl
  | cons entry rest inductionHypothesis =>
      obtain ⟨key, es⟩ := entry
      simp only [List.map_cons, List.nodup_cons] at nodup
      rw [List.flatMap_cons, List.filter_append, filter_spread, List.lookup_cons]
      by_cases same : key = t
      · subst same
        rw [flatMap_spread_filter_of_not_mem rest nodup.1, if_pos rfl, beq_self_eq_true,
          List.append_nil]
        simp only [Option.getD_some, spread, List.map_map]
        exact (List.map_id' es).symm
      · rw [beq_false_of_ne (Ne.symm same), if_neg same, List.nil_append, inductionHypothesis nodup.2]

theorem entries_eq_filter (h : Hub) (wf : h.WellFormed) (t : Topic) :
    h.entries t = (h.registrations.filter (·.1 == t)).map (·.2) :=
  lookup_eq_filter h.topics wf.topics_nodup t

theorem mem_entries_iff {h : Hub} (wf : h.WellFormed) {t : Topic} {entry : Nat × Nat} :
    entry ∈ h.entries t ↔ (t, entry) ∈ h.registrations := by
  rw [entries_eq_filter h wf]
  constructor
  · intro membership
    obtain ⟨r, found, rfl⟩ := List.mem_map.mp membership
    obtain ⟨present, sameTopic⟩ := List.mem_filter.mp found
    simpa [(beq_iff_eq.mp sameTopic).symm] using present
  · intro present
    exact List.mem_map.mpr ⟨(t, entry), List.mem_filter.mpr ⟨present, by simp⟩, rfl⟩

theorem channels_entries_nodup {h : Hub} (wf : h.WellFormed) (t : Topic) :
    ((h.entries t).map (·.2)).Nodup := by
  rw [entries_eq_filter h wf, List.map_map]
  exact (List.filter_sublist.map _).nodup wf.channels_nodup

theorem mem_channels_of_entries {h : Hub} (wf : h.WellFormed) {t : Topic} {c : Nat}
    (listed : c ∈ (h.entries t).map (·.2)) : c ∈ h.channels := by
  obtain ⟨entry, present, rfl⟩ := List.mem_map.mp listed
  exact List.mem_map.mpr ⟨(t, entry), (mem_entries_iff wf).mp present, rfl⟩

end Herald.Hub

namespace Herald.Hub

section Register

variable (h : Hub) (t : Topic) (ch : Nat)

@[simp]
theorem register_subscription : (h.register t ch).2 = { topic := t, id := h.nextId } := rfl

@[simp]
theorem nextId_register : (h.register t ch).1.nextId = h.nextId + 1 := rfl

theorem flatMap_spread_appendAt_perm (topics : List (Topic × List (Nat × Nat)))
    (append : Topic × List (Nat × Nat) → Topic × List (Nat × Nat)) (entry : Nat × Nat)
    (appends : ∀ row, append row = if row.1 = t then (row.1, row.2 ++ [entry]) else row)
    (nodup : (topics.map (·.1)).Nodup) (present : t ∈ topics.map (·.1)) :
    List.Perm ((topics.map append).flatMap spread) (topics.flatMap spread ++ [(t, entry)]) := by
  induction topics with
  | nil => simp at present
  | cons row rest inductionHypothesis =>
      simp only [List.map_cons, List.nodup_cons, List.mem_cons] at nodup present
      rw [List.map_cons, List.flatMap_cons, List.flatMap_cons, appends row]
      by_cases same : row.1 = t
      · have untouched : rest.map append = rest := by
          refine (List.map_congr_left fun other membership => ?_).trans (List.map_id rest)
          rw [appends other, if_neg]
          · rfl
          · intro otherIsT
            exact nodup.1 (same.trans otherIsT.symm ▸ List.mem_map_of_mem membership)
        have appended : spread (row.1, row.2 ++ [entry]) = spread row ++ [(t, entry)] := by
          simp [spread, same]
        rw [if_pos same, untouched, appended]
        simp only [List.append_assoc]
        exact List.Perm.append_left _ List.perm_append_comm
      · rw [if_neg same, List.append_assoc]
        refine List.Perm.append_left _ (inductionHypothesis nodup.2 ?_)
        exact present.resolve_left (Ne.symm same)

section Insert

variable (id : Nat) (nodup : (h.topics.map (·.1)).Nodup)
include nodup

theorem registrations_insertEntry_perm :
    List.Perm (h.insertEntry t id ch).registrations (h.registrations ++ [(t, id, ch)]) := by
  unfold insertEntry registrations
  split
  · next listed =>
      refine flatMap_spread_appendAt_perm t h.topics _ _ (fun row => ?_) nodup ?_
      · obtain ⟨key, es⟩ := row
        by_cases same : key = t <;> simp [same]
      · obtain ⟨row, membership, same⟩ := List.any_eq_true.mp listed
        exact List.mem_map.mpr ⟨row, membership, beq_iff_eq.mp same⟩
  · simp [spread]

theorem mem_registrations_insertEntry {r : Topic × Nat × Nat} :
    r ∈ (h.insertEntry t id ch).registrations ↔ r ∈ h.registrations ∨ r = (t, id, ch) := by
  rw [(registrations_insertEntry_perm h t ch id nodup).mem_iff]
  simp

theorem topics_insertEntry_keys : ((h.insertEntry t id ch).topics.map (·.1)).Nodup := by
  unfold insertEntry
  split
  · rw [List.map_map]
    -- appending to a row keeps its topic
    refine (congrArg List.Nodup (List.map_congr_left fun row _ => ?_)).mpr nodup
    obtain ⟨key, es⟩ := row
    by_cases same : key = t <;> simp [same]
  · next unlisted =>
      rw [List.map_append, List.map_singleton]
      refine nodup_append_singleton (fun membership => ?_) nodup
      obtain ⟨row, present, same⟩ := List.mem_map.mp membership
      exact unlisted (List.any_eq_true.mpr ⟨row, present, by simp [same]⟩)

end Insert

theorem registrations_register_perm (wf : h.WellFormed) :
    List.Perm (h.register t ch).1.registrations (h.registrations ++ [(t, h.nextId, ch)]) :=
  registrations_insertEntry_perm h t ch h.nextId wf.topics_nodup

theorem mem_registrations_register (wf : h.WellFormed) {r : Topic × Nat × Nat} :
    r ∈ (h.register t ch).1.registrations ↔ r ∈ h.registrations ∨ r = (t, h.nextId, ch) :=
  mem_registrations_insertEntry h t ch h.nextId wf.topics_nodup

/-- A registration with a number never handed out before, below the next one,
and a channel the hub does not hold keeps the registry's shape. -/
theorem WellFormed.insertEntry (wf : h.WellFormed) {id : Nat}
    (freshNumber : id ∉ h.registrations.map (·.2.1)) (freshChannel : ch ∉ h.channels)
    (below : id < h.nextId) : (h.insertEntry t id ch).WellFormed where
  topics_nodup := topics_insertEntry_keys h t ch id wf.topics_nodup
  numbers_nodup := by
    rw [((registrations_insertEntry_perm h t ch id wf.topics_nodup).map _).nodup_iff,
      List.map_append, List.map_singleton]
    exact nodup_append_singleton freshNumber wf.numbers_nodup
  channels_nodup := by
    unfold channels
    rw [((registrations_insertEntry_perm h t ch id wf.topics_nodup).map _).nodup_iff,
      List.map_append, List.map_singleton]
    exact nodup_append_singleton freshChannel wf.channels_nodup
  numbers_lt := by
    intro r membership
    rcases (mem_registrations_insertEntry h t ch id wf.topics_nodup).mp membership with present | rfl
    · exact wf.numbers_lt r present
    · exact below

theorem WellFormed.drawId (wf : h.WellFormed) : h.drawId.1.WellFormed :=
  ⟨wf.topics_nodup, wf.numbers_nodup, wf.channels_nodup,
    fun r present => Nat.lt_succ_of_lt (wf.numbers_lt r present)⟩

theorem WellFormed.countUp (wf : h.WellFormed) : h.countUp.WellFormed :=
  ⟨wf.topics_nodup, wf.numbers_nodup, wf.channels_nodup, wf.numbers_lt⟩

theorem WellFormed.register (wf : h.WellFormed) (fresh : ch ∉ h.channels) :
    (h.register t ch).1.WellFormed := by
  -- every number handed out is below the next one
  have unused : h.nextId ∉ h.drawId.1.registrations.map (·.2.1) := fun listed => by
    obtain ⟨r, present, same⟩ := List.mem_map.mp listed
    exact absurd (wf.numbers_lt r present) (by simp [same])
  exact WellFormed.countUp _
    (WellFormed.insertEntry _ t ch (WellFormed.drawId h wf) unused fresh (Nat.lt_succ_self _))

end Register

end Herald.Hub

namespace Herald.Hub

section Unregister

variable (h : Hub) (s : Subscription)

/-- Whether a registration is the one a subscription names. -/
def names (s : Subscription) (r : Topic × Nat × Nat) : Bool := r.1 == s.topic && r.2.1 == s.id

theorem removeEntry_fst : ∃ topics, (h.removeEntry s).1 = { h with topics } := by
  unfold removeEntry
  split
  · exact ⟨h.topics, rfl⟩
  · exact ⟨_, rfl⟩

@[simp]
theorem nextId_removeEntry : (h.removeEntry s).1.nextId = h.nextId := by
  obtain ⟨topics, shape⟩ := removeEntry_fst h s
  rw [shape]

@[simp]
theorem subscribers_removeEntry : (h.removeEntry s).1.subscribers = h.subscribers := by
  obtain ⟨topics, shape⟩ := removeEntry_fst h s
  rw [shape]

@[simp]
theorem dropped_removeEntry : (h.removeEntry s).1.dropped = h.dropped := by
  obtain ⟨topics, shape⟩ := removeEntry_fst h s
  rw [shape]

theorem removeEntry_channel :
    (h.removeEntry s).2 = ((h.entries s.topic).find? (·.1 == s.id)).map (·.2) := by
  unfold removeEntry
  split
  · next absent => rw [absent]; rfl
  · next found => rw [found]; rfl

/-- `unregister` is `removeEntry`, followed, when a registration was taken
out, by dropping an emptied row and counting down. -/
theorem unregister_eq_of_removed {channel : Nat} (removed : (h.removeEntry s).2 = some channel) :
    h.unregister s = (((h.removeEntry s).1.dropEmptyRow s.topic).countDown, some channel) := by
  unfold unregister
  split
  · next found => rw [found] at removed ⊢; cases removed; rfl
  · next absent => rw [absent] at removed; cases removed

theorem unregister_eq_of_absent (absent : (h.removeEntry s).2 = none) :
    h.unregister s = ((h.removeEntry s).1, none) := by
  unfold unregister
  split
  · next found => rw [found] at absent; cases absent
  · next notFound => rw [notFound]

theorem unregister_channel : (h.unregister s).2 = (h.removeEntry s).2 := by
  cases found : (h.removeEntry s).2 with
  | none => rw [unregister_eq_of_absent h s found]
  | some channel => rw [unregister_eq_of_removed h s found]

@[simp]
theorem nextId_unregister : (h.unregister s).1.nextId = h.nextId := by
  cases found : (h.removeEntry s).2 with
  | none => rw [unregister_eq_of_absent h s found, nextId_removeEntry]
  | some channel =>
      rw [unregister_eq_of_removed h s found]
      exact nextId_removeEntry h s

theorem filter_spread_eq (key : Topic) (es : List (Nat × Nat)) (test : Nat × Nat → Bool)
    (keep : Topic × Nat × Nat → Bool) (agree : ∀ e ∈ es, keep (key, e) = test e) :
    (spread (key, es)).filter keep = spread (key, es.filter test) := by
  simp only [spread, List.filter_map]
  congr 1
  exact List.filter_congr fun e membership => agree e membership

theorem registrations_removeEntry (wf : h.WellFormed) :
    (h.removeEntry s).1.registrations = h.registrations.filter (!names s ·) := by
  unfold removeEntry
  split
  · next absent =>
      symm
      refine List.filter_eq_self.mpr fun r present => ?_
      cases namesIt : names s r with
      | false => rfl
      | true =>
          simp only [names, Bool.and_eq_true, beq_iff_eq] at namesIt
          obtain ⟨sameTopic, sameNumber⟩ := namesIt
          have listed : r.2 ∈ h.entries s.topic :=
            (mem_entries_iff wf).mpr (by rw [← sameTopic]; exact present)
          exact absurd (by simp [sameNumber]) (List.find?_eq_none.mp absent r.2 listed)
  · simp only [registrations, List.flatMap_map, List.filter_flatMap]
    refine List.flatMap_congr fun row _ => ?_
    obtain ⟨key, es⟩ := row
    by_cases same : key = s.topic
    · subst same
      simp only [beq_self_eq_true, if_true]
      rw [filter_spread_eq]
      intro e _
      simp only [names, beq_self_eq_true, Bool.true_and]
      rfl
    · rw [filter_spread_eq key es (fun _ => true)]
      · rw [List.filter_eq_self.mpr fun _ _ => rfl]
        simp [same]
      · intro e _
        simp [names, same]

theorem removeEntry_keys : ((h.removeEntry s).1.topics.map (·.1)) = h.topics.map (·.1) := by
  unfold removeEntry
  split
  · rfl
  · rw [List.map_map]
    refine List.map_congr_left fun row _ => ?_
    obtain ⟨key, es⟩ := row
    by_cases same : key = s.topic <;> simp [same]

theorem removeEntry_channel_eq_some_iff (wf : h.WellFormed) {channel : Nat} :
    (h.removeEntry s).2 = some channel ↔ (s.topic, s.id, channel) ∈ h.registrations := by
  rw [removeEntry_channel]
  constructor
  · intro found
    obtain ⟨entry, foundEntry, rfl⟩ := Option.map_eq_some_iff.mp found
    have listed := List.mem_of_find?_eq_some foundEntry
    have sameNumber : entry.1 = s.id := by simpa using List.find?_some foundEntry
    rw [mem_entries_iff wf] at listed
    simpa [← sameNumber] using listed
  · intro present
    have listed : (s.id, channel) ∈ h.entries s.topic := (mem_entries_iff wf).mpr present
    cases foundEntry : (h.entries s.topic).find? (·.1 == s.id) with
    | none =>
        exact absurd (by simp) (List.find?_eq_none.mp foundEntry _ listed)
    | some entry =>
        have entryListed := (mem_entries_iff wf).mp (List.mem_of_find?_eq_some foundEntry)
        have sameNumber : entry.1 = s.id := by simpa using List.find?_some foundEntry
        -- two registrations with one number are the same registration
        have sameEntry : entry = (s.id, channel) := by
          have := eq_of_map_nodup wf.numbers_nodup entryListed present sameNumber
          simpa using this
        simp [sameEntry]

theorem unregister_channel_eq_some_iff (wf : h.WellFormed) {channel : Nat} :
    (h.unregister s).2 = some channel ↔ (s.topic, s.id, channel) ∈ h.registrations := by
  rw [unregister_channel]
  exact removeEntry_channel_eq_some_iff h s wf

variable (t : Topic)

@[simp]
theorem registrations_dropEmptyRow : (h.dropEmptyRow t).registrations = h.registrations := by
  unfold dropEmptyRow registrations
  dsimp only
  induction h.topics with
  | nil => rfl
  | cons row rest inductionHypothesis =>
      obtain ⟨key, es⟩ := row
      by_cases emptied : key = t ∧ es = []
      · -- only an empty row is dropped, and it holds no registration
        obtain ⟨rfl, rfl⟩ := emptied
        simpa [spread] using inductionHypothesis
      · have kept : (!(key == t && es.isEmpty)) = true := by
          by_cases same : key = t <;> simp_all
        simp only [List.filter_cons, kept, if_true, List.flatMap_cons, inductionHypothesis]

theorem dropEmptyRow_keys_sublist :
    List.Sublist ((h.dropEmptyRow t).topics.map (·.1)) (h.topics.map (·.1)) :=
  List.filter_sublist.map _

theorem WellFormed.removeEntry (wf : h.WellFormed) : (h.removeEntry s).1.WellFormed where
  topics_nodup := by
    rw [removeEntry_keys]
    exact wf.topics_nodup
  numbers_nodup := by
    rw [registrations_removeEntry h s wf]
    exact (List.filter_sublist.map _).nodup wf.numbers_nodup
  channels_nodup := by
    unfold channels
    rw [registrations_removeEntry h s wf]
    exact (List.filter_sublist.map _).nodup wf.channels_nodup
  numbers_lt := by
    intro r membership
    rw [registrations_removeEntry h s wf] at membership
    rw [nextId_removeEntry]
    exact wf.numbers_lt r (List.mem_filter.mp membership).1

theorem WellFormed.dropEmptyRow (wf : h.WellFormed) : (h.dropEmptyRow t).WellFormed where
  topics_nodup := (dropEmptyRow_keys_sublist h t).nodup wf.topics_nodup
  numbers_nodup := by
    rw [registrations_dropEmptyRow]
    exact wf.numbers_nodup
  channels_nodup := by
    unfold channels
    rw [registrations_dropEmptyRow]
    exact wf.channels_nodup
  numbers_lt := by
    rw [registrations_dropEmptyRow]
    exact wf.numbers_lt

theorem WellFormed.countDown (wf : h.WellFormed) : h.countDown.WellFormed :=
  ⟨wf.topics_nodup, wf.numbers_nodup, wf.channels_nodup, wf.numbers_lt⟩

theorem registrations_unregister (wf : h.WellFormed) :
    (h.unregister s).1.registrations = h.registrations.filter (!names s ·) := by
  cases found : (h.removeEntry s).2 with
  | none => rw [unregister_eq_of_absent h s found, registrations_removeEntry h s wf]
  | some channel =>
      rw [unregister_eq_of_removed h s found]
      exact (registrations_dropEmptyRow _ _).trans (registrations_removeEntry h s wf)

theorem mem_registrations_unregister (wf : h.WellFormed) {r : Topic × Nat × Nat} :
    r ∈ (h.unregister s).1.registrations ↔ r ∈ h.registrations ∧ names s r = false := by
  rw [registrations_unregister h s wf, List.mem_filter, Bool.not_eq_true']

theorem WellFormed.unregister (wf : h.WellFormed) : (h.unregister s).1.WellFormed := by
  cases found : (h.removeEntry s).2 with
  | none =>
      rw [unregister_eq_of_absent h s found]
      exact WellFormed.removeEntry h s wf
  | some channel =>
      rw [unregister_eq_of_removed h s found]
      exact WellFormed.countDown _ (WellFormed.dropEmptyRow _ s.topic (WellFormed.removeEntry h s wf))

end Unregister

end Herald.Hub

namespace Herald.Hub

section Stages

variable (h : Hub) (t : Topic) (id ch x : Nat)

@[simp] theorem topics_drawId : h.drawId.1.topics = h.topics := rfl
@[simp] theorem nextId_drawId : h.drawId.1.nextId = h.nextId + 1 := rfl
@[simp] theorem subscribers_drawId : h.drawId.1.subscribers = h.subscribers := rfl
@[simp] theorem dropped_drawId : h.drawId.1.dropped = h.dropped := rfl
@[simp] theorem registrations_drawId : h.drawId.1.registrations = h.registrations := rfl

@[simp] theorem nextId_insertEntry : (h.insertEntry t id ch).nextId = h.nextId := rfl
@[simp] theorem subscribers_insertEntry : (h.insertEntry t id ch).subscribers = h.subscribers := rfl
@[simp] theorem dropped_insertEntry : (h.insertEntry t id ch).dropped = h.dropped := rfl

@[simp] theorem topics_countUp : h.countUp.topics = h.topics := rfl
@[simp] theorem nextId_countUp : h.countUp.nextId = h.nextId := rfl
@[simp] theorem subscribers_countUp : h.countUp.subscribers = h.subscribers + 1 := rfl
@[simp] theorem dropped_countUp : h.countUp.dropped = h.dropped := rfl
@[simp] theorem registrations_countUp : h.countUp.registrations = h.registrations := rfl

@[simp] theorem nextId_dropEmptyRow : (h.dropEmptyRow t).nextId = h.nextId := rfl
@[simp] theorem subscribers_dropEmptyRow : (h.dropEmptyRow t).subscribers = h.subscribers := rfl
@[simp] theorem dropped_dropEmptyRow : (h.dropEmptyRow t).dropped = h.dropped := rfl

@[simp] theorem topics_countDown : h.countDown.topics = h.topics := rfl
@[simp] theorem nextId_countDown : h.countDown.nextId = h.nextId := rfl
@[simp] theorem subscribers_countDown : h.countDown.subscribers = h.subscribers - 1 := rfl
@[simp] theorem dropped_countDown : h.countDown.dropped = h.dropped := rfl
@[simp] theorem registrations_countDown : h.countDown.registrations = h.registrations := rfl

@[simp] theorem registrations_withDropped :
    ({ h with dropped := x } : Hub).registrations = h.registrations := rfl

end Stages

end Herald.Hub
