import Mathlib
import Herald.Proofs.HistoryPages

set_option autoImplicit false

/-!
# Paging backwards through a history

A reader pages backwards through a room's messages or a user's
notifications: first the latest page, then, again and again, the page of
rows created strictly before the first row of the previous page, until a
page comes back empty (`pageBack`).

When the rows were stored in the order of their creation, each request is
answered from a prefix of the rows, and the next bound cuts that prefix
just before the run of rows created at the same instant as the page's first
row. So the walk stops after at most one request per row and one more, and
read from the oldest page on, the rows are the pages each preceded by such a
run (`PagedBack`): no row comes twice, and the rows never returned are
exactly those stored before a page's first row at its instant
(`paging_back_skips_only_ties`). Rows whose instants all differ are all
returned, the pages together giving back the rows in storing order; two rows
at one instant on either side of a page boundary lose the older one
(`paging_back_loses_tied_row`).
-/

namespace Herald

namespace Timestamp

@[simp]
theorem lt_irrefl (t : Timestamp) : t.lt t = false := by
  simp [lt]

theorem lt_trans {a b c : Timestamp} (first : a.lt b = true) (second : b.lt c = true) :
    a.lt c = true := by
  simp only [lt, Bool.or_eq_true, decide_eq_true_eq, Bool.and_eq_true, beq_iff_eq] at *
  omega

theorem lt_of_not_lt_of_lt {a b c : Timestamp} (notBefore : b.lt a = false) (second : b.lt c = true) :
    a.lt c = true := by
  simp only [lt, Bool.or_eq_true, decide_eq_true_eq, Bool.and_eq_true, beq_iff_eq, Bool.or_eq_false_iff,
    decide_eq_false_iff_not, Bool.and_eq_false_imp] at *
  omega

theorem eq_of_not_lt {a b : Timestamp} (notBefore : a.lt b = false) (notAfter : b.lt a = false) : a = b := by
  obtain ⟨as, an⟩ := a
  obtain ⟨bs, bn⟩ := b
  simp only [lt, Bool.or_eq_false_iff, decide_eq_false_iff_not, Bool.and_eq_false_imp, beq_iff_eq] at *
  have seconds : as = bs := by omega
  subst seconds
  have nanos : an = bn := by omega
  rw [nanos]

end Timestamp

section Pages

variable {α : Type} (createdAt : α → Timestamp)

/-- The pages a reader collects paging backwards through a listing, with at
most `fuel` requests: the page before `before`, then the page before the
first row of that one, and so on until a page comes back empty; `none` when
`fuel` requests do not reach an empty page. -/
def pageBack (list : Option Timestamp → List α) : Nat → Option Timestamp → Option (List (List α))
  | 0, _ => none
  | fuel + 1, before =>
    match list before with
    | [] => some []
    | first :: rest => (pageBack list fuel (some (createdAt first))).map ((first :: rest) :: ·)

/-- How pages collected backwards lie in the rows they were cut from. The
latest page stands last; before it stand the rows skipped at its boundary,
all created at the instant of its first row, and before those the rows the
later pages were cut from, all created before that instant. -/
inductive PagedBack : List α → List (List α) → Prop
  | nil : PagedBack [] []
  | page {earlier skipped rest : List α} {first : α} {pages : List (List α)} :
      PagedBack earlier pages → (∀ r ∈ earlier, (createdAt r).lt (createdAt first) = true) →
      (∀ r ∈ skipped, createdAt r = createdAt first) →
      PagedBack (earlier ++ skipped ++ first :: rest) ((first :: rest) :: pages)

/-- Each row is created strictly after the rows stored before it. -/
def StoredStrictlyInOrder (rows : List α) : Prop :=
  rows.Pairwise fun a b => (createdAt a).lt (createdAt b) = true

instance (rows : List α) : Decidable (StoredStrictlyInOrder createdAt rows) :=
  inferInstanceAs (Decidable (rows.Pairwise _))

instance (rows : List α) : Decidable (StoredInOrder rows createdAt) :=
  inferInstanceAs (Decidable (rows.Pairwise _))

variable {createdAt}

theorem PagedBack.sublist {rows : List α} {pages : List (List α)} (paged : PagedBack createdAt rows pages) :
    pages.reverse.flatten.Sublist rows := by
  induction paged with
  | nil => simp
  | @page earlier skipped rest first pages _ _ _ inductionHypothesis =>
    rw [List.reverse_cons, List.flatten_append, List.flatten_singleton, List.append_assoc]
    exact inductionHypothesis.append (List.sublist_append_right skipped _)

theorem PagedBack.eq_of_strict {rows : List α} {pages : List (List α)} (paged : PagedBack createdAt rows pages)
    (strict : StoredStrictlyInOrder createdAt rows) : pages.reverse.flatten = rows := by
  induction paged with
  | nil => rfl
  | @page earlier skipped rest first pages _ _ tied inductionHypothesis =>
    unfold StoredStrictlyInOrder at strict
    rw [List.append_assoc, List.pairwise_append] at strict
    obtain ⟨earlierStrict, restStrict, -⟩ := strict
    -- a skipped row would share its instant with the page's first row, stored after it
    have none : skipped = [] := by
      rw [List.pairwise_append] at restStrict
      refine List.eq_nil_iff_forall_not_mem.mpr fun r skippedRow => ?_
      have later := restStrict.2.2 r skippedRow first List.mem_cons_self
      rw [tied r skippedRow, Timestamp.lt_irrefl] at later
      cases later
    subst none
    rw [List.reverse_cons, List.flatten_append, List.flatten_singleton, inductionHypothesis earlierStrict,
      List.append_nil]

end Pages

section Walk

variable {α : Type} {createdAt : α → Timestamp} {rows : List α} {limit : Nat}

/-- Among rows stored in order of creation, those created before an instant
are the ones stored before the first that is not. -/
theorem filter_lt_eq_takeWhile {rows : List α} (ordered : StoredInOrder rows createdAt) (t : Timestamp) :
    rows.filter (fun r => (createdAt r).lt t) = rows.takeWhile (fun r => (createdAt r).lt t) := by
  induction rows with
  | nil => rfl
  | cons r rest inductionHypothesis =>
    obtain ⟨noneEarlier, restOrdered⟩ := List.pairwise_cons.mp ordered
    by_cases early : (createdAt r).lt t = true
    · rw [List.filter_cons, if_pos early, List.takeWhile_cons, if_pos early, inductionHypothesis restOrdered]
    · rw [List.filter_cons, if_neg early, List.takeWhile_cons, if_neg early]
      -- every later row is created no earlier than r, so not before t either
      refine List.filter_eq_nil_iff.mpr fun later listed laterEarly => early ?_
      exact Timestamp.lt_of_not_lt_of_lt (noneEarlier later listed) laterEarly

theorem not_lt_of_mem_dropWhile {rows : List α} (ordered : StoredInOrder rows createdAt) (t : Timestamp)
    {r : α} (listed : r ∈ rows.dropWhile (fun r => (createdAt r).lt t)) : (createdAt r).lt t = false := by
  induction rows with
  | nil => simp at listed
  | cons first rest inductionHypothesis =>
    obtain ⟨noneEarlier, restOrdered⟩ := List.pairwise_cons.mp ordered
    by_cases early : (createdAt first).lt t = true
    · rw [List.dropWhile_cons, if_pos early] at listed
      exact inductionHypothesis restOrdered listed
    · rw [List.dropWhile_cons, if_neg early] at listed
      rcases List.mem_cons.mp listed with rfl | later
      · simpa using early
      · cases laterEarly : (createdAt r).lt t
        · rfl
        · exact absurd (Timestamp.lt_of_not_lt_of_lt (noneEarlier r later) laterEarly) early

theorem eligible_none (rows : List α) : eligible rows createdAt none = rows := by
  simp [eligible, createdBefore]

/-- The rows before an eligible row's instant are the eligible ones before it:
the bound they pass is within the old one. -/
theorem eligible_some_of_mem {before : Option Timestamp} {first : α}
    (kept : first ∈ eligible rows createdAt before) :
    eligible rows createdAt (some (createdAt first)) =
      (eligible rows createdAt before).filter fun r => (createdAt r).lt (createdAt first) := by
  have firstWithin : createdBefore before (createdAt first) = true := (List.mem_filter.mp kept).2
  unfold eligible
  rw [List.filter_filter]
  refine List.filter_congr fun r _ => ?_
  cases before with
  | none => simp [createdBefore]
  | some b =>
    simp only [createdBefore] at firstWithin ⊢
    cases early : (createdAt r).lt (createdAt first)
    · rfl
    · simp [Timestamp.lt_trans early firstWithin]

/-- One request of the walk, over rows stored in order of creation: the rows
it was answered from are those the next request is answered from, all created
before the page's first row, then a run created at that row's instant, then
the page. -/
theorem page_step (ordered : StoredInOrder rows createdAt) {before : Option Timestamp}
    {first : α} {rest : List α} (cut : page rows createdAt before limit = first :: rest) :
    ∃ skipped, eligible rows createdAt before =
        eligible rows createdAt (some (createdAt first)) ++ skipped ++ first :: rest ∧
      (∀ r ∈ eligible rows createdAt (some (createdAt first)), (createdAt r).lt (createdAt first) = true) ∧
      ∀ r ∈ skipped, createdAt r = createdAt first := by
  rw [page_eq] at cut
  set within := eligible rows createdAt before with withinIs
  set older := within.take (within.length - limit)
  have split : within = older ++ first :: rest := by rw [← cut, List.take_append_drop]
  have withinOrdered : StoredInOrder within createdAt := ordered.sublist List.filter_sublist
  have olderOrdered : StoredInOrder older createdAt := withinOrdered.sublist (List.take_sublist _ _)
  have splitOrdered := withinOrdered
  rw [split] at splitOrdered
  obtain ⟨-, pageOrdered, olderFirst⟩ := List.pairwise_append.mp splitOrdered
  -- no row of the page is created before its first row
  have pageLate : (first :: rest).filter (fun r => (createdAt r).lt (createdAt first)) = [] := by
    refine List.filter_eq_nil_iff.mpr fun r listed early => ?_
    rcases List.mem_cons.mp listed with rfl | later
    · simp at early
    · rw [(List.pairwise_cons.mp pageOrdered).1 r later] at early
      cases early
  have next : eligible rows createdAt (some (createdAt first)) =
      older.takeWhile fun r => (createdAt r).lt (createdAt first) := by
    rw [eligible_some_of_mem (by rw [← withinIs, split]; simp), ← withinIs, split, List.filter_append,
      pageLate, List.append_nil, filter_lt_eq_takeWhile olderOrdered]
  refine ⟨older.dropWhile fun r => (createdAt r).lt (createdAt first), ?_, fun r kept => ?_,
    fun r skipped => ?_⟩
  · rw [next, List.takeWhile_append_dropWhile, split]
  · simpa [eligible, createdBefore] using (List.mem_filter.mp kept).2
  · have listed : r ∈ older := (List.dropWhile_suffix _).subset skipped
    exact Timestamp.eq_of_not_lt (not_lt_of_mem_dropWhile olderOrdered _ skipped)
      (olderFirst r listed first List.mem_cons_self)

/-- A walk with a request to spare for every row still eligible stops, and its
pages lie in those rows as `PagedBack` says. -/
theorem pageBack_pagedBack (ordered : StoredInOrder rows createdAt) (positive : 0 < limit) :
    ∀ (fuel : Nat) (before : Option Timestamp), (eligible rows createdAt before).length < fuel →
      ∃ pages, pageBack createdAt (page rows createdAt · limit) fuel before = some pages ∧
        PagedBack createdAt (eligible rows createdAt before) pages := by
  intro fuel
  -- induction on the requests left; every page is non-empty, so each one
  -- shrinks the eligible rows
  induction fuel with
  | zero => intro before short; omega
  | succ fuel inductionHypothesis =>
    intro before short
    rw [pageBack]
    cases cut : page rows createdAt before limit with
    | nil =>
      have counted := length_page rows createdAt before limit
      rw [cut, List.length_nil] at counted
      have drained : eligible rows createdAt before = [] := List.eq_nil_of_length_eq_zero (by omega)
      exact ⟨[], rfl, drained ▸ .nil⟩
    | cons first rest =>
      obtain ⟨skipped, split, earlier, tied⟩ := page_step ordered cut
      have shorter : (eligible rows createdAt (some (createdAt first))).length < fuel := by
        have sizes := congrArg List.length split
        simp only [List.length_append, List.length_cons] at sizes
        omega
      obtain ⟨pages, walked, paged⟩ := inductionHypothesis _ shorter
      refine ⟨(first :: rest) :: pages, by simp [walked], ?_⟩
      rw [split]
      exact .page paged earlier tied

/-- What paging backwards through `rows` with `list` comes to: it stops
within one request per row and one more, its pages lie in the rows as
`PagedBack` says, so that, oldest first, they return no row twice and keep
the storing order, and they return every row when no two share an instant. -/
def WalksBack (list : Option Timestamp → List α) (createdAt : α → Timestamp) (rows : List α) : Prop :=
  ∃ pages, pageBack createdAt list (rows.length + 1) none = some pages ∧
    PagedBack createdAt rows pages ∧ pages.reverse.flatten.Sublist rows ∧
    (StoredStrictlyInOrder createdAt rows → pages.reverse.flatten = rows)

theorem walksBack_page (ordered : StoredInOrder rows createdAt) (positive : 0 < limit) :
    WalksBack (page rows createdAt · limit) createdAt rows := by
  obtain ⟨pages, walked, paged⟩ :=
    pageBack_pagedBack ordered positive (rows.length + 1) none (by simp [eligible_none])
  rw [eligible_none] at paged
  exact ⟨pages, walked, paged, paged.sublist, paged.eq_of_strict⟩

end Walk

namespace MemoryStore

/-- Paging backwards through a room's messages or a user's notifications,
stored in the order of their creation, with pages of at least one row: the
walk stops, returns no row twice, skips exactly the rows stored before a
page's first row at its instant, and returns every row when no two share an
instant. -/
theorem paging_back_skips_only_ties (s : MemoryStore) (room user : String) (limit : Nat)
    (positive : 0 < limit)
    (roomOrdered : StoredInOrder (s.roomMessages room) (·.createdAt))
    (userOrdered : StoredInOrder (s.userNotifications user) (·.createdAt)) :
    WalksBack (s.listMessages room · limit) (·.createdAt) (s.roomMessages room) ∧
      WalksBack (s.listNotifications user · limit) (·.createdAt) (s.userNotifications user) :=
  ⟨walksBack_page roomOrdered positive, walksBack_page userOrdered positive⟩

/-- Two messages a second apart in the lobby and a notification for bob,
paged back one row at a time. -/
theorem lobby_pages_back :
    let hello : Message :=
      { id := ⟨1⟩, senderId := "alice", roomId := "lobby", content := "hello", createdAt := ⟨1704067200, 0⟩ }
    let reply : Message :=
      { id := ⟨2⟩, senderId := "bob", roomId := "lobby", content := "hi", createdAt := ⟨1704067201, 0⟩ }
    let welcome : Notification :=
      { id := ⟨3⟩, userId := "bob", kind := "info", content := "welcome", createdAt := ⟨1704067200, 0⟩,
        updatedAt := ⟨1704067200, 0⟩ }
    let s := run {} [.createMessage hello, .createMessage reply, .createNotification welcome]
    0 < 1 ∧ StoredInOrder (s.roomMessages "lobby") (·.createdAt) ∧
      StoredInOrder (s.userNotifications "bob") (·.createdAt) ∧
      WalksBack (s.listMessages "lobby" · 1) (·.createdAt) (s.roomMessages "lobby") ∧
      WalksBack (s.listNotifications "bob" · 1) (·.createdAt) (s.userNotifications "bob") :=
  ⟨by decide, by decide, by decide,
    paging_back_skips_only_ties _ "lobby" "bob" 1 (by decide) (by decide) (by decide)⟩

/-- Two messages of a room stored at one instant, paged back one at a time:
the second request, bounded by the instant both share, comes back empty, and
the first message is never returned. -/
theorem paging_back_loses_tied_row :
    let first : Message :=
      { id := ⟨1⟩, senderId := "alice", roomId := "r1", content := "first", createdAt := ⟨1704067200, 0⟩ }
    let second : Message :=
      { id := ⟨2⟩, senderId := "alice", roomId := "r1", content := "second", createdAt := ⟨1704067200, 0⟩ }
    let s := run {} [.createMessage first, .createMessage second]
    StoredInOrder (s.roomMessages "r1") (·.createdAt) ∧ s.roomMessages "r1" = [first, second] ∧
      pageBack (·.createdAt) (s.listMessages "r1" · 1) 3 none = some [[second]] :=
  ⟨by decide, rfl, rfl⟩

end MemoryStore

end Herald
