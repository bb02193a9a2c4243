import Herald.Core.Recall

set_option autoImplicit false

/-!
# Expiry in the recall cache

A read of a key gives back the value of the last write of that key whose
expiry the cache's clock could hold, while that expiry lies after the
reading instant, and nothing otherwise.  Reads and purges remove expired
entries on the way; since instants never go back, an entry removed so would
never have been read again, and what any later read gives depends on the
writes alone (`recall_reads_follow_last_write`).

The cache keeps that promise through an invariant (`Tracks`): one entry per
key, each entry the last write of its key, and every last write still live
present.  One lemma per kind of call keeps it, and a run keeps it by
induction on the calls.
-/

namespace Herald

/-- A call on the recall cache. -/
inductive RecallCall where
  | set (key : String) (value : ByteArray) (ttl : Span)
  | get (key : String)
  | purge

/-- What a call answers. -/
inductive RecallAnswer where
  | stored (result : Except String Unit)
  | found (value : Option ByteArray)
  | purged (removed : Nat)

def RecallCall.isSet : RecallCall → Bool
  | .set .. => true
  | _ => false

/-- Whether an expiry `ttl` after `now` fits the cache's clock: its whole
seconds must not pass the largest second count an instant holds. -/
def fitsClock (now : Nat) (ttl : Span) : Bool :=
  (now + ttl.toNanos) / 1000000000 ≤ instantSecondsLimit

theorem addSpan_eq (now : Nat) (ttl : Span) :
    addSpan now ttl = if fitsClock now ttl then some (now + ttl.toNanos) else none := by
  unfold addSpan fitsClock Span.toNanos
  -- the seconds counted with the carry of the nanoseconds are those of the sum
  have seconds : now / 1000000000 + ttl.secs + (now % 1000000000 + ttl.nanos) / 1000000000 =
      (now + (ttl.secs * 1000000000 + ttl.nanos)) / 1000000000 := by omega
  simp only [seconds, decide_eq_true_eq]
  by_cases fits : (now + (ttl.secs * 1000000000 + ttl.nanos)) / 1000000000 ≤ instantSecondsLimit
  · rw [if_neg (Nat.not_lt.mpr fits), if_pos fits]
  · rw [if_pos (Nat.lt_of_not_le fits), if_neg fits]

namespace RecallCache

/-- Make a call at instant `now`: its answer, and the cache after it. A
write the clock cannot hold leaves the cache as it was. -/
def perform (c : RecallCache) (now : Nat) : RecallCall → RecallAnswer × RecallCache
  | .set key value ttl =>
    match c.set now key value ttl with
    | .ok c' => (.stored (.ok ()), c')
    | .error m => (.stored (.error m), c)
  | .get key => (.found (c.get now key).1, (c.get now key).2)
  | .purge => (.purged (c.purge now).1, (c.purge now).2)

/-- The cache after calls made in turn, each at its instant. -/
def replay (c : RecallCache) (calls : List (Nat × RecallCall)) : RecallCache :=
  calls.foldl (fun c call => (c.perform call.1 call.2).2) c

end RecallCache

/-- How a write moves the last write of `key`: a write of `key` whose
expiry fits the clock becomes it; every other call leaves it. -/
def writeStep (key : String) (last : Option (ByteArray × Nat)) : Nat × RecallCall → Option (ByteArray × Nat)
  | (now, .set k value ttl) => if k = key ∧ fitsClock now ttl = true then some (value, now + ttl.toNanos) else last
  | _ => last

/-- The value and expiry instant of the last write of `key` among `calls`
whose expiry the cache's clock could hold. -/
def lastWrite (calls : List (Nat × RecallCall)) (key : String) : Option (ByteArray × Nat) :=
  calls.foldl (writeStep key) none

/-- What a read of `key` at `now` should give after `calls`: the last
write's value while its expiry lies after `now`. -/
def liveValue (calls : List (Nat × RecallCall)) (key : String) (now : Nat) : Option ByteArray :=
  match lastWrite calls key with
  | some (value, expiry) => if now < expiry then some value else none
  | none => none

theorem lastWrite_append_set (calls : List (Nat × RecallCall)) (now : Nat) (k key : String) (value : ByteArray)
    (ttl : Span) :
    lastWrite (calls ++ [(now, .set k value ttl)]) key =
      if k = key ∧ fitsClock now ttl = true then some (value, now + ttl.toNanos) else lastWrite calls key := by
  simp only [lastWrite, List.foldl_append, List.foldl_cons, List.foldl_nil, writeStep]

theorem writeStep_other (key : String) (last : Option (ByteArray × Nat)) {call : Nat × RecallCall}
    (other : call.2.isSet = false) : writeStep key last call = last := by
  obtain ⟨now, call⟩ := call
  cases call with
  | set => cases other
  | get => rfl
  | purge => rfl

theorem lastWrite_append_other (calls : List (Nat × RecallCall)) (call : Nat × RecallCall)
    (other : call.2.isSet = false) : lastWrite (calls ++ [call]) = lastWrite calls := by
  funext key
  simp only [lastWrite, List.foldl_append, List.foldl_cons, List.foldl_nil, writeStep_other key _ other]

theorem lastWrite_filter_isSet (calls : List (Nat × RecallCall)) (key : String) :
    lastWrite (calls.filter (·.2.isSet)) key = lastWrite calls key := by
  unfold lastWrite
  generalize (none : Option (ByteArray × Nat)) = last
  -- induction on the calls, from any last write so far
  induction calls generalizing last with
  | nil => rfl
  | cons call rest inductionHypothesis =>
      cases written : call.2.isSet with
      | true => simp only [List.filter_cons, written, if_true, List.foldl_cons, inductionHypothesis]
      | false =>
          simp only [List.filter_cons, written, Bool.false_eq_true, if_false, List.foldl_cons,
            writeStep_other key last written, inductionHypothesis]

/-! ## One entry per key -/

/-- In a list with one entry per key, the entry found for a key is the one
the list holds. -/
theorem find?_of_mem {entries : List (String × ByteArray × Nat)} (distinct : (entries.map (·.1)).Nodup)
    {key : String} {value : ByteArray} {expiry : Nat} (held : (key, value, expiry) ∈ entries) :
    entries.find? (·.1 == key) = some (key, value, expiry) := by
  induction entries with
  | nil => cases held
  | cons entry rest inductionHypothesis =>
      rw [List.map_cons, List.nodup_cons] at distinct
      rcases List.mem_cons.mp held with same | later
      · rw [← same]
        simp
      · have other : entry.1 ≠ key := fun sameKey =>
          distinct.1 (sameKey ▸ List.mem_map.mpr ⟨_, later, rfl⟩)
        rw [List.find?_cons_of_neg (by simpa using other)]
        exact inductionHypothesis distinct.2 later

theorem length_sub_countP {α : Type} (l : List α) (p : α → Bool) :
    l.length - l.countP p = l.countP (fun a => !p a) := by
  have split := List.length_eq_countP_add_countP p (l := l)
  simp only [Bool.not_eq_true] at split
  have same : l.countP (fun a => decide (p a = false)) = l.countP (fun a => !p a) :=
    List.countP_congr (fun a _ => by cases p a <;> rfl)
  omega

theorem nodup_keys_filter {entries : List (String × ByteArray × Nat)} (distinct : (entries.map (·.1)).Nodup)
    (p : String × ByteArray × Nat → Bool) : ((entries.filter p).map (·.1)).Nodup :=
  distinct.sublist ((List.filter_sublist).map _)

/-! ## The invariant -/

/-- How a cache stands against the calls made on it, up to instant `now`:
one entry per key, each entry the last write of its key, and every last
write still live at `now` present. -/
structure Tracks (c : RecallCache) (calls : List (Nat × RecallCall)) (now : Nat) : Prop where
  keys_nodup : (c.entries.map (·.1)).Nodup
  entry_last : ∀ {key value expiry}, (key, value, expiry) ∈ c.entries → lastWrite calls key = some (value, expiry)
  live_present : ∀ {key value expiry}, lastWrite calls key = some (value, expiry) → now < expiry →
    (key, value, expiry) ∈ c.entries

namespace Tracks

variable {c : RecallCache} {calls : List (Nat × RecallCall)} {t now : Nat}

theorem of_lastWrite {calls' : List (Nat × RecallCall)} (tracks : Tracks c calls now)
    (same : lastWrite calls' = lastWrite calls) : Tracks c calls' now where
  keys_nodup := tracks.keys_nodup
  entry_last held := same ▸ tracks.entry_last held
  live_present written live := tracks.live_present (same ▸ written) live

theorem empty (now : Nat) : Tracks {} [] now where
  keys_nodup := List.nodup_nil
  entry_last held := absurd held List.not_mem_nil
  live_present written := by cases written

theorem mono (tracks : Tracks c calls t) (later : t ≤ now) : Tracks c calls now where
  keys_nodup := tracks.keys_nodup
  entry_last := tracks.entry_last
  live_present written live := tracks.live_present written (Nat.lt_of_le_of_lt later live)

theorem find?_eq (tracks : Tracks c calls t) {key k : String} {value : ByteArray} {expiry : Nat}
    (found : c.entries.find? (·.1 == key) = some (k, value, expiry)) :
    k = key ∧ lastWrite calls key = some (value, expiry) := by
  have held := List.mem_of_find?_eq_some found
  have sameKey : k = key := by simpa using List.find?_some found
  subst sameKey
  exact ⟨rfl, tracks.entry_last held⟩

theorem get_value (tracks : Tracks c calls t) (later : t ≤ now) (key : String) :
    (c.get now key).1 = liveValue calls key now := by
  unfold RecallCache.get liveValue
  cases found : c.entries.find? (·.1 == key) with
  | none =>
      -- no entry: the key was never written, or its last write is gone and expired
      cases written : lastWrite calls key with
      | none => rfl
      | some last =>
          obtain ⟨value, expiry⟩ := last
          have expired : ¬now < expiry := fun live =>
            absurd (find?_of_mem tracks.keys_nodup (tracks.live_present written (Nat.lt_of_le_of_lt later live)))
              (by simp [found])
          dsimp only
          rw [if_neg expired]
  | some entry =>
      obtain ⟨k, value, expiry⟩ := entry
      obtain ⟨-, written⟩ := tracks.find?_eq found
      rw [written]
      dsimp only
      split <;> rfl

theorem get (tracks : Tracks c calls t) (later : t ≤ now) (key : String) :
    Tracks (c.get now key).2 (calls ++ [(now, .get key)]) now := by
  refine Tracks.of_lastWrite ?_ (lastWrite_append_other calls (now, .get key) rfl)
  unfold RecallCache.get
  cases found : c.entries.find? (·.1 == key) with
  | none => exact tracks.mono later
  | some entry =>
      obtain ⟨k, value, expiry⟩ := entry
      obtain ⟨-, written⟩ := tracks.find?_eq found
      dsimp only
      split
      · exact tracks.mono later
      · next expired =>
          refine ⟨nodup_keys_filter tracks.keys_nodup _, fun held => tracks.entry_last (List.mem_filter.mp held).1,
            fun {key' value' expiry'} written' live => List.mem_filter.mpr ⟨?_, ?_⟩⟩
          · exact tracks.live_present written' (Nat.lt_of_le_of_lt later live)
          · -- the key read is expired, so a live key is another one
            have other : key' ≠ key := by
              rintro rfl
              rw [written] at written'
              cases written'
              exact expired live
            simpa using other

theorem mem_purge (tracks : Tracks c calls t) (later : t ≤ now) (key : String) (value : ByteArray)
    (expiry : Nat) :
    (key, value, expiry) ∈ (c.purge now).2.entries ↔ lastWrite calls key = some (value, expiry) ∧ now < expiry := by
  simp only [RecallCache.purge, List.mem_filter, decide_eq_true_eq]
  exact ⟨fun ⟨held, live⟩ => ⟨tracks.entry_last held, live⟩,
    fun ⟨written, live⟩ => ⟨tracks.live_present written (Nat.lt_of_le_of_lt later live), live⟩⟩

theorem purge (tracks : Tracks c calls t) (later : t ≤ now) :
    Tracks (c.purge now).2 (calls ++ [(now, .purge)]) now := by
  refine Tracks.of_lastWrite ?_ (lastWrite_append_other calls (now, .purge) rfl)
  exact ⟨nodup_keys_filter tracks.keys_nodup _, fun held => ((tracks.mem_purge later _ _ _).mp held).1,
    fun written live => (tracks.mem_purge later _ _ _).mpr ⟨written, live⟩⟩

theorem set_refused (tracks : Tracks c calls t) (later : t ≤ now) (key : String) (value : ByteArray) {ttl : Span}
    (refused : fitsClock now ttl = false) :
    c.perform now (.set key value ttl) = (.stored (.error s!"Cache unavailable: ttl out of range: {ttl.render}"), c) ∧
      Tracks c (calls ++ [(now, .set key value ttl)]) now := by
  have sameWrites : lastWrite (calls ++ [(now, .set key value ttl)]) = lastWrite calls := by
    funext k
    rw [lastWrite_append_set, if_neg (fun both => absurd both.2 (by rw [refused]; decide))]
  refine ⟨?_, (tracks.mono later).of_lastWrite sameWrites⟩
  simp only [RecallCache.perform, RecallCache.set, addSpan_eq, refused]
  rfl

theorem set_taken (tracks : Tracks c calls t) (later : t ≤ now) {key : String} {value : ByteArray} {ttl : Span}
    (taken : fitsClock now ttl = true) :
    (c.perform now (.set key value ttl)).1 = .stored (.ok ()) ∧
      Tracks (c.perform now (.set key value ttl)).2 (calls ++ [(now, .set key value ttl)]) now := by
  have performed : c.perform now (.set key value ttl) =
      (.stored (.ok ()), { entries := c.entries.filter (·.1 != key) ++ [(key, value, now + ttl.toNanos)] }) := by
    simp only [RecallCache.perform, RecallCache.set, addSpan_eq, taken]
    rfl
  rw [performed]
  refine ⟨rfl, ⟨?_, ?_, ?_⟩⟩
  · -- the other keys' entries, then the new key once
    rw [List.map_append, List.nodup_append]
    refine ⟨nodup_keys_filter tracks.keys_nodup _, List.nodup_cons.mpr ⟨List.not_mem_nil, List.nodup_nil⟩, ?_⟩
    intro k kept k' new
    obtain ⟨entry, held, rfl⟩ := List.mem_map.mp kept
    simp only [List.map_cons, List.map_nil, List.mem_singleton] at new
    subst new
    have other := (List.mem_filter.mp held).2
    simp only [bne_iff_ne, ne_eq] at other
    exact other
  · intro k v e held
    rw [lastWrite_append_set]
    rcases List.mem_append.mp held with kept | new
    · have other := (List.mem_filter.mp kept).2
      simp only [bne_iff_ne, ne_eq] at other
      rw [if_neg (fun both => other both.1.symm)]
      exact tracks.entry_last (List.mem_filter.mp kept).1
    · simp only [List.mem_singleton, Prod.mk.injEq] at new
      obtain ⟨rfl, rfl, rfl⟩ := new
      rw [if_pos ⟨rfl, taken⟩]
  · intro k v e written live
    rw [lastWrite_append_set] at written
    by_cases same : key = k
    · subst same
      rw [if_pos ⟨rfl, taken⟩] at written
      cases written
      exact List.mem_append_right _ (List.mem_singleton_self _)
    · rw [if_neg (fun both => same both.1)] at written
      refine List.mem_append_left _ (List.mem_filter.mpr ⟨tracks.live_present written (Nat.lt_of_le_of_lt later live), ?_⟩)
      simp only [bne_iff_ne, ne_eq]
      exact fun back => same back.symm

theorem perform (tracks : Tracks c calls t) (later : t ≤ now) (call : RecallCall) :
    Tracks (c.perform now call).2 (calls ++ [(now, call)]) now := by
  cases call with
  | set key value ttl =>
      cases fits : fitsClock now ttl with
      | false =>
          obtain ⟨refused, kept⟩ := tracks.set_refused later key value fits
          rw [refused]
          exact kept
      | true => exact (tracks.set_taken later fits).2
  | get key => exact tracks.get later key
  | purge => exact tracks.purge later

end Tracks

/-- Calls made at instants that never go back keep the invariant, up to any
instant at or after the last of them. -/
theorem tracks_replay {c : RecallCache} {calls : List (Nat × RecallCall)} {t : Nat} (tracks : Tracks c calls t) :
    ∀ (rest : List (Nat × RecallCall)), rest.Pairwise (fun a b => a.1 ≤ b.1) → (∀ call ∈ rest, t ≤ call.1) →
      ∀ now, t ≤ now → (∀ call ∈ rest, call.1 ≤ now) → Tracks (c.replay rest) (calls ++ rest) now := by
  intro rest
  -- induction on the calls still to make, from any tracking cache
  induction rest generalizing c calls t with
  | nil =>
      intro _ _ now later _
      simpa [RecallCache.replay] using tracks.mono later
  | cons call rest inductionHypothesis =>
      intro ordered after now later before
      rw [List.pairwise_cons] at ordered
      have stepped := tracks.perform (after call List.mem_cons_self) call.2
      have replayed := inductionHypothesis stepped ordered.2 ordered.1 now (before call List.mem_cons_self)
        (fun x held => before x (List.mem_cons_of_mem _ held))
      simpa [RecallCache.replay] using replayed

/-- A fresh cache, called at instants that never go back: at any later
instant a read of a key gives the value of the key's last write whose
expiry fit the clock, while that expiry lies after the reading instant, and
nothing otherwise; it gives what it would give had no read or purge been
made before it; a purge removes the entries expired by then, and keeps
exactly one entry for each key whose last write is still live; and a write
whose expiry does not fit the clock fails, leaving the cache as it was. -/
theorem recall_reads_follow_last_write (calls : List (Nat × RecallCall))
    (ordered : calls.Pairwise (fun a b => a.1 ≤ b.1)) (now : Nat) (later : ∀ call ∈ calls, call.1 ≤ now) :
    let c := RecallCache.replay {} calls
    (∀ key, (c.perform now (.get key)).1 = .found (liveValue calls key now) ∧
        (c.perform now (.get key)).1 =
          ((RecallCache.replay {} (calls.filter (·.2.isSet))).perform now (.get key)).1) ∧
    (c.perform now .purge).1 = .purged (c.entries.countP (·.2.2 ≤ now)) ∧
    (∀ key value expiry, (key, value, expiry) ∈ (c.perform now .purge).2.entries ↔
        lastWrite calls key = some (value, expiry) ∧ now < expiry) ∧
    ((c.perform now .purge).2.entries.map (·.1)).Nodup ∧
    (∀ key value ttl, fitsClock now ttl = true → (c.perform now (.set key value ttl)).1 = .stored (.ok ())) ∧
    ∀ key value ttl, fitsClock now ttl = false →
      c.perform now (.set key value ttl) = (.stored (.error s!"Cache unavailable: ttl out of range: {ttl.render}"), c) := by
  intro c
  have tracks : Tracks c calls now := by
    simpa using tracks_replay (Tracks.empty 0) calls ordered (fun _ _ => Nat.zero_le _) now (Nat.zero_le _) later
  -- the same calls with every read and purge left out
  have writesOnly : Tracks (RecallCache.replay {} (calls.filter (·.2.isSet))) (calls.filter (·.2.isSet)) now := by
    simpa using tracks_replay (Tracks.empty 0) _ (ordered.sublist List.filter_sublist) (fun _ _ => Nat.zero_le _)
      now (Nat.zero_le _) (fun call held => later call (List.mem_filter.mp held).1)
  refine ⟨fun key => ⟨?_, ?_⟩, ?_, fun key value expiry => tracks.mem_purge (Nat.le_refl now) key value expiry,
    (tracks.purge (Nat.le_refl now)).keys_nodup, fun key value ttl fits => (tracks.set_taken (Nat.le_refl now) fits).1, ?_⟩
  · simp only [RecallCache.perform, tracks.get_value (Nat.le_refl now) key]
  · simp only [RecallCache.perform, tracks.get_value (Nat.le_refl now) key, writesOnly.get_value (Nat.le_refl now) key, liveValue,
      lastWrite_filter_isSet]
  · -- the entries a purge drops are those that are not live
    simp only [RecallCache.perform, RecallCache.purge, RecallAnswer.purged.injEq]
    rw [← List.countP_eq_length_filter, length_sub_countP]
    exact List.countP_congr (fun entry _ => by simp)
  · intro key value ttl refused
    exact (tracks.set_refused (Nat.le_refl now) key value refused).1

/-- A write of ten seconds, read five seconds in, is gone eleven seconds in. -/
theorem room_write_expires :
    let calls := [(0, RecallCall.set "room" "hi".toUTF8 ⟨10, 0⟩), (5000000000, RecallCall.get "room")]
    calls.Pairwise (fun a b => a.1 ≤ b.1) ∧ (∀ call ∈ calls, call.1 ≤ 11000000000) ∧
      ((RecallCache.replay {} calls).perform 11000000000 (.get "room")).1 = .found none :=
  ⟨by decide, by decide, by
    rw [((recall_reads_follow_last_write _ (by decide) 11000000000 (by decide)).1 "room").1]
    rfl⟩

end Herald
