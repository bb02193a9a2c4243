import Mathlib
import Herald.Core.Auth

set_option autoImplicit false

/-!
# Rooms that name an actor

A room id names an actor when the id, cut at every `:` and `_`, has a piece
that is not empty and equals the actor's id. Read on the characters of the
room id, this is an occurrence of the actor's id that starts where the room
id starts or right after a separator and ends where it ends or right before
one, of an id that is not empty and holds no separator itself
(`Actor.namedIn_iff_standsIn`). The cut is the list function
`List.splitOnP` (`Text.splitOn_eq_splitOnP`), whose pieces are exactly the
separator-free words so delimited (`List.mem_splitOnP_iff`).

So a plain user may post where their id stands delimited in the room id or
when they are the receiver, a privileged one anywhere, and an id that holds
a separator is named by no room (`room_names_its_members`).
-/

namespace Herald

namespace List

variable {α : Type} (p : α → Bool)

/-- `w` stands in `l` as a whole piece between separators: what comes
before it is empty or ends with a separator, and what comes after it is
empty or starts with one. -/
def Delimited (w l : List α) : Prop :=
  ∃ pre post, l = pre ++ w ++ post ∧ (∀ c ∈ pre.getLast?, p c) ∧ (∀ c ∈ post.head?, p c)

variable {p}

/-- Every piece of a cut, the one being gathered included, is a
separator-free word delimited in what was cut. -/
theorem delimited_of_mem_splitOnPPrepend {w l acc : List α} (plain : ∀ c ∈ acc, p c = false)
    (piece : w ∈ l.splitOnPPrepend p acc) :
    (∀ c ∈ w, p c = false) ∧ Delimited p w (acc.reverse ++ l) := by
  -- the gathered piece `acc` is carried along, as the cut carries it
  induction l generalizing acc with
  | nil =>
    rw [List.splitOnPPrepend_nil, List.mem_singleton] at piece
    subst piece
    exact ⟨fun c mem => plain c (List.mem_reverse.mp mem), [], [], by simp, by simp, by simp⟩
  | cons a rest inductionHypothesis =>
    by_cases separator : p a
    · rw [List.splitOnPPrepend_cons_pos separator, List.mem_cons] at piece
      rcases piece with rfl | later
      · exact ⟨fun c mem => plain c (List.mem_reverse.mp mem), [], a :: rest, by simp, by simp,
          by simpa using separator⟩
      · obtain ⟨free, pre, post, split, before, after⟩ := inductionHypothesis (by simp) later
        rw [List.reverse_nil, List.nil_append] at split
        subst split
        refine ⟨free, acc.reverse ++ a :: pre, post, by simp, ?_, after⟩
        -- the piece follows the last separator of `pre`, or `a` itself
        intro c last
        rw [List.getLast?_append, List.getLast?_cons, Option.some_or, Option.mem_some_iff] at last
        subst last
        cases lastPre : pre.getLast? with
        | none => simpa using separator
        | some b => simpa using before b lastPre
    · rw [List.splitOnPPrepend_cons_neg (Bool.eq_false_iff.mpr separator)] at piece
      have widened := inductionHypothesis (by simpa [separator] using plain) piece
      simpa using widened

theorem mem_splitOnP_of_delimited {w l : List α} (free : ∀ c ∈ w, p c = false)
    (delimited : Delimited p w l) : w ∈ l.splitOnP p := by
  obtain ⟨pre, post, rfl, before, after⟩ := delimited
  -- the pieces of `w ++ post` start with `w`, whatever `post` holds
  have first : w ∈ (w ++ post).splitOnP p := by
    cases post with
    | nil => simp [List.splitOnP_eq_singleton free]
    | cons s rest =>
      rw [List.splitOnP_append_cons_of_forall_mem free s (after s rfl)]
      exact List.mem_cons_self
  cases pre using List.reverseRecOn with
  | nil => simpa using first
  | append_singleton init s =>
    have separator : p s := before s (by simp)
    rw [List.append_assoc, List.append_assoc, List.singleton_append,
      List.splitOnP_append_cons init _ separator]
    exact List.mem_append_right _ first

/-- The pieces of a cut are exactly the separator-free words that stand
delimited in the list. -/
theorem mem_splitOnP_iff {w l : List α} :
    w ∈ l.splitOnP p ↔ (∀ c ∈ w, p c = false) ∧ Delimited p w l := by
  constructor
  · intro piece
    simpa using @delimited_of_mem_splitOnPPrepend α p w l [] (by simp) piece
  · exact fun ⟨free, delimited⟩ => mem_splitOnP_of_delimited free delimited

end List

namespace Text

theorem splitOn_go (isSep : Char → Bool) (acc : List Char) (out : List String) (cs : List Char) :
    splitOn.go isSep acc out cs = out.reverse ++ (cs.splitOnPPrepend isSep acc).map String.ofList := by
  induction cs generalizing acc out with
  | nil => simp [splitOn.go]
  | cons c rest inductionHypothesis =>
    by_cases separator : isSep c
    · simp [splitOn.go, separator, inductionHypothesis, List.splitOnPPrepend_cons_pos separator]
    · simp [splitOn.go, separator, inductionHypothesis,
        List.splitOnPPrepend_cons_neg (Bool.eq_false_iff.mpr separator)]

theorem splitOn_eq_splitOnP (s : String) (isSep : Char → Bool) :
    splitOn s isSep = (s.toList.splitOnP isSep).map String.ofList := by
  rw [splitOn, splitOn_go, List.splitOnP_eq_splitOnPPrepend, List.reverse_nil, List.nil_append]

theorem mem_splitOn_iff {s w : String} {isSep : Char → Bool} :
    w ∈ splitOn s isSep ↔ w.toList ∈ s.toList.splitOnP isSep := by
  rw [splitOn_eq_splitOnP, List.mem_map]
  constructor
  · rintro ⟨piece, mem, rfl⟩
    simpa using mem
  · intro mem
    exact ⟨w.toList, mem, by simp⟩

end Text

/-- The characters room ids are cut at. -/
def roomSeparator (c : Char) : Bool := c == ':' || c == '_'

@[simp] theorem roomSeparator_eq_true {c : Char} : roomSeparator c = true ↔ c = ':' ∨ c = '_' := by
  simp [roomSeparator]

@[simp] theorem roomSeparator_eq_false {c : Char} :
    roomSeparator c = false ↔ c ≠ ':' ∧ c ≠ '_' := by
  simp [roomSeparator]

namespace Actor

/-- The actor's id stands in a room id as a whole piece: it is not empty,
holds no `:` or `_`, and occurs where the room id starts or right after a
`:` or `_`, ending where the room id ends or right before one. -/
def StandsIn (a : Actor) (room : String) : Prop :=
  a.id ≠ "" ∧ (∀ c ∈ a.id.toList, c ≠ ':' ∧ c ≠ '_') ∧
    ∃ pre post, room.toList = pre ++ a.id.toList ++ post ∧
      (∀ c ∈ pre.getLast?, c = ':' ∨ c = '_') ∧ (∀ c ∈ post.head?, c = ':' ∨ c = '_')

theorem standsIn_iff (a : Actor) (room : String) :
    a.StandsIn room ↔ a.id ≠ "" ∧ a.id.toList ∈ room.toList.splitOnP roomSeparator := by
  simp [StandsIn, List.mem_splitOnP_iff, List.Delimited]

theorem namedIn_iff_standsIn (a : Actor) (room : String) : a.namedIn room = true ↔ a.StandsIn room := by
  rw [standsIn_iff, ← Text.mem_splitOn_iff]
  simp only [namedIn, List.any_eq_true, Bool.and_eq_true, Bool.not_eq_true', beq_iff_eq]
  constructor
  · rintro ⟨piece, mem, nonempty, rfl⟩
    exact ⟨by simpa using nonempty, mem⟩
  · rintro ⟨nonempty, mem⟩
    exact ⟨a.id, mem, by simpa using nonempty, rfl⟩

end Actor

/-- A room id names an actor exactly when the actor's id, not empty and
free of `:` and `_`, stands in it between the ends of the id and those
separators; so an actor may post into a room when privileged, when their id
so stands in the room id, or when they are the message's receiver, and an
actor whose id holds a `:` or `_` is named by no room. -/
theorem room_names_its_members (a : Actor) (room : String) :
    (a.namedIn room = true ↔ a.StandsIn room) ∧
      (∀ receiver, a.canPost room receiver = true ↔
        a.role.privileged = true ∨ a.StandsIn room ∨ receiver = some a.id) ∧
      ((∃ c ∈ a.id.toList, c = ':' ∨ c = '_') → ∀ other, a.namedIn other = false) := by
  refine ⟨a.namedIn_iff_standsIn room, fun receiver => ?_, fun ⟨c, mem, separator⟩ other => ?_⟩
  · rw [← a.namedIn_iff_standsIn]
    simp [Actor.canPost, or_assoc]
  · rw [← Bool.not_eq_true, a.namedIn_iff_standsIn]
    rintro ⟨-, plain, -⟩
    have := plain c mem
    tauto

/-- `alice` stands in `dm:alice_bob` between its start and the `_`, while an
actor whose id is `alice_bob` is named in no room, that one included. -/
theorem dm_room_names_alice :
    (⟨"alice", .user⟩ : Actor).StandsIn "dm:alice_bob" ∧
      (⟨"alice_bob", .user⟩ : Actor).namedIn "dm:alice_bob" = false :=
  ⟨(room_names_its_members ⟨"alice", .user⟩ "dm:alice_bob").1.mp (by decide),
    (room_names_its_members ⟨"alice_bob", .user⟩ "dm:alice_bob").2.2 ⟨'_', by decide, by decide⟩
      "dm:alice_bob"⟩

end Herald
