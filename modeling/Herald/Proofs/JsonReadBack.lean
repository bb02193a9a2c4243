import Mathlib
import Herald.Proofs.JsonScanning

set_option autoImplicit false

/-!
# Values read back from their compact text

The compact text of a content tree made of booleans, unsigned integers of 64
bits, strings, arrays and string-keyed objects reads back as the same tree,
with every integer at 64 bits (`readsBack_of_textual`). `Textual d c` says
which trees: those nested at most `d` deep, each level of brackets using one
unit of the reader's nesting allowance. The proof follows the writer's
recursion: a bracket, the items or members one by one, each separated by a
comma and each read by the induction hypothesis, then the closing bracket.
What follows a value in the text is its end, a comma or a closing bracket
(`Closes`), which is all the reader looks at before returning.
-/

namespace Herald.Json

open ReadM

/-! ### Brackets, commas and colons -/

section Structure

variable {b : ByteArray} {p depth : Nat}

theorem exec_located {α : Type} {body : ReadM α} {a : α} {s : Cursor}
    (reads : body.exec b ⟨p, depth⟩ = (.ok a, s)) : (located body).exec b ⟨p, depth⟩ = (.ok a, s) := by
  unfold located
  rw [exec_tryCatch, reads]

theorem exec_thenAlways {α : Type} {body : ReadM α} {finish : ReadM Unit} {a : α} {s t : Cursor}
    (reads : body.exec b ⟨p, depth⟩ = (.ok a, s)) (finishes : finish.exec b s = (.ok (), t)) :
    (thenAlways body finish).exec b ⟨p, depth⟩ = (.ok a, t) := by
  unfold thenAlways
  simp only [exec_bind, exec_tryCatch, exec_pure, reads, finishes]

theorem exec_enterNesting (deep : 2 ≤ depth) :
    enterNesting.exec b ⟨p, depth⟩ = (.ok (), ⟨p, depth - 1⟩) := by
  unfold enterNesting
  simp only [exec_bind, exec_getThe]
  rw [if_neg (by simp; omega)]
  rfl

theorem exec_leaveNesting : leaveNesting.exec b ⟨p, depth⟩ = (.ok (), ⟨p, depth + 1⟩) := rfl

theorem exec_nextItem_first {x : UInt8} (at_p : byteAt b p = some x) (notBlank : blank x = false)
    (notComma : x ≠ 44) (notEnd : x ≠ 93) : (nextItem true).exec b ⟨p, depth⟩ = (.ok true, ⟨p, depth⟩) := by
  unfold nextItem
  simp only [exec_bind, exec_skipBlanks (fun y at_y => by rw [at_p] at at_y; cases at_y; exact notBlank), at_p]
  rw [if_pos trivial]
  simp only [exec_bind, exec_pure]

theorem exec_nextItem_comma {x : UInt8} (at_p : byteAt b p = some 44) (at_next : byteAt b (p + 1) = some x)
    (notBlank : blank x = false) (notEnd : x ≠ 93) :
    (nextItem false).exec b ⟨p, depth⟩ = (.ok true, ⟨p + 1, depth⟩) := by
  unfold nextItem
  simp only [exec_bind, exec_skipBlanks (fun y at_y => by rw [at_p] at at_y; cases at_y; rfl), at_p]
  simp only [Bool.false_eq_true, if_false, exec_bind, exec_eat,
    exec_skipBlanks (fun y at_y => by rw [at_next] at at_y; cases at_y; exact notBlank), at_next]
  rfl

theorem exec_nextItem_end (first : Bool) (at_p : byteAt b p = some 93) :
    (nextItem first).exec b ⟨p, depth⟩ = (.ok false, ⟨p, depth⟩) := by
  unfold nextItem
  simp only [exec_bind, exec_skipBlanks (fun y at_y => by rw [at_p] at at_y; cases at_y; rfl), at_p]
  rfl

theorem exec_nextKey_first (k : String) (at_p : byteAt b p = some 34)
    (holds : Holds b (p + 1) (escaped k.toList ++ [34])) :
    (nextKey true).exec b ⟨p, depth⟩ = (.ok (some k), ⟨p + 1 + (escaped k.toList).length + 1, depth⟩) := by
  unfold nextKey
  simp only [exec_bind, exec_skipBlanks (fun y at_y => by rw [at_p] at at_y; cases at_y; rfl), at_p]
  simp [exec_bind, exec_eat, exec_readStringBody depth k holds]

theorem exec_nextKey_comma (k : String) (at_p : byteAt b p = some 44) (at_next : byteAt b (p + 1) = some 34)
    (holds : Holds b (p + 2) (escaped k.toList ++ [34])) :
    (nextKey false).exec b ⟨p, depth⟩ = (.ok (some k), ⟨p + 2 + (escaped k.toList).length + 1, depth⟩) := by
  unfold nextKey
  simp only [exec_bind, exec_skipBlanks (fun y at_y => by rw [at_p] at at_y; cases at_y; rfl), at_p]
  simp only [Bool.false_eq_true, if_false, exec_bind, exec_eat,
    exec_skipBlanks (fun y at_y => by rw [at_next] at at_y; cases at_y; rfl), at_next]
  simp [exec_readStringBody depth k holds]

theorem exec_nextKey_end (first : Bool) (at_p : byteAt b p = some 125) :
    (nextKey first).exec b ⟨p, depth⟩ = (.ok none, ⟨p, depth⟩) := by
  unfold nextKey
  simp only [exec_bind, exec_skipBlanks (fun y at_y => by rw [at_p] at at_y; cases at_y; rfl), at_p]
  rfl

theorem exec_colon (at_p : byteAt b p = some 58) : colon.exec b ⟨p, depth⟩ = (.ok (), ⟨p + 1, depth⟩) := by
  unfold colon
  simp only [exec_bind, exec_skipBlanks (fun y at_y => by rw [at_p] at at_y; cases at_y; rfl), at_p]
  rfl

theorem exec_endList (at_p : byteAt b p = some 93) : endList.exec b ⟨p, depth⟩ = (.ok (), ⟨p + 1, depth⟩) := by
  unfold endList
  simp only [exec_bind, exec_skipBlanks (fun y at_y => by rw [at_p] at at_y; cases at_y; rfl), at_p]
  rfl

theorem exec_endObject (at_p : byteAt b p = some 125) :
    endObject.exec b ⟨p, depth⟩ = (.ok (), ⟨p + 1, depth⟩) := by
  unfold endObject
  simp only [exec_bind, exec_skipBlanks (fun y at_y => by rw [at_p] at at_y; cases at_y; rfl), at_p]
  rfl

theorem exec_finish (at_end : byteAt b p = none) : finish.exec b ⟨p, depth⟩ = (.ok (), ⟨p, depth⟩) := by
  unfold finish
  simp only [exec_bind, exec_skipBlanks (fun y at_y => by rw [at_end] at at_y; cases at_y), at_end]
  rfl

end Structure

/-! ### Values -/

/-- Content whose compact JSON text the reader takes back within the nesting
allowance `d`: booleans, unsigned integers of at most 64 bits, strings, and
arrays and string-keyed objects of such, each level of nesting using one unit
of the allowance. -/
inductive Textual : Nat → Content → Prop
  | bool {d : Nat} (b : Bool) : Textual (d + 1) (.bool b)
  | unsigned {d : Nat} (w : Width) {n : Nat} (fits : n < 2 ^ 64) : Textual (d + 1) (.unsigned w n)
  | str {d : Nat} (s : String) : Textual (d + 1) (.str s)
  | seq {d : Nat} {items : List Content} (each : ∀ c ∈ items, Textual (d + 1) c) :
      Textual (d + 2) (.seq items)
  | map {d : Nat} {entries : List (String × Content)} (values : ∀ e ∈ entries, Textual (d + 1) e.2) :
      Textual (d + 2) (.map (entries.map fun e => (.str e.1, e.2)))

theorem ofContents_eq_map (items : List Content) : ofContents items = items.map ofContent := by
  induction items with
  | nil => rfl
  | cons c items inductionHypothesis => rw [ofContents, inductionHypothesis, List.map_cons]

theorem ofEntries_str (entries : List (String × Content)) :
    ofEntries (entries.map fun e => (.str e.1, e.2)) = entries.map fun e => (e.1, ofContent e.2) := by
  induction entries with
  | nil => rfl
  | cons e entries inductionHypothesis => rw [List.map_cons, ofEntries, inductionHypothesis, List.map_cons]

/-- The text of a value starts with a byte that opens a value. -/
def Opens (l : List UInt8) : Prop :=
  ∃ x rest, l = x :: rest ∧ blank x = false ∧ x ≠ 44 ∧ x ≠ 93 ∧ x ≠ 125

theorem Opens.length_pos {l : List UInt8} (opens : Opens l) : 0 < l.length := by
  obtain ⟨x, rest, rfl, _⟩ := opens
  simp

theorem opens_of_isDigitByte {x : UInt8} (digit : isDigitByte x = true) :
    blank x = false ∧ x ≠ 44 ∧ x ≠ 93 ∧ x ≠ 125 := by
  simp only [isDigitByte, Bool.and_eq_true, decide_eq_true_eq, UInt8.le_iff_toNat_le] at digit
  simp only [blank, Bool.or_eq_false_iff, beq_eq_false_iff_ne, ne_eq, ← UInt8.toNat_inj]
  simp only [UInt8.reduceToNat] at digit ⊢
  omega

theorem bytesOf_toString_cons (n : Nat) :
    ∃ x rest, bytesOf (toString n) = x :: rest ∧ isDigitByte x = true := by
  obtain ⟨c, cs, digits⟩ : ∃ c cs, Nat.toDigits 10 n = c :: cs :=
    List.exists_cons_of_ne_nil Nat.toDigits_ne_nil
  have digit := Nat.isDigit_of_mem_toDigits (by omega) (by omega)
    (digits ▸ List.mem_cons_self : c ∈ Nat.toDigits 10 n)
  refine ⟨c.toNat.toUInt8, cs.map fun c => c.toNat.toUInt8, ?_, isDigitByte_digit digit⟩
  rw [bytesOf_toString, digits, List.map_cons]

theorem textOf_unsigned (w : Width) (n : Nat) : textOf (ofContent (.unsigned w n)) = bytesOf (toString n) := by
  rw [ofContent, textOf, render, writeTo, bytesOf_append, bytesOf_empty, List.nil_append, numberText]

theorem opens_textOf {d : Nat} {c : Content} (textual : Textual d c) : Opens (textOf (ofContent c)) := by
  cases textual with
  | bool b => cases b <;> exact ⟨_, _, rfl, by decide⟩
  | @unsigned _ w n fits =>
    obtain ⟨x, rest, first, digit⟩ := bytesOf_toString_cons n
    exact ⟨x, rest, by rw [textOf_unsigned, first], opens_of_isDigitByte digit⟩
  | str s => exact ⟨34, _, textOf_str s, by decide⟩
  | seq each => exact ⟨91, _, by rw [ofContent, textOf_arr, List.cons_append], by decide⟩
  | map values => exact ⟨123, _, by rw [ofContent, textOf_obj, List.cons_append], by decide⟩

theorem exec_skipBlanks_holds {b : ByteArray} {p depth : Nat} {x : UInt8} {l : List UInt8}
    (holds : Holds b p (x :: l)) (notBlank : blank x = false) :
    skipBlanks.exec b ⟨p, depth⟩ = (.ok (some x), ⟨p, depth⟩) := by
  rw [exec_skipBlanks (fun y at_y => by rw [byteAt_of_holds holds] at at_y; cases at_y; exact notBlank),
    byteAt_of_holds holds]

/-- What may follow a value inside the text of a frame: its end, a comma, or a
closing bracket. -/
def Closes (o : Option UInt8) : Prop := o = none ∨ o = some 44 ∨ o = some 93 ∨ o = some 125

/-- Content reads back from its compact text at any nesting allowance from `d`
on, with any fuel above its length, when the text is followed by what may
follow a value. -/
def ReadsBack (d : Nat) (c : Content) : Prop :=
  ∀ {b : ByteArray} {fuel p depth : Nat}, (textOf (ofContent c)).length < fuel → d ≤ depth →
    Holds b p (textOf (ofContent c)) → Closes (byteAt b (p + (textOf (ofContent c)).length)) →
    (readContent fuel).exec b ⟨p, depth⟩ =
      (.ok (c.rewidth fun _ => .w64), ⟨p + (textOf (ofContent c)).length, depth⟩)

theorem readsBack_bool {d : Nat} (v : Bool) : ReadsBack (d + 1) (.bool v) := by
  intro b fuel p depth short deep holds closes
  obtain ⟨fuel, rfl⟩ : ∃ f, fuel = f + 1 := ⟨fuel - 1, by omega⟩
  rw [readContent]
  apply exec_located
  cases v
  case false =>
    have word : textOf (ofContent (.bool false)) = 102 :: [97, 108, 115, 101] := rfl
    rw [word] at holds ⊢
    simp only [exec_bind, exec_skipBlanks_holds holds (by decide)]
    simp only [exec_eat, exec_expectWord depth _ holds.tail]
    rfl
  case true =>
    have word : textOf (ofContent (.bool true)) = 116 :: [114, 117, 101] := rfl
    rw [word] at holds ⊢
    simp only [exec_bind, exec_skipBlanks_holds holds (by decide)]
    simp only [exec_eat, exec_expectWord depth _ holds.tail]
    rfl

/-- A string reads back from its text with any fuel at all: its body is read
by a loop of its own, not by the nesting descent the fuel bounds. -/
theorem exec_readContent_str {b : ByteArray} {fuel p depth : Nat} (s : String) (positive : 0 < fuel)
    (holds : Holds b p (textOf (.str s))) :
    (readContent fuel).exec b ⟨p, depth⟩ = (.ok (.str s), ⟨p + (textOf (.str s)).length, depth⟩) := by
  obtain ⟨fuel, rfl⟩ : ∃ f, fuel = f + 1 := ⟨fuel - 1, by omega⟩
  rw [readContent]
  apply exec_located
  rw [textOf_str] at holds ⊢
  simp only [exec_bind, exec_skipBlanks_holds holds (by decide)]
  simp only [exec_eat, exec_readStringBody depth s holds.tail]
  simp only [List.cons_append, List.length_cons, List.length_append, List.length_nil, exec_pure]
  congr 2
  omega

theorem readsBack_str {d : Nat} (s : String) : ReadsBack (d + 1) (.str s) := by
  intro b fuel p depth short deep holds closes
  exact exec_readContent_str s (by omega) holds

theorem endsNumber_of_closes {o : Option UInt8} (closes : Closes o) : EndsNumber o := by
  rintro x rfl
  rcases closes with none | comma | bracket | brace <;> simp_all <;> decide

theorem readsBack_unsigned {d : Nat} (w : Width) {n : Nat} (fits : n < 2 ^ 64) :
    ReadsBack (d + 1) (.unsigned w n) := by
  intro b fuel p depth short deep holds closes
  obtain ⟨fuel, rfl⟩ : ∃ f, fuel = f + 1 := ⟨fuel - 1, by omega⟩
  rw [textOf_unsigned] at holds closes ⊢
  obtain ⟨x, rest, first, digit⟩ := bytesOf_toString_cons n
  rw [readContent]
  apply exec_located
  simp only [exec_bind, exec_skipBlanks_holds (first ▸ holds) (opens_of_isDigitByte digit).1]
  -- the first byte is a digit: every other branch of the reader is refuted by it
  split
  case h_9 c _ _ _ _ _ _ _ same =>
    cases same
    rw [if_pos digit]
    simp only [exec_bind, exec_readNumber depth n fits holds (endsNumber_of_closes closes)]
    rfl
  all_goals
    rename_i same
    cases same <;> exact absurd digit (by decide)

/-! ### Arrays and objects -/

section Brackets

variable {b : ByteArray} {p depth : Nat}

theorem exec_nextItem_opens {first : Bool} {l : List UInt8} (holds : Holds b p (separator first ++ l))
    (opens : Opens l) : (nextItem first).exec b ⟨p, depth⟩ = (.ok true, ⟨p + (separator first).length, depth⟩) := by
  obtain ⟨x, rest, rfl, notBlank, notComma, notEnd, notBrace⟩ := opens
  cases first
  case true => exact exec_nextItem_first (byteAt_of_holds holds) notBlank notComma notEnd
  case false => exact exec_nextItem_comma (byteAt_of_holds holds) (byteAt_of_holds holds.tail) notBlank notEnd

theorem closes_writeItems {q : Nat} (rest : List Json) (holds : Holds b q (bytesOf (writeItems "" false rest) ++ [93])) :
    Closes (byteAt b q) := by
  cases rest with
  | nil => exact .inr (.inr (.inl (byteAt_of_holds holds)))
  | cons j rest =>
    rw [bytesOf_writeItems_cons] at holds
    exact .inr (.inl (byteAt_of_holds holds))

/-- The bytes of the items of an array, without the brackets. -/
abbrev itemsText (first : Bool) (items : List Content) : List UInt8 :=
  bytesOf (writeItems "" first (items.map ofContent))

theorem exec_readItems {d : Nat} {items : List Content} (textual : ∀ c ∈ items, Textual d c)
    (reads : ∀ c ∈ items, ReadsBack d c) :
    ∀ (first : Bool) (acc : List Content) {fuel p : Nat}, d ≤ depth → (itemsText first items).length + 1 < fuel →
    Holds b p (itemsText first items ++ [93]) →
    (readItems fuel first acc).exec b ⟨p, depth⟩ =
      (.ok (acc.reverse ++ items.map (·.rewidth fun _ => .w64)), ⟨p + (itemsText first items).length, depth⟩) := by
  induction items with
  | nil =>
    intro first acc fuel p deep short holds
    obtain ⟨fuel, rfl⟩ : ∃ f, fuel = f + 1 := ⟨fuel - 1, by omega⟩
    simp only [itemsText, List.map_nil, writeItems, bytesOf_empty, List.nil_append] at holds ⊢
    rw [readItems]
    simp only [exec_bind, exec_nextItem_end first (byteAt_of_holds holds)]
    simp
  | cons c rest inductionHypothesis =>
    intro first acc fuel p deep short holds
    obtain ⟨fuel, rfl⟩ : ∃ f, fuel = f + 1 := ⟨fuel - 1, by omega⟩
    simp only [itemsText, List.map_cons, bytesOf_writeItems_cons] at holds short ⊢
    have opens := opens_textOf (textual c List.mem_cons_self)
    rw [List.append_assoc] at holds
    obtain ⟨front, back⟩ := holds_append.mp holds
    have item := (holds_append.mp front).2
    have lengths := opens.length_pos
    simp only [List.length_append] at short back ⊢
    have restShort : (itemsText false rest).length + 1 < fuel := by
      simp only [itemsText]
      omega
    have itemShort : (textOf (ofContent c)).length < fuel := by omega
    rw [← Nat.add_assoc] at back
    rw [readItems]
    simp only [exec_bind, exec_nextItem_opens front opens, if_true,
      reads c List.mem_cons_self itemShort deep item (closes_writeItems _ back)]
    rw [inductionHypothesis (fun c mem => textual c (List.mem_cons_of_mem _ mem))
      (fun c mem => reads c (List.mem_cons_of_mem _ mem)) false _ deep restShort back]
    simp only [List.reverse_cons, List.append_assoc, List.singleton_append, itemsText]
    congr 2
    omega

theorem exec_nextKey_key {first : Bool} (k : String) (holds : Holds b p (separator first ++ textOf (.str k))) :
    (nextKey first).exec b ⟨p, depth⟩ = (.ok (some k), ⟨p + (separator first ++ textOf (.str k)).length, depth⟩) := by
  rw [textOf_str] at holds ⊢
  cases first
  case true =>
    rw [exec_nextKey_first k (byteAt_of_holds holds) holds.tail]
    simp [separator]
    omega
  case false =>
    rw [exec_nextKey_comma k (byteAt_of_holds holds) (byteAt_of_holds holds.tail) holds.tail.tail]
    simp [separator]
    omega

theorem closes_writeMembers {q : Nat} (rest : List (String × Json))
    (holds : Holds b q (bytesOf (writeMembers "" false rest) ++ [125])) : Closes (byteAt b q) := by
  cases rest with
  | nil => exact .inr (.inr (.inr (byteAt_of_holds holds)))
  | cons e rest =>
    rw [bytesOf_writeMembers_cons] at holds
    exact .inr (.inl (byteAt_of_holds holds))

/-- The bytes of the members of an object with string keys, without the braces. -/
abbrev membersText (first : Bool) (entries : List (String × Content)) : List UInt8 :=
  bytesOf (writeMembers "" first (entries.map fun e => (e.1, ofContent e.2)))

theorem length_membersText_cons (first : Bool) (k : String) (v : Content) (rest : List (String × Content)) :
    (membersText first ((k, v) :: rest)).length =
      (separator first ++ textOf (.str k)).length + 1 + (textOf (ofContent v)).length +
        (membersText false rest).length := by
  simp only [membersText, List.map_cons, bytesOf_writeMembers_cons, List.length_append, List.length_singleton]

/-- The text of the members from one on: its separator and key, the colon,
its value, and the members after it. -/
theorem holds_member {first : Bool} {k : String} {v : Content} {rest : List (String × Content)}
    (holds : Holds b p (membersText first ((k, v) :: rest) ++ [125])) :
    Holds b p (separator first ++ textOf (.str k)) ∧
      byteAt b (p + (separator first ++ textOf (.str k)).length) = some 58 ∧
      Holds b (p + (separator first ++ textOf (.str k)).length + 1) (textOf (ofContent v)) ∧
      Holds b (p + (separator first ++ textOf (.str k)).length + 1 + (textOf (ofContent v)).length)
        (membersText false rest ++ [125]) := by
  simp only [membersText, List.map_cons, bytesOf_writeMembers_cons, List.append_assoc,
    List.singleton_append] at holds
  rw [← List.append_assoc] at holds
  obtain ⟨key, after⟩ := holds_append.mp holds
  obtain ⟨item, back⟩ := holds_append.mp after.tail
  exact ⟨key, byteAt_of_holds after, item, back⟩

theorem exec_readMembers {d : Nat} {entries : List (String × Content)} (textual : ∀ e ∈ entries, Textual d e.2)
    (reads : ∀ e ∈ entries, ReadsBack d e.2) :
    ∀ (first : Bool) (acc : List (Content × Content)) {fuel p : Nat}, d ≤ depth →
    (membersText first entries).length + 1 < fuel → Holds b p (membersText first entries ++ [125]) →
    (readMembers fuel first acc).exec b ⟨p, depth⟩ =
      (.ok (acc.reverse ++ entries.map fun e => (.str e.1, e.2.rewidth fun _ => .w64)),
        ⟨p + (membersText first entries).length, depth⟩) := by
  induction entries with
  | nil =>
    intro first acc fuel p deep short holds
    obtain ⟨fuel, rfl⟩ : ∃ f, fuel = f + 1 := ⟨fuel - 1, by omega⟩
    simp only [membersText, List.map_nil, writeMembers, bytesOf_empty, List.nil_append] at holds ⊢
    rw [readMembers]
    simp only [exec_bind, exec_nextKey_end first (byteAt_of_holds holds)]
    simp
  | cons e rest inductionHypothesis =>
    intro first acc fuel p deep short holds
    obtain ⟨fuel, rfl⟩ : ∃ f, fuel = f + 1 := ⟨fuel - 1, by omega⟩
    obtain ⟨k, v⟩ := e
    obtain ⟨key, colonByte, item, back⟩ := holds_member holds
    have lengths := (opens_textOf (textual (k, v) List.mem_cons_self)).length_pos
    rw [length_membersText_cons] at short ⊢
    have restShort : (membersText false rest).length + 1 < fuel := by omega
    have itemShort : (textOf (ofContent v)).length < fuel := by omega
    rw [readMembers]
    simp only [exec_bind, exec_nextKey_key k key, exec_colon colonByte,
      reads (k, v) List.mem_cons_self itemShort deep item (closes_writeMembers _ back)]
    rw [inductionHypothesis (fun e mem => textual e (List.mem_cons_of_mem _ mem))
      (fun e mem => reads e (List.mem_cons_of_mem _ mem)) false _ deep restShort back]
    simp only [List.reverse_cons, List.append_assoc, List.singleton_append, Nat.add_assoc, List.map_cons]

theorem readsBack_seq {d : Nat} {items : List Content} (textual : ∀ c ∈ items, Textual (d + 1) c)
    (reads : ∀ c ∈ items, ReadsBack (d + 1) c) : ReadsBack (d + 2) (.seq items) := by
  intro b fuel p depth short deep holds closes
  obtain ⟨fuel, rfl⟩ : ∃ f, fuel = f + 1 := ⟨fuel - 1, by omega⟩
  rw [ofContent, ofContents_eq_map, textOf_arr, List.cons_append] at holds short ⊢
  have inner : Holds b (p + 1) (itemsText true items ++ [93]) := holds.tail
  have closing := (holds_append.mp inner).2
  simp only [List.length_cons, List.length_append, List.length_nil, itemsText] at short closing ⊢
  rw [readContent]
  apply exec_located
  simp only [exec_bind, exec_skipBlanks_holds holds (by decide)]
  simp only [exec_enterNesting (by omega : 2 ≤ depth), exec_eat]
  rw [exec_thenAlways (exec_readItems textual reads true [] (by omega) (by simpa using short) inner)
    (exec_endList (byteAt_of_holds closing))]
  simp only [exec_leaveNesting, exec_pure, Content.rewidth, Content.rewidthItems_eq_map, List.reverse_nil,
    List.nil_append, itemsText]
  congr 2 <;> omega

theorem readsBack_map {d : Nat} {entries : List (String × Content)} (textual : ∀ e ∈ entries, Textual (d + 1) e.2)
    (reads : ∀ e ∈ entries, ReadsBack (d + 1) e.2) :
    ReadsBack (d + 2) (.map (entries.map fun e => (.str e.1, e.2))) := by
  intro b fuel p depth short deep holds closes
  obtain ⟨fuel, rfl⟩ : ∃ f, fuel = f + 1 := ⟨fuel - 1, by omega⟩
  rw [ofContent, ofEntries_str, textOf_obj, List.cons_append] at holds short ⊢
  have inner : Holds b (p + 1) (membersText true entries ++ [125]) := holds.tail
  have closing := (holds_append.mp inner).2
  simp only [List.length_cons, List.length_append, List.length_nil, membersText] at short closing ⊢
  rw [readContent]
  apply exec_located
  simp only [exec_bind, exec_skipBlanks_holds holds (by decide)]
  simp only [exec_enterNesting (by omega : 2 ≤ depth), exec_eat]
  rw [exec_thenAlways (exec_readMembers textual reads true [] (by omega) (by simpa using short) inner)
    (exec_endObject (byteAt_of_holds closing))]
  simp only [exec_leaveNesting, exec_pure, Content.rewidth, Content.rewidthEntries_eq_map, List.map_map,
    List.reverse_nil, List.nil_append, membersText]
  congr 2 <;> omega

end Brackets

theorem readsBack_of_textual {d : Nat} {c : Content} (textual : Textual d c) : ReadsBack d c := by
  induction textual with
  | bool v => exact readsBack_bool v
  | unsigned w fits => exact readsBack_unsigned w fits
  | str s => exact readsBack_str s
  | seq each inductionHypothesis => exact readsBack_seq each inductionHypothesis
  | map values inductionHypothesis => exact readsBack_map values inductionHypothesis

end Herald.Json
