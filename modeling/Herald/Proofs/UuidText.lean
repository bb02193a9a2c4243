import Mathlib
import Herald.Proofs.PackRoundTrip
import Herald.Ident.Uuid

set_option autoImplicit false

/-!
# Identifiers read back from their wire forms

An identifier below 2^128 is written as its 16 bytes in binary and as 36
characters of lowercase hex in groups of 8, 4, 4, 4 and 12 in text. Both
read back as the identifier: the bytes by folding them big-endian, the text
because its hyphens stand exactly where the hyphenated form wants them and
every other character is one of the 32 hex digits, most significant first.
-/

namespace Herald

theorem ByteArray.toList_loop_eq (bs : ByteArray) (i : Nat) (r : List UInt8) :
    ByteArray.toList.loop bs i r = r.reverse ++ bs.data.toList.drop i := by
  fun_induction ByteArray.toList.loop bs i r with
  | case1 i r inside inductionHypothesis =>
    have bound : i < bs.data.toList.length := by simpa using inside
    rw [inductionHypothesis, List.drop_eq_getElem_cons bound]
    simp [ByteArray.get!, inside]
  | case2 i r past =>
    rw [List.drop_eq_nil_of_le (by simpa using Nat.le_of_not_lt past)]
    simp

theorem ByteArray.toList_eq (bs : ByteArray) : bs.toList = bs.data.toList := by
  simp [ByteArray.toList, ByteArray.toList_loop_eq]

end Herald

namespace Herald.Uuid

theorem hexValue_hexChar {k : Nat} (small : k < 16) : hexValue (hexChar k) = k := by
  interval_cases k <;> rfl

theorem hexChar_digit {k : Nat} (small : k < 16) :
    hexChar k ≠ '-' ∧ Text.isHexDigit (hexChar k) = true ∧ (hexChar k).utf8Size = 1 := by
  interval_cases k <;> decide

theorem hexDigits_eq (u : Uuid) :
    u.hexDigits = ((List.range 32).reverse.map fun i => u.value / 16 ^ i % 16).map hexChar := by
  simp [hexDigits, Nat.pow_eq]

theorem length_hexDigits (u : Uuid) : u.hexDigits.length = 32 := by
  simp [hexDigits_eq]

theorem mem_hexDigits {u : Uuid} {c : Char} (mem : c ∈ u.hexDigits) :
    c ≠ '-' ∧ Text.isHexDigit c = true ∧ c.utf8Size = 1 := by
  rw [hexDigits_eq] at mem
  obtain ⟨k, kMem, rfl⟩ := List.mem_map.mp mem
  obtain ⟨i, -, rfl⟩ := List.mem_map.mp kMem
  exact hexChar_digit (Nat.mod_lt _ (by omega))

theorem ofHex_hexDigits (u : Uuid) (fits : u.value < 2 ^ 128) : ofHex u.hexDigits = u := by
  unfold ofHex
  rw [hexDigits_eq, List.foldl_map, List.foldl_map]
  have digit : ∀ i, hexValue (hexChar (u.value / 16 ^ i % 16)) = u.value / 16 ^ i % 16 :=
    fun i => hexValue_hexChar (Nat.mod_lt _ (by norm_num))
  simp only [digit]
  rw [← List.foldl_map, Pack.foldl_digits, Nat.zero_mul, Nat.zero_add,
    Nat.mod_eq_of_lt (by simpa using fits)]

/-- The characters of the hyphenated form of 32 digits: groups of 8, 4, 4, 4
and 12 digits with a hyphen between groups. -/
def hyphenate (h : List Char) : List Char :=
  h.take 8 ++ '-' :: ((h.drop 8).take 4 ++ '-' :: ((h.drop 12).take 4 ++ '-' ::
    ((h.drop 16).take 4 ++ '-' :: h.drop 20)))

theorem toList_render (u : Uuid) : u.render.toList = hyphenate u.hexDigits := by
  simp [render, hyphenate]

theorem hyphenate_mask (h : List Char) (length : h.length = 32) (digits : ∀ c ∈ h, c ≠ '-') :
    (hyphenate h).map (· == '-') =
      List.replicate 8 false ++ true :: (List.replicate 4 false ++ true :: (List.replicate 4 false ++
        true :: (List.replicate 4 false ++ true :: List.replicate 12 false))) := by
  have plain : h.map (· == '-') = List.replicate 32 false := by
    rw [← length, List.map_eq_replicate_iff]
    intro c mem
    simpa using digits c mem
  simp only [hyphenate, List.map_append, List.map_cons, List.map_take, List.map_drop, plain]
  simp

theorem utf8Len_of_ascii (l : List Char) (ascii : ∀ c ∈ l, c.utf8Size = 1) :
    String.utf8Len l = l.length := by
  induction l with
  | nil => rfl
  | cons c rest inductionHypothesis =>
    rw [String.utf8Len_cons, List.length_cons, ascii c List.mem_cons_self,
      inductionHypothesis (fun c mem => ascii c (List.mem_cons_of_mem _ mem))]

theorem mem_hyphenate {h : List Char} {c : Char} (mem : c ∈ hyphenate h) : c = '-' ∨ c ∈ h := by
  simp only [hyphenate, List.mem_append, List.mem_cons] at mem
  rcases mem with inFirst | hyphen | inSecond | hyphen | inThird | hyphen | inFourth | hyphen | inLast
  all_goals first
    | exact Or.inl ‹_›
    | exact Or.inr (List.mem_of_mem_take ‹_›)
    | exact Or.inr (List.mem_of_mem_drop (List.mem_of_mem_take ‹_›))
    | exact Or.inr (List.mem_of_mem_drop ‹_›)

theorem filter_hyphenate (h : List Char) (digits : ∀ c ∈ h, c ≠ '-') :
    (hyphenate h).filter (· != '-') = h := by
  have kept : ∀ l : List Char, (∀ c ∈ l, c ≠ '-') → l.filter (· != '-') = l := fun l plain =>
    List.filter_eq_self.mpr (fun c mem => by simpa using plain c mem)
  simp only [hyphenate, List.filter_append, List.filter_cons]
  rw [kept _ (fun c mem => digits c (List.mem_of_mem_take mem)),
    kept _ (fun c mem => digits c (List.mem_of_mem_drop (List.mem_of_mem_take mem))),
    kept _ (fun c mem => digits c (List.mem_of_mem_drop (List.mem_of_mem_take mem))),
    kept _ (fun c mem => digits c (List.mem_of_mem_drop (List.mem_of_mem_take mem))),
    kept _ (fun c mem => digits c (List.mem_of_mem_drop mem))]
  simp only [bne_self_eq_false, Bool.false_eq_true, if_false]
  -- the groups put back together, from the last one
  rw [show List.drop 20 h = List.drop 4 (List.drop 16 h) by rw [List.drop_drop],
    List.take_append_drop, show List.drop 16 h = List.drop 4 (List.drop 12 h) by rw [List.drop_drop],
    List.take_append_drop, show List.drop 12 h = List.drop 4 (List.drop 8 h) by rw [List.drop_drop],
    List.take_append_drop, List.take_append_drop]

theorem length_hyphenate (h : List Char) (length : h.length = 32) : (hyphenate h).length = 36 := by
  simp [hyphenate, length]

theorem hyphenated?_hyphenate (h : List Char) (length : h.length = 32)
    (digits : ∀ c ∈ h, c ≠ '-' ∧ Text.isHexDigit c = true) :
    hyphenated? (hyphenate h) = some (ofHex h) := by
  have plain : ∀ c ∈ h, c ≠ '-' := fun c mem => (digits c mem).1
  -- a character of the text is a hex digit exactly when it is not a hyphen
  have hexIffPlain : (hyphenate h).map Text.isHexDigit = ((hyphenate h).map (· == '-')).map (!·) := by
    rw [List.map_map]
    apply List.map_congr_left
    intro c mem
    rcases mem_hyphenate mem with hyphen | inH
    · subst hyphen; decide
    · have := digits c inH
      simp [this.1, this.2]
  have pointwise : ∀ i, (let c := (hyphenate h).getD i ' '
      if (i == 8 || i == 13 || i == 18 || i == 23) then c == '-' else Text.isHexDigit c) =
      if (i == 8 || i == 13 || i == 18 || i == 23) then ((hyphenate h).map (· == '-')).getD i false
      else (((hyphenate h).map (· == '-')).map (!·)).getD i false := by
    intro i
    rw [← hexIffPlain, show false = (' ' == '-') by decide, List.getD_map,
      show (' ' == '-') = Text.isHexDigit ' ' by decide, List.getD_map]
  unfold hyphenated?
  rw [List.all_congr rfl pointwise, hyphenate_mask h length plain, length_hyphenate h length,
    filter_hyphenate h plain]
  rw [if_pos (by decide)]

theorem utf8ByteSize_render (u : Uuid) : u.render.utf8ByteSize = 36 := by
  rw [← String.utf8Len_toList, toList_render, utf8Len_of_ascii, length_hyphenate _ (length_hexDigits u)]
  intro c mem
  rcases mem_hyphenate mem with hyphen | inH
  · subst hyphen; rfl
  · exact (mem_hexDigits inH).2.2

theorem parse_render (u : Uuid) (fits : u.value < 2 ^ 128) : parse u.render = .ok u := by
  unfold parse
  rw [utf8ByteSize_render, if_neg (by decide), if_neg (by decide), if_pos (by decide)]
  unfold readHyphenated
  rw [toList_render, hyphenated?_hyphenate _ (length_hexDigits u)
    (fun c mem => ⟨(mem_hexDigits mem).1, (mem_hexDigits mem).2.1⟩), ofHex_hexDigits u fits]

theorem ofBytes_toBytes (u : Uuid) (fits : u.value < 2 ^ 128) : ofBytes u.toBytes = .ok u := by
  have bytes : u.toBytes = ⟨(Pack.beBytes 16 u.value).toArray⟩ := rfl
  unfold ofBytes
  rw [bytes, ByteArray.toList_eq, if_pos (by simp [Pack.length_beBytes])]
  rw [Pack.foldl_beBytes, Nat.zero_mul, Nat.zero_add, Nat.mod_eq_of_lt (by simpa using fits)]

end Herald.Uuid
