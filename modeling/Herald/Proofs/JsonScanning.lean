import Mathlib
import Herald.Proofs.PackRoundTrip
import Herald.Json.Read
import Herald.Json.Write

set_option autoImplicit false

/-!
# Reading JSON text byte by byte

The text reader runs in `ReadM`: a reader of the input bytes, with a cursor
holding the position and the nesting allowance left. `ReadM.exec` runs one
reader from one cursor, and the `exec_*` lemmas give each primitive's result
and cursor, so that a reader's run on a given text is computed step by step.

`Holds b p l` says the input holds the bytes `l` from position `p` on. The
writer's bytes are `bytesOf` of its text; a string literal is its characters
in `escaped` form between quotes. The main results are that the string body
reader takes back every escaped string (`exec_readStringBody`) and the number
reader every unsigned integer of 64 bits (`exec_readNumber`), in both cases
stopping right after the text.
-/

namespace Herald.Json

open ReadM

/-- A reader run on the input `b` from the cursor `s`. -/
def ReadM.exec {α : Type} (r : ReadM α) (b : ByteArray) (s : Cursor) : Except ReadError α × Cursor :=
  (r.run b).run.run s

section Exec

variable {α β : Type} (b : ByteArray) (s : Cursor)

@[simp] theorem exec_pure (a : α) : (pure a : ReadM α).exec b s = (.ok a, s) := rfl
@[simp] theorem exec_read : (read : ReadM ByteArray).exec b s = (.ok b, s) := rfl
@[simp] theorem exec_input : input.exec b s = (.ok b, s) := rfl
@[simp] theorem exec_getThe : (getThe Cursor : ReadM Cursor).exec b s = (.ok s, s) := rfl
@[simp] theorem exec_modifyThe (f : Cursor → Cursor) :
    (modifyThe Cursor f : ReadM Unit).exec b s = (.ok (), f s) := rfl
@[simp] theorem exec_get : (get : ReadM Cursor).exec b s = (.ok s, s) := rfl
@[simp] theorem exec_throw (e : ReadError) : (throw e : ReadM α).exec b s = (.error e, s) := rfl

theorem exec_bind (x : ReadM α) (f : α → ReadM β) :
    (x >>= f).exec b s =
      match x.exec b s with
      | (.ok a, s') => (f a).exec b s'
      | (.error e, s') => (.error e, s') := by
  unfold ReadM.exec
  rw [ReaderT.run_bind, ExceptT.run_bind, StateT.run_bind]
  generalize ((x.run b).run.run s) = r
  rcases r with ⟨_ | a, s'⟩ <;> rfl

@[simp] theorem exec_map (f : α → β) (x : ReadM α) :
    (f <$> x).exec b s =
      match x.exec b s with
      | (.ok a, s') => (.ok (f a), s')
      | (.error e, s') => (.error e, s') := by
  unfold ReadM.exec
  rw [ReaderT.run_map, ExceptT.run_map, StateT.run_map]
  generalize ((x.run b).run.run s) = r
  rcases r with ⟨_ | a, s'⟩ <;> rfl

theorem exec_tryCatch (body : ReadM α) (handler : ReadError → ReadM α) :
    (tryCatch body handler).exec b s =
      match body.exec b s with
      | (.ok a, s') => (.ok a, s')
      | (.error e, s') => (handler e).exec b s' := by
  unfold ReadM.exec ReaderT.run
  show ((tryCatch (body b) (fun e => handler e b) : ExceptT ReadError (StateM Cursor) α).run).run s = _
  rw [ExceptT.run_tryCatch, StateT.run_bind]
  generalize ((body b).run.run s) = r
  rcases r with ⟨_ | a, s'⟩ <;> rfl

end Exec

/-- The input holds the bytes `l` from position `p` on. -/
def Holds (b : ByteArray) (p : Nat) (l : List UInt8) : Prop := l <+: b.data.toList.drop p

theorem holds_append {b : ByteArray} {p : Nat} {l m : List UInt8} :
    Holds b p (l ++ m) ↔ Holds b p l ∧ Holds b (p + l.length) m := by
  unfold Holds
  constructor
  · intro whole
    refine ⟨(List.prefix_append l m).trans whole, ?_⟩
    obtain ⟨t, rest⟩ := whole
    rw [← List.drop_drop, ← rest, List.append_assoc, List.drop_left]
    exact List.prefix_append m t
  · rintro ⟨⟨t, first⟩, ⟨u, second⟩⟩
    refine ⟨u, ?_⟩
    rw [← List.drop_drop, ← first, List.drop_left] at second
    rw [← first, ← second, List.append_assoc]

theorem byteAt_of_holds {b : ByteArray} {p : Nat} {x : UInt8} {l : List UInt8} (h : Holds b p (x :: l)) :
    byteAt b p = some x := by
  unfold Holds at h
  obtain ⟨t, rest⟩ := h
  have length : (b.data.toList.drop p).length = l.length + 1 + t.length := by
    rw [← rest]
    simp only [List.cons_append, List.length_cons, List.length_append]
    omega
  have inside : p < b.size := by
    rw [List.length_drop, Array.length_toList, ByteArray.size_data] at length
    omega
  unfold byteAt
  rw [dif_pos inside]
  have inList : p < b.data.toList.length := by
    rw [Array.length_toList, ByteArray.size_data]
    exact inside
  rw [List.drop_eq_getElem_cons inList, List.cons_append, List.cons.injEq] at rest
  rw [rest.1, Array.getElem_toList]
  rfl

theorem extract_of_holds {b : ByteArray} {p : Nat} {l : List UInt8} (h : Holds b p l) :
    b.extract p (p + l.length) = l.toByteArray := by
  apply ByteArray.ext
  apply Array.toList_inj.mp
  rw [ByteArray.data_extract, Array.toList_extract, List.data_toByteArray, List.extract_eq_take_drop,
    Nat.add_sub_cancel_left]
  exact (List.prefix_iff_eq_take.mp h).symm

/-! ### The bytes the writer produces -/

def bytesOf (s : String) : List UInt8 := s.toByteArray.data.toList

@[simp] theorem bytesOf_append (s t : String) : bytesOf (s ++ t) = bytesOf s ++ bytesOf t := by
  simp [bytesOf, String.toByteArray_append]

@[simp] theorem bytesOf_push (s : String) (c : Char) :
    bytesOf (s.push c) = bytesOf s ++ String.utf8EncodeChar c := by
  simp [bytesOf, String.toByteArray_push, List.utf8Encode_singleton]

@[simp] theorem bytesOf_empty : bytesOf "" = [] := rfl

@[simp] theorem bytesOf_singleton (c : Char) : bytesOf (String.singleton c) = String.utf8EncodeChar c := by
  simp [bytesOf, String.toByteArray_singleton, List.utf8Encode_singleton]

theorem bytesOf_eq_flatMap (s : String) : bytesOf s = s.toList.flatMap String.utf8EncodeChar := by
  rw [bytesOf, ← String.utf8Encode_toList, List.utf8Encode, List.toList_data_toByteArray]

@[simp] theorem bytesOf_foldl_escapeChar (out : String) (cs : List Char) :
    bytesOf (cs.foldl escapeChar out) = bytesOf out ++ cs.flatMap fun c => bytesOf (escapeChar "" c) := by
  induction cs generalizing out with
  | nil => simp
  | cons c cs inductionHypothesis =>
    rw [List.foldl_cons, inductionHypothesis, List.flatMap_cons, ← List.append_assoc]
    congr 1
    unfold escapeChar
    split <;> (try split) <;> (try split) <;> (try split) <;> simp

mutual

theorem bytesOf_writeTo (out : String) : ∀ j : Json, bytesOf (writeTo out j) = bytesOf out ++ bytesOf (writeTo "" j)
  | .null => by simp [writeTo]
  | .bool true => by simp [writeTo]
  | .bool false => by simp [writeTo]
  | .num n => by simp [writeTo]
  | .str s => by
    simp [writeTo]
    rfl
  | .arr items => by
    rw [writeTo, writeTo, bytesOf_push, bytesOf_push, bytesOf_writeItems (out.push '['),
      bytesOf_writeItems ("".push '[')]
    simp
    rfl
  | .obj members => by
    rw [writeTo, writeTo, bytesOf_push, bytesOf_push, bytesOf_writeMembers (out.push '{'),
      bytesOf_writeMembers ("".push '{')]
    simp
    rfl

theorem bytesOf_writeItems (out : String) (first : Bool) : ∀ items : List Json,
    bytesOf (writeItems out first items) = bytesOf out ++ bytesOf (writeItems "" first items)
  | [] => by simp [writeItems]
  | j :: rest => by
    rw [writeItems, writeItems, bytesOf_writeItems _ false rest, bytesOf_writeItems (writeTo _ j) false rest,
      bytesOf_writeTo _ j, bytesOf_writeTo (if first then "" else "".push ',') j]
    cases first <;> simp
    rfl

theorem bytesOf_writeMembers (out : String) (first : Bool) : ∀ members : List (String × Json),
    bytesOf (writeMembers out first members) = bytesOf out ++ bytesOf (writeMembers "" first members)
  | [] => by simp [writeMembers]
  | (k, v) :: rest => by
    rw [writeMembers, writeMembers, bytesOf_writeMembers _ false rest, bytesOf_writeMembers (writeTo _ v) false rest,
      bytesOf_writeTo _ v, bytesOf_writeTo (((k.foldl escapeChar ((if first then "" else "".push ',').push '"')).push '"').push ':') v]
    cases first <;> simp <;> rfl

end

/-- The bytes of a value's compact text. -/
def textOf (j : Json) : List UInt8 := bytesOf (render j)

/-- The bytes of a string literal's body: each character in its escaped form. -/
def escaped (cs : List Char) : List UInt8 := cs.flatMap fun c => bytesOf (escapeChar "" c)

theorem textOf_str (s : String) : textOf (.str s) = 34 :: escaped s.toList ++ [34] := by
  simp [textOf, render, writeTo, escaped]
  rfl

theorem textOf_arr (items : List Json) :
    textOf (.arr items) = 91 :: bytesOf (writeItems "" true items) ++ [93] := by
  rw [textOf, render, writeTo, bytesOf_push, bytesOf_writeItems]
  rfl

theorem textOf_obj (members : List (String × Json)) :
    textOf (.obj members) = 123 :: bytesOf (writeMembers "" true members) ++ [125] := by
  rw [textOf, render, writeTo, bytesOf_push, bytesOf_writeMembers]
  rfl

/-- The separator written before an item or a member: nothing before the
first, a comma before every other. -/
def separator (first : Bool) : List UInt8 := if first then [] else [44]

theorem bytesOf_writeItems_cons (first : Bool) (j : Json) (rest : List Json) :
    bytesOf (writeItems "" first (j :: rest)) =
      separator first ++ textOf j ++ bytesOf (writeItems "" false rest) := by
  rw [writeItems, bytesOf_writeItems, bytesOf_writeTo, textOf, render]
  cases first <;> rfl

theorem bytesOf_writeMembers_cons (first : Bool) (k : String) (v : Json) (rest : List (String × Json)) :
    bytesOf (writeMembers "" first ((k, v) :: rest)) =
      separator first ++ textOf (.str k) ++ [58] ++ textOf v ++ bytesOf (writeMembers "" false rest) := by
  rw [writeMembers, bytesOf_writeMembers, bytesOf_writeTo, textOf_str, textOf, render]
  cases first <;> simp [escaped] <;> rfl

/-! ### Reading bytes one at a time -/

variable {b : ByteArray} {p depth : Nat}

@[simp] theorem exec_peek : peek.exec b ⟨p, depth⟩ = (.ok (byteAt b p), ⟨p, depth⟩) := rfl
@[simp] theorem exec_eat : eat.exec b ⟨p, depth⟩ = (.ok (), ⟨p + 1, depth⟩) := rfl
@[simp] theorem exec_pos : pos.exec b ⟨p, depth⟩ = (.ok p, ⟨p, depth⟩) := rfl
@[simp] theorem exec_setPos (q : Nat) : (setPos q).exec b ⟨p, depth⟩ = (.ok (), ⟨q, depth⟩) := rfl

theorem exec_next {x : UInt8} (at_p : byteAt b p = some x) :
    next.exec b ⟨p, depth⟩ = (.ok (some x), ⟨p + 1, depth⟩) := by
  unfold next
  simp [exec_bind, at_p]

/-- Whether a byte is one the reader skips between tokens. -/
def blank (x : UInt8) : Bool := x == 32 || x == 9 || x == 10 || x == 13

theorem skipBlanks_go_stop (fuel : Nat) (stops : ∀ x, byteAt b p = some x → blank x = false) :
    skipBlanks.go b p (fuel + 1) = p := by
  unfold skipBlanks.go
  split <;> simp_all [blank]

theorem exec_skipBlanks (stops : ∀ x, byteAt b p = some x → blank x = false) :
    skipBlanks.exec b ⟨p, depth⟩ = (.ok (byteAt b p), ⟨p, depth⟩) := by
  unfold skipBlanks
  simp [exec_bind, skipBlanks_go_stop _ stops]

/-! ### Strings -/

/-- Whether a character is written as it is inside a string literal. -/
def plainChar (c : Char) : Bool := c != '"' && c != '\\' && 32 ≤ c.toNat

/-- Whether the string scanner passes over a byte. -/
def plainByte (x : UInt8) : Bool := !(x == 34 || x == 92 || x < 32)

theorem escapeChar_plain {c : Char} (plain : plainChar c = true) :
    bytesOf (escapeChar "" c) = String.utf8EncodeChar c := by
  simp only [plainChar, Bool.and_eq_true, bne_iff_ne, ne_eq, decide_eq_true_eq] at plain
  unfold escapeChar
  split <;> simp_all
  rw [if_neg (by omega), if_neg (by omega), if_neg (by omega)]
  simp

theorem plainByte_iff (x : UInt8) : plainByte x = true ↔ x.toNat ≠ 34 ∧ x.toNat ≠ 92 ∧ 32 ≤ x.toNat := by
  simp only [plainByte, Bool.not_eq_true', Bool.or_eq_false_iff, beq_eq_false_iff_ne, ne_eq,
    decide_eq_false_iff_not, ← UInt8.toNat_inj, UInt8.lt_iff_toNat_lt, UInt8.reduceToNat]
  omega

theorem plainByte_utf8EncodeChar {c : Char} (plain : plainChar c = true) :
    ∀ x ∈ String.utf8EncodeChar c, plainByte x = true := by
  simp only [plainChar, Bool.and_eq_true, bne_iff_ne, ne_eq, decide_eq_true_eq] at plain
  intro x mem
  have quote : c.toNat ≠ 34 := fun same => plain.1.1 (Char.toNat_inj.mp same)
  have backslash : c.toNat ≠ 92 := fun same => plain.1.2 (Char.toNat_inj.mp same)
  rw [plainByte_iff]
  unfold String.utf8EncodeChar at mem
  dsimp only at mem
  have value : c.toNat = c.val.toNat := rfl
  -- one byte below 128 is the character itself; every byte of a longer form is 128 or more
  split at mem <;> (try split at mem) <;> (try split at mem) <;>
    simp only [List.mem_cons, List.not_mem_nil, or_false] at mem <;>
    rcases mem with rfl | rfl | rfl | rfl <;> simp only [UInt8.toNat_ofNat'] <;> omega

theorem get!_of_holds {b : ByteArray} {p : Nat} {x : UInt8} {l : List UInt8} (holds : Holds b p (x :: l)) :
    b.get! p = x := by
  have at_p := byteAt_of_holds holds
  unfold byteAt at at_p
  split at at_p
  · cases at_p
    rcases b with ⟨bytes⟩
    exact getElem!_pos bytes p _
  · cases at_p

theorem Holds.tail {b : ByteArray} {p : Nat} {x : UInt8} {l : List UInt8} (holds : Holds b p (x :: l)) :
    Holds b (p + 1) l :=
  ((@holds_append b p [x] l).mp holds).2

theorem Holds.size_le {b : ByteArray} {p : Nat} {x : UInt8} {l : List UInt8} (holds : Holds b p (x :: l)) :
    p + (x :: l).length ≤ b.size := by
  have within := holds.length_le
  have total : b.data.toList.length = b.size := by simp
  simp only [List.length_drop, List.length_cons] at within ⊢
  omega

theorem utf8EncodeChar_of_lt {c : Char} (small : c.toNat < 128) :
    String.utf8EncodeChar c = [c.toNat.toUInt8] := by
  unfold String.utf8EncodeChar
  rw [if_pos (by change c.toNat ≤ 127; omega)]
  rfl

theorem exec_readHexEscape {b : ByteArray} {p : Nat} (depth : Nat) {w x y z : UInt8} {a c d e : Nat}
    (holds : Holds b p [w, x, y, z]) (hw : hexValue w = some a) (hx : hexValue x = some c)
    (hy : hexValue y = some d) (hz : hexValue z = some e) :
    readHexEscape.exec b ⟨p, depth⟩ = (.ok (((a * 16 + c) * 16 + d) * 16 + e), ⟨p + 4, depth⟩) := by
  have fits : p + 4 ≤ b.size := holds.size_le
  have second : Holds b (p + 1) [x, y, z] := holds.tail
  have third : Holds b (p + 2) [y, z] := second.tail
  have fourth : Holds b (p + 3) [z] := third.tail
  unfold readHexEscape
  simp only [exec_bind, exec_input, exec_pos]
  rw [if_pos fits]
  simp only [exec_bind, exec_setPos, get!_of_holds holds, get!_of_holds second, get!_of_holds third,
    get!_of_holds fourth, hw, hx, hy, hz, exec_pure]

/-- The byte of a hex digit below 16 as the writer spells it. -/
def hexByte (k : Nat) : UInt8 := if k < 10 then (48 + k).toUInt8 else (87 + k).toUInt8

theorem utf8EncodeChar_hexDigit {k : Nat} (small : k < 16) :
    String.utf8EncodeChar (hexDigit k) = [hexByte k] := by
  interval_cases k <;> decide

theorem hexValue_hexByte {k : Nat} (small : k < 16) : hexValue (hexByte k) = some k := by
  interval_cases k <;> decide

theorem singleton_toByteArray (x : UInt8) : [x].toByteArray = ⟨#[x]⟩ := by
  apply ByteArray.ext
  simp [List.data_toByteArray]

theorem readEscape_escapeChar {c : Char} (special : plainChar c = false) :
    ∃ tail, bytesOf (escapeChar "" c) = 92 :: tail ∧
      ∀ b p depth, Holds b p tail →
        readEscape.exec b ⟨p, depth⟩ = (.ok (String.utf8EncodeChar c).toByteArray, ⟨p + tail.length, depth⟩) := by
  unfold escapeChar
  split
  -- the five characters with a letter of their own after the backslash
  case h_1 => exact ⟨[34], rfl, fun b p depth holds => by simp [readEscape, exec_bind, exec_next (byteAt_of_holds holds)]; rfl⟩
  case h_2 => exact ⟨[92], rfl, fun b p depth holds => by simp [readEscape, exec_bind, exec_next (byteAt_of_holds holds)]; rfl⟩
  case h_3 => exact ⟨[110], rfl, fun b p depth holds => by simp [readEscape, exec_bind, exec_next (byteAt_of_holds holds)]; rfl⟩
  case h_4 => exact ⟨[114], rfl, fun b p depth holds => by simp [readEscape, exec_bind, exec_next (byteAt_of_holds holds)]; rfl⟩
  case h_5 => exact ⟨[116], rfl, fun b p depth holds => by simp [readEscape, exec_bind, exec_next (byteAt_of_holds holds)]; rfl⟩
  case h_6 quote backslash _ _ _ =>
    have small : c.toNat < 128 → String.utf8EncodeChar c = [c.toNat.toUInt8] := utf8EncodeChar_of_lt
    split
    · rename_i eight
      have value : c.toNat = 8 := by simpa using eight
      refine ⟨[98], rfl, fun b p depth holds => ?_⟩
      rw [small (by omega), value, singleton_toByteArray]
      simp [readEscape, exec_bind, exec_next (byteAt_of_holds holds)]
    · split
      · rename_i twelve
        have value : c.toNat = 12 := by simpa using twelve
        refine ⟨[102], rfl, fun b p depth holds => ?_⟩
        rw [small (by omega), value, singleton_toByteArray]
        simp [readEscape, exec_bind, exec_next (byteAt_of_holds holds)]
      · split
        · rename_i control
          -- the other control characters are written as four hex digits
          refine ⟨[117, 48, 48, hexByte (c.toNat / 16), hexByte (c.toNat % 16)], ?_,
            fun b p depth holds => ?_⟩
          · simp [utf8EncodeChar_hexDigit (by omega : c.toNat / 16 < 16),
              utf8EncodeChar_hexDigit (Nat.mod_lt c.toNat (by omega : 16 > 0))]
            rfl
          · have digits := exec_readHexEscape depth holds.tail (by rfl : hexValue 48 = some 0)
              (by rfl : hexValue 48 = some 0)
              (hexValue_hexByte (by omega : c.toNat / 16 < 16))
              (hexValue_hexByte (Nat.mod_lt c.toNat (by omega : 16 > 0)))
            have value : ((0 * 16 + 0) * 16 + c.toNat / 16) * 16 + c.toNat % 16 = c.toNat := by omega
            rw [value] at digits
            rw [small (by omega), singleton_toByteArray]
            simp only [readEscape, exec_bind, exec_next (byteAt_of_holds holds)]
            simp only [readUnicodeEscape, exec_bind, digits]
            rw [if_neg (by simp; omega), if_pos (by simp; omega)]
            simp only [utf8Bytes, if_pos (by omega : c.toNat < 0x80), exec_pure, List.length_cons,
              List.length_nil]
        · rename_i notControl
          exfalso
          simp only [plainChar, Bool.and_eq_false_iff, bne_eq_false_iff_eq, decide_eq_false_iff_not,
            Nat.not_le] at special
          rcases special with (same | same) | control
          · exact quote same
          · exact backslash same
          · exact notControl control

theorem scanPlain_go {b : ByteArray} : ∀ (l : List UInt8) (p fuel : Nat), Holds b p l →
    (∀ x ∈ l, plainByte x = true) → (∀ x, byteAt b (p + l.length) = some x → plainByte x = false) →
    l.length < fuel → scanPlain.go b p fuel = p + l.length
  | [], p, fuel + 1, _, _, stops, _ => by
    unfold scanPlain.go
    cases at_p : byteAt b p with
    | none => rfl
    | some x =>
      have := stops x (by simpa using at_p)
      simp only [plainByte, Bool.not_eq_false'] at this
      simp [this]
  | x :: l, p, fuel + 1, holds, plain, stops, short => by
    unfold scanPlain.go
    rw [byteAt_of_holds holds]
    have passes := plain x List.mem_cons_self
    simp only [plainByte, Bool.not_eq_true'] at passes
    simp only [passes, Bool.false_eq_true, if_false]
    rw [scanPlain_go l (p + 1) fuel holds.tail (fun y mem => plain y (List.mem_cons_of_mem x mem))
      (by simpa [Nat.add_assoc, Nat.add_comm 1] using stops) (by simp at short; omega)]
    simp only [List.length_cons]
    omega

theorem escaped_append (cs ds : List Char) : escaped (cs ++ ds) = escaped cs ++ escaped ds := by
  simp [escaped]

theorem escaped_plain {cs : List Char} (plain : ∀ c ∈ cs, plainChar c = true) :
    escaped cs = cs.flatMap String.utf8EncodeChar := by
  unfold escaped
  exact List.flatMap_congr fun c mem => escapeChar_plain (plain c mem)

theorem size_le_of_byteAt {b : ByteArray} {q : Nat} {x : UInt8} (at_q : byteAt b q = some x) :
    q + 1 ≤ b.size := by
  unfold byteAt at at_q
  split at at_q
  · omega
  · cases at_q

theorem readStringBody_go {b : ByteArray} : ∀ (fuel : Nat) (cs : List Char) (scratch : ByteArray) (p depth : Nat),
    cs.length < fuel → Holds b p (escaped cs ++ [34]) →
    (readStringBody.go b scratch fuel).exec b ⟨p, depth⟩ =
      (.ok (scratch ++ (cs.flatMap String.utf8EncodeChar).toByteArray), ⟨p + (escaped cs).length + 1, depth⟩)
  | fuel + 1, cs, scratch, p, depth, short, holds => by
    -- one pass takes the characters written as they are, then one escape or the closing quote
    obtain ⟨plain, rest, split, plainPart, restStart⟩ : ∃ plain rest, cs = plain ++ rest ∧
        (∀ c ∈ plain, plainChar c = true) ∧ ∀ e ∈ rest.head?, plainChar e = false :=
      ⟨cs.takeWhile plainChar, cs.dropWhile plainChar, (List.takeWhile_append_dropWhile).symm,
        fun c mem => List.mem_takeWhile_imp mem, fun e mem => by
          have := List.head?_dropWhile_not plainChar cs
          rw [Option.mem_def.mp mem] at this
          exact this⟩
    subst split
    rw [escaped_append, List.append_assoc, holds_append, escaped_plain plainPart] at holds
    obtain ⟨plainHolds, restHolds⟩ := holds
    -- the scan stops at the first byte after the plain characters
    have scan : ∀ x, byteAt b (p + (plain.flatMap String.utf8EncodeChar).length) = some x →
        plainByte x = false → scanPlain b p = p + (plain.flatMap String.utf8EncodeChar).length := by
      intro x stopAt stops
      unfold scanPlain
      refine scanPlain_go _ p _ plainHolds
        (fun y mem => by
          obtain ⟨c, inPlain, inBytes⟩ := List.mem_flatMap.mp mem
          exact plainByte_utf8EncodeChar (plainPart c inPlain) y inBytes)
        (fun y at_stop => by rw [stopAt] at at_stop; cases at_stop; exact stops) ?_
      have := Nat.lt_of_lt_of_le (Nat.lt_add_one _) (size_le_of_byteAt stopAt)
      omega
    unfold readStringBody.go
    cases rest with
    | nil =>
      -- the closing quote
      have stopAt := byteAt_of_holds restHolds
      simp only [exec_bind, exec_pos, exec_setPos, scan 34 stopAt rfl, extract_of_holds plainHolds, stopAt,
        exec_eat, exec_pure]
      simp [escaped_plain plainPart]
    | cons e rest =>
      -- an escape, then the rest of the string
      obtain ⟨tail, written, reads⟩ := readEscape_escapeChar (restStart e rfl)
      rw [escaped, List.flatMap_cons, ← escaped, written] at restHolds
      simp only [List.cons_append, List.append_assoc] at restHolds
      have stopAt := byteAt_of_holds restHolds
      have tailHolds := (holds_append.mp restHolds.tail).1
      have restHolds' := (holds_append.mp restHolds.tail).2
      simp only [exec_bind, exec_pos, exec_setPos, scan 92 stopAt rfl, extract_of_holds plainHolds, stopAt,
        exec_eat, reads _ _ depth tailHolds]
      rw [readStringBody_go fuel rest _ _ depth (by simp at short; omega) restHolds']
      have escapedLength : (escaped (plain ++ e :: rest)).length =
          (plain.flatMap String.utf8EncodeChar).length + 1 + tail.length + (escaped rest).length := by
        rw [escaped_append, escaped_plain plainPart, escaped, List.flatMap_cons, ← escaped, written]
        simp only [List.length_append, List.length_cons]
        omega
      rw [escapedLength, List.flatMap_append, List.flatMap_cons, List.toByteArray_append,
        List.toByteArray_append]
      simp only [ByteArray.append_assoc, Nat.add_assoc]

theorem length_le_escaped (cs : List Char) : cs.length ≤ (escaped cs).length := by
  induction cs with
  | nil => simp [escaped]
  | cons c cs inductionHypothesis =>
    have nonempty : 0 < (bytesOf (escapeChar "" c)).length := by
      cases plain : plainChar c with
      | true =>
        rw [escapeChar_plain plain, List.length_pos_iff]
        exact String.utf8EncodeChar_ne_nil
      | false =>
        obtain ⟨tail, written, _⟩ := readEscape_escapeChar plain
        simp [written]
    rw [escaped, List.flatMap_cons, ← escaped, List.length_append, List.length_cons]
    omega

theorem exec_readStringBody {b : ByteArray} {p : Nat} (depth : Nat) (s : String)
    (holds : Holds b p (escaped s.toList ++ [34])) :
    readStringBody.exec b ⟨p, depth⟩ = (.ok s, ⟨p + (escaped s.toList).length + 1, depth⟩) := by
  have fits := (holds_append.mp holds).2.size_le
  have enough := length_le_escaped s.toList
  simp only [List.length_cons, List.length_nil] at fits
  unfold readStringBody
  simp only [exec_bind, exec_input]
  rw [readStringBody_go (b.size + 1) s.toList .empty p depth (by omega) holds]
  simp only [ByteArray.empty_append]
  have bytes : (s.toList.flatMap String.utf8EncodeChar).toByteArray = s.toUTF8 := by
    rw [String.toUTF8_eq_toByteArray, ← String.utf8Encode_toList]
    rfl
  rw [bytes, Pack.fromUTF8?_toUTF8]
  rfl

theorem exec_expectWord {b : ByteArray} {p : Nat} (depth : Nat) :
    ∀ word : List UInt8, Holds b p word → (expectWord word).exec b ⟨p, depth⟩ = (.ok (), ⟨p + word.length, depth⟩)
  | [], _ => rfl
  | x :: word, holds => by
    unfold expectWord
    simp only [exec_bind, exec_next (byteAt_of_holds holds), beq_self_eq_true, if_true]
    rw [exec_expectWord depth word holds.tail]
    simp only [List.length_cons]
    congr 2
    omega

/-! ### Numbers -/

/-- The byte after a number ends it: no digit, point or exponent follows. -/
def EndsNumber (o : Option UInt8) : Prop :=
  ∀ x, o = some x → isDigitByte x = false ∧ x ≠ 46 ∧ x ≠ 101 ∧ x ≠ 69

theorem toNat_of_isDigit {c : Char} (digit : c.isDigit = true) : 48 ≤ c.toNat ∧ c.toNat ≤ 57 := by
  simp only [Char.isDigit, Bool.and_eq_true, decide_eq_true_eq, UInt32.le_iff_toNat_le] at digit
  exact digit

theorem isDigitByte_digit {c : Char} (digit : c.isDigit = true) : isDigitByte c.toNat.toUInt8 = true := by
  have bounds := toNat_of_isDigit digit
  simp only [isDigitByte, Bool.and_eq_true, decide_eq_true_eq, UInt8.le_iff_toNat_le,
    Pack.toNat_toUInt8 (by omega : c.toNat < 256)]
  exact ⟨bounds.1, bounds.2⟩

theorem value_digit {c : Char} (digit : c.isDigit = true) : (c.toNat.toUInt8 - 48).toNat = c.toNat - 48 := by
  have bounds := toNat_of_isDigit digit
  rw [UInt8.toNat_sub_of_le _ _ (by rw [UInt8.le_iff_toNat_le, Pack.toNat_toUInt8 (by omega)]; simp; omega),
    Pack.toNat_toUInt8 (by omega)]
  rfl

theorem overflows_eq_false {acc d limit : Nat} (fits : acc * 10 + d ≤ limit) : overflows acc d limit = false := by
  unfold overflows
  simp only [Bool.and_eq_false_iff, decide_eq_false_iff_not, Bool.or_eq_false_iff, Nat.not_lt, Nat.not_le]
  omega

theorem exec_readNumberTail {b : ByteArray} {p : Nat} (depth sig : Nat) (ends : EndsNumber (byteAt b p)) :
    (readNumberTail true sig).exec b ⟨p, depth⟩ = (.ok (.unsigned sig), ⟨p, depth⟩) := by
  unfold readNumberTail
  simp only [exec_bind, exec_peek]
  split
  · rename_i point
    exact absurd rfl (ends 46 point).2.1
  · rename_i exponent
    exact absurd rfl (ends 101 exponent).2.2.1
  · rename_i exponent
    exact absurd rfl (ends 69 exponent).2.2.2
  · rfl

theorem ofDigitChars_ge (cs : List Char) (init : Nat) : init ≤ Nat.ofDigitChars 10 cs init := by
  rw [Nat.ofDigitChars_eq_ofDigitChars_zero]
  have := Nat.one_le_pow cs.length 10 (by omega)
  nlinarith

theorem readNumber_go {b : ByteArray} (depth : Nat) : ∀ (cs : List Char) (sig fuel p : Nat),
    (∀ c ∈ cs, c.isDigit = true) → Holds b p (cs.map fun c => c.toNat.toUInt8) →
    EndsNumber (byteAt b (p + cs.length)) → cs.length < fuel → Nat.ofDigitChars 10 cs sig ≤ u64Max →
    (readNumber.go true sig fuel).exec b ⟨p, depth⟩ =
      (.ok (.unsigned (Nat.ofDigitChars 10 cs sig)), ⟨p + cs.length, depth⟩)
  | [], sig, fuel + 1, p, _, _, ends, _, _ => by
    unfold readNumber.go
    simp only [exec_bind, exec_peek, List.length_nil, Nat.add_zero] at ends ⊢
    split
    · rename_i x at_p
      rw [if_neg (by simp [(ends x at_p).1])]
      exact exec_readNumberTail depth sig ends
    · exact exec_readNumberTail depth sig ends
  | c :: cs, sig, fuel + 1, p, digits, holds, ends, short, fits => by
    have digit := digits c List.mem_cons_self
    have step : Nat.ofDigitChars 10 (c :: cs) sig = Nat.ofDigitChars 10 cs (sig * 10 + (c.toNat - 48)) := by
      rw [Nat.ofDigitChars_cons, Nat.mul_comm]
      rfl
    have bound := ofDigitChars_ge cs (sig * 10 + (c.toNat - 48))
    unfold readNumber.go
    simp only [exec_bind, exec_peek, byteAt_of_holds holds, isDigitByte_digit digit, if_true, value_digit digit,
      overflows_eq_false (by omega : sig * 10 + (c.toNat - 48) ≤ u64Max), Bool.false_eq_true, if_false,
      exec_eat]
    rw [step, readNumber_go depth cs _ fuel (p + 1) (fun d mem => digits d (List.mem_cons_of_mem c mem)) holds.tail
      (by simpa [Nat.add_assoc, Nat.add_comm 1] using ends) (by simp at short; omega) (by rw [← step]; exact fits)]
    simp only [List.length_cons]
    congr 2
    omega

theorem bytesOf_toString (n : Nat) : bytesOf (toString n) = (Nat.toDigits 10 n).map fun c => c.toNat.toUInt8 := by
  rw [bytesOf_eq_flatMap, Nat.toString_eq_ofList_toDigits, String.toList_ofList]
  have ascii : ∀ c ∈ Nat.toDigits 10 n, String.utf8EncodeChar c = [c.toNat.toUInt8] := fun c mem =>
    utf8EncodeChar_of_lt (by
      have := toNat_of_isDigit (Nat.isDigit_of_mem_toDigits (by omega) (by omega) mem)
      omega)
  generalize Nat.toDigits 10 n = digits at ascii ⊢
  induction digits with
  | nil => rfl
  | cons c digits inductionHypothesis =>
    rw [List.flatMap_cons, ascii c List.mem_cons_self,
      inductionHypothesis (fun d mem => ascii d (List.mem_cons_of_mem c mem))]
    rfl

theorem toDigits_head {n : Nat} (positive : 0 < n) : ∃ c cs, Nat.toDigits 10 n = c :: cs ∧ c ≠ '0' := by
  induction n using Nat.strong_induction_on with
  | _ n inductionHypothesis =>
    rw [Nat.toDigits_eq_if (by omega)]
    split
    · exact ⟨_, [], rfl, by simp; omega⟩
    · obtain ⟨c, cs, digits, nonzero⟩ := inductionHypothesis (n / 10) (by omega) (by omega)
      exact ⟨c, cs ++ [Nat.digitChar (n % 10)], by rw [digits]; rfl, nonzero⟩

theorem exec_readNumber {b : ByteArray} {p : Nat} (depth n : Nat) (fits : n < 2 ^ 64)
    (holds : Holds b p (bytesOf (toString n)))
    (ends : EndsNumber (byteAt b (p + (bytesOf (toString n)).length))) :
    (readNumber true).exec b ⟨p, depth⟩ = (.ok (.unsigned n), ⟨p + (bytesOf (toString n)).length, depth⟩) := by
  rw [bytesOf_toString] at holds ends ⊢
  have digits : ∀ c ∈ Nat.toDigits 10 n, c.isDigit = true := fun c mem =>
    Nat.isDigit_of_mem_toDigits (by omega) (by omega) mem
  have value : Nat.ofDigitChars 10 (Nat.toDigits 10 n) 0 = n := Nat.ofDigitChars_toDigits (by omega) (by omega)
  rcases Nat.eq_zero_or_pos n with zero | positive
  · -- zero is the one number written with a leading 0
    subst zero
    rw [Nat.toDigits_zero] at holds ends ⊢
    unfold readNumber
    simp only [exec_bind, exec_next (byteAt_of_holds holds), show '0'.toNat.toUInt8 = 48 from rfl,
      exec_peek]
    simp only [List.map_cons, List.map_nil, List.length_cons, List.length_nil] at ends ⊢
    split
    · rename_i x at_next
      rw [if_neg (by simp [(ends x at_next).1])]
      exact exec_readNumberTail depth 0 ends
    · exact exec_readNumberTail depth 0 ends
  · obtain ⟨c, cs, split, nonzero⟩ := toDigits_head positive
    rw [split] at holds ends digits value ⊢
    unfold readNumber
    simp only [exec_bind, exec_next (byteAt_of_holds holds)]
    split
    · rename_i same
      cases same
    · rename_i same
      have bounds := toNat_of_isDigit (digits c List.mem_cons_self)
      have : c.toNat = 48 := by
        have := congrArg UInt8.toNat (Option.some.inj same)
        rwa [Pack.toNat_toUInt8 (by omega)] at this
      exact absurd (Char.toNat_inj.mp this) nonzero
    · rename_i x _ same
      cases same
      have digit := digits c List.mem_cons_self
      have first : Nat.ofDigitChars 10 (c :: cs) 0 = Nat.ofDigitChars 10 cs (c.toNat - 48) := by
        rw [Nat.ofDigitChars_cons]
        simp
      have fuel := holds.size_le
      simp only [List.length_cons, List.length_map] at fuel
      rw [if_pos (isDigitByte_digit digit)]
      simp only [exec_bind, exec_input, value_digit digit]
      rw [readNumber_go depth cs _ _ (p + 1) (fun d mem => digits d (List.mem_cons_of_mem c mem))
        (by simpa using holds.tail) (by simpa [Nat.add_assoc, Nat.add_comm 1] using ends) (by omega)
        (by rw [← first, value]; unfold u64Max; simp; omega), ← first, value]
      simp only [List.length_cons, List.length_map]
      congr 2
      omega

end Herald.Json
