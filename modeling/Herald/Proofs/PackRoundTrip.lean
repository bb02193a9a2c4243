import Mathlib
import Herald.Pack.Read
import Herald.Pack.Write

set_option autoImplicit false

/-!
# Reading back the binary encoding

The binary reader takes back every value the writer produces from the
content trees a frame is made of: booleans, unsigned integers of at most 64
bits, strings, byte strings, and arrays and maps of these, as long as the
encoding is shorter than 4 GiB (so every length fits its 32-bit header) and
the nesting stays within the reader's allowance. The reader gives an integer
the width of the marker it was written with, which the writer picks by its
value; nothing else changes.

`Reads r value encoded` says that the reader `r` yields `value` from the
bytes `encoded`, wherever they stand in the input and whatever follows them,
and stops right after them. Readers compose like the encodings concatenate
(`Reads.bind`), and the main theorem `readContent_reads` follows the writer's
recursion: a marker and its length, then the items.
-/

namespace Herald

mutual

/-- The content with every unsigned integer at the width `width` gives its value. -/
def Content.rewidth (width : Nat → Width) : Content → Content
  | .unsigned _ n => .unsigned (width n) n
  | .seq items => .seq (Content.rewidthItems width items)
  | .map entries => .map (Content.rewidthEntries width entries)
  | c => c

def Content.rewidthItems (width : Nat → Width) : List Content → List Content
  | [] => []
  | c :: rest => c.rewidth width :: Content.rewidthItems width rest

/-- `Content.rewidth` on each key and value. -/
def Content.rewidthEntries (width : Nat → Width) :
    List (Content × Content) → List (Content × Content)
  | [] => []
  | (k, v) :: rest => (k.rewidth width, v.rewidth width) :: Content.rewidthEntries width rest

end

theorem Content.rewidthItems_eq_map (width : Nat → Width) (items : List Content) :
    Content.rewidthItems width items = items.map (·.rewidth width) := by
  induction items with
  | nil => rfl
  | cons c rest inductionHypothesis => rw [Content.rewidthItems, inductionHypothesis, List.map_cons]

theorem Content.rewidthEntries_eq_map (width : Nat → Width) (entries : List (Content × Content)) :
    Content.rewidthEntries width entries =
      entries.map fun e => (e.1.rewidth width, e.2.rewidth width) := by
  induction entries with
  | nil => rfl
  | cons e rest inductionHypothesis =>
    obtain ⟨k, v⟩ := e
    rw [Content.rewidthEntries, inductionHypothesis, List.map_cons]

end Herald

namespace Herald.Pack

/-! ### Big-endian numbers -/

theorem length_data_toList (b : ByteArray) : b.data.toList.length = b.size := by
  rw [Array.length_toList]; rfl

theorem foldl_loop {β : Type} (f : β → UInt8 → β) (b : ByteArray) :
    ∀ (i j : Nat) (acc : β), i + j = b.size →
      ByteArray.foldlM.loop (fun x y => (pure (f x y) : Id β)) b b.size (Nat.le_refl _) i j acc =
        (b.data.toList.drop j).foldl f acc := by
  intro i
  -- `i` counts the bytes still to fold
  induction i with
  | zero =>
    intro j acc total
    unfold ByteArray.foldlM.loop
    have past : b.data.toList.drop j = [] := by
      rw [List.drop_eq_nil_iff, length_data_toList]; omega
    split <;> (rw [past]; rfl)
  | succ i inductionHypothesis =>
    intro j acc total
    unfold ByteArray.foldlM.loop
    have inside : j < b.size := by omega
    rw [dif_pos inside]
    have step : b.data.toList.drop j = b[j] :: b.data.toList.drop (j + 1) := by
      rw [List.drop_eq_getElem_cons (by rw [length_data_toList]; omega)]
      simp [ByteArray.getElem_eq_getElem_data]
    rw [step, List.foldl_cons, ← inductionHypothesis (j + 1) (f acc b[j]) (by omega)]
    rfl

theorem byteArray_foldl {β : Type} (f : β → UInt8 → β) (init : β) (b : ByteArray) :
    b.foldl f init = b.data.toList.foldl f init := by
  unfold ByteArray.foldl ByteArray.foldlM
  simp only [Nat.le_refl, dite_true, Nat.sub_zero]
  exact foldl_loop f b b.size 0 init (by omega)

theorem length_beBytes (w n : Nat) : (beBytes w n).length = w := by
  simp [beBytes]

theorem foldl_digits (b w n acc : Nat) :
    ((List.range w).reverse.map fun i => n / b ^ i % b).foldl (fun a x => a * b + x) acc =
      acc * b ^ w + n % b ^ w := by
  induction w generalizing acc with
  | zero => simp [Nat.mod_one]
  | succ w inductionHypothesis =>
    rw [List.range_succ, List.reverse_append, List.reverse_singleton, List.singleton_append,
      List.map_cons, List.foldl_cons, inductionHypothesis, Nat.mod_pow_succ, pow_succ]
    ring

theorem foldl_beBytes (w n acc : Nat) :
    (beBytes w n).foldl (fun a x => a * 256 + x.toNat) acc = acc * 256 ^ w + n % 256 ^ w := by
  rw [← foldl_digits, beBytes, List.foldl_map, List.foldl_map]
  congr
  funext a i
  simp [Nat.toUInt8]

theorem beNat_beBytes (w n : Nat) (fits : n < 256 ^ w) : beNat ⟨(beBytes w n).toArray⟩ = n := by
  rw [beNat, byteArray_foldl, foldl_beBytes, Nat.mod_eq_of_lt fits]
  simp

/-! ### Running a reader -/

section Run
variable {α β : Type} (b : ByteArray) (p : Nat)

@[simp] theorem run_read : ((read : PackM ByteArray).run b).run p = .ok (b, p) := rfl
@[simp] theorem run_get : ((get : PackM Nat).run b).run p = .ok (p, p) := rfl
@[simp] theorem run_set (q : Nat) : ((set q : PackM PUnit).run b).run p = .ok (⟨⟩, q) := rfl
@[simp] theorem run_pure (a : α) : ((pure a : PackM α).run b).run p = .ok (a, p) := rfl
@[simp] theorem run_throw (e : String) : ((throw e : PackM α).run b).run p = .error e := rfl

@[simp] theorem run_bind (x : PackM α) (f : α → PackM β) :
    ((x >>= f).run b).run p =
      match (x.run b).run p with
      | .ok (a, q) => ((f a).run b).run q
      | .error e => .error e := by
  unfold ReaderT.run StateT.run
  show (x b p).bind _ = _
  cases x b p <;> rfl

end Run

/-- `r` reads `value` from its encoding `encoded`, wherever the encoding stands
in the input and whatever follows it. -/
def Reads {α : Type} (r : PackM α) (value : α) (encoded : ByteArray) : Prop :=
  ∀ pre post, (r.run (pre ++ encoded ++ post)).run pre.size = .ok (value, pre.size + encoded.size)

namespace Reads

variable {α β : Type}

theorem pure (a : α) : Reads (Pure.pure a : PackM α) a ByteArray.empty := by
  intro pre post
  simp only [ByteArray.append_empty, ByteArray.size_empty, Nat.add_zero]
  rfl

theorem bind {x : PackM α} {f : α → PackM β} {a : α} {c : β} {ea eb : ByteArray}
    (first : Reads x a ea) (second : Reads (f a) c eb) : Reads (x >>= f) c (ea ++ eb) := by
  intro pre post
  have regroup : pre ++ (ea ++ eb) ++ post = pre ++ ea ++ (eb ++ post) := by
    simp only [ByteArray.append_assoc]
  have shifted : pre ++ ea ++ (eb ++ post) = pre ++ ea ++ eb ++ post := by
    simp only [ByteArray.append_assoc]
  rw [run_bind, regroup, first pre (eb ++ post)]
  show ((f a).run (pre ++ ea ++ (eb ++ post))).run (pre.size + ea.size) = _
  rw [← ByteArray.size_append, shifted, second (pre ++ ea) post, ByteArray.size_append,
    ByteArray.size_append, Nat.add_assoc]

theorem bind_pure {x : PackM α} {g : α → β} {a : α} {ea : ByteArray} (first : Reads x a ea) :
    Reads (x >>= fun a => Pure.pure (g a)) (g a) ea := by
  have := @Reads.bind α β x (fun a => Pure.pure (g a)) a (g a) ea .empty first (Reads.pure (g a))
  rwa [ByteArray.append_empty] at this

end Reads

/-! ### Bytes, fixed fields and slices -/

def byte (m : UInt8) : ByteArray := ⟨#[m]⟩

@[simp] theorem size_byte (m : UInt8) : (byte m).size = 1 := rfl

@[simp] theorem size_mk (a : Array UInt8) : (⟨a⟩ : ByteArray).size = a.size := rfl

theorem size_toUTF8 (s : String) : s.toUTF8.size = s.utf8ByteSize := String.size_toByteArray

theorem readMarker_run (b : ByteArray) (p : Nat) (inside : p < b.size) :
    (readMarker.run b).run p = .ok (b[p], p + 1) := by
  simp only [readMarker, run_bind, run_read, run_get, dif_pos inside]
  rfl

theorem readFixed_run (b : ByteArray) (p n : Nat) (fits : p + n ≤ b.size) :
    ((readFixed n).run b).run p = .ok (b.extract p (p + n), p + n) := by
  simp only [readFixed, run_bind, run_read, run_get, if_pos fits]
  rfl

theorem readSlice_run (b : ByteArray) (p n : Nat) (fits : p + n ≤ b.size) :
    ((readSlice n).run b).run p = .ok (b.extract p (p + n), p + n) := by
  simp only [readSlice, run_bind, run_read, run_get, if_pos fits]
  rfl

theorem getElem_middle (pre post : ByteArray) (m : UInt8)
    (inside : pre.size < (pre ++ byte m ++ post).size) : (pre ++ byte m ++ post)[pre.size] = m := by
  rw [ByteArray.getElem_append_left (by simp [ByteArray.size_append]),
    ByteArray.getElem_append_right (by omega)]
  simp only [Nat.sub_self]
  rfl

theorem extract_middle (pre x post : ByteArray) :
    (pre ++ x ++ post).extract pre.size (pre.size + x.size) = x := by
  have whole := @ByteArray.extract_append_size_add pre (x ++ post) 0 x.size
  rw [Nat.add_zero] at whole
  rw [ByteArray.append_assoc, whole, ByteArray.extract_append_eq_left rfl]

theorem readMarker_reads (m : UInt8) : Reads readMarker m (byte m) := by
  intro pre post
  have inside : pre.size < (pre ++ byte m ++ post).size := by
    simp only [ByteArray.size_append, size_byte]; omega
  rw [readMarker_run _ _ inside, getElem_middle pre post m inside]
  rfl

theorem readFixed_reads (x : ByteArray) : Reads (readFixed x.size) x x := by
  intro pre post
  rw [readFixed_run _ _ _ (by simp [ByteArray.size_append]), extract_middle]

theorem readSlice_reads (x : ByteArray) : Reads (readSlice x.size) x x := by
  intro pre post
  rw [readSlice_run _ _ _ (by simp [ByteArray.size_append]), extract_middle]

def bigEndian (width n : Nat) : ByteArray := ⟨(beBytes width n).toArray⟩

@[simp] theorem size_bigEndian (width n : Nat) : (bigEndian width n).size = width := by
  simp [bigEndian, length_beBytes]

theorem bigEndian_one (n : Nat) : bigEndian 1 n = byte n.toUInt8 := by
  apply ByteArray.ext
  simp [bigEndian, byte, beBytes, UInt8.ofNat_mod_size']

theorem readUnsigned_reads (width n : Nat) (fits : n < 256 ^ width) :
    Reads (readUnsigned width) n (bigEndian width n) := by
  intro pre post
  have field := readFixed_reads (bigEndian width n) pre post
  rw [size_bigEndian] at field
  simp only [readUnsigned, run_bind, field, run_pure, size_bigEndian]
  rw [bigEndian, beNat_beBytes width n fits]

theorem toNat_toUInt8 {n : Nat} (small : n < 256) : n.toUInt8.toNat = n := by
  simp; omega

theorem fromUTF8?_toUTF8 (s : String) : String.fromUTF8? s.toUTF8 = some s := by
  simp only [String.fromUTF8?]
  exact (dif_pos s.isValidUTF8).trans rfl

theorem readText_reads (s : String) :
    Reads (readText s.utf8ByteSize) (.value (.str s)) s.toUTF8 := by
  have slice := readSlice_reads s.toUTF8
  rw [size_toUTF8] at slice
  intro pre post
  simp only [readText, run_bind, slice pre post, fromUTF8?_toUTF8]
  rfl

/-! ### What the writer produces -/

theorem mk_cons (a : UInt8) (l : List UInt8) :
    (⟨(a :: l).toArray⟩ : ByteArray) = byte a ++ ⟨l.toArray⟩ := by
  apply ByteArray.ext
  simp [byte]

theorem push_eq (out : ByteArray) (a : UInt8) : out.push a = out ++ byte a := by
  apply ByteArray.ext
  simp [byte]

theorem bytes_single (a : UInt8) : (⟨#[a]⟩ : ByteArray) = byte a := rfl

theorem bytes_marker (a : UInt8) (w n : Nat) :
    (⟨(a :: beBytes w n).toArray⟩ : ByteArray) = byte a ++ bigEndian w n := mk_cons a _

theorem bytes_marker_one (a : UInt8) (n : Nat) :
    (⟨[a, n.toUInt8].toArray⟩ : ByteArray) = byte a ++ bigEndian 1 n := by
  rw [bigEndian_one]; exact mk_cons a [n.toUInt8]

mutual

theorem writeTo_eq (out : ByteArray) : ∀ c : Content, writeTo out c = out ++ encode c
  | .bool b => by simp only [writeTo, encode, push_eq, ByteArray.empty_append]
  | .unsigned _ n => by simp only [writeTo, encode, ByteArray.empty_append]
  | .signed _ i => by simp only [writeTo, encode, ByteArray.empty_append]
  | .float f => by simp only [writeTo, encode, ByteArray.empty_append]
  | .str s => by simp only [writeTo, encode, ByteArray.empty_append, ByteArray.append_assoc]
  | .bytes b => by simp only [writeTo, encode, ByteArray.empty_append, ByteArray.append_assoc]
  | .none => by simp only [writeTo, encode, push_eq, ByteArray.empty_append]
  | .unit => by simp only [writeTo, encode, push_eq, ByteArray.empty_append]
  | .some c => by simp only [writeTo, encode]; exact writeTo_eq out c
  | .seq items => by
    simp only [writeTo, encode, ByteArray.empty_append]
    rw [writeItems_eq (out ++ _), writeItems_eq ⟨(arrayHeader items.length).toArray⟩,
      ByteArray.append_assoc]
  | .map entries => by
    simp only [writeTo, encode, ByteArray.empty_append]
    rw [writeEntries_eq (out ++ _), writeEntries_eq ⟨(mapHeader entries.length).toArray⟩,
      ByteArray.append_assoc]
  | .newtype c => by simp only [writeTo, encode]; exact writeTo_eq out c

theorem writeItems_eq (out : ByteArray) : ∀ items : List Content,
    writeItems out items = out ++ writeItems .empty items
  | [] => by simp only [writeItems, ByteArray.append_empty]
  | c :: rest => by
    simp only [writeItems]
    rw [writeItems_eq, writeItems_eq (writeTo .empty c), writeTo_eq out, writeTo_eq .empty,
      ByteArray.empty_append, ByteArray.append_assoc]

theorem writeEntries_eq (out : ByteArray) : ∀ entries : List (Content × Content),
    writeEntries out entries = out ++ writeEntries .empty entries
  | [] => by simp only [writeEntries, ByteArray.append_empty]
  | (k, v) :: rest => by
    simp only [writeEntries]
    rw [writeEntries_eq, writeEntries_eq (writeTo (writeTo .empty k) v), writeTo_eq (writeTo out k),
      writeTo_eq out, writeTo_eq (writeTo .empty k), writeTo_eq .empty, ByteArray.empty_append]
    simp only [ByteArray.append_assoc]

end

theorem encode_str (s : String) :
    encode (.str s) = ⟨(strHeader s.utf8ByteSize).toArray⟩ ++ s.toUTF8 := by
  simp only [encode, writeTo, ByteArray.empty_append, size_toUTF8]

theorem encode_bytes (b : ByteArray) : encode (.bytes b) = ⟨(binHeader b.size).toArray⟩ ++ b := by
  simp only [encode, writeTo, ByteArray.empty_append]

theorem encode_bool (b : Bool) : encode (.bool b) = byte (if b then 0xc3 else 0xc2) := by
  simp only [encode, writeTo, push_eq, ByteArray.empty_append]

theorem encode_unsigned (w : Width) (n : Nat) :
    encode (.unsigned w n) = ⟨(unsignedBytes n).toArray⟩ := by
  simp only [encode, writeTo, ByteArray.empty_append]

section Concat
variable {β : Type} (enc : β → ByteArray)

/-- The encodings of the parts, one after the other. -/
def concat (parts : List β) : ByteArray := parts.foldr (fun b acc => enc b ++ acc) .empty

theorem size_le_concat {b : β} {parts : List β} (mem : b ∈ parts) :
    (enc b).size ≤ (concat enc parts).size := by
  induction parts with
  | nil => cases mem
  | cons a rest inductionHypothesis =>
    rw [concat, List.foldr_cons, ByteArray.size_append]
    cases mem with
    | head => omega
    | tail _ mem => have := inductionHypothesis mem; rw [concat] at this; omega

theorem length_le_concat {parts : List β} (nonempty : ∀ b ∈ parts, 0 < (enc b).size) :
    parts.length ≤ (concat enc parts).size := by
  induction parts with
  | nil => simp
  | cons a rest inductionHypothesis =>
    rw [concat, List.foldr_cons, ByteArray.size_append, List.length_cons]
    have first := nonempty a List.mem_cons_self
    have later := inductionHypothesis (fun b mem => nonempty b (List.mem_cons_of_mem a mem))
    rw [concat] at later
    omega

end Concat

theorem encode_seq (items : List Content) :
    encode (.seq items) = ⟨(arrayHeader items.length).toArray⟩ ++ concat encode items := by
  simp only [encode, writeTo, ByteArray.empty_append]
  rw [writeItems_eq]
  congr 1
  induction items with
  | nil => rfl
  | cons c rest inductionHypothesis =>
    rw [writeItems, writeItems_eq, inductionHypothesis, concat, concat, List.foldr_cons, writeTo_eq,
      ByteArray.empty_append]

theorem encode_map (entries : List (Content × Content)) :
    encode (.map entries) =
      ⟨(mapHeader entries.length).toArray⟩ ++ concat (fun e => encode e.1 ++ encode e.2) entries := by
  simp only [encode, writeTo, ByteArray.empty_append]
  rw [writeEntries_eq]
  congr 1
  induction entries with
  | nil => rfl
  | cons e rest inductionHypothesis =>
    obtain ⟨k, v⟩ := e
    rw [writeEntries, writeEntries_eq, inductionHypothesis, concat, concat, List.foldr_cons,
      writeTo_eq]
    rfl

/-! ### Markers -/

theorem readHead_str (s : String) (fits : s.utf8ByteSize < 2 ^ 32) :
    Reads readHead (.value (.str s)) (⟨(strHeader s.utf8ByteSize).toArray⟩ ++ s.toUTF8) := by
  unfold strHeader
  split
  case isTrue short =>
    refine (readMarker_reads _).bind ?_
    have marker : (0xa0 + s.utf8ByteSize).toUInt8.toNat = 0xa0 + s.utf8ByteSize :=
      toNat_toUInt8 (by omega)
    simp only [marker]
    rw [if_neg (by omega), if_neg (by omega), if_neg (by omega), if_pos (by omega),
      Nat.add_sub_cancel_left]
    exact readText_reads s
  split
  case isTrue byteLength =>
    rw [bytes_marker_one, ByteArray.append_assoc]
    refine (readMarker_reads _).bind ?_
    show Reads (readUnsigned 1 >>= readText) _ _
    exact (readUnsigned_reads 1 _ (by omega)).bind (readText_reads s)
  split
  case isTrue twoBytes =>
    rw [bytes_marker, ByteArray.append_assoc]
    refine (readMarker_reads _).bind ?_
    show Reads (readUnsigned 2 >>= readText) _ _
    exact (readUnsigned_reads 2 _ (by omega)).bind (readText_reads s)
  case isFalse fourBytes =>
    rw [bytes_marker, ByteArray.append_assoc]
    refine (readMarker_reads _).bind ?_
    show Reads (readUnsigned 4 >>= readText) _ _
    exact (readUnsigned_reads 4 _ (by omega)).bind (readText_reads s)

theorem readHead_bytes (b : ByteArray) (fits : b.size < 2 ^ 32) :
    Reads readHead (.value (.bytes b)) (⟨(binHeader b.size).toArray⟩ ++ b) := by
  have slice := readSlice_reads b
  unfold binHeader
  split
  case isTrue byteLength =>
    rw [bytes_marker_one, ByteArray.append_assoc]
    refine (readMarker_reads _).bind ?_
    show Reads (readUnsigned 1 >>= fun n => readSlice n >>= fun b => pure (Head.value (.bytes b))) _ _
    exact (readUnsigned_reads 1 _ (by omega)).bind slice.bind_pure
  split
  case isTrue twoBytes =>
    rw [bytes_marker, ByteArray.append_assoc]
    refine (readMarker_reads _).bind ?_
    show Reads (readUnsigned 2 >>= fun n => readSlice n >>= fun b => pure (Head.value (.bytes b))) _ _
    exact (readUnsigned_reads 2 _ (by omega)).bind slice.bind_pure
  case isFalse fourBytes =>
    rw [bytes_marker, ByteArray.append_assoc]
    refine (readMarker_reads _).bind ?_
    show Reads (readUnsigned 4 >>= fun n => readSlice n >>= fun b => pure (Head.value (.bytes b))) _ _
    exact (readUnsigned_reads 4 _ (by omega)).bind slice.bind_pure

theorem readHead_array (n : Nat) (fits : n < 2 ^ 32) :
    Reads readHead (.array n) ⟨(arrayHeader n).toArray⟩ := by
  unfold arrayHeader
  split
  case isTrue short =>
    rw [← @ByteArray.append_empty ⟨_⟩]
    refine (readMarker_reads _).bind ?_
    have marker : (0x90 + n).toUInt8.toNat = 0x90 + n := toNat_toUInt8 (by omega)
    simp only [marker]
    rw [if_neg (by omega), if_neg (by omega), if_pos (by omega), Nat.add_sub_cancel_left]
    exact Reads.pure _
  split
  case isTrue twoBytes =>
    rw [bytes_marker]
    refine (readMarker_reads _).bind ?_
    show Reads (readUnsigned 2 >>= fun n => pure (Head.array n)) _ _
    exact (readUnsigned_reads 2 _ (by omega)).bind_pure
  case isFalse fourBytes =>
    rw [bytes_marker]
    refine (readMarker_reads _).bind ?_
    show Reads (readUnsigned 4 >>= fun n => pure (Head.array n)) _ _
    exact (readUnsigned_reads 4 _ (by omega)).bind_pure

theorem readHead_map (n : Nat) (fits : n < 2 ^ 32) :
    Reads readHead (.map n) ⟨(mapHeader n).toArray⟩ := by
  unfold mapHeader
  split
  case isTrue short =>
    rw [← @ByteArray.append_empty ⟨_⟩]
    refine (readMarker_reads _).bind ?_
    have marker : (0x80 + n).toUInt8.toNat = 0x80 + n := toNat_toUInt8 (by omega)
    simp only [marker]
    rw [if_neg (by omega), if_pos (by omega), Nat.add_sub_cancel_left]
    exact Reads.pure _
  split
  case isTrue twoBytes =>
    rw [bytes_marker]
    refine (readMarker_reads _).bind ?_
    show Reads (readUnsigned 2 >>= fun n => pure (Head.map n)) _ _
    exact (readUnsigned_reads 2 _ (by omega)).bind_pure
  case isFalse fourBytes =>
    rw [bytes_marker]
    refine (readMarker_reads _).bind ?_
    show Reads (readUnsigned 4 >>= fun n => pure (Head.map n)) _ _
    exact (readUnsigned_reads 4 _ (by omega)).bind_pure

theorem readHead_bool (b : Bool) :
    Reads readHead (.value (.bool b)) (byte (if b then 0xc3 else 0xc2)) := by
  rw [← @ByteArray.append_empty (byte _)]
  refine (readMarker_reads _).bind ?_
  cases b
  case false => exact Reads.pure _
  case true => exact Reads.pure _

/-- The width the reader gives an unsigned integer: that of the smallest
marker form that holds it. -/
def widthOf (n : Nat) : Width :=
  if n < 256 then .w8 else if n < 65536 then .w16 else if n < 2 ^ 32 then .w32 else .w64

theorem readHead_unsigned (n : Nat) (fits : n < 2 ^ 64) :
    Reads readHead (.value (.unsigned (widthOf n) n)) ⟨(unsignedBytes n).toArray⟩ := by
  unfold unsignedBytes widthOf
  by_cases fixint : n < 128
  case pos =>
    simp only [if_pos fixint, if_pos (show n < 256 by omega)]
    rw [← @ByteArray.append_empty ⟨_⟩]
    refine (readMarker_reads _).bind ?_
    have marker : n.toUInt8.toNat = n := toNat_toUInt8 (by omega)
    simp only [marker]
    rw [if_pos fixint]
    exact Reads.pure _
  by_cases oneByte : n < 256
  case pos =>
    simp only [if_neg fixint, if_pos oneByte]
    rw [bytes_marker_one]
    refine (readMarker_reads _).bind ?_
    show Reads (readUnsigned 1 >>= fun n => pure (Head.value (.unsigned .w8 n))) _ _
    exact (readUnsigned_reads 1 _ (by omega)).bind_pure
  by_cases twoBytes : n < 65536
  case pos =>
    simp only [if_neg fixint, if_neg oneByte, if_pos twoBytes]
    rw [bytes_marker]
    refine (readMarker_reads _).bind ?_
    show Reads (readUnsigned 2 >>= fun n => pure (Head.value (.unsigned .w16 n))) _ _
    exact (readUnsigned_reads 2 _ (by omega)).bind_pure
  by_cases fourBytes : n < 2 ^ 32
  case pos =>
    simp only [if_neg fixint, if_neg oneByte, if_neg twoBytes, Nat.pow_eq, if_pos fourBytes]
    rw [bytes_marker]
    refine (readMarker_reads _).bind ?_
    show Reads (readUnsigned 4 >>= fun n => pure (Head.value (.unsigned .w32 n))) _ _
    exact (readUnsigned_reads 4 _ (by omega)).bind_pure
  simp only [if_neg fixint, if_neg oneByte, if_neg twoBytes, Nat.pow_eq, if_neg fourBytes]
  rw [bytes_marker]
  refine (readMarker_reads _).bind ?_
  show Reads (readUnsigned 8 >>= fun n => pure (Head.value (.unsigned .w64 n))) _ _
  exact (readUnsigned_reads 8 _ (by omega)).bind_pure

/-! ### Values -/

/-- Content whose binary encoding the reader takes back when it reads with
the nesting allowance `d`: booleans, unsigned integers of at most 64 bits,
strings and byte strings, and arrays and maps of such, each level of
nesting using one unit of the allowance. -/
inductive Packable : Nat → Content → Prop
  | bool {d : Nat} (b : Bool) : Packable (d + 1) (.bool b)
  | unsigned {d : Nat} (w : Width) {n : Nat} (fits : n < 2 ^ 64) : Packable (d + 1) (.unsigned w n)
  | str {d : Nat} (s : String) : Packable (d + 1) (.str s)
  | bytes {d : Nat} (b : ByteArray) : Packable (d + 1) (.bytes b)
  | seq {d : Nat} {items : List Content} (each : ∀ c ∈ items, Packable (d + 1) c) :
      Packable (d + 2) (.seq items)
  | map {d : Nat} {entries : List (Content × Content)}
      (keys : ∀ e ∈ entries, Packable (d + 1) e.1) (values : ∀ e ∈ entries, Packable (d + 1) e.2) :
      Packable (d + 2) (.map entries)

theorem size_encode_pos {d : Nat} {c : Content} (packable : Packable d c) : 0 < (encode c).size := by
  cases packable with
  | bool b => rw [encode_bool, size_byte]; omega
  | unsigned w fits =>
    rw [encode_unsigned]
    unfold unsignedBytes
    split <;> (try split) <;> (try split) <;> (try split) <;> simp
  | str s =>
    rw [encode_str, ByteArray.size_append]
    unfold strHeader
    split <;> (try split) <;> (try split) <;> simp
  | bytes b =>
    rw [encode_bytes, ByteArray.size_append]
    unfold binHeader
    split <;> (try split) <;> simp
  | seq each =>
    rw [encode_seq, ByteArray.size_append]
    unfold arrayHeader
    split <;> (try split) <;> simp
  | map keys values =>
    rw [encode_map, ByteArray.size_append]
    unfold mapHeader
    split <;> (try split) <;> simp

theorem forIn_range_zero {σ : Type} (n : Nat) (s : σ) (f : Nat → σ → PackM (ForInStep σ)) :
    forIn [:n] s f = forIn (List.range' 0 n) s f := by
  rw [Std.Legacy.Range.forIn_eq_forIn_range']
  simp [Std.Legacy.Range.size]

/-- A loop whose every pass reads one part, moving its state by `next`,
reads the parts' encodings one after the other. -/
theorem Reads.forIn_range {σ β : Type} (f : Nat → σ → PackM (ForInStep σ)) (next : σ → β → σ)
    (enc : β → ByteArray) :
    ∀ (parts : List β) (k : Nat) (s : σ),
      (∀ b ∈ parts, ∀ i s, Reads (f i s) (.yield (next s b)) (enc b)) →
      Reads (forIn (List.range' k parts.length) s f) (parts.foldl next s) (concat enc parts)
  | [], _, s, _ => Reads.pure s
  | b :: rest, k, s, pass => by
    rw [List.length_cons, List.range'_succ, List.forIn_cons, List.foldl_cons, concat,
      List.foldr_cons]
    refine (pass b List.mem_cons_self k s).bind ?_
    exact Reads.forIn_range f next enc rest (k + 1) (next s b)
      (fun b' mem => pass b' (List.mem_cons_of_mem b mem))

theorem Reads.enter (d : Nat) : Reads (enter (d + 2)) (d + 1) .empty := by
  unfold Pack.enter
  rw [if_neg (by omega)]
  exact Reads.pure _

theorem readContent_value {d : Nat} {c : Content} {e : ByteArray}
    (head : Reads readHead (.value c) e) : Reads (readContent (d + 1)) c e := by
  rw [← @ByteArray.append_empty e]
  exact head.bind (Reads.pure c)

/-- The reader takes back the encoding of packable content, each integer at
the width of its marker, provided the encoding is shorter than 4 GiB. -/
theorem readContent_reads {d : Nat} {c : Content} (packable : Packable d c)
    (fits : (encode c).size < 2 ^ 32) : Reads (readContent d) (c.rewidth widthOf) (encode c) := by
  induction packable with
  | bool b =>
    rw [encode_bool]
    exact readContent_value (readHead_bool b)
  | unsigned w fitsNat =>
    rw [encode_unsigned]
    exact readContent_value (readHead_unsigned _ fitsNat)
  | str s =>
    rw [encode_str] at fits ⊢
    rw [ByteArray.size_append, size_toUTF8] at fits
    exact readContent_value (readHead_str s (by omega))
  | bytes b =>
    rw [encode_bytes] at fits ⊢
    rw [ByteArray.size_append] at fits
    exact readContent_value (readHead_bytes b (by omega))
  | @seq d items each inductionHypothesis =>
    rw [encode_seq] at fits ⊢
    rw [ByteArray.size_append] at fits
    have count := length_le_concat encode (fun c mem => size_encode_pos (each c mem))
    refine (readHead_array items.length (by omega)).bind ?_
    dsimp only
    rw [← @ByteArray.empty_append (concat _ _)]
    refine (Reads.enter d).bind ?_
    rw [forIn_range_zero, Content.rewidth, Content.rewidthItems_eq_map]
    -- the loop pushes each item read onto the array it started with
    have pushed : (items.foldl (fun s c => s.push (c.rewidth widthOf)) #[]).toList =
        items.map (·.rewidth widthOf) := by simp
    rw [← pushed]
    refine Reads.bind_pure
      (Reads.forIn_range _ (fun s c => s.push (c.rewidth widthOf)) encode items 0 #[] ?_)
    intro c mem i s
    have part := size_le_concat encode mem
    exact (inductionHypothesis c mem (by omega)).bind_pure
  | @map d entries keys values keyHypothesis valueHypothesis =>
    rw [encode_map] at fits ⊢
    rw [ByteArray.size_append] at fits
    have count := length_le_concat (fun e : Content × Content => encode e.1 ++ encode e.2)
      (fun e mem => by
        have := size_encode_pos (keys e mem)
        rw [ByteArray.size_append]; omega)
    refine (readHead_map entries.length (by omega)).bind ?_
    dsimp only
    rw [← @ByteArray.empty_append (concat _ _)]
    refine (Reads.enter d).bind ?_
    rw [forIn_range_zero, Content.rewidth, Content.rewidthEntries_eq_map]
    have pushed :
        (entries.foldl (fun s e => s.push (e.1.rewidth widthOf, e.2.rewidth widthOf)) #[]).toList =
          entries.map (fun e => (e.1.rewidth widthOf, e.2.rewidth widthOf)) := by simp
    rw [← pushed]
    refine Reads.bind_pure (Reads.forIn_range _
      (fun (s : Array (Content × Content)) (e : Content × Content) =>
        s.push (e.1.rewidth widthOf, e.2.rewidth widthOf))
      (fun e : Content × Content => encode e.1 ++ encode e.2) entries 0 #[] ?_)
    intro e mem i s
    have part := size_le_concat (fun e : Content × Content => encode e.1 ++ encode e.2) mem
    rw [ByteArray.size_append] at part
    exact (keyHypothesis e mem (by omega)).bind ((valueHypothesis e mem (by omega)).bind_pure)

end Herald.Pack
