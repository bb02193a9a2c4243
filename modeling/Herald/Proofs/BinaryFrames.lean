import Mathlib
import Herald.Proofs.FieldDecoding
import Herald.Protocol.BinaryCodec

set_option autoImplicit false

/-!
# Length-prefixed binary frames

A frame travels as a 4-byte big-endian length and then its record in the
binary encoding, with `type` as its first entry. This module proves that the
frame decoder takes back every frame whose values the protocol's types hold:
from its payload, from a buffer that holds it followed by anything, and
from a buffer holding several frames one after another. A buffer that stops
inside a frame yields no frame and keeps its bytes.
-/

namespace Herald

open Pack

namespace Pack

theorem concat_cons {β : Type} (enc : β → ByteArray) (b : β) (parts : List β) :
    concat enc (b :: parts) = enc b ++ concat enc parts := rfl

end Pack

/-! ### Frame contents are packable -/

theorem packable_recordContent {d : Nat} {pairs : List (String × Content)}
    (values : ∀ p ∈ pairs, Packable (d + 1) p.2) : Packable (d + 2) (recordContent pairs) := by
  refine .map (fun e mem => ?_) (fun e mem => ?_)
  · obtain ⟨p, _, rfl⟩ := List.mem_map.mp mem
    exact .str _
  · obtain ⟨p, inPairs, rfl⟩ := List.mem_map.mp mem
    exact values p inPairs

theorem packable_uuidContent {d : Nat} (readable : Bool) (u : Uuid) :
    Packable (d + 1) (uuidContent readable u) := by
  unfold uuidContent
  split
  · exact .str _
  · exact .bytes _

theorem packable_num {d n : Nat} (fits : n < 2 ^ 64) : Packable (d + 1) (Frame.num n) := .unsigned _ fits

theorem Message.packable {d : Nat} (readable : Bool) (m : Message) : Packable (d + 2) (m.encode readable) := by
  apply packable_recordContent
  intro p mem
  cases receiver : m.receiverId <;> simp [receiver] at mem <;>
    rcases mem with rfl | rfl | rfl | rfl | rfl | rfl | rfl <;>
    first | exact packable_uuidContent _ _ | exact .str _

theorem Notification.packable {d : Nat} (readable : Bool) (n : Notification) :
    Packable (d + 2) (n.encode readable) := by
  apply packable_recordContent
  intro p mem
  simp at mem
  rcases mem with rfl | rfl | rfl | rfl | rfl | rfl | rfl <;>
    first | exact packable_uuidContent _ _ | exact .str _ | exact .bool _

theorem Event.packable {d : Nat} (readable : Bool) (e : Event) : Packable (d + 2) (e.encode readable) := by
  cases e with
  | message m => exact m.packable readable
  | notification n => exact n.packable readable

theorem Frame.packable_fieldValues {d : Nat} (readable : Bool) (f : Frame) (representable : f.Representable) :
    ∀ c, some c ∈ f.fieldValues readable → Packable (d + 3) c := by
  intro c mem
  rcases f with ⟨_ | id, content, _ | receiverId, _ | kind⟩ | ⟨id, _ | before, _ | limit⟩ |
    ⟨id, notificationId⟩ | ⟨_ | timestamp⟩ | ⟨_ | timestamp⟩ | ⟨connectionId, topic, version, heartbeat⟩ |
    m | n | ⟨id, items⟩ | ⟨id, _ | event⟩ | ⟨id, code, text⟩
  all_goals
    simp [Representable] at representable
    simp [fieldValues] at mem
  all_goals
    rcases mem with rfl | rfl | rfl | rfl
  all_goals try exact .str _
  all_goals try exact packable_num (by omega)
  case message => exact m.packable readable
  case notification => exact n.packable readable
  case historyResult.inr =>
    refine .seq fun c mem => ?_
    obtain ⟨e, _, rfl⟩ := List.mem_map.mp mem
    exact e.packable readable
  case ack.some.inr => exact event.packable readable
  case markRead.inr => exact packable_uuidContent readable notificationId

theorem RecordShape.value_mem_entriesOf {fields : List FieldSpec} {values : List (Option Content)}
    {e : Content × Content} (mem : e ∈ RecordShape.entriesOf fields values) : some e.2 ∈ values := by
  obtain ⟨⟨f, v⟩, inZip, written⟩ := List.mem_filterMap.mp mem
  cases v with
  | none => cases written
  | some c =>
    cases written
    exact (List.of_mem_zip inZip).2

theorem FrameType.names_ne_type (t : FrameType) : ∀ spec ∈ t.shape.fields, spec.name ≠ "type" := by
  cases t <;> decide

namespace Frame

theorem mem_entriesOf_of_mem_fields {readable : Bool} {f : Frame} {field : String × Content}
    (mem : field ∈ f.fields readable) :
    (Content.str field.1, field.2) ∈ RecordShape.entriesOf f.frameType.shape.fields (f.fieldValues readable) := by
  rw [← fields_eq]
  exact List.mem_map_of_mem mem

theorem key_ne_type {readable : Bool} {f : Frame} {field : String × Content}
    (mem : field ∈ f.fields readable) : field.1 ≠ "type" := by
  obtain ⟨spec, inShape, key⟩ := RecordShape.mem_entriesOf (mem_entriesOf_of_mem_fields mem)
  rw [Content.str.inj key]
  exact FrameType.names_ne_type _ spec inShape

theorem packable_field {d : Nat} {readable : Bool} {f : Frame} (representable : f.Representable)
    {field : String × Content} (mem : field ∈ f.fields readable) : Packable (d + 3) field.2 :=
  packable_fieldValues readable f representable _
    (RecordShape.value_mem_entriesOf (mem_entriesOf_of_mem_fields mem))

end Frame

/-! ### Reading a payload -/

theorem FrameType.ofTag_tag (t : FrameType) : FrameType.ofTag t.tag = .ok t := by
  cases t <;> rfl

theorem FrameType.tag_short (t : FrameType) : (encode (.str t.tag)).size < 2 ^ 32 := by
  cases t <;> decide

theorem readBinaryFrameType_reads (t : FrameType) : Reads readBinaryFrameType t (encode (.str t.tag)) := by
  have short := t.tag_short
  rw [encode_str, ByteArray.size_append, size_toUTF8] at short
  rw [encode_str, ← @ByteArray.append_empty (_ ++ _)]
  refine (readHead_str t.tag (by omega)).bind ?_
  simp only [FrameType.ofTag_tag]
  exact Reads.pure t

theorem foldl_second {α β γ : Type} (h : β → γ → β) (a : α) :
    ∀ (l : List γ) (b : β), l.foldl (fun s p => (s.1, h s.2 p)) (a, b) = (a, l.foldl h b)
  | [], _ => rfl
  | p :: l, b => foldl_second h a l (h b p)

theorem framePayload_eq (f : Frame) :
    framePayload f = ⟨(mapHeader ((f.fields false).length + 1)).toArray⟩ ++
      ((encode (.str "type") ++ encode (.str f.frameType.tag)) ++
        concat (fun field : String × Content => encode (.str field.1) ++ encode field.2) (f.fields false)) := by
  rw [framePayload, Frame.encode, recordContent, encode_map]
  simp [concat, List.foldr_map, ByteArray.append_assoc]

/-- The payload reader takes back a frame's kind and its fields, each integer
at the width of its marker. -/
theorem readBinaryTaggedFrame_reads (f : Frame) (representable : f.Representable)
    (fits : (framePayload f).size < 2 ^ 32) :
    Reads readBinaryTaggedFrame (f.frameType,
      (Content.map ((f.fields false).map fun field => (Content.str field.1, field.2))).rewidth widthOf)
      (framePayload f) := by
  rw [framePayload_eq] at fits ⊢
  simp only [ByteArray.size_append] at fits
  unfold readBinaryTaggedFrame
  have count := @length_le_concat _ (fun field : String × Content => encode (.str field.1) ++ encode field.2)
    (f.fields false) (fun field _ => by
      have := size_encode_pos (Packable.str field.1 : Packable 1 _)
      rw [ByteArray.size_append]; omega)
  have typeKey := size_encode_pos (Packable.str "type" : Packable 1 _)
  refine (readHead_map _ (by omega)).bind ?_
  dsimp only
  rw [forIn_range_zero, List.range'_succ, List.forIn_cons, show depthLimit - 1 = 1020 + 3 from rfl]
  rw [← @ByteArray.append_empty (_ ++ _)]
  refine @Reads.bind _ _ _ _ (some f.frameType,
    (f.fields false).foldl (fun es field => es.push (Content.str field.1, field.2.rewidth widthOf)) #[])
    _ _ _ ?_ ?_
  · refine @Reads.bind _ _ _ _ (ForInStep.yield (some f.frameType, #[])) _ _ _ ?_ ?_
    · refine (readContent_reads (.str "type") (by omega)).bind ?_
      dsimp only
      rw [if_pos (by decide), if_neg (by decide)]
      exact (readBinaryFrameType_reads f.frameType).bind_pure
    · dsimp only
      rw [← foldl_second, Nat.zero_add]
      refine Reads.forIn_range _
        (fun (s : Option FrameType × Array (Content × Content)) (field : String × Content) =>
          (s.1, s.2.push (Content.str field.1, field.2.rewidth widthOf)))
        (fun field : String × Content => encode (.str field.1) ++ encode field.2) (f.fields false) 1 (some f.frameType, #[]) ?_
      intro field mem i s
      have sizes := size_le_concat (fun field : String × Content => encode (.str field.1) ++ encode field.2) mem
      rw [ByteArray.size_append] at sizes
      refine (readContent_reads (.str field.1) (by omega)).bind ?_
      rw [if_neg (by simpa [Content.rewidth, isTypeKey] using Frame.key_ne_type mem)]
      exact (readContent_reads (Frame.packable_field representable mem) (by omega)).bind_pure
  · have entries : (Content.map ((f.fields false).map fun field => (Content.str field.1, field.2))).rewidth
        widthOf = .map (((f.fields false).foldl
          (fun es field => es.push (Content.str field.1, field.2.rewidth widthOf)) #[]).toList) := by
      rw [Content.rewidth, Content.rewidthEntries_eq_map]
      simp [Content.rewidth]
    rw [entries]
    exact Reads.pure _

theorem runPack_of_reads {α : Type} {r : PackM α} {a : α} {e : ByteArray} (reads : Reads r a e) :
    runPack r e = .ok a := by
  have whole := reads .empty .empty
  rw [ByteArray.empty_append, ByteArray.append_empty, ByteArray.size_empty] at whole
  unfold runPack
  rw [whole]
  rfl

theorem decodeFramePayload_framePayload (f : Frame) (representable : f.Representable)
    (fits : (framePayload f).size < 2 ^ 32) : decodeFramePayload (framePayload f) = .ok f := by
  unfold decodeFramePayload
  rw [runPack_of_reads (readBinaryTaggedFrame_reads f representable fits), except_ok_bind]
  dsimp only
  rw [Frame.decodeFields_encode Dialect.plain widthOf false f representable]
  rfl

/-! ### The length prefix -/

theorem encodeFrameBinary_ok {f : Frame} {b : ByteArray} (encoded : encodeFrameBinary f = .ok b) :
    (framePayload f).size ≤ maxFrameSize ∧ b = bigEndian 4 (framePayload f).size ++ framePayload f := by
  unfold encodeFrameBinary at encoded
  dsimp only at encoded
  split at encoded
  · cases encoded
  · cases encoded
    exact ⟨by omega, rfl⟩

theorem announcedLength_prefix {n : Nat} (fits : n < 2 ^ 32) (rest : ByteArray) :
    announcedLength (bigEndian 4 n ++ rest) = n := by
  unfold announcedLength
  rw [ByteArray.extract_append_eq_left (by simp)]
  exact beNat_beBytes 4 n (by omega)

theorem decodeFrameFrom_append {f : Frame} {b : ByteArray} (representable : f.Representable)
    (encoded : encodeFrameBinary f = .ok b) (rest : ByteArray) :
    decodeFrameFrom (b ++ rest) = .ok (some (f, rest)) := by
  obtain ⟨small, rfl⟩ := encodeFrameBinary_ok encoded
  have fits : (framePayload f).size < 2 ^ 32 := by unfold maxFrameSize at small; omega
  have length : announcedLength (bigEndian 4 (framePayload f).size ++ framePayload f ++ rest) =
      (framePayload f).size := by
    rw [ByteArray.append_assoc]
    exact announcedLength_prefix fits _
  have payload := extract_middle (bigEndian 4 (framePayload f).size) (framePayload f) rest
  rw [size_bigEndian] at payload
  unfold decodeFrameFrom
  simp only [length, ByteArray.size_append, size_bigEndian, lengthPrefixSize]
  rw [if_neg (by omega), if_neg (by omega), if_neg (by omega), payload,
    decodeFramePayload_framePayload f representable fits,
    ByteArray.extract_append_eq_right (by simp) (by simp)]

theorem decodeFrameBinary_encode {f : Frame} {b : ByteArray} (representable : f.Representable)
    (encoded : encodeFrameBinary f = .ok b) : decodeFrameBinary b = .ok f := by
  obtain ⟨small, rfl⟩ := encodeFrameBinary_ok encoded
  have fits : (framePayload f).size < 2 ^ 32 := by unfold maxFrameSize at small; omega
  have length := announcedLength_prefix fits (framePayload f)
  have payload := extract_middle (bigEndian 4 (framePayload f).size) (framePayload f) .empty
  rw [ByteArray.append_empty, size_bigEndian] at payload
  unfold decodeFrameBinary
  simp only [length, ByteArray.size_append, size_bigEndian, lengthPrefixSize]
  rw [if_neg (by omega), if_neg (by omega), if_neg (by omega), payload,
    decodeFramePayload_framePayload f representable fits]

theorem announcedLength_append (p q : ByteArray) (long : 4 ≤ p.size) :
    announcedLength (p ++ q) = announcedLength p := by
  unfold announcedLength
  rw [ByteArray.extract_append, Nat.sub_eq_zero_of_le (by omega), Nat.sub_eq_zero_of_le long,
    ByteArray.extract_same, ByteArray.append_empty]

theorem decodeFrameFrom_partial {f : Frame} {b p q : ByteArray} (encoded : encodeFrameBinary f = .ok b)
    (split : b = p ++ q) (missing : 0 < q.size) : decodeFrameFrom p = .ok none := by
  obtain ⟨small, rfl⟩ := encodeFrameBinary_ok encoded
  have fits : (framePayload f).size < 2 ^ 32 := by unfold maxFrameSize at small; omega
  have sizes := congrArg ByteArray.size split
  simp only [ByteArray.size_append, size_bigEndian] at sizes
  unfold decodeFrameFrom
  by_cases short : p.size < lengthPrefixSize
  · rw [if_pos short]
  · rw [if_neg short]
    have length : announcedLength p = (framePayload f).size := by
      unfold lengthPrefixSize at short
      rw [← announcedLength_append p q (by omega), ← split, announcedLength_prefix fits]
    simp only [length, lengthPrefixSize]
    rw [if_neg (by omega), if_pos (by omega)]

theorem size_encodeFrameBinary {f : Frame} {b : ByteArray} (encoded : encodeFrameBinary f = .ok b) :
    4 ≤ b.size := by
  obtain ⟨_, rfl⟩ := encodeFrameBinary_ok encoded
  simp

/-! ### Several frames in one buffer -/

theorem decodeFrameStream_go {fs : List Frame} {bs : List ByteArray}
    (encoded : List.Forall₂ (fun f b => f.Representable ∧ encodeFrameBinary f = .ok b) fs bs)
    {tail : ByteArray} (stuck : decodeFrameFrom tail = .ok none) :
    ∀ (acc : List Frame) (fuel : Nat), (concat id bs ++ tail).size < fuel →
      decodeFrameStream.go (concat id bs ++ tail) acc fuel = (acc.reverse ++ fs, tail, none) := by
  -- one frame taken off the front per unit of fuel, and each frame has bytes
  induction encoded with
  | nil =>
    intro acc fuel enough
    obtain ⟨fuel, rfl⟩ : ∃ k, fuel = k + 1 := ⟨fuel - 1, by omega⟩
    simp [concat, decodeFrameStream.go, stuck]
  | @cons f b fs bs frame _ inductionHypothesis =>
    intro acc fuel enough
    obtain ⟨fuel, rfl⟩ : ∃ k, fuel = k + 1 := ⟨fuel - 1, by omega⟩
    have positive := size_encodeFrameBinary frame.2
    rw [concat_cons, id, ByteArray.append_assoc] at enough ⊢
    rw [decodeFrameStream.go, decodeFrameFrom_append frame.1 frame.2]
    rw [ByteArray.size_append] at enough
    dsimp only
    rw [inductionHypothesis (f :: acc) fuel (by omega)]
    simp

/-- Encoded frames one after another, then a part too short to take, come
out as the frames in order with the part left over. -/
theorem decodeFrameStream_concat {fs : List Frame} {bs : List ByteArray}
    (encoded : List.Forall₂ (fun f b => f.Representable ∧ encodeFrameBinary f = .ok b) fs bs)
    {tail : ByteArray} (stuck : decodeFrameFrom tail = .ok none) :
    decodeFrameStream (concat id bs ++ tail) = (fs, tail, none) := by
  unfold decodeFrameStream
  rw [decodeFrameStream_go encoded stuck [] _ (by omega)]
  rfl

theorem append_eq_append {w x y z : ByteArray} (h : w ++ x = y ++ z) :
    (∃ a, y = w ++ a ∧ x = a ++ z) ∨ ∃ c, w = y ++ c ∧ z = c ++ x := by
  have arrays := congrArg ByteArray.data h
  rw [ByteArray.data_append, ByteArray.data_append] at arrays
  rcases Array.append_eq_append_iff.mp arrays with ⟨a, first, second⟩ | ⟨c, first, second⟩
  · exact .inl ⟨⟨a⟩, ByteArray.ext (by simp [first]), ByteArray.ext (by simp [second])⟩
  · exact .inr ⟨⟨c⟩, ByteArray.ext (by simp [first]), ByteArray.ext (by simp [second])⟩

theorem decodeFrameFrom_empty : decodeFrameFrom .empty = .ok none := rfl

/-- Bytes that are a prefix of a run of encoded frames are some whole frames
and then a part of the next one, too short to be taken. -/
theorem concat_split {fs : List Frame} {bs : List ByteArray}
    (encoded : List.Forall₂ (fun f b => f.Representable ∧ encodeFrameBinary f = .ok b) fs bs) :
    ∀ {P Q : ByteArray}, P ++ Q = concat id bs →
      ∃ k tail, P = concat id (bs.take k) ++ tail ∧ tail ++ Q = concat id (bs.drop k) ∧
        (∀ b ∈ (bs.drop k).head?, tail.size < b.size) ∧ decodeFrameFrom tail = .ok none := by
  induction encoded with
  | nil =>
    intro P Q joined
    have none : P.size = 0 := by
      have := congrArg ByteArray.size joined
      rw [ByteArray.size_append] at this
      exact Nat.eq_zero_of_add_eq_zero_right this
    have empty : P = .empty := ByteArray.ext (Array.size_eq_zero_iff.mp none)
    subst empty
    exact ⟨0, .empty, rfl, joined, by simp, decodeFrameFrom_empty⟩
  | @cons f b fs bs frame _ inductionHypothesis =>
    intro P Q joined
    rw [concat_cons, id] at joined
    -- `P` either ends inside `b` or takes all of it and goes on into the rest
    have whole : ∀ c, P = b ++ c → c ++ Q = concat id bs → ∃ k tail,
        P = concat id ((b :: bs).take k) ++ tail ∧ tail ++ Q = concat id ((b :: bs).drop k) ∧
          (∀ b' ∈ ((b :: bs).drop k).head?, tail.size < b'.size) ∧ decodeFrameFrom tail = .ok none := by
      intro c first rest
      obtain ⟨k, tail, read, left, short, stuck⟩ := inductionHypothesis rest
      refine ⟨k + 1, tail, ?_, left, short, stuck⟩
      rw [first, read, List.take_succ_cons, concat_cons, id, ByteArray.append_assoc]
    rcases append_eq_append joined with ⟨a, inside, rest⟩ | ⟨c, first, rest⟩
    · by_cases nothing : a.size = 0
      · have empty : a = .empty := ByteArray.ext (Array.size_eq_zero_iff.mp nothing)
        subst empty
        rw [ByteArray.append_empty] at inside
        exact whole .empty (by rw [inside, ByteArray.append_empty]) (by rw [rest, ByteArray.empty_append, ByteArray.empty_append])
      · have sizes := congrArg ByteArray.size inside
        rw [ByteArray.size_append] at sizes
        refine ⟨0, P, by simp [concat], ?_, ?_, decodeFrameFrom_partial frame.2 inside (by omega)⟩
        · rw [List.drop_zero, concat_cons, id, ← joined]
        · simp only [List.drop_zero, List.head?_cons, Option.mem_def, Option.some.injEq, forall_eq']
          omega
    · exact whole c first rest.symm

end Herald
