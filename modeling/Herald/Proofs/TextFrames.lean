import Herald.Proofs.JsonReadBack
import Herald.Proofs.BinaryFrames
import Herald.Protocol.TextCodec

set_option autoImplicit false

/-!
# Frames as JSON text, read back

A frame's JSON text is an object whose first member is `type`, naming the
kind, followed by the frame's fields. Its values are strings, booleans,
unsigned integers and records of those, so the text reader takes each of
them back (`Frame.textual_field`, with `readsBack_of_textual`). The frame
reader takes the kind out of the first member and the other members as
they are (`exec_taggedMembers`, `exec_readTaggedFrame`), and the fields
then decode as the frame (`decodeFields_encode`): the text decoder takes
back every frame whose values the protocol's types hold
(`decodeFrameText_encode`).
-/

namespace Herald

open Json ReadM

/-! ### Frame contents are textual -/

theorem textual_recordContent {d : Nat} {pairs : List (String × Content)}
    (values : ∀ p ∈ pairs, Textual (d + 1) p.2) : Textual (d + 2) (recordContent pairs) :=
  .map values

theorem Message.textual {d : Nat} (m : Message) : Textual (d + 2) (m.encode true) := by
  apply textual_recordContent
  intro p mem
  cases receiver : m.receiverId <;> simp [receiver] at mem <;>
    rcases mem with rfl | rfl | rfl | rfl | rfl | rfl | rfl <;> exact .str _

theorem Notification.textual {d : Nat} (n : Notification) : Textual (d + 2) (n.encode true) := by
  apply textual_recordContent
  intro p mem
  simp at mem
  rcases mem with rfl | rfl | rfl | rfl | rfl | rfl | rfl <;> first | exact .str _ | exact .bool _

theorem Event.textual {d : Nat} (e : Event) : Textual (d + 2) (e.encode true) := by
  cases e with
  | message m => exact m.textual
  | notification n => exact n.textual

namespace Frame

theorem textual_fieldValues {d : Nat} (f : Frame) (representable : f.Representable) :
    ∀ c, some c ∈ f.fieldValues true → Textual (d + 3) c := by
  intro c mem
  rcases f with ⟨_ | id, content, _ | receiverId, _ | kind⟩ | ⟨id, _ | before, _ | limit⟩ |
    ⟨id, notificationId⟩ | ⟨_ | timestamp⟩ | ⟨_ | timestamp⟩ | ⟨connectionId, topic, version, heartbeat⟩ |
    m | n | ⟨id, items⟩ | ⟨id, _ | event⟩ | ⟨id, code, text⟩
  all_goals
    simp [Representable] at representable
    simp [fieldValues] at mem
  all_goals
    rcases mem with rfl | rfl | rfl | rfl
  all_goals try exact .str _
  all_goals try exact .unsigned _ (by omega)
  case message => exact m.textual
  case notification => exact n.textual
  case historyResult.inr =>
    refine .seq fun c mem => ?_
    obtain ⟨e, _, rfl⟩ := List.mem_map.mp mem
    exact e.textual
  case ack.some.inr => exact event.textual

theorem textual_field {d : Nat} {f : Frame} (representable : f.Representable)
    {field : String × Content} (mem : field ∈ f.fields true) : Textual (d + 3) field.2 :=
  textual_fieldValues f representable _
    (RecordShape.value_mem_entriesOf (mem_entriesOf_of_mem_fields mem))

end Frame

/-! ### Reading the kind and the members -/

section Reading

variable {b : ByteArray} {p depth : Nat}

@[simp]
theorem exec_ofExcept_ok {α : Type} (a : α) (s : Cursor) :
    (ReadM.ofExcept (.ok a : Except String α)).exec b s = (.ok a, s) := rfl

theorem exec_readStringWith {α : Type} (expected : String) {check : String → Except String α} {s : String}
    {a : α} (checks : check s = .ok a) (holds : Holds b p (textOf (.str s))) :
    (readStringWith expected check).exec b ⟨p, depth⟩ = (.ok a, ⟨p + (textOf (.str s)).length, depth⟩) := by
  unfold readStringWith
  apply exec_located
  rw [textOf_str] at holds ⊢
  simp only [exec_bind, exec_skipBlanks_holds holds (by decide)]
  simp only [exec_eat, exec_readStringBody depth s holds.tail, checks, exec_ofExcept_ok]
  simp only [List.cons_append, List.length_cons, List.length_append, List.length_nil]
  congr 2
  omega

theorem exec_readString (s : String) (holds : Holds b p (textOf (.str s))) :
    readString.exec b ⟨p, depth⟩ = (.ok s, ⟨p + (textOf (.str s)).length, depth⟩) := by
  unfold readString
  apply exec_located
  rw [textOf_str] at holds ⊢
  simp only [exec_bind, exec_skipBlanks_holds holds (by decide)]
  simp only [exec_eat, exec_readStringBody depth s holds.tail]
  simp only [List.cons_append, List.length_cons, List.length_append, List.length_nil]
  congr 2
  omega

theorem exec_readFrameType (t : FrameType) (holds : Holds b p (textOf (.str t.tag))) :
    readFrameType.exec b ⟨p, depth⟩ = (.ok t, ⟨p + (textOf (.str t.tag)).length, depth⟩) :=
  exec_readStringWith _ (FrameType.ofTag_tag t) holds

theorem exec_taggedMembers {d : Nat} {entries : List (String × Content)} (t : FrameType)
    (textual : ∀ e ∈ entries, Textual d e.2) (reads : ∀ e ∈ entries, ReadsBack d e.2)
    (untagged : ∀ e ∈ entries, e.1 ≠ "type") :
    ∀ (acc : List (Content × Content)) {fuel p : Nat}, d ≤ depth →
    (membersText false entries).length + 1 < fuel → (membersText false entries).length < 1000000000 →
    Holds b p (membersText false entries ++ [125]) →
    (taggedMembers fuel false (some t) acc).exec b ⟨p, depth⟩ =
      (.ok (t, .map (acc.reverse ++ entries.map fun e => (.str e.1, e.2.rewidth fun _ => .w64))),
        ⟨p + (membersText false entries).length, depth⟩) := by
  induction entries with
  | nil =>
    intro acc fuel p deep short limit holds
    obtain ⟨fuel, rfl⟩ : ∃ f, fuel = f + 1 := ⟨fuel - 1, by omega⟩
    simp only [membersText, List.map_nil, writeMembers, bytesOf_empty, List.nil_append] at holds ⊢
    rw [taggedMembers]
    simp only [exec_bind, exec_nextKey_end false (byteAt_of_holds holds)]
    simp
  | cons e rest inductionHypothesis =>
    intro acc fuel p deep short limit holds
    obtain ⟨fuel, rfl⟩ : ∃ f, fuel = f + 1 := ⟨fuel - 1, by omega⟩
    obtain ⟨k, v⟩ := e
    obtain ⟨key, colonByte, item, back⟩ := holds_member holds
    have lengths := (opens_textOf (textual (k, v) List.mem_cons_self)).length_pos
    rw [length_membersText_cons] at short limit ⊢
    have restShort : (membersText false rest).length + 1 < fuel := by omega
    have restLimit : (membersText false rest).length < 1000000000 := by omega
    have itemShort : (textOf (ofContent v)).length < 1000000000 := by omega
    have notType : (k == "type") = false := beq_false_of_ne (untagged (k, v) List.mem_cons_self)
    rw [taggedMembers]
    simp only [exec_bind, exec_nextKey_key k key, notType, Bool.false_eq_true, ↓reduceIte, exec_colon colonByte,
      reads (k, v) List.mem_cons_self itemShort deep item (closes_writeMembers _ back)]
    rw [inductionHypothesis (fun e mem => textual e (List.mem_cons_of_mem _ mem))
      (fun e mem => reads e (List.mem_cons_of_mem _ mem)) (fun e mem => untagged e (List.mem_cons_of_mem _ mem))
      _ deep restShort restLimit back]
    simp only [List.reverse_cons, List.append_assoc, List.singleton_append, Nat.add_assoc, List.map_cons]

end Reading

namespace Frame

theorem recordContent_eq (pairs : List (String × Content)) :
    recordContent pairs = .map (pairs.map fun e => (.str e.1, e.2)) := rfl

end Frame

theorem textOf_recordContent (pairs : List (String × Content)) :
    textOf (ofContent (recordContent pairs)) = 123 :: (membersText true pairs ++ [125]) := by
  rw [Frame.recordContent_eq, ofContent, ofEntries_str, textOf_obj, List.cons_append]

theorem Frame.textOf_toJson (f : Frame) :
    textOf f.toJson = 123 :: (membersText true (("type", .str f.frameType.tag) :: f.fields true) ++ [125]) :=
  textOf_recordContent _


section Reading

variable {b : ByteArray} {p depth : Nat}

/-- A frame's text reads as its kind and the members after `type`, each
value at 64-bit integers. -/
theorem exec_readTaggedFrame {f : Frame} (representable : f.Representable) (deep : 4 ≤ depth)
    (limit : (textOf f.toJson).length < 1000000000) (holds : Holds b p (textOf f.toJson)) :
    readTaggedFrame.exec b ⟨p, depth⟩ =
      (.ok (f.frameType, .map ((f.fields true).map fun e => (.str e.1, e.2.rewidth fun _ => .w64))),
        ⟨p + (textOf f.toJson).length, depth⟩) := by
  rw [Frame.textOf_toJson] at holds limit ⊢
  have fits := holds.size_le
  have inner := holds.tail
  obtain ⟨key, colonByte, kind, back⟩ := holds_member inner
  have closing := (holds_append.mp inner).2
  have sizes := length_membersText_cons true "type" (.str f.frameType.tag) (f.fields true)
  have kindLength := (opens_textOf (Textual.str (d := 0) f.frameType.tag)).length_pos
  have plainTag : ofContent (.str f.frameType.tag) = .str f.frameType.tag := rfl
  rw [plainTag] at kind back sizes kindLength
  simp only [List.length_cons, List.length_append, List.length_nil] at limit fits ⊢
  -- after the opening brace: `type` first, then the fields
  have tagged : (taggedMembers (b.size + 1) true none []).exec b ⟨p + 1, depth - 1⟩ =
      (.ok (f.frameType, .map ((f.fields true).map fun e => (.str e.1, e.2.rewidth fun _ => .w64))),
        ⟨p + 1 + (membersText true (("type", .str f.frameType.tag) :: f.fields true)).length, depth - 1⟩) := by
    rw [taggedMembers]
    simp only [exec_bind, exec_nextKey_key "type" key, beq_self_eq_true, ↓reduceIte, Option.isSome_none,
      Bool.false_eq_true, exec_colon colonByte, exec_readFrameType f.frameType kind]
    rw [exec_taggedMembers (d := 3) f.frameType (fun e mem => Frame.textual_field representable mem)
      (fun e mem => readsBack_of_textual (Frame.textual_field representable mem))
      (fun e mem => Frame.key_ne_type mem) [] (by omega) (by omega) (by omega) back]
    rw [sizes]
    simp only [List.reverse_nil, List.nil_append]
    congr 2
    omega
  unfold readTaggedFrame
  apply exec_located
  simp only [exec_bind, exec_input, exec_skipBlanks_holds holds (by decide)]
  simp only [exec_enterNesting (by omega : 2 ≤ depth), exec_eat]
  rw [exec_thenAlways tagged (exec_endObject (byteAt_of_holds closing))]
  simp only [exec_leaveNesting, exec_pure]
  congr 2 <;> omega

end Reading


/-! ### Whole texts -/

section WholeText

theorem holds_toUTF8 (s : String) : Holds s.toUTF8 0 (bytesOf s) := by
  unfold Holds bytesOf
  rw [String.toUTF8_eq_toByteArray, List.drop_zero]

theorem length_bytesOf (s : String) : (bytesOf s).length = s.utf8ByteSize := by
  unfold bytesOf
  rw [Array.length_toList, ByteArray.size_data, String.size_toByteArray]

theorem byteAt_size (b : ByteArray) : byteAt b b.size = none := dif_neg (Nat.lt_irrefl _)

theorem runReader_eq {α : Type} (r : ReadM α) (bytes : ByteArray) :
    runReader r bytes = (r.exec bytes ⟨0, 128⟩).1 := rfl

end WholeText

theorem rewidth_fieldsContent (w : Nat → Width) (fields : List (String × Content)) :
    (Content.map (fields.map fun field => (Content.str field.1, field.2))).rewidth w =
      .map (fields.map fun e => (.str e.1, e.2.rewidth w)) := by
  rw [Content.rewidth, Content.rewidthEntries_eq_map, List.map_map]
  rfl

/-- The text encoder writes a frame within the size limit, or refuses it as
too large. -/
theorem encodeFrameText_ok {f : Frame} {t : String} (encoded : encodeFrameText f = .ok t) :
    render f.toJson = t ∧ t.utf8ByteSize ≤ maxFrameSize := by
  unfold encodeFrameText at encoded
  dsimp only at encoded
  split at encoded
  · cases encoded
  · cases encoded
    exact ⟨rfl, by omega⟩

/-- The text decoder takes back every frame whose values the protocol's
types hold from the text the encoder wrote for it. -/
theorem decodeFrameText_encode {f : Frame} {t : String} (representable : f.Representable)
    (encoded : encodeFrameText f = .ok t) : decodeFrameText t = .ok f := by
  obtain ⟨rfl, small⟩ := encodeFrameText_ok encoded
  have length : (textOf f.toJson).length = (render f.toJson).toUTF8.size := by
    rw [textOf, length_bytesOf, Pack.size_toUTF8]
  have limit : (textOf f.toJson).length < 1000000000 := by
    rw [length, Pack.size_toUTF8]
    unfold maxFrameSize at small
    omega
  have decoded := Frame.decodeFields_encode Dialect.json (fun _ => .w64) true f representable
  rw [rewidth_fieldsContent] at decoded
  unfold decodeFrameText
  dsimp only
  rw [Pack.size_toUTF8, if_neg (Nat.not_lt.mpr small), runReader_eq]
  simp only [exec_bind, exec_readTaggedFrame representable (by decide : 4 ≤ 128) limit (holds_toUTF8 _), decoded,
    exec_ofExcept_ok, Nat.zero_add, length, exec_finish (byteAt_size _), exec_pure]
  rfl

end Herald
