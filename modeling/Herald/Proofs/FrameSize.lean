import Mathlib
import Herald.Proofs.CodecRoundTrip
import Herald.Cluster.Tasks

set_option autoImplicit false

/-!
# How long a frame's text is

The text encoder refuses a frame whose compact JSON text is over 1 MiB. That
text is bounded above by a weight read off the frame's values: six bytes for
each byte of a string, the longest escape, and a few bytes for each number,
boolean, bracket, key and separator (`length_textOf_le_textWeight`). It is
bounded below by each string it holds, since an escape never shortens a
character. A frame is therefore written whenever its weight is within the
bound, and a message frame never is when its content alone is over it
(`light_frames_are_carried`, `carries_large_message`, `carries_large_history`).
The settings bound the characters of a message before it is made safe, not
the length of its text.
-/

namespace Herald

open Json

/-! ### Strings -/

namespace Json

theorem utf8Size_of_toNat_lt {c : Char} (small : c.toNat < 128) : c.utf8Size = 1 := by
  rw [← String.length_utf8EncodeChar, utf8EncodeChar_of_lt small, List.length_singleton]

/-- An escape is never shorter than the character it writes, and at most six
bytes for each of its bytes. -/
theorem length_escapeChar (c : Char) :
    c.utf8Size ≤ (bytesOf (escapeChar "" c)).length ∧ (bytesOf (escapeChar "" c)).length ≤ 6 * c.utf8Size := by
  have positive := Char.utf8Size_pos c
  unfold escapeChar
  split
  · decide
  · decide
  · decide
  · decide
  · decide
  · -- the other characters: two short escapes, the hex escape of a control character, or the character itself
    split_ifs with backspace formfeed control
    · rw [utf8Size_of_toNat_lt (by simp at backspace; omega)]
      decide
    · rw [utf8Size_of_toNat_lt (by simp at formfeed; omega)]
      decide
    · rw [utf8Size_of_toNat_lt (by omega)]
      simp only [bytesOf_push, bytesOf_append, bytesOf_empty, List.nil_append, List.length_append,
        utf8EncodeChar_hexDigit (Nat.div_lt_of_lt_mul (by omega : c.toNat < 16 * 16)),
        utf8EncodeChar_hexDigit (Nat.mod_lt c.toNat (by decide : 16 > 0)), List.length_singleton]
      decide
    · simp only [bytesOf_push, bytesOf_empty, List.nil_append, String.length_utf8EncodeChar]
      omega

theorem length_escaped (cs : List Char) :
    (cs.map Char.utf8Size).sum ≤ (escaped cs).length ∧ (escaped cs).length ≤ 6 * (cs.map Char.utf8Size).sum := by
  induction cs with
  | nil => simp [escaped]
  | cons c rest inductionHypothesis =>
    have here := length_escapeChar c
    simp only [escaped, List.flatMap_cons, List.length_append, List.map_cons, List.sum_cons]
      at inductionHypothesis ⊢
    omega

theorem utf8ByteSize_eq_sum (s : String) : s.utf8ByteSize = (s.toList.map Char.utf8Size).sum := by
  rw [← length_bytesOf, bytesOf_eq_flatMap, List.length_flatMap]
  simp only [String.length_utf8EncodeChar]

/-- A string's text is its bytes and quotes at least, and at most six bytes
for each of its bytes. -/
theorem length_textOf_str (s : String) :
    s.utf8ByteSize + 2 ≤ (textOf (.str s)).length ∧ (textOf (.str s)).length ≤ 6 * s.utf8ByteSize + 2 := by
  have bounds := length_escaped s.toList
  rw [textOf_str, utf8ByteSize_eq_sum]
  simp only [List.length_cons, List.length_append, List.length_nil]
  omega

end Json

/-! ### The weight of content -/

mutual

/-- A bound on the length of the compact JSON text of content: six bytes for
each byte of a string and its quotes, twenty digits for an unsigned integer,
five letters for a boolean, and for an array or an object its brackets,
separators and keys. -/
def Content.textWeight : Content → Nat
  | .bool _ => 5
  | .unsigned _ _ => 20
  | .str s => 6 * s.utf8ByteSize + 2
  | .seq items => Content.textWeightItems items + 2
  | .map entries => Content.textWeightEntries entries + 2
  | _ => 0

/-- The weight of the items of an array, each with a separator. -/
def Content.textWeightItems : List Content → Nat
  | [] => 0
  | c :: rest => c.textWeight + 1 + Content.textWeightItems rest

/-- The weight of the members of an object, each with its key, colon and separator. -/
def Content.textWeightEntries : List (Content × Content) → Nat
  | [] => 0
  | (k, v) :: rest => k.textWeight + 1 + v.textWeight + 1 + Content.textWeightEntries rest

end

namespace Json

theorem length_separator_le (first : Bool) : (separator first).length ≤ 1 := by
  cases first <;> decide

theorem length_writeItems_le {items : List Content}
    (bounded : ∀ c ∈ items, (textOf (ofContent c)).length ≤ c.textWeight) (first : Bool) :
    (bytesOf (writeItems "" first (items.map ofContent))).length ≤ Content.textWeightItems items := by
  induction items generalizing first with
  | nil => simp [writeItems, Content.textWeightItems]
  | cons c rest inductionHypothesis =>
    have here := bounded c List.mem_cons_self
    have later := inductionHypothesis (fun c mem => bounded c (List.mem_cons_of_mem _ mem)) false
    have separated := length_separator_le first
    rw [List.map_cons, bytesOf_writeItems_cons, Content.textWeightItems]
    simp only [List.length_append]
    omega

theorem length_membersText_le {entries : List (String × Content)}
    (bounded : ∀ e ∈ entries, (textOf (ofContent e.2)).length ≤ e.2.textWeight) (first : Bool) :
    (membersText first entries).length ≤ Content.textWeightEntries (entries.map fun e => (.str e.1, e.2)) := by
  induction entries generalizing first with
  | nil => simp [membersText, writeMembers, Content.textWeightEntries]
  | cons e rest inductionHypothesis =>
    obtain ⟨k, v⟩ := e
    have here : (textOf (ofContent v)).length ≤ v.textWeight := bounded (k, v) List.mem_cons_self
    have later := inductionHypothesis (fun e mem => bounded e (List.mem_cons_of_mem _ mem)) false
    have separated := length_separator_le first
    have key := (length_textOf_str k).2
    rw [length_membersText_cons, List.map_cons, Content.textWeightEntries]
    simp only [List.length_append, Content.textWeight]
    omega

theorem length_textOf_le_textWeight {d : Nat} {c : Content} (textual : Textual d c) :
    (textOf (ofContent c)).length ≤ c.textWeight := by
  induction textual with
  | bool v => cases v <;> decide
  | unsigned w fits =>
    rw [textOf_unsigned, bytesOf_toString, List.length_map, Content.textWeight]
    exact Nat.toDigits_length 10 _ 20 (by decide) (by omega)
  | str s => exact (length_textOf_str s).2
  | seq each inductionHypothesis =>
    rw [ofContent, ofContents_eq_map, textOf_arr, Content.textWeight]
    have inner := length_writeItems_le inductionHypothesis true
    simp only [List.cons_append, List.length_cons, List.length_append, List.length_nil]
    omega
  | map values inductionHypothesis =>
    rw [ofContent, ofEntries_str, textOf_obj, Content.textWeight]
    have inner := length_membersText_le (fun e mem => inductionHypothesis e mem) true
    simp only [membersText] at inner
    simp only [List.cons_append, List.length_cons, List.length_append, List.length_nil]
    omega

theorem length_textOf_le_membersText {k : String} {v : Content} :
    ∀ (first : Bool) {entries : List (String × Content)}, (k, v) ∈ entries →
      (textOf (ofContent v)).length ≤ (membersText first entries).length
  | first, e :: rest, mem => by
    obtain ⟨k', v'⟩ := e
    rw [length_membersText_cons]
    rcases List.mem_cons.mp mem with same | later
    · cases same
      omega
    · have inRest := length_textOf_le_membersText false later
      omega

theorem sum_length_textOf_le_writeItems (first : Bool) (items : List Content) :
    (items.map fun c => (textOf (ofContent c)).length).sum ≤ (bytesOf (writeItems "" first (items.map ofContent))).length := by
  induction items generalizing first with
  | nil => exact Nat.zero_le _
  | cons c rest inductionHypothesis =>
    have later := inductionHypothesis false
    rw [List.map_cons, List.map_cons, List.sum_cons, bytesOf_writeItems_cons]
    simp only [List.length_append]
    omega

theorem length_textOf_member_le {pairs : List (String × Content)} {k : String} {v : Content}
    (mem : (k, v) ∈ pairs) : (textOf (ofContent v)).length + 2 ≤ (textOf (ofContent (recordContent pairs))).length := by
  have inside := length_textOf_le_membersText true mem
  rw [textOf_recordContent]
  simp only [List.length_cons, List.length_append]
  omega

end Json

/-! ### Frames -/

namespace Frame

theorem textual_encode {d : Nat} {f : Frame} (representable : f.Representable) :
    Textual (d + 4) (f.encode true) := by
  rw [encode, recordContent_eq]
  refine .map fun e mem => ?_
  rcases List.mem_cons.mp mem with rfl | field
  · exact .str _
  · exact textual_field representable field

theorem length_textOf_toJson_le {f : Frame} (representable : f.Representable) :
    (textOf f.toJson).length ≤ (f.encode true).textWeight :=
  length_textOf_le_textWeight (textual_encode (d := 0) representable)

theorem length_textOf_field_le {f : Frame} {k : String} {v : Content} (mem : (k, v) ∈ f.fields true) :
    (textOf (ofContent v)).length + 2 ≤ (textOf f.toJson).length :=
  length_textOf_member_le (List.mem_cons_of_mem _ mem)

end Frame

theorem Message.length_content_le (m : Message) (readable : Bool) :
    m.content.utf8ByteSize + 4 ≤ (textOf (ofContent (m.encode readable))).length := by
  have content := (length_textOf_str m.content).1
  have inside : (textOf (ofContent (.str m.content))).length + 2 ≤ (textOf (ofContent (m.encode readable))).length :=
    length_textOf_member_le (k := "content") (by rw [List.mem_append]; exact .inr (by simp))
  exact (Nat.add_le_add_right content 2).trans inside

theorem Frame.length_history_contents_le (id : Nat) (ms : List Message) :
    (ms.map (·.content.utf8ByteSize)).sum ≤ (textOf (Frame.historyResult id (ms.map .message)).toJson).length := by
  have inside := Frame.length_textOf_field_le (f := .historyResult id (ms.map .message)) (k := "items")
    (v := .seq ((ms.map Event.message).map (Event.encode true))) (by simp [Frame.fields])
  have items := sum_length_textOf_le_writeItems true ((ms.map Event.message).map (Event.encode true))
  -- each message's text holds its content
  have each : (ms.map (·.content.utf8ByteSize)).sum ≤
      (((ms.map Event.message).map (Event.encode true)).map fun c => (textOf (ofContent c)).length).sum := by
    simp only [List.map_map]
    exact List.sum_le_sum fun m _ => Nat.le_of_add_right_le (m.length_content_le true)
  rw [ofContent, ofContents_eq_map, textOf_arr] at inside
  simp only [List.cons_append, List.length_cons, List.length_append, List.length_nil] at inside
  omega

theorem encodeFrameText_of_textWeight {f : Frame} (representable : f.Representable)
    (light : (f.encode true).textWeight ≤ maxFrameSize) : encodeFrameText f = .ok (render f.toJson) := by
  have size : (render f.toJson).utf8ByteSize ≤ maxFrameSize := by
    rw [← length_bytesOf]
    exact (Frame.length_textOf_toJson_le representable).trans light
  unfold encodeFrameText
  dsimp only
  rw [if_neg (Nat.not_lt.mpr size)]

theorem encodeFrameText_message_of_content {m : Message} (heavy : maxFrameSize < m.content.utf8ByteSize) :
    maxFrameSize < (render (Frame.message m).toJson).utf8ByteSize ∧
      encodeFrameText (.message m) = .error (.frameTooLarge (render (Frame.message m).toJson).utf8ByteSize) := by
  have inside := Frame.length_textOf_field_le (f := .message m) (k := "message") (v := m.encode true)
    (by simp [Frame.fields])
  have content := m.length_content_le true
  have written : (render (Frame.message m).toJson).utf8ByteSize = (textOf (Frame.message m).toJson).length :=
    (length_bytesOf _).symm
  have size : maxFrameSize < (render (Frame.message m).toJson).utf8ByteSize := by omega
  refine ⟨size, ?_⟩
  unfold encodeFrameText
  dsimp only
  rw [if_pos size]

/-- The text encoder refuses a history reply whose messages' contents
together are over the bound. -/
theorem encodeFrameText_history_of_contents {id : Nat} {ms : List Message}
    (heavy : maxFrameSize < (ms.map (·.content.utf8ByteSize)).sum) :
    encodeFrameText (.historyResult id (ms.map .message)) =
      .error (.frameTooLarge (render (Frame.historyResult id (ms.map .message)).toJson).utf8ByteSize) := by
  have inside := Frame.length_history_contents_le id ms
  have written : (render (Frame.historyResult id (ms.map .message)).toJson).utf8ByteSize =
      (textOf (Frame.historyResult id (ms.map .message)).toJson).length := (length_bytesOf _).symm
  unfold encodeFrameText
  dsimp only
  rw [if_pos (by omega)]

/-- A session over text does not carry the delivery of a message whose
content alone is over the bound: its writer ends the session instead. -/
theorem carries_large_message {m : Message} (heavy : maxFrameSize < m.content.utf8ByteSize)
    {ses : Cluster.Session} (text : ses.wireFormat = some .text) :
    ses.carries (.frame (.deliver (.message m))) = false := by
  simp only [Cluster.Session.carries, text, WireFormat.encodes, Frame.deliver,
    (encodeFrameText_message_of_content heavy).2]
  rfl

/-- A session over text does not carry a history reply whose messages'
contents together are over the bound. -/
theorem carries_large_history {id : Nat} {ms : List Message}
    (heavy : maxFrameSize < (ms.map (·.content.utf8ByteSize)).sum) {ses : Cluster.Session}
    (text : ses.wireFormat = some .text) :
    ses.carries (.frame (.historyResult id (ms.map .message))) = false := by
  simp only [Cluster.Session.carries, text, WireFormat.encodes, encodeFrameText_history_of_contents heavy]
  rfl

/-- Where the writer's frames stay within the bound: a frame whose weight is
within 1 MiB is written by the text encoder and carried by every session over
text. -/
theorem light_frames_are_carried (f : Frame) (representable : f.Representable)
    (light : (f.encode true).textWeight ≤ maxFrameSize) (ses : Cluster.Session)
    (text : ses.wireFormat = some .text) :
    encodeFrameText f = .ok (render f.toJson) ∧ ses.carries (.frame f) = true := by
  have written := encodeFrameText_of_textWeight representable light
  refine ⟨written, ?_⟩
  simp only [Cluster.Session.carries, text, WireFormat.encodes, written]
  rfl

/-- A ping is carried over text. -/
theorem ping_carried_over_text :
    let ses : Cluster.Session := { (default : Cluster.Session) with wireFormat := some .text }
    (Frame.ping (some 7)).Representable ∧ ((Frame.ping (some 7)).encode true).textWeight ≤ maxFrameSize ∧
      ses.wireFormat = some .text ∧
      encodeFrameText (.ping (some 7)) = .ok (render (Frame.ping (some 7)).toJson) ∧
      ses.carries (.frame (.ping (some 7))) = true := by
  intro ses
  have small : (Frame.ping (some 7)).Representable := by
    rintro n ⟨⟩
    decide
  exact ⟨small, by decide, rfl, light_frames_are_carried _ small (by decide) ses rfl⟩

/-- The delivery of a message holding a mebibyte and one byte of text is
carried by no session over text. -/
theorem large_message_delivery_not_carried :
    let large : Message :=
      { id := ⟨7⟩, senderId := "alice", roomId := "lobby",
        content := String.ofList (List.replicate 1048577 'a'), createdAt := ⟨0, 0⟩ }
    maxFrameSize < large.content.utf8ByteSize ∧
      ∀ ses : Cluster.Session, ses.wireFormat = some .text →
        ses.carries (.frame (.deliver (.message large))) = false := by
  intro large
  have heavy : maxFrameSize < large.content.utf8ByteSize := by
    rw [utf8ByteSize_eq_sum, String.toList_ofList, List.map_replicate, List.sum_replicate]
    decide
  exact ⟨heavy, fun ses text => carries_large_message heavy text⟩

end Herald
