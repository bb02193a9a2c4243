import Herald.Proofs.CodecRoundTrip
import Herald.Cluster.Services

set_option autoImplicit false

/-!
# A message's text reads back

The recall cache keeps a room's latest message as its JSON text, and a
recall reads the message back from those bytes, skipping nothing and
filling one slot per field.  A message without a receiver is written without
the `receiver_id` member, so its object does not hold every field; the
record reader takes back an object whose optional fields are present or not
(`exec_readRecord_present`).  Every member of a message's text is a string,
read back whole whatever its length, so the reader gives back the slots the
message was written from, and the typed decoding gives back the message
(`Message.ofBytes_messageText`).
-/

namespace Herald

open Json ReadM

namespace Message

/-- The values a message's text holds for the fields it is read with: each
field's written content, read back as itself. -/
def textValues (m : Message) : List (Option (Content × Content)) :=
  (m.fieldValues true).map (Option.map fun c => (c, c))

theorem slots_textValues (m : Message) : m.textValues.map (Option.map (·.2)) = m.fieldValues true := by
  have back : ((Option.map fun w : Content × Content => w.2) ∘ Option.map fun c => (c, c)) = fun v => v := by
    funext v
    cases v <;> rfl
  rw [textValues, List.map_map, back, List.map_id']

theorem encode_presentMembers (m : Message) :
    m.encode true = recordContent (presentMembers textFields m.textValues) := by
  unfold encode textValues fieldValues
  cases m.receiverId <;> rfl

/-- Every field of a message's text is a string read back whole, and the one
that may be left out is optional. -/
theorem textFields_fill (m : Message) : List.Forall₂ (StreamField.Fills 0) textFields m.textValues := by
  have string : ∀ (s : String) (f : StreamField), f.read = readContent 1000000000 →
      f.Fills 0 (some (.str s, .str s)) := by
    intro s f reading b p depth _ holds _
    rw [reading]
    exact exec_readContent_str s (by decide) holds
  cases receiver : m.receiverId with
  | none =>
    simp only [textValues, fieldValues, receiver, uuidContent, if_true, List.map_cons, List.map_nil,
      Option.map_some, Option.map_none]
    exact .cons (string _ _ rfl) (.cons (string _ _ rfl) (.cons rfl (.cons (string _ _ rfl)
      (.cons (string _ _ rfl) (.cons (string _ _ rfl) (.cons (string _ _ rfl) .nil))))))
  | some r =>
    simp only [textValues, fieldValues, receiver, uuidContent, if_true, List.map_cons, List.map_nil,
      Option.map_some]
    exact .cons (string _ _ rfl) (.cons (string _ _ rfl) (.cons (string _ _ rfl) (.cons (string _ _ rfl)
      (.cons (string _ _ rfl) (.cons (string _ _ rfl) (.cons (string _ _ rfl) .nil))))))

theorem ofSlots_fieldValues (d : Dialect) (readable : Bool) (m : Message) (representable : m.Representable) :
    ofSlots d (m.fieldValues readable).toArray = .ok m := by
  have created : Timestamp.parseText m.createdAt.render = .ok m.createdAt := representable.createdAt
  obtain ⟨id, senderId, receiverId, roomId, content, kind, createdAt⟩ := m
  cases receiverId <;>
    simp [ofSlots, takeField, fieldValues, Decoder.uuid_uuidContent _ _ _ representable.id, created]

theorem ofBytes_messageText (m : Message) (representable : m.Representable) :
    ofBytes (Cluster.messageText m).toUTF8 = .ok m := by
  have holds := holds_toUTF8 (Cluster.messageText m)
  have text : bytesOf (Cluster.messageText m) =
      123 :: (membersText true (presentMembers textFields m.textValues) ++ [125]) := by
    rw [← textOf_recordContent, ← encode_presentMembers]
    rfl
  rw [text] at holds
  have slots := exec_readRecord_present shape.expecting (by decide) (textFields_fill m)
    (by decide : 0 + 2 ≤ 128) holds
  have total : (Cluster.messageText m).toUTF8.size =
      (membersText true (presentMembers textFields m.textValues)).length + 2 := by
    rw [Pack.size_toUTF8, ← length_bytesOf, text]
    simp only [List.length_cons, List.length_append, List.length_nil]
  unfold ofBytes
  rw [readAll, runReader_eq]
  simp only [exec_bind, slots, Nat.zero_add]
  rw [← total, exec_finish (byteAt_size _)]
  simp only [exec_pure, slots_textValues, Except.mapError, except_ok_bind]
  exact ofSlots_fieldValues Dialect.json true m representable

end Message

end Herald
