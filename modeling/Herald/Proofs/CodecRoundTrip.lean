import Herald.Proofs.TextFrames
import Herald.Protocol.Envelope

set_option autoImplicit false

/-!
# The codecs take back what they write

A record read from an object fills one slot per field. When the object holds
its fields in declaration order, each optional one present or not, and each
present field's reader takes its value back from the value's text, the slots
are exactly the values read and the others are empty
(`exec_recordMembers_present`, `exec_readRecord_present`); with every field
present, the slots are the values read (`exec_readRecord`). The replication envelope is such a
record: its source and time are strings and its payload an event, so the
envelope decoder takes back every envelope the encoder writes
(`Envelope.decode_encode`).

Together with the binary codec (`decodeFrameBinary_encode`,
`decodeFrameFrom_append`) and the text codec (`decodeFrameText_encode`), this
gives the round trip of every wire format, each encoder refusing exactly
the texts over the 1 MiB bound its decoder enforces.
-/

namespace Herald

open Json ReadM

/-! ### Records read back field by field -/

namespace Json

/-- A field reads the content `read` back from the compact text of `written`,
wherever that text stands with what may follow a value after it, at any
nesting allowance from `d` on. -/
def StreamField.ReadsAs (d : Nat) (f : StreamField) (written read : Content) : Prop :=
  ∀ {b : ByteArray} {p depth : Nat}, d ≤ depth → Holds b p (textOf (ofContent written)) →
    Closes (byteAt b (p + (textOf (ofContent written)).length)) →
    f.read.exec b ⟨p, depth⟩ = (.ok read, ⟨p + (textOf (ofContent written)).length, depth⟩)

/-- The members of an object written for `fields`: each field's name with
the first of its pair of values, the one written. -/
def membersOf (fields : List StreamField) (values : List (Content × Content)) : List (String × Content) :=
  List.zipWith (fun f v => (f.name, v.1)) fields values

@[simp] theorem membersOf_nil_left (values : List (Content × Content)) : membersOf [] values = [] := rfl

@[simp] theorem membersOf_cons (f : StreamField) (fields : List StreamField) (v : Content × Content)
    (values : List (Content × Content)) :
    membersOf (f :: fields) (v :: values) = (f.name, v.1) :: membersOf fields values := rfl

/-- What a field's slot takes from an object: nothing, for a member left
out, which only an optional field may be; or the content `read` back from
the text of the value `written`. -/
def StreamField.Fills (d : Nat) (f : StreamField) : Option (Content × Content) → Prop
  | none => f.optional = true
  | some (written, read) => f.ReadsAs d written read

/-- The members of an object written for `fields`: each present field's name
with the value written for it. -/
def presentMembers (fields : List StreamField) (values : List (Option (Content × Content))) :
    List (String × Content) :=
  (fields.zip values).filterMap fun (f, v) => v.map fun w => (f.name, w.1)

@[simp] theorem presentMembers_nil (values : List (Option (Content × Content))) :
    presentMembers [] values = [] := rfl

@[simp] theorem presentMembers_cons_none (f : StreamField) (fields : List StreamField)
    (values : List (Option (Content × Content))) :
    presentMembers (f :: fields) (none :: values) = presentMembers fields values := rfl

@[simp] theorem presentMembers_cons_some (f : StreamField) (fields : List StreamField) (w : Content × Content)
    (values : List (Option (Content × Content))) :
    presentMembers (f :: fields) (some w :: values) = (f.name, w.1) :: presentMembers fields values := rfl

theorem presentMembers_map_some (fields : List StreamField) (values : List (Content × Content)) :
    presentMembers fields (values.map some) = membersOf fields values := by
  induction fields generalizing values with
  | nil => rfl
  | cons f fields inductionHypothesis =>
    cases values with
    | nil => rfl
    | cons v values => rw [List.map_cons, presentMembers_cons_some, membersOf_cons, inductionHypothesis]

theorem length_le_membersText (first : Bool) :
    ∀ entries : List (String × Content), entries.length ≤ (membersText first entries).length
  | [] => Nat.zero_le _
  | (k, v) :: rest => by
    have later := length_le_membersText false rest
    rw [length_membersText_cons, List.length_cons]
    omega

section Reading

variable {b : ByteArray} {p depth : Nat}

theorem exec_within {α : Type} (step : PathStep) {body : ReadM α} {a : α} {s : Cursor}
    (reads : body.exec b ⟨p, depth⟩ = (.ok a, s)) : (within step body).exec b ⟨p, depth⟩ = (.ok a, s) := by
  unfold within
  rw [exec_tryCatch, reads]

theorem exec_forIn_yield {γ : Type} (xs : List γ) (body : γ → PUnit → ReadM (ForInStep PUnit)) {s : Cursor}
    (each : ∀ x ∈ xs, (body x ⟨⟩).exec b s = (.ok (.yield ⟨⟩), s)) :
    (forIn xs ⟨⟩ body).exec b s = (.ok ⟨⟩, s) := by
  induction xs with
  | nil => rfl
  | cons x xs inductionHypothesis =>
    rw [List.forIn_cons, exec_bind, each x List.mem_cons_self]
    exact inductionHypothesis fun y mem => each y (List.mem_cons_of_mem _ mem)

/-- The members of an object written for the fields after `pre`, in
declaration order, the absent ones left out, fill the present fields' slots
with the values read and leave the others empty. -/
theorem exec_recordMembers_present {d : Nat} {fields : List StreamField} (names : (fields.map (·.name)).Nodup)
    {post : List StreamField} {values : List (Option (Content × Content))}
    (fills : List.Forall₂ (StreamField.Fills d) post values) :
    ∀ (pre : List StreamField) (done : List (Option Content)) (first : Bool) {fuel p : Nat},
      fields = pre ++ post → done.length = pre.length → d ≤ depth →
      (presentMembers post values).length < fuel →
      Holds b p (membersText first (presentMembers post values) ++ [125]) →
      (recordMembers fields fuel first (done ++ List.replicate post.length none).toArray).exec b ⟨p, depth⟩ =
        (.ok (done ++ values.map (Option.map (·.2))).toArray,
          ⟨p + (membersText first (presentMembers post values)).length, depth⟩) := by
  -- induction on the fields still to be read; `done` holds the slots of those before
  induction fills with
  | nil =>
    intro pre done first fuel p _ _ _ short holds
    obtain ⟨fuel, rfl⟩ : ∃ f, fuel = f + 1 := ⟨fuel - 1, by omega⟩
    simp only [presentMembers_nil, membersText, List.map_nil, writeMembers, bytesOf_empty,
      List.nil_append] at holds ⊢
    rw [recordMembers]
    simp [exec_bind, exec_nextKey_end first (byteAt_of_holds holds)]
  | @cons f v post values fill _ inductionHypothesis =>
    intro pre done first fuel p split length deep short holds
    cases v with
    | none =>
      -- a field left out keeps its empty slot, and the members go on from the same place
      rw [presentMembers_cons_none] at short holds ⊢
      have next := inductionHypothesis (pre ++ [f]) (done ++ [none]) first (by simp [split])
        (by simp [length]) deep short holds
      simp only [List.append_assoc, List.singleton_append] at next
      rw [List.length_cons, List.replicate_succ, List.map_cons, Option.map_none]
      exact next
    | some w =>
      obtain ⟨written, read⟩ := w
      obtain ⟨fuel, rfl⟩ : ∃ f, fuel = f + 1 := ⟨fuel - 1, by omega⟩
      rw [presentMembers_cons_some] at short holds ⊢
      obtain ⟨key, colonByte, item, back⟩ := holds_member holds
      have index : fields.findIdx? (·.name == f.name) = some pre.length :=
        findIdx?_name_eq StreamField.name split names
      have field : fields.getD done.length { name := f.name, read := pure .unit } = f := by
        rw [length, split, List.getD_append_right _ _ _ _ (Nat.le_refl _), Nat.sub_self, List.getD_cons_zero]
      have next := inductionHypothesis (pre ++ [f]) (done ++ [some read]) false (by simp [split])
        (by simp [length]) deep (by simp at short; omega) back
      simp only [List.append_assoc, List.singleton_append] at next
      rw [length_membersText_cons]
      rw [recordMembers]
      simp only [exec_bind, exec_nextKey_key f.name key, index, field, List.length_cons, List.replicate_succ,
        ← length, RecordShape.getD_pending, Option.isSome_none, Bool.false_eq_true, ↓reduceIte]
      rw [exec_within _ (by rw [exec_bind, exec_colon colonByte]; exact fill deep item (closes_writeMembers _ back))]
      simp only [RecordShape.set_pending]
      rw [next]
      simp only [List.map_cons, Option.map_some, Nat.add_assoc]

/-- A record written as an object holding its fields in declaration order,
each optional one present or not, reads back as the slots of the values its
present fields read, the others empty. -/
theorem exec_readRecord_present {d : Nat} (expecting : String) {fields : List StreamField}
    (names : (fields.map (·.name)).Nodup) {values : List (Option (Content × Content))}
    (fills : List.Forall₂ (StreamField.Fills d) fields values) (deep : d + 2 ≤ depth)
    (holds : Holds b p (123 :: (membersText true (presentMembers fields values) ++ [125]))) :
    (readRecord expecting fields).exec b ⟨p, depth⟩ =
      (.ok (values.map (Option.map (·.2))).toArray,
        ⟨p + (membersText true (presentMembers fields values)).length + 2, depth⟩) := by
  have fits := holds.size_le
  have inner := holds.tail
  have closing := (holds_append.mp inner).2
  have counted := length_le_membersText true (presentMembers fields values)
  simp only [List.length_cons, List.length_append, List.length_nil] at fits
  have members := exec_recordMembers_present names fills [] [] true rfl rfl (by omega : d ≤ depth - 1)
    (by omega : (presentMembers fields values).length < b.size + 1) inner
  rw [List.nil_append, List.nil_append] at members
  -- a slot left empty belongs to an optional field, so the check for missing fields passes
  have checked : ∀ x ∈ fields.zipIdx,
      (((values.map (Option.map (·.2))).toArray.getD x.2 none).isNone && !x.1.optional) = false := by
    rintro ⟨f, i⟩ mem
    obtain ⟨-, inRange, isField⟩ := List.mem_zipIdx mem
    have inFields : i < fields.length := by omega
    have inValues : i < values.length := fills.length_eq ▸ inFields
    have fill := fills.get inFields inValues
    dsimp only
    rw [isField]
    simp only [Nat.sub_zero, List.get_eq_getElem] at fill ⊢
    simp only [Array.getD_eq_getD_getElem?, List.getElem?_toArray, List.getElem?_map,
      List.getElem?_eq_getElem inValues, Option.map_some, Option.getD_some]
    cases value : values[i] with
    | none =>
      rw [value] at fill
      simp [StreamField.Fills] at fill
      simp [fill]
    | some w => simp
  unfold readRecord
  apply exec_located
  simp only [exec_bind, exec_skipBlanks_holds holds (by decide)]
  simp only [exec_enterNesting (by omega : 2 ≤ depth), exec_eat]
  rw [exec_thenAlways (by
      simp only [exec_bind, exec_input, Array.replicate, members]
      rw [exec_forIn_yield]
      · rfl
      · rintro ⟨f, i⟩ mem
        simp only [checked (f, i) mem, Bool.false_eq_true, ↓reduceIte, exec_pure])
    (exec_endObject (byteAt_of_holds closing))]
  simp only [exec_leaveNesting, exec_pure]
  congr 2 <;> omega

/-- A record written as an object holding every field once, in declaration
order, reads back as the slots of the values its fields read. -/
theorem exec_readRecord {d : Nat} (expecting : String) {fields : List StreamField}
    (names : (fields.map (·.name)).Nodup) {values : List (Content × Content)}
    (reads : List.Forall₂ (fun f v => f.ReadsAs d v.1 v.2) fields values) (deep : d + 2 ≤ depth)
    (holds : Holds b p (123 :: (membersText true (membersOf fields values) ++ [125]))) :
    (readRecord expecting fields).exec b ⟨p, depth⟩ =
      (.ok (values.map fun v => some v.2).toArray,
        ⟨p + (membersText true (membersOf fields values)).length + 2, depth⟩) := by
  -- every field is present
  have fills : List.Forall₂ (StreamField.Fills d) fields (values.map some) :=
    List.forall₂_map_right_iff.mpr (reads.imp fun _ _ read => read)
  have read := exec_readRecord_present expecting names fills deep (by rwa [presentMembers_map_some])
  rwa [presentMembers_map_some, List.map_map] at read

end Reading

end Json

/-! ### The replication envelope -/

/-- What the protocol's types hold of an envelope: its payload is
representable, and its time reads back from its text. -/
structure Envelope.Representable (e : Envelope) : Prop where
  payload : e.payload.Representable
  sentAt : e.sentAt.ReadsBack

namespace Envelope

/-- The slots an envelope's text fills: what is written for each field,
and what the field reads back. -/
def values (e : Envelope) : List (Content × Content) :=
  [(.str e.source, .str e.source),
    (e.payload.encode true, (e.payload.encode true).rewidth fun _ => .w64),
    (.str e.sentAt.render, .str e.sentAt.render)]

theorem textOf_toJson (e : Envelope) :
    textOf e.toJson = 123 :: (membersText true (membersOf fields e.values) ++ [125]) := by
  rw [toJson, textOf_obj]
  rfl

theorem names_nodup : (fields.map (·.name)).Nodup := by decide

/-- Each field reads its value back: the source and the time as the strings
written, the payload as its event's content, checked to decode. -/
theorem readsAs_values {e : Envelope} (representable : e.Representable)
    (limit : (textOf (ofContent (e.payload.encode true))).length < 1000000000) :
    List.Forall₂ (fun f v => f.ReadsAs 2 v.1 v.2) fields e.values := by
  refine .cons ?source (.cons ?payload (.cons ?sentAt .nil))
  case source =>
    intro b p depth _ holds _
    show (Content.str <$> readString).exec b ⟨p, depth⟩ = _
    rw [exec_map, exec_readString e.source holds]
    rfl
  case payload =>
    intro b p depth deep holds closes
    show (do
      let c ← readContent 1000000000
      let _ ← ReadM.ofExcept (Event.decoder Dialect.json c)
      pure c).exec b ⟨p, depth⟩ = _
    rw [exec_bind, readsBack_of_textual (Event.textual e.payload) limit deep holds closes]
    simp only [exec_bind, Event.decoder_encode Dialect.json _ true e.payload representable.payload,
      exec_ofExcept_ok, exec_pure]
  case sentAt =>
    intro b p depth _ holds _
    exact exec_readStringWith _ (by rw [representable.sentAt]; rfl) holds

/-- The envelope encoder writes an envelope within the size limit, or
refuses it as too large. -/
theorem encode_ok {e : Envelope} {j : String} (encoded : e.encode = .ok j) :
    render e.toJson = j ∧ j.utf8ByteSize ≤ maxFrameSize := by
  unfold encode at encoded
  dsimp only at encoded
  split at encoded
  · cases encoded
  · cases encoded
    exact ⟨rfl, by omega⟩

/-- The envelope decoder takes back every envelope whose values the
protocol's types hold from the text the encoder wrote for it. -/
theorem decode_encode {e : Envelope} {j : String} (representable : e.Representable)
    (encoded : e.encode = .ok j) : decode j.toUTF8 = .ok e := by
  obtain ⟨rfl, small⟩ := encode_ok encoded
  have length : (textOf e.toJson).length = (render e.toJson).toUTF8.size := by
    rw [textOf, length_bytesOf, Pack.size_toUTF8]
  have holds := holds_toUTF8 (render e.toJson)
  rw [← textOf, textOf_toJson] at holds
  have members : membersOf fields e.values =
      [("source", .str e.source), ("payload", e.payload.encode true), ("sent_at", .str e.sentAt.render)] := rfl
  have total : (textOf e.toJson).length = (membersText true (membersOf fields e.values)).length + 2 := by
    rw [textOf_toJson]
    simp only [List.length_cons, List.length_append, List.length_nil]
  have payloadLimit : (textOf (ofContent (e.payload.encode true))).length < 1000000000 := by
    have within := total
    rw [members, length_membersText_cons, length_membersText_cons] at within
    rw [length, Pack.size_toUTF8] at within
    unfold maxFrameSize at small
    omega
  have slots := exec_readRecord "struct Envelope" names_nodup (readsAs_values representable payloadLimit)
    (by decide : 2 + 2 ≤ 128) holds
  unfold decode
  rw [Pack.size_toUTF8, if_neg (Nat.not_lt.mpr small), readAll, runReader_eq]
  simp only [exec_bind, slots, Nat.zero_add]
  rw [← total, length, exec_finish (byteAt_size _)]
  simp only [exec_pure]
  -- each slot holds the value read for its field, and the typed decoders take them back
  have source : takeField Dialect.json (e.values.map fun v => some v.2).toArray 0 "source" Decoder.string none =
      .ok e.source := rfl
  have payload : takeField Dialect.json (e.values.map fun v => some v.2).toArray 1 "payload" Event.decoder none =
      .ok e.payload :=
    Event.decoder_encode Dialect.json _ true e.payload representable.payload
  have sentAt : takeField Dialect.json (e.values.map fun v => some v.2).toArray 2 "sent_at" Decoder.timestamp
      none = .ok e.sentAt :=
    representable.sentAt
  rw [source, payload, sentAt]
  rfl

end Envelope

/-! ### The size bound -/

/-- A write checked against the frame bound fails exactly when the size is
over it, and then names the size. -/
theorem sizeChecked_error_iff {α : Type} (size : Nat) (written : α) (err : ProtocolError) :
    (if size > maxFrameSize then .error (.frameTooLarge size) else .ok written : Except ProtocolError α) =
        .error err ↔ maxFrameSize < size ∧ err = .frameTooLarge size := by
  by_cases large : size > maxFrameSize
  · rw [if_pos large]
    simp only [Except.error.injEq]
    exact ⟨fun named => ⟨large, named.symm⟩, fun ⟨_, named⟩ => named.symm⟩
  · rw [if_neg large]
    simp only [reduceCtorEq, false_iff, not_and]
    intro under
    exact absurd under large

theorem encodeFrameBinary_error_iff (f : Frame) (err : ProtocolError) :
    encodeFrameBinary f = .error err ↔
      maxFrameSize < (framePayload f).size ∧ err = .frameTooLarge (framePayload f).size :=
  sizeChecked_error_iff _ _ err

theorem encodeFrameText_error_iff (f : Frame) (err : ProtocolError) :
    encodeFrameText f = .error err ↔
      maxFrameSize < (render f.toJson).utf8ByteSize ∧ err = .frameTooLarge (render f.toJson).utf8ByteSize :=
  sizeChecked_error_iff _ _ err

theorem Envelope.encode_error_iff (e : Envelope) (err : ProtocolError) :
    e.encode = .error err ↔
      maxFrameSize < (render e.toJson).utf8ByteSize ∧ err = .frameTooLarge (render e.toJson).utf8ByteSize :=
  sizeChecked_error_iff _ _ err

/-! ### Every wire format -/

/-- Every wire format takes back what it writes: a frame through the binary
codec, whole or at the front of a buffer with the rest left over, and
through the text codec; an envelope through its codec. Each encoder fails
only on a text over the 1 MiB bound its decoder enforces, naming its size. -/
theorem codecs_take_back_what_they_write :
    (∀ f : Frame, f.Representable →
      (∀ b, encodeFrameBinary f = .ok b →
        decodeFrameBinary b = .ok f ∧ ∀ rest, decodeFrameFrom (b ++ rest) = .ok (some (f, rest))) ∧
      (∀ t, encodeFrameText f = .ok t → decodeFrameText t = .ok f)) ∧
    (∀ e : Envelope, e.Representable → ∀ j, e.encode = .ok j → Envelope.decode j.toUTF8 = .ok e) ∧
    (∀ f err, encodeFrameBinary f = .error err ↔
      maxFrameSize < (framePayload f).size ∧ err = .frameTooLarge (framePayload f).size) ∧
    (∀ f err, encodeFrameText f = .error err ↔
      maxFrameSize < (render f.toJson).utf8ByteSize ∧ err = .frameTooLarge (render f.toJson).utf8ByteSize) ∧
    (∀ (e : Envelope) err, e.encode = .error err ↔
      maxFrameSize < (render e.toJson).utf8ByteSize ∧ err = .frameTooLarge (render e.toJson).utf8ByteSize) := by
  refine ⟨fun f representable => ⟨fun b encoded => ?_, fun t encoded => ?_⟩, ?_, encodeFrameBinary_error_iff,
    encodeFrameText_error_iff, Envelope.encode_error_iff⟩
  · exact ⟨decodeFrameBinary_encode representable encoded, decodeFrameFrom_append representable encoded⟩
  · exact decodeFrameText_encode representable encoded
  · intro e representable j encoded
    exact Envelope.decode_encode representable encoded

/-- A replicated message is representable, so it comes back through the
envelope codec, and a ping through the text codec. -/
theorem replicated_message_and_ping_come_back :
    let e : Envelope := ⟨"node-a", .message
      { id := ⟨7⟩, senderId := "alice", roomId := "lobby", content := "hello",
        createdAt := ⟨1700000000, 0⟩ }, ⟨1700000001, 0⟩⟩
    e.Representable ∧ (∀ j, e.encode = .ok j → Envelope.decode j.toUTF8 = .ok e) ∧
      ∀ t, encodeFrameText (.ping (some 7)) = .ok t → decodeFrameText t = .ok (.ping (some 7)) := by
  intro e
  obtain ⟨frames, envelopes, -⟩ := codecs_take_back_what_they_write
  have created : Timestamp.ReadsBack ⟨1700000000, 0⟩ := by
    unfold Timestamp.ReadsBack
    decide +kernel
  have sent : Timestamp.ReadsBack ⟨1700000001, 0⟩ := by
    unfold Timestamp.ReadsBack
    decide +kernel
  have representable : e.Representable := ⟨⟨by decide, created⟩, sent⟩
  have small : (Frame.ping (some 7)).Representable := by
    rintro n ⟨⟩
    decide
  exact ⟨representable, envelopes e representable, (frames _ small).2⟩

end Herald
