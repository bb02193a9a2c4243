import Mathlib
import Herald.Proofs.UuidText
import Herald.Protocol.Frame

set_option autoImplicit false

/-!
# Decoding the fields a frame was written with

Both wire formats read a frame back as a content tree before the typed
decoders see it, and the trees they give back differ from the written one
only in the widths of integers (`Content.rewidth`). This module shows that
the typed decoders take every written frame back, whatever those widths.

A record is written as a map whose keys are its present fields' names in
declaration order; `RecordShape.slots_entriesOf` says such a map fills each
field's slot with its value when the names are distinct and every value
passes its field's check. A message, a notification, an event and each kind
of frame then decode back from their slots. An event is written with no mark
of its variant: a notification's form never reads as a message, because it
has no sender (`Message.decoder_notification`).

What the protocol's types hold is `Frame.Representable`: each integer within
the width its field is read at, each identifier below 2^128, and each
timestamp one whose text reads back (`Timestamp.ReadsBack`).
-/

namespace Herald

section Except
variable {ε α β : Type}

@[simp] theorem except_map_ok (f : α → β) (a : α) : (Except.ok a : Except ε α).map f = .ok (f a) := rfl
@[simp] theorem except_ok_bind (a : α) (f : α → Except ε β) : (Except.ok a >>= f) = f a := rfl
@[simp] theorem except_pure (a : α) : (pure a : Except ε α) = .ok a := rfl

end Except

namespace Decoder

variable (d : Dialect)

@[simp] theorem string_str (s : String) : string d (.str s) = .ok s := rfl
@[simp] theorem bool_bool (b : Bool) : bool d (.bool b) = .ok b := rfl
@[simp] theorem timestamp_str (s : String) : timestamp d (.str s) = Timestamp.parseText s := rfl
@[simp] theorem list_seq {α : Type} (inner : Decoder α) (items : List Content) :
    list inner d (.seq items) = items.mapM (inner d) := rfl
@[simp] theorem option_str {α : Type} (inner : Decoder α) (s : String) :
    option inner d (.str s) = (inner d (.str s)).map some := rfl
@[simp] theorem option_unsigned {α : Type} (inner : Decoder α) (w : Width) (n : Nat) :
    option inner d (.unsigned w n) = (inner d (.unsigned w n)).map some := rfl
@[simp] theorem option_map {α : Type} (inner : Decoder α) (entries : List (Content × Content)) :
    option inner d (.map entries) = (inner d (.map entries)).map some := rfl

theorem unsigned_unsigned {bits : Nat} {name : String} {w : Width} {n : Nat} (fits : n < 2 ^ bits) :
    unsigned bits name d (.unsigned w n) = .ok n := by
  simp [unsigned, Nat.pow_eq, fits]

theorem uuid_uuidContent (readable : Bool) (u : Uuid) (fits : u.value < 2 ^ 128) :
    uuid d (uuidContent readable u) = .ok u := by
  cases readable
  · simp only [uuidContent, uuid, Bool.false_eq_true, if_false, Uuid.ofBytes_toBytes u fits]; rfl
  · simp only [uuidContent, uuid, if_true, Uuid.parse_render u fits]; rfl

end Decoder

theorem findIdx?_name_eq {α : Type} (name : α → String) {xs pre post : List α} {x : α}
    (split : xs = pre ++ x :: post) (names : (xs.map name).Nodup) :
    xs.findIdx? (fun y => name y == name x) = some pre.length := by
  have fresh : name x ∉ pre.map name := by
    rw [split, List.map_append, List.map_cons, List.nodup_append] at names
    intro inPre
    exact names.2.2 _ inPre _ List.mem_cons_self rfl
  have absent : pre.findIdx? (fun y => name y == name x) = none :=
    List.findIdx?_eq_none_iff.mpr fun y mem => by
      simp only [beq_eq_false_iff_ne]
      intro same
      exact fresh (List.mem_map.mpr ⟨y, mem, same⟩)
  rw [split, List.findIdx?_append, absent]
  simp [List.findIdx?_cons]

namespace RecordShape

/-- The map entries of a record whose fields hold `values`, in declaration
order; a field whose value is `none` is left out. -/
def entriesOf (fields : List FieldSpec) (values : List (Option Content)) : List (Content × Content) :=
  (fields.zip values).filterMap fun (f, v) => v.map fun c => (.str f.name, c)

@[simp] theorem entriesOf_nil : entriesOf [] [] = [] := rfl

@[simp] theorem entriesOf_cons_none (f : FieldSpec) (fields : List FieldSpec) (values : List (Option Content)) :
    entriesOf (f :: fields) (none :: values) = entriesOf fields values := rfl

@[simp] theorem entriesOf_cons_some (f : FieldSpec) (fields : List FieldSpec) (c : Content)
    (values : List (Option Content)) :
    entriesOf (f :: fields) (some c :: values) = (.str f.name, c) :: entriesOf fields values := rfl

variable (shape : RecordShape) (d : Dialect)

theorem keyIndex_name {pre post : List FieldSpec} {f : FieldSpec}
    (split : shape.fields = pre ++ f :: post) (names : (shape.fields.map (·.name)).Nodup) :
    shape.keyIndex (.str f.name) = some (some pre.length) := by
  simp only [keyIndex]
  rw [findIdx?_name_eq FieldSpec.name split names]

theorem getD_pending (done : List (Option Content)) (k : Nat) :
    (done ++ none :: List.replicate k none).toArray.getD done.length none = none := by
  simp [Array.getD_eq_getD_getElem?]

theorem set_pending (done : List (Option Content)) (k : Nat) (c : Content) :
    (done ++ none :: List.replicate k none).toArray.set! done.length (some c) =
      (done ++ some c :: List.replicate k none).toArray := by
  simp [Array.set!, List.set_append_right]

/-- A record written field by field in declaration order fills each field's
slot with its value, provided the field names are distinct and every value
passes its field's check. -/
theorem slotsOfMap_entriesOf (names : (shape.fields.map (·.name)).Nodup)
    {post : List FieldSpec} {values : List (Option Content)}
    (checks : List.Forall₂ (fun f v => ∀ c ∈ v, f.check d c = .ok ()) post values) :
    ∀ (pre : List FieldSpec) (done : List (Option Content)), shape.fields = pre ++ post →
      done.length = pre.length →
      shape.slotsOfMap d (entriesOf post values) (done ++ List.replicate post.length none).toArray =
        .ok (done ++ values).toArray := by
  -- induction on the fields still to be read; `done` holds the slots of those before
  induction checks with
  | nil => intro pre done _ _; simp [slotsOfMap]
  | @cons f v post values check _ inductionHypothesis =>
    intro pre done split length
    have next := inductionHypothesis (pre ++ [f]) (done ++ [v]) (by simp [split])
      (by simp [length])
    simp only [List.append_assoc, List.singleton_append] at next
    cases v with
    | none =>
      rw [entriesOf_cons_none, List.length_cons, List.replicate_succ]
      exact next
    | some c =>
      rw [entriesOf_cons_some, slotsOfMap, keyIndex_name shape split names, List.length_cons,
        List.replicate_succ]
      simp only
      rw [split, List.getElem?_append_right (Nat.le_refl _), Nat.sub_self, List.getElem?_cons_zero]
      simp only
      rw [← length, getD_pending, check c rfl]
      simp only [Option.isSome_none, Bool.false_eq_true, if_false]
      rw [set_pending]
      exact next

theorem slots_entriesOf (names : (shape.fields.map (·.name)).Nodup) {values : List (Option Content)}
    (checks : List.Forall₂ (fun f v => ∀ c ∈ v, f.check d c = .ok ()) shape.fields values) :
    shape.slots d (.map (entriesOf shape.fields values)) = .ok values.toArray := by
  have filled := slotsOfMap_entriesOf shape d names checks [] [] rfl rfl
  rw [List.nil_append, List.nil_append] at filled
  rw [slots, ← filled, Array.replicate]

theorem mem_entriesOf {fields : List FieldSpec} {values : List (Option Content)}
    {e : Content × Content} (mem : e ∈ entriesOf fields values) : ∃ f ∈ fields, e.1 = .str f.name := by
  obtain ⟨⟨f, v⟩, inZip, written⟩ := List.mem_filterMap.mp mem
  cases v with
  | none => cases written
  | some c =>
    cases written
    exact ⟨f, (List.of_mem_zip inZip).1, rfl⟩

theorem slotsOfMap_getD_of_unnamed (i : Nat) :
    ∀ (entries : List (Content × Content)) (slots s : Array (Option Content)),
      (∀ e ∈ entries, shape.keyIndex e.1 ≠ some (some i)) →
      shape.slotsOfMap d entries slots = .ok s → s.getD i none = slots.getD i none
  | [], slots, s, _, filled => by
    simp only [slotsOfMap, Except.ok.injEq] at filled
    rw [filled]
  | (k, v) :: rest, slots, s, unnamed, filled => by
    have later : ∀ e ∈ rest, shape.keyIndex e.1 ≠ some (some i) :=
      fun e mem => unnamed e (List.mem_cons_of_mem _ mem)
    unfold slotsOfMap at filled
    split at filled
    · cases filled
    · exact slotsOfMap_getD_of_unnamed i rest slots s later filled
    case _ j named =>
      have other : j ≠ i := fun same => unnamed (k, v) List.mem_cons_self (by rw [named, same])
      split at filled
      · exact slotsOfMap_getD_of_unnamed i rest slots s later filled
      · split at filled
        · cases filled
        · split at filled
          · cases filled
          · rw [slotsOfMap_getD_of_unnamed i rest _ s later filled]
            simp [Array.getD_eq_getD_getElem?, Array.getElem?_setIfInBounds_ne other, Array.set!]

end RecordShape


theorem Content.rewidth_map_entriesOf (w : Nat → Width) (fields : List FieldSpec)
    (values : List (Option Content)) :
    (Content.map (RecordShape.entriesOf fields values)).rewidth w =
      .map (RecordShape.entriesOf fields (values.map (Option.map (·.rewidth w)))) := by
  rw [Content.rewidth, Content.rewidthEntries_eq_map]
  congr 1
  induction fields generalizing values with
  | nil => cases values <;> rfl
  | cons f fields inductionHypothesis =>
    cases values with
    | nil => rfl
    | cons v values =>
      cases v with
      | none => simp only [RecordShape.entriesOf_cons_none, List.map_cons, Option.map_none,
          inductionHypothesis]
      | some c => simp only [RecordShape.entriesOf_cons_some, List.map_cons, Option.map_some,
          inductionHypothesis, Content.rewidth]

/-- A timestamp whose text reads back as the same timestamp. -/
def Timestamp.ReadsBack (t : Timestamp) : Prop := Timestamp.parseText t.render = .ok t

/-- A message the wire formats carry: a 128-bit identifier and a creation
time whose text reads back. -/
structure Message.Representable (m : Message) : Prop where
  id : m.id.value < 2 ^ 128
  createdAt : m.createdAt.ReadsBack

namespace Message

/-- The values of a message's fields as written, in the order of `Message.shape`. -/
def fieldValues (readable : Bool) (m : Message) : List (Option Content) :=
  [some (uuidContent readable m.id), some (.str m.senderId), m.receiverId.map .str,
    some (.str m.roomId), some (.str m.content), some (.str m.kind), some (.str m.createdAt.render)]

theorem encode_eq (readable : Bool) (m : Message) :
    m.encode readable = .map (RecordShape.entriesOf shape.fields (m.fieldValues readable)) := by
  cases receiver : m.receiverId <;>
    simp [encode, recordContent, fieldValues, shape, FieldSpec.of, receiver]

theorem names_nodup : (shape.fields.map (·.name)).Nodup := by decide

theorem rewidth_fieldValues (w : Nat → Width) (readable : Bool) (m : Message) :
    (m.fieldValues readable).map (Option.map (·.rewidth w)) = m.fieldValues readable := by
  have unchanged : (fun c => Content.rewidth w c) ∘ Content.str = Content.str := by
    funext s; rfl
  cases readable <;> simp [fieldValues, uuidContent, Content.rewidth, Option.map_map, unchanged]

/-- A message reads back from its written form, whatever widths a reader gave
its integers. -/
theorem decoder_encode (d : Dialect) (w : Nat → Width) (readable : Bool) (m : Message)
    (representable : m.Representable) : decoder d ((m.encode readable).rewidth w) = .ok m := by
  rw [encode_eq, Content.rewidth_map_entriesOf, rewidth_fieldValues]
  have created : Timestamp.parseText m.createdAt.render = .ok m.createdAt := representable.createdAt
  have slots := @RecordShape.slots_entriesOf shape d names_nodup (m.fieldValues readable) (by
    simp [shape, fieldValues, FieldSpec.of, Decoder.uuid_uuidContent _ _ _ representable.id, created])
  simp only [decoder, slots]
  obtain ⟨id, senderId, receiverId, roomId, content, kind, createdAt⟩ := m
  cases receiverId <;>
    simp [ofSlots, takeField, fieldValues, Decoder.uuid_uuidContent _ _ _ representable.id, created]

end Message


/-- A notification the wire formats carry: a 128-bit identifier and creation
and update times whose texts read back. -/
structure Notification.Representable (n : Notification) : Prop where
  id : n.id.value < 2 ^ 128
  createdAt : n.createdAt.ReadsBack
  updatedAt : n.updatedAt.ReadsBack

namespace Notification

/-- The values of a notification's fields as written, in the order of `Notification.shape`. -/
def fieldValues (readable : Bool) (n : Notification) : List (Option Content) :=
  [some (uuidContent readable n.id), some (.str n.userId), some (.str n.kind), some (.str n.content),
    some (.bool n.read), some (.str n.createdAt.render), some (.str n.updatedAt.render)]

theorem encode_eq (readable : Bool) (n : Notification) :
    n.encode readable = .map (RecordShape.entriesOf shape.fields (n.fieldValues readable)) := by
  simp [encode, recordContent, fieldValues, shape, FieldSpec.of]

theorem names_nodup : (shape.fields.map (·.name)).Nodup := by decide

theorem rewidth_fieldValues (w : Nat → Width) (readable : Bool) (n : Notification) :
    (n.fieldValues readable).map (Option.map (·.rewidth w)) = n.fieldValues readable := by
  cases readable <;> simp [fieldValues, uuidContent, Content.rewidth]

/-- A notification reads back from its written form, whatever widths a reader
gave its integers. -/
theorem decoder_encode (d : Dialect) (w : Nat → Width) (readable : Bool) (n : Notification)
    (representable : n.Representable) : decoder d ((n.encode readable).rewidth w) = .ok n := by
  rw [encode_eq, Content.rewidth_map_entriesOf, rewidth_fieldValues]
  have created : Timestamp.parseText n.createdAt.render = .ok n.createdAt := representable.createdAt
  have updated : Timestamp.parseText n.updatedAt.render = .ok n.updatedAt := representable.updatedAt
  have slots := @RecordShape.slots_entriesOf shape d names_nodup (n.fieldValues readable) (by
    simp [shape, fieldValues, FieldSpec.of, Decoder.uuid_uuidContent _ _ _ representable.id, created,
      updated])
  simp only [decoder, slots]
  simp [takeField, fieldValues, Decoder.uuid_uuidContent _ _ _ representable.id, created, updated]

end Notification


def Event.Representable : Event → Prop
  | .message m => m.Representable
  | .notification n => n.Representable

namespace Message

theorem keyIndex_notification_ne_sender :
    ∀ f ∈ Notification.shape.fields, shape.keyIndex (.str f.name) ≠ some (some 1) := by
  decide

theorem decoder_notification (d : Dialect) (w : Nat → Width) (readable : Bool) (n : Notification) :
    ∃ e, decoder d ((n.encode readable).rewidth w) = .error e := by
  rw [Notification.encode_eq, Content.rewidth_map_entriesOf]
  generalize values : (n.fieldValues readable).map (Option.map (·.rewidth w)) = written
  unfold decoder
  cases filled : shape.slots d (.map (RecordShape.entriesOf Notification.shape.fields written)) with
  | error e => exact ⟨e, by simp [bind, Except.bind]⟩
  | ok s =>
    have senderless : s.getD 1 none = none := by
      rw [RecordShape.slotsOfMap_getD_of_unnamed shape d 1 _ _ s (fun e mem => by
        obtain ⟨f, inFields, key⟩ := RecordShape.mem_entriesOf mem
        rw [key]
        exact keyIndex_notification_ne_sender f inFields) filled]
      rfl
    show ∃ e, (Except.ok s >>= ofSlots d) = .error e
    unfold ofSlots
    cases first : takeField d s 0 "id" Decoder.uuid none with
    | error e => exact ⟨e, by simp [bind, Except.bind, first]⟩
    | ok id =>
      refine ⟨missingField "sender_id", ?_⟩
      simp only [bind, Except.bind, first]
      simp [takeField, senderless]

end Message

namespace Event

/-- An event reads back from its written form as the variant it was written
from, whatever widths a reader gave its integers. -/
theorem decoder_encode (d : Dialect) (w : Nat → Width) (readable : Bool) (e : Event)
    (representable : e.Representable) : decoder d ((e.encode readable).rewidth w) = .ok e := by
  cases e with
  | message m =>
    simp only [decoder, encode, Message.decoder_encode d w readable m representable]
  | notification n =>
    obtain ⟨err, failed⟩ := Message.decoder_notification d w readable n
    simp only [decoder, encode, failed, Notification.decoder_encode d w readable n representable]

end Event


namespace Frame

/-- A frame whose values the protocol's types hold: each integer within the
width its field is read at, each identifier 128 bits, and each timestamp one
whose text reads back. -/
def Representable : Frame → Prop
  | .send id _ _ _ => ∀ n ∈ id, n < 2 ^ 64
  | .history id before limit => id < 2 ^ 64 ∧ (∀ t ∈ before, t.ReadsBack) ∧ ∀ n ∈ limit, n < 2 ^ 32
  | .markRead id notificationId => id < 2 ^ 64 ∧ notificationId.value < 2 ^ 128
  | .ping timestamp => ∀ n ∈ timestamp, n < 2 ^ 64
  | .pong timestamp => ∀ n ∈ timestamp, n < 2 ^ 64
  | .connected _ _ version heartbeat => version < 2 ^ 8 ∧ heartbeat < 2 ^ 32
  | .message m => m.Representable
  | .notification n => n.Representable
  | .historyResult id items => id < 2 ^ 64 ∧ ∀ e ∈ items, e.Representable
  | .ack id event => id < 2 ^ 64 ∧ ∀ e ∈ event, e.Representable
  | .error id code _ => id < 2 ^ 64 ∧ code < 2 ^ 16

/-- The values of a frame's fields as written, in the order of its kind's shape. -/
def fieldValues (readable : Bool) : Frame → List (Option Content)
  | .send id content receiverId kind =>
    [id.map num, some (.str content), receiverId.map .str, kind.map .str]
  | .history id before limit => [some (num id), before.map fun t => .str t.render, limit.map num]
  | .markRead id notificationId => [some (num id), some (uuidContent readable notificationId)]
  | .ping timestamp => [timestamp.map num]
  | .pong timestamp => [timestamp.map num]
  | .connected connectionId topic version heartbeat =>
    [some (.str connectionId), some (.str topic), some (num version), some (num heartbeat)]
  | .message m => [some (m.encode readable)]
  | .notification n => [some (n.encode readable)]
  | .historyResult id items => [some (num id), some (.seq (items.map (·.encode readable)))]
  | .ack id event => [some (num id), event.map (Event.encode readable)]
  | .error id code text => [some (num id), some (num code), some (.str text)]

theorem fields_eq (readable : Bool) (f : Frame) :
    (f.fields readable).map (fun field => (Content.str field.1, field.2)) =
      RecordShape.entriesOf f.frameType.shape.fields (f.fieldValues readable) := by
  cases f with
  | send id content receiverId kind =>
    cases id <;> cases receiverId <;> cases kind <;> rfl
  | history id before limit => cases before <;> cases limit <;> rfl
  | ping timestamp => cases timestamp <;> rfl
  | pong timestamp => cases timestamp <;> rfl
  | ack id event => cases event <;> rfl
  | _ => rfl

theorem names_nodup (t : FrameType) : (t.shape.fields.map (·.name)).Nodup := by
  cases t <;> decide

theorem rewidth_uuidContent (w : Nat → Width) (readable : Bool) (u : Uuid) :
    (uuidContent readable u).rewidth w = uuidContent readable u := by
  cases readable <;> rfl

theorem mapM_decoder_encode (d : Dialect) (w : Nat → Width) (readable : Bool) :
    ∀ items : List Event, (∀ e ∈ items, e.Representable) →
      (items.map fun e => (e.encode readable).rewidth w).mapM (Event.decoder d) = .ok items
  | [], _ => rfl
  | e :: rest, representable => by
    rw [List.map_cons, List.mapM_cons,
      Event.decoder_encode d w readable e (representable e List.mem_cons_self),
      mapM_decoder_encode d w readable rest (fun e mem => representable e (List.mem_cons_of_mem _ mem))]
    rfl

theorem rewidth_num (w : Nat → Width) (n : Nat) : (num n).rewidth w = .unsigned (w n) n := rfl

theorem rewidth_str (w : Nat → Width) (s : String) : (Content.str s).rewidth w = .str s := rfl

theorem list_decoder_encode (d : Dialect) (w : Nat → Width) (readable : Bool) (items : List Event)
    (representable : ∀ e ∈ items, e.Representable) :
    Decoder.list Event.decoder d ((Content.seq (items.map (Event.encode readable))).rewidth w) =
      .ok items := by
  rw [Content.rewidth, Content.rewidthItems_eq_map, List.map_map, Decoder.list_seq]
  exact mapM_decoder_encode d w readable items representable

theorem option_decoder_encode (d : Dialect) (w : Nat → Width) (readable : Bool) (e : Event)
    (representable : e.Representable) :
    Decoder.option Event.decoder d ((e.encode readable).rewidth w) = .ok (some e) := by
  have decoded := Event.decoder_encode d w readable e representable
  cases e with
  | message m =>
    simp only [Event.encode, Message.encode_eq, Content.rewidth_map_entriesOf] at decoded ⊢
    simp [decoded]
  | notification n =>
    simp only [Event.encode, Notification.encode_eq, Content.rewidth_map_entriesOf] at decoded ⊢
    simp [decoded]

theorem checks_fieldValues (d : Dialect) (w : Nat → Width) (readable : Bool) (f : Frame)
    (representable : f.Representable) :
    List.Forall₂ (fun spec v => ∀ c ∈ v, spec.check d c = .ok ()) f.frameType.shape.fields
      ((f.fieldValues readable).map (Option.map (·.rewidth w))) := by
  -- each optional field is present or not; then each field's decoder on its value
  rcases f with ⟨_ | id, content, _ | receiverId, _ | kind⟩ | ⟨id, _ | before, _ | limit⟩ |
    ⟨id, notificationId⟩ | ⟨_ | timestamp⟩ | ⟨_ | timestamp⟩ | ⟨connectionId, topic, version, heartbeat⟩ |
    m | n | ⟨id, items⟩ | ⟨id, _ | event⟩ | ⟨id, code, text⟩
  all_goals
    simp [Representable, Timestamp.ReadsBack] at representable
    simp [fieldValues, FrameType.shape, frameType, FieldSpec.of, rewidth_num, rewidth_str, Decoder.u64,
      Decoder.u32, Decoder.u16, Decoder.u8, Decoder.unsigned_unsigned, representable,
      Message.decoder_encode, Notification.decoder_encode, rewidth_uuidContent,
      Decoder.uuid_uuidContent, option_decoder_encode]
  case historyResult =>
    rw [list_decoder_encode d w readable items representable.2]
    rfl

/-- A frame's fields read back as the frame, whatever widths a reader gave
their integers. -/
theorem decodeFields_encode (d : Dialect) (w : Nat → Width) (readable : Bool) (f : Frame)
    (representable : f.Representable) :
    decodeFields f.frameType d
        ((Content.map ((f.fields readable).map fun field => (Content.str field.1, field.2))).rewidth w) =
      .ok f := by
  rw [fields_eq, Content.rewidth_map_entriesOf]
  have slots := RecordShape.slots_entriesOf f.frameType.shape d (names_nodup _)
    (checks_fieldValues d w readable f representable)
  unfold decodeFields
  rw [slots, except_ok_bind]
  rcases f with ⟨_ | id, content, _ | receiverId, _ | kind⟩ | ⟨id, _ | before, _ | limit⟩ |
    ⟨id, notificationId⟩ | ⟨_ | timestamp⟩ | ⟨_ | timestamp⟩ | ⟨connectionId, topic, version, heartbeat⟩ |
    m | n | ⟨id, items⟩ | ⟨id, _ | event⟩ | ⟨id, code, text⟩
  all_goals
    simp [Representable, Timestamp.ReadsBack] at representable
    simp [fieldValues, frameType, takeField, rewidth_num, rewidth_str, Decoder.u64,
      Decoder.u32, Decoder.u16, Decoder.u8, Decoder.unsigned_unsigned, representable,
      Message.decoder_encode, Notification.decoder_encode, rewidth_uuidContent,
      Decoder.uuid_uuidContent, option_decoder_encode]
  case historyResult =>
    rw [list_decoder_encode d w readable items representable.2]
    rfl

end Frame

end Herald
