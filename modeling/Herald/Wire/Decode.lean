import Herald.Wire.Content
import Herald.Ident.Uuid
import Herald.Time.Timestamp

set_option autoImplicit false

/-!
Typed values from content trees.

Every decoder takes the error dialect of the wire format it serves and a
content tree, and gives the value or the error text. The rules:

* an unsigned integer of `bits` bits accepts any integer content in range;
  out of range, or negative, is an invalid value; a float or anything else is
  an invalid type;
* a string accepts text, or bytes that are UTF-8;
* an optional value is absent for the unit value or an explicit absence;
* a UUID accepts its text forms or exactly 16 bytes;
* an instant accepts RFC 3339 text.

A record is decoded from a map or from a sequence. From a map, each key
names a field by its name (as text or bytes) or by its position (an 8- or
64-bit unsigned integer); unknown keys are skipped; a field named twice is
an error; each value is checked when it is met, so the first bad entry
decides the error. Fields left out are then looked at in declaration order:
an optional or defaulted field takes its default, any other is missing.
From a sequence, the items are the fields in order; a short sequence is an
error at the first absent field that has no default, and extra items are an
error after all fields are read.
-/

namespace Herald

/-- A decoder of typed values from content. -/
abbrev Decoder (α : Type) := Dialect → Content → Except String α

namespace Decoder

/-- An unsigned integer of `bits` bits; `name` is how errors name the type. -/
def unsigned (bits : Nat) (name : String) : Decoder Nat := fun d c =>
  match c with
  | .unsigned _ n => if n < Nat.pow 2 bits then .ok n else .error (invalidValue d c name)
  | .signed _ i =>
    if i ≥ 0 && i.toNat < Nat.pow 2 bits then .ok i.toNat else .error (invalidValue d c name)
  | _ => .error (invalidType d c name)

def u64 : Decoder Nat := unsigned 64 "u64"
def u32 : Decoder Nat := unsigned 32 "u32"
def u16 : Decoder Nat := unsigned 16 "u16"
def u8 : Decoder Nat := unsigned 8 "u8"

def string : Decoder String := fun d c =>
  match c with
  | .str s => .ok s
  | .bytes b =>
    match String.fromUTF8? b with
    | some s => .ok s
    | none => .error (invalidValue d c "a string")
  | _ => .error (invalidType d c "a string")

def bool : Decoder Bool := fun d c =>
  match c with
  | .bool b => .ok b
  | _ => .error (invalidType d c "a boolean")

/-- An optional value: absent for the unit value or an explicit absence. -/
def option {α : Type} (inner : Decoder α) : Decoder (Option α) := fun d c =>
  match c with
  | .none | .unit => .ok none
  | .some v => (inner d v).map some
  | v => (inner d v).map some

/-- A UUID from text or from 16 bytes. -/
def uuid : Decoder Uuid := fun d c =>
  match c with
  | .str s => (Uuid.parse s).mapError fun e => s!"UUID parsing failed: {e}"
  | .bytes b => (Uuid.ofBytes b).mapError fun e => s!"UUID parsing failed: {e}"
  | _ => .error (invalidType d c "a formatted UUID string")

def timestamp : Decoder Timestamp := fun d c =>
  match c with
  | .str s => Timestamp.parseText s
  | _ => .error (invalidType d c "an RFC 3339 formatted date and time string")

/-- A sequence of values, decoded in order. -/
def list {α : Type} (inner : Decoder α) : Decoder (List α) := fun d c =>
  match c with
  | .seq items => items.mapM (inner d)
  | _ => .error (invalidType d c "a sequence")

end Decoder

/-- What a record decoder needs to know about one field. -/
structure FieldSpec where
  name : String
  /-- Decode the value, keeping only whether it succeeds. -/
  check : Dialect → Content → Except String Unit
  /-- Whether the field may be left out of a map. -/
  optional : Bool := false
  /-- Whether the field may be left out of a short sequence. -/
  defaulted : Bool := false

/-- A field spec from a typed decoder. -/
def FieldSpec.of {α : Type} (name : String) (dec : Decoder α) (optional defaulted : Bool) :
    FieldSpec :=
  { name, check := fun d c => (dec d c).map fun _ => (), optional, defaulted }

/-- The shape of a record: how errors name it, and its fields in order. -/
structure RecordShape where
  expecting : String
  fields : List FieldSpec

/-- The field a map key names: `some (some i)` for field `i`, `some none` for
an unknown key, `none` when the key cannot name a field. -/
def RecordShape.keyIndex (shape : RecordShape) (k : Content) : Option (Option Nat) :=
  let byName (s : String) := shape.fields.findIdx? (·.name == s)
  match k with
  | .str s => some (byName s)
  | .bytes b =>
    match String.fromUTF8? b with
    | some s => some (byName s)
    | none => some none
  | .unsigned .w8 n | .unsigned .w64 n =>
    some (if n < shape.fields.length then some n else none)
  | _ => none

/-- The values of a record's fields, in declaration order, from map entries.
Errors follow the order of the entries. -/
def RecordShape.slotsOfMap (shape : RecordShape) (d : Dialect) :
    List (Content × Content) → Array (Option Content) → Except String (Array (Option Content))
  | [], slots => .ok slots
  | (k, v) :: rest, slots =>
    match shape.keyIndex k with
    | none => .error (invalidType d k "field identifier")
    | some none => shape.slotsOfMap d rest slots
    | some (some i) =>
      match shape.fields[i]? with
      | none => shape.slotsOfMap d rest slots
      | some f =>
        if (slots.getD i none).isSome then .error (duplicateField f.name)
        else
          match f.check d v with
          | .error e => .error e
          | .ok () => shape.slotsOfMap d rest (slots.set! i (some v))

/-- The text of the expected length of a sequence. -/
def elementsInSequence (n : Nat) : String :=
  if n == 1 then "1 element in sequence" else s!"{n} elements in sequence"

/-- The values of a record's fields from sequence items. -/
def RecordShape.slotsOfSeq (shape : RecordShape) (d : Dialect) (items : List Content) :
    Except String (Array (Option Content)) := do
  let n := shape.fields.length
  let mut slots : Array (Option Content) := #[]
  for (f, i) in shape.fields.zipIdx do
    match items[i]? with
    | some v =>
      f.check d v
      slots := slots.push (some v)
    | none =>
      if f.defaulted then slots := slots.push none
      else throw (invalidLength i s!"{shape.expecting} with {n} elements")
  if items.length > n then throw (invalidLength items.length (elementsInSequence n))
  return slots

/-- The values of a record's fields from a map or a sequence. -/
def RecordShape.slots (shape : RecordShape) (d : Dialect) (c : Content) :
    Except String (Array (Option Content)) :=
  match c with
  | .map entries => shape.slotsOfMap d entries (Array.replicate shape.fields.length none)
  | .seq items => shape.slotsOfSeq d items
  | other => .error (invalidType d other shape.expecting)

/-- Field `i` of checked slots: its value, its default when left out, or the
missing-field error. -/
def takeField {α : Type} (d : Dialect) (slots : Array (Option Content)) (i : Nat) (name : String)
    (dec : Decoder α) (absent : Option α) : Except String α :=
  match slots.getD i none with
  | some c => dec d c
  | none =>
    match absent with
    | some a => .ok a
    | none => .error (missingField name)

end Herald
