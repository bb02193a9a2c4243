import Herald.Json.Read
import Herald.Wire.Decode

set_option autoImplicit false

/-!
Typed values read straight from JSON text.

Each reader here reads one value of a given type, failing with the texts and
positions of the text wire format: a value of the wrong kind is named in the
error (`invalid type: integer \`1\`, expected a string`) and the position is
just after it, or at an opening bracket, which is not consumed.

`readRecord` reads a record from an object or an array. From an object,
unknown members are skipped, a member named twice is an error at once, and
fields left out are checked after the closing brace, in declaration order.
From an array the items are the fields in order. An error raised by the
record's own rules is positioned after the closing bracket, when one
follows. An error met inside a member or an item records the member's key
or the item's index as its path.
-/

namespace Herald.Json

open ReadM

/-- Fail naming the value ahead, which is consumed unless it is an array or an object. -/
def peekInvalidType {α : Type} (expected : String) : ReadM α := do
  match ← peek with
  | some 91 => failWith (invalidType Dialect.json (.seq []) expected)
  | some 123 => failWith (invalidType Dialect.json (.map []) expected)
  | some c =>
    if c == 110 || c == 116 || c == 102 || c == 45 || c == 34 || (48 ≤ c && c ≤ 57) then
      let v ← readContent 4
      failWith (invalidType Dialect.json v expected)
    else peekError Reason.expectedValue
  | none => peekError Reason.expectedValue

def readString : ReadM String := located do
  match ← skipBlanks with
  | none => peekError Reason.eofValue
  | some 34 => do eat; readStringBody
  | some _ => peekInvalidType "a string"

/-- A string value, checked by `check`, whose error is positioned after the string. -/
def readStringWith {α : Type} (expected : String) (check : String → Except String α) : ReadM α :=
  located do
    match ← skipBlanks with
    | none => peekError Reason.eofValue
    | some 34 => do eat; ofExcept (check (← readStringBody))
    | some _ => peekInvalidType expected

def readBool : ReadM Bool := located do
  match ← skipBlanks with
  | none => peekError Reason.eofValue
  | some 116 => do eat; expectWord [114, 117, 101]; pure true
  | some 102 => do eat; expectWord [97, 108, 115, 101]; pure false
  | some _ => peekInvalidType "a boolean"

/-- An unsigned integer of `bits` bits; `name` is how errors name the type. -/
def readUnsigned (bits : Nat) (name : String) : ReadM Nat := located do
  let n ← match ← skipBlanks with
    | none => peekError Reason.eofValue
    | some 45 => do eat; readNumber false
    | some c => if isDigitByte c then readNumber true else peekInvalidType name
  ofExcept (Decoder.unsigned bits name Dialect.json n.toContent)

/-- `null` for absence, else a value. -/
def readOption {α : Type} (inner : ReadM α) : ReadM (Option α) := do
  match ← skipBlanks with
  | some 110 => do eat; expectWord [117, 108, 108]; pure none
  | _ => return some (← inner)

/-- A value of any kind, as content, checked by a decoder whose error is not
positioned here. -/
def readDecoded {α : Type} (dec : Decoder α) : ReadM α := do
  let c ← readContent 1000000000
  ofExcept (dec Dialect.json c)

/-- How a record field is read from text. -/
structure StreamField where
  name : String
  /-- Read the value, giving it back as content for the typed decoder. -/
  read : ReadM Content
  optional : Bool := false
  defaulted : Bool := false

/-- The field slots from an object's members. -/
def recordMembers (fields : List StreamField) : Nat → Bool → Array (Option Content) →
    ReadM (Array (Option Content))
  | 0, _, slots => pure slots
  | fuel + 1, first, slots => do
    match ← nextKey first with
    | none => pure slots
    | some k =>
      match fields.findIdx? (·.name == k) with
      | none => do
        within (.key k) (do colon; skipValue)
        recordMembers fields fuel false slots
      | some i =>
        let f := fields.getD i { name := k, read := pure .unit }
        if (slots.getD i none).isSome then failWith (duplicateField f.name)
        let v ← within (.key k) (do colon; f.read)
        recordMembers fields fuel false (slots.set! i (some v))

/-- The field slots from an array's items. -/
def recordItems (expecting : String) (fields : List StreamField) : ReadM (Array (Option Content)) := do
  let n := fields.length
  let mut slots : Array (Option Content) := #[]
  let mut first := true
  let mut ended := false
  for (f, i) in fields.zipIdx do
    let more ← if ended then pure false else within (.index i) (nextItem first)
    first := false
    if more then
      slots := slots.push (some (← within (.index i) f.read))
    else
      ended := true
      if f.defaulted then slots := slots.push none
      else failWith (invalidLength i s!"{expecting} with {n} elements")
  return slots

/-- Read a record from an object or an array. -/
def readRecord (expecting : String) (fields : List StreamField) : ReadM (Array (Option Content)) :=
  located do
    match ← skipBlanks with
    | none => peekError Reason.eofValue
    | some 123 => do
      enterNesting
      eat
      let slots ← thenAlways (do
          let b ← input
          let slots ← recordMembers fields (b.size + 1) true (Array.replicate fields.length none)
          for (f, i) in fields.zipIdx do
            if (slots.getD i none).isNone && !f.optional then failWith (missingField f.name)
          pure slots) endObject
      leaveNesting
      pure slots
    | some 91 => do
      enterNesting
      eat
      let slots ← thenAlways (recordItems expecting fields) endList
      leaveNesting
      pure slots
    | some _ => peekInvalidType expecting

/-- Run a reader on a whole text: the value, then only blanks. -/
def readAll {α : Type} (r : ReadM α) (bytes : ByteArray) : Except ReadError α :=
  runReader (do let a ← r; finish; pure a) bytes

end Herald.Json
