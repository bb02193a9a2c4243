import Herald.Wire.Content
import Herald.Text.Utf8

set_option autoImplicit false

/-!
Reading the binary encoding into content trees.

A value starts with a marker byte. Integers keep the width their marker
gives (a positive fixint is 8 bits, a negative fixint 8 bits signed). A
string whose bytes are not UTF-8 is read as a byte string. Arrays, maps
and extension values may nest at most 1023 deep. The marker C1 is never
valid.

Running out of input is an error whose text says what was being read: a
marker, a fixed-size field, or the data of a string, byte string or
extension value.
-/

namespace Herald.Pack

/-- Reading from a fixed input; the state is the position. -/
abbrev PackM := ReaderT ByteArray (StateT Nat (Except String))

/-- The nesting allowance at the start of a value. -/
def depthLimit : Nat := 1024

def readMarker : PackM UInt8 := do
  let b ← read
  let p ← get
  if h : p < b.size then set (p + 1); pure b[p]
  else throw "IO error while reading marker: failed to fill whole buffer"

/-- `n` bytes of a fixed-size field. -/
def readFixed (n : Nat) : PackM ByteArray := do
  let b ← read
  let p ← get
  if p + n ≤ b.size then set (p + n); pure (b.extract p (p + n))
  else set b.size; throw "IO error while reading data: failed to fill whole buffer"

/-- `n` bytes of a string, byte string or extension value. -/
def readSlice (n : Nat) : PackM ByteArray := do
  let b ← read
  let p ← get
  if p + n ≤ b.size then set (p + n); pure (b.extract p (p + n))
  else throw "IO error while reading data: unexpected end of file"

def beNat (b : ByteArray) : Nat := b.foldl (fun n x => n * 256 + x.toNat) 0

def beInt (b : ByteArray) : Int :=
  let n := beNat b
  if n ≥ Nat.pow 2 (8 * b.size - 1) then (n : Int) - Int.pow 2 (8 * b.size) else n

/-- A fixed-size unsigned field of `n` bytes. -/
def readUnsigned (n : Nat) : PackM Nat := do return beNat (← readFixed n)

/-- What a marker announces. -/
inductive Head where
  /-- A value read whole. -/
  | value (c : Content)
  /-- A string whose bytes are not UTF-8. -/
  | badText (b : ByteArray)
  | array (n : Nat)
  | map (n : Nat)
  /-- An extension value whose data is `n` bytes. -/
  | ext (n : Nat)

def readText (n : Nat) : PackM Head := do
  let b ← readSlice n
  match String.fromUTF8? b with
  | some s => pure (.value (.str s))
  | none => pure (.badText b)

/-- Read a marker and what it holds, up to the items of an array or map. -/
def readHead : PackM Head := do
  let m ← readMarker
  let k := m.toNat
  if k < 0x80 then pure (.value (.unsigned .w8 k))
  else if k < 0x90 then pure (.map (k - 0x80))
  else if k < 0xa0 then pure (.array (k - 0x90))
  else if k < 0xc0 then readText (k - 0xa0)
  else if k ≥ 0xe0 then pure (.value (.signed .w8 ((k : Int) - 256)))
  else match k with
    | 0xc0 => pure (.value .unit)
    | 0xc2 => pure (.value (.bool false))
    | 0xc3 => pure (.value (.bool true))
    | 0xc4 => do let n ← readUnsigned 1; pure (.value (.bytes (← readSlice n)))
    | 0xc5 => do let n ← readUnsigned 2; pure (.value (.bytes (← readSlice n)))
    | 0xc6 => do let n ← readUnsigned 4; pure (.value (.bytes (← readSlice n)))
    | 0xc7 => do pure (.ext (← readUnsigned 1))
    | 0xc8 => do pure (.ext (← readUnsigned 2))
    | 0xc9 => do pure (.ext (← readUnsigned 4))
    | 0xca => do
      let bits := (← readUnsigned 4).toUInt32
      pure (.value (.float (Float32.ofBits bits).toFloat))
    | 0xcb => do pure (.value (.float (Float.ofBits (← readUnsigned 8).toUInt64)))
    | 0xcc => do pure (.value (.unsigned .w8 (← readUnsigned 1)))
    | 0xcd => do pure (.value (.unsigned .w16 (← readUnsigned 2)))
    | 0xce => do pure (.value (.unsigned .w32 (← readUnsigned 4)))
    | 0xcf => do pure (.value (.unsigned .w64 (← readUnsigned 8)))
    | 0xd0 => do pure (.value (.signed .w8 (beInt (← readFixed 1))))
    | 0xd1 => do pure (.value (.signed .w16 (beInt (← readFixed 2))))
    | 0xd2 => do pure (.value (.signed .w32 (beInt (← readFixed 4))))
    | 0xd3 => do pure (.value (.signed .w64 (beInt (← readFixed 8))))
    | 0xd4 => pure (.ext 1)
    | 0xd5 => pure (.ext 2)
    | 0xd6 => pure (.ext 4)
    | 0xd7 => pure (.ext 8)
    | 0xd8 => pure (.ext 16)
    | 0xd9 => do readText (← readUnsigned 1)
    | 0xda => do readText (← readUnsigned 2)
    | 0xdb => do readText (← readUnsigned 4)
    | 0xdc => do pure (.array (← readUnsigned 2))
    | 0xdd => do pure (.array (← readUnsigned 4))
    | 0xde => do pure (.map (← readUnsigned 2))
    | 0xdf => do pure (.map (← readUnsigned 4))
    | _ => throw "wrong msgpack marker Reserved"

def enter (depth : Nat) : PackM Nat :=
  if depth ≤ 1 then throw "depth limit exceeded" else pure (depth - 1)

/-- The tag and data of an extension value, after its header. -/
def readExtBody (n : Nat) : PackM Content := do
  let tag := beInt (← readFixed 1)
  let data ← readSlice n
  pure (.newtype (.seq [.signed .w8 tag, .bytes data]))

/-- Any value, as content; `depth` is the nesting still allowed. -/
def readContent : Nat → PackM Content
  | 0 => throw "depth limit exceeded"
  | depth + 1 => do
    match ← readHead with
    | .value c => pure c
    | .badText b => pure (.bytes b)
    | .array n => do
      let _ ← enter (depth + 1)
      let mut items : Array Content := #[]
      for _ in [0:n] do
        items := items.push (← readContent depth)
      pure (.seq items.toList)
    | .map n => do
      let _ ← enter (depth + 1)
      let mut entries : Array (Content × Content) := #[]
      for _ in [0:n] do
        let k ← readContent depth
        let v ← readContent depth
        entries := entries.push (k, v)
      pure (.map entries.toList)
    | .ext n => do
      let _ ← enter (depth + 1)
      readExtBody n

/-- Run a reader from the start of the input. -/
def runPack {α : Type} (r : PackM α) (bytes : ByteArray) : Except String α :=
  (r.run bytes |>.run 0).map Prod.fst

end Herald.Pack
