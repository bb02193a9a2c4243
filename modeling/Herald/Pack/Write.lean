import Herald.Wire.Content

set_option autoImplicit false

/-!
The binary encoding of content trees.

Each value is a marker byte, sometimes with the value folded in, then a
big-endian length or value, then the data. Integers take the smallest form
that holds them: a positive fixint below 128, then 8, 16, 32 or 64 bits;
negative integers likewise from the negative fixint (-32..-1). Strings,
byte strings, arrays and maps take the smallest length form. Absence and
the unit value are nil.
-/

namespace Herald.Pack

def beBytes (width n : Nat) : List UInt8 :=
  (List.range width).reverse.map fun i => (n / Nat.pow 256 i % 256).toUInt8

def unsignedBytes (n : Nat) : List UInt8 :=
  if n < 128 then [n.toUInt8]
  else if n < 256 then [0xcc, n.toUInt8]
  else if n < 65536 then 0xcd :: beBytes 2 n
  else if n < Nat.pow 2 32 then 0xce :: beBytes 4 n
  else 0xcf :: beBytes 8 n

def signedBytes (i : Int) : List UInt8 :=
  if i ≥ 0 then unsignedBytes i.toNat
  else if i ≥ -32 then [(256 + i).toNat.toUInt8]
  else if i ≥ -128 then [0xd0, (256 + i).toNat.toUInt8]
  else if i ≥ -32768 then 0xd1 :: beBytes 2 (65536 + i).toNat
  else if i ≥ -(Int.pow 2 31) then 0xd2 :: beBytes 4 (Int.pow 2 32 + i).toNat
  else 0xd3 :: beBytes 8 (Int.pow 2 64 + i).toNat

/-- The header of a string of `n` bytes. -/
def strHeader (n : Nat) : List UInt8 :=
  if n < 32 then [(0xa0 + n).toUInt8]
  else if n < 256 then [0xd9, n.toUInt8]
  else if n < 65536 then 0xda :: beBytes 2 n
  else 0xdb :: beBytes 4 n

/-- The header of a byte string of `n` bytes. -/
def binHeader (n : Nat) : List UInt8 :=
  if n < 256 then [0xc4, n.toUInt8]
  else if n < 65536 then 0xc5 :: beBytes 2 n
  else 0xc6 :: beBytes 4 n

/-- The header of an array of `n` items. -/
def arrayHeader (n : Nat) : List UInt8 :=
  if n < 16 then [(0x90 + n).toUInt8]
  else if n < 65536 then 0xdc :: beBytes 2 n
  else 0xdd :: beBytes 4 n

/-- The header of a map of `n` entries. -/
def mapHeader (n : Nat) : List UInt8 :=
  if n < 16 then [(0x80 + n).toUInt8]
  else if n < 65536 then 0xde :: beBytes 2 n
  else 0xdf :: beBytes 4 n

mutual

def writeTo (out : ByteArray) : Content → ByteArray
  | .bool b => out.push (if b then 0xc3 else 0xc2)
  | .unsigned _ n => out ++ ⟨(unsignedBytes n).toArray⟩
  | .signed _ i => out ++ ⟨(signedBytes i).toArray⟩
  | .float f => out ++ ⟨(0xcb :: beBytes 8 f.toBits.toNat).toArray⟩
  | .str s =>
    let b := s.toUTF8
    out ++ ⟨(strHeader b.size).toArray⟩ ++ b
  | .bytes b => out ++ ⟨(binHeader b.size).toArray⟩ ++ b
  | .none | .unit => out.push 0xc0
  | .some c => writeTo out c
  | .seq items => writeItems (out ++ ⟨(arrayHeader items.length).toArray⟩) items
  | .map entries => writeEntries (out ++ ⟨(mapHeader entries.length).toArray⟩) entries
  | .newtype c => writeTo out c

def writeItems (out : ByteArray) : List Content → ByteArray
  | [] => out
  | c :: rest => writeItems (writeTo out c) rest

/-- Append the encodings of map entries, key then value. -/
def writeEntries (out : ByteArray) : List (Content × Content) → ByteArray
  | [] => out
  | (k, v) :: rest => writeEntries (writeTo (writeTo out k) v) rest

end

def encode (c : Content) : ByteArray := writeTo ByteArray.empty c

end Herald.Pack
