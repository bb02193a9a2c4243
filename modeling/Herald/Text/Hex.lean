import Herald.Text.Unicode

set_option autoImplicit false

/-!
Bytes written as lowercase hex, two digits a byte. Reading accepts either
case and ignores whitespace between digits.
-/

namespace Herald.Text

private def hexDigitChar (n : Nat) : Char :=
  if n < 10 then Char.ofNat (48 + n) else Char.ofNat (87 + n)

def hexOf (b : ByteArray) : String :=
  b.foldl (fun s x => (s.push (hexDigitChar (x.toNat / 16))).push (hexDigitChar (x.toNat % 16))) ""

private def hexValue (c : Char) : Option Nat :=
  if '0' ≤ c && c ≤ '9' then some (c.toNat - 48)
  else if 'a' ≤ c && c ≤ 'f' then some (c.toNat - 87)
  else if 'A' ≤ c && c ≤ 'F' then some (c.toNat - 55)
  else none

/-- Bytes of a hex text; `none` for a non-hex character or an odd count. -/
def bytesOfHex (s : String) : Option ByteArray :=
  let digits := s.toList.filter (fun c => !isWhitespace c)
  let rec go (out : ByteArray) : List Char → Option ByteArray
    | [] => some out
    | [_] => none
    | a :: b :: rest =>
      match hexValue a, hexValue b with
      | some x, some y => go (out.push (x * 16 + y).toUInt8) rest
      | _, _ => none
  go ByteArray.empty digits

end Herald.Text
