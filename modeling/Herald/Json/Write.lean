import Herald.Json.Value
import Herald.Number.Binary64

set_option autoImplicit false

/-!
Compact JSON text: no blanks, members in order, and the escaping rule of
this library's wire format. A string escapes the quote, the backslash and
every control character below U+0020; `\b \f \n \r \t` have short forms and
the rest are written `\u00XX` in lowercase hex. Every other character,
including `/`, DEL and all non-ASCII, is written as it is. A float that is
not finite has no JSON form and is written `null`.
-/

namespace Herald.Json

/-- The lowercase hex digit of a value below 16. -/
def hexDigit (n : Nat) : Char :=
  if n < 10 then Char.ofNat (48 + n) else Char.ofNat (87 + n)

/-- Append the escaped form of one character. -/
def escapeChar (out : String) (c : Char) : String :=
  match c with
  | '"' => out ++ "\\\""
  | '\\' => out ++ "\\\\"
  | '\n' => out ++ "\\n"
  | '\r' => out ++ "\\r"
  | '\t' => out ++ "\\t"
  | c =>
    if c.toNat == 8 then out ++ "\\b"
    else if c.toNat == 12 then out ++ "\\f"
    else if c.toNat < 32 then
      out ++ "\\u00" |>.push (hexDigit (c.toNat / 16)) |>.push (hexDigit (c.toNat % 16))
    else out.push c

/-- A string literal: the quoted, escaped text. -/
def quote (s : String) : String :=
  (s.foldl escapeChar "\"").push '"'

def numberText : Number → String
  | .nat n => toString n
  | .neg i => toString i
  | .float f => if f.isNaN || f.isInf then "null" else Binary64.render f

mutual

/-- Append the compact text of a value. -/
def writeTo (out : String) : Json → String
  | .null => out ++ "null"
  | .bool true => out ++ "true"
  | .bool false => out ++ "false"
  | .num n => out ++ numberText n
  | .str s => (s.foldl escapeChar (out.push '"')).push '"'
  | .arr items => (writeItems (out.push '[') true items).push ']'
  | .obj members => (writeMembers (out.push '{') true members).push '}'

def writeItems (out : String) (first : Bool) : List Json → String
  | [] => out
  | j :: rest =>
    let out := if first then out else out.push ','
    writeItems (writeTo out j) false rest

def writeMembers (out : String) (first : Bool) : List (String × Json) → String
  | [] => out
  | (k, v) :: rest =>
    let out := if first then out else out.push ','
    let out := (k.foldl escapeChar (out.push '"')).push '"' |>.push ':'
    writeMembers (writeTo out v) false rest

end

def render (j : Json) : String := writeTo "" j

end Herald.Json
