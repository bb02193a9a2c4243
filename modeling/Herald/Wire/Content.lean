import Herald.Json.Value
import Herald.Number.Binary64
import Herald.Text.Escaped

set_option autoImplicit false

/-!
The self-describing value that both wire formats decode into before a typed
value is built from it.

A reader turns text or bytes into a `Content` tree; the typed decoders then
work on the tree alone. Integers remember the width the reader produced them
at, because a few rules accept only some widths. The texts that name a value
in an error (`integer \`5\``, `sequence`, ...) live here, in two dialects that
differ only in how they name a float and the unit value.
-/

namespace Herald

/-- The width an integer was read at. -/
inductive Width where
  | w8 | w16 | w32 | w64
  deriving BEq, Inhabited

/-- A decoded value before it is given a type. -/
inductive Content where
  | bool (b : Bool)
  | unsigned (w : Width) (n : Nat)
  | signed (w : Width) (i : Int)
  | float (f : Float)
  | str (s : String)
  | bytes (b : ByteArray)
  | none
  | some (c : Content)
  | unit
  | seq (items : List Content)
  | map (entries : List (Content × Content))
  /-- A value wrapped in a named one-field record, such as an extension value. -/
  | newtype (c : Content)
  deriving Inhabited

/-- How a family of error texts names a float and the unit value. -/
structure Dialect where
  /-- The name of the unit value. -/
  unitName : String
  /-- The text of a float inside backquotes. -/
  floatText : Float → String

namespace Dialect

/-- The JSON reader's texts: `null`, and floats in shortest form. -/
def json : Dialect := ⟨"null", Binary64.render⟩

/-- The general texts: `unit value`, and floats written positionally. -/
def plain : Dialect := ⟨"unit value", Binary64.renderPositional⟩

end Dialect

private def hexLower (n : Nat) : String :=
  String.ofList (Nat.toDigits 16 n)

/-- A string between double quotes with the escapes error texts use. -/
def quoteForError (s : String) : String :=
  let body := s.foldl (fun out c =>
    match c with
    | '"' => out ++ "\\\""
    | '\\' => out ++ "\\\\"
    | '\n' => out ++ "\\n"
    | '\r' => out ++ "\\r"
    | '\t' => out ++ "\\t"
    | c =>
      if c.toNat == 0 then out ++ "\\0"
      else if Text.escapedInQuote c then out ++ "\\u\x7b" ++ hexLower c.toNat ++ "\x7d"
      else out.push c) ""
  "\"" ++ body ++ "\""

namespace Content

/-- How an error text names this value. -/
def describe (d : Dialect) : Content → String
  | .bool b => s!"boolean `{b}`"
  | .unsigned _ n => s!"integer `{n}`"
  | .signed _ i => s!"integer `{i}`"
  | .float f => s!"floating point `{d.floatText f}`"
  | .str s => "string " ++ quoteForError s
  | .bytes _ => "byte array"
  | .none => "Option value"
  | .some _ => "Option value"
  | .unit => d.unitName
  | .seq _ => "sequence"
  | .map _ => "map"
  | .newtype _ => "newtype struct"

end Content

def invalidType (d : Dialect) (c : Content) (expected : String) : String :=
  s!"invalid type: {c.describe d}, expected {expected}"

def invalidValue (d : Dialect) (c : Content) (expected : String) : String :=
  s!"invalid value: {c.describe d}, expected {expected}"

def invalidLength (n : Nat) (expected : String) : String :=
  s!"invalid length {n}, expected {expected}"

def missingField (name : String) : String := s!"missing field `{name}`"

def duplicateField (name : String) : String := s!"duplicate field `{name}`"

/-- The names listed after `expected` in an unknown-variant text. -/
def oneOf (names : List String) : String :=
  match names with
  | [] => "there are no variants"
  | [a] => s!"`{a}`"
  | [a, b] => s!"`{a}` or `{b}`"
  | _ => "one of " ++ ", ".intercalate (names.map fun n => s!"`{n}`")

def unknownVariant (v : String) (names : List String) : String :=
  s!"unknown variant `{v}`, expected {oneOf names}"

end Herald
