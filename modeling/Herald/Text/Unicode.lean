set_option autoImplicit false

/-!
Character classes used by identifiers and by trimming.

`isWhitespace` is the Unicode `White_Space` property: the ASCII blanks
U+0009..U+000D and U+0020, NEXT LINE, NO-BREAK SPACE, OGHAM SPACE MARK, the
spaces U+2000..U+200A, the line and paragraph separators, NARROW NO-BREAK
SPACE, MEDIUM MATHEMATICAL SPACE and IDEOGRAPHIC SPACE. The byte order mark
U+FEFF and the zero-width space U+200B are not whitespace.
-/

namespace Herald.Text

def isWhitespace (c : Char) : Bool :=
  let n := c.toNat
  (9 ≤ n && n ≤ 13) || n == 32 || n == 0x85 || n == 0xA0 || n == 0x1680 ||
    (0x2000 ≤ n && n ≤ 0x200A) || n == 0x2028 || n == 0x2029 || n == 0x202F ||
    n == 0x205F || n == 0x3000

def trim (s : String) : String :=
  String.ofList ((s.toList.dropWhile isWhitespace).reverse.dropWhile isWhitespace).reverse

def trimStart (s : String) : String :=
  String.ofList (s.toList.dropWhile isWhitespace)

def asciiLower (s : String) : String :=
  s.map fun c => if 'A' ≤ c && c ≤ 'Z' then Char.ofNat (c.toNat + 32) else c

/-- Whether a character is an ASCII control character (U+0000..U+001F or DEL). -/
def isAsciiControl (c : Char) : Bool := c.toNat < 32 || c.toNat == 127

/-- Whether a character is an ASCII hex digit. -/
def isHexDigit (c : Char) : Bool :=
  ('0' ≤ c && c ≤ '9') || ('a' ≤ c && c ≤ 'f') || ('A' ≤ c && c ≤ 'F')

/-- Whether a character is an ASCII digit. -/
def isDigit (c : Char) : Bool := '0' ≤ c && c ≤ '9'

/-- Whether a character is an ASCII letter. -/
def isAlpha (c : Char) : Bool := ('a' ≤ c && c ≤ 'z') || ('A' ≤ c && c ≤ 'Z')

/-- The pieces of `s` between occurrences of any separator, empty pieces kept. -/
def splitOn (s : String) (isSep : Char → Bool) : List String :=
  let rec go (acc : List Char) (out : List String) : List Char → List String
    | [] => (String.ofList acc.reverse :: out).reverse
    | c :: rest =>
      if isSep c then go [] (String.ofList acc.reverse :: out) rest
      else go (c :: acc) out rest
  go [] [] s.toList

end Herald.Text
