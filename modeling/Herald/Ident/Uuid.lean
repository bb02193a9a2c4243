import Herald.Text.Unicode

set_option autoImplicit false

/-!
128-bit identifiers.

A UUID is read from 32 hex digits, from the hyphenated 8-4-4-4-12 form, from
that form in braces, or after `urn:uuid:` (in any case); hex digits may be
of either case. It is written lowercase and hyphenated, and carried in
binary as its 16 bytes, most significant first.

When a text is not a UUID, the error explains why. A text longer than the
longest form (45 bytes) has the wrong length. A text of the length of the
hyphenated form, or of the braced or prefixed form with its brace or prefix
in place, is explained as a hyphenated UUID: the 36 characters inside are
taken as they stand. Any other text is explained whole, after a brace pair
or a `urn:uuid:` prefix is set aside. The explanation names, in this order:
the first character that is neither a hex digit nor a hyphen (its byte
position counts from 0 and includes a prefix set aside), then a text
without hyphens that had no brace or prefix, which has the wrong length,
then the number of hyphen-separated groups, then the first group of the
wrong length.
-/

namespace Herald

/-- A 128-bit identifier. -/
structure Uuid where
  value : Nat
  deriving DecidableEq, Repr, Inhabited

namespace Uuid

/-- The lowercase hex digit of a value below 16. -/
def hexChar (n : Nat) : Char :=
  if n < 10 then Char.ofNat (48 + n) else Char.ofNat (87 + n)

/-- The 32 lowercase hex digits, most significant first. -/
def hexDigits (u : Uuid) : List Char :=
  (List.range 32).reverse.map fun i => hexChar (u.value / Nat.pow 16 i % 16)

def render (u : Uuid) : String :=
  let h := u.hexDigits
  String.ofList (h.take 8) ++ "-" ++ String.ofList ((h.drop 8).take 4) ++ "-" ++
    String.ofList ((h.drop 12).take 4) ++ "-" ++ String.ofList ((h.drop 16).take 4) ++ "-" ++
    String.ofList (h.drop 20)

def toBytes (u : Uuid) : ByteArray :=
  ByteArray.mk ((List.range 16).reverse.map fun i => (u.value / Nat.pow 256 i % 256).toUInt8).toArray

/-- From 16 bytes; any other length is an error. -/
def ofBytes (b : ByteArray) : Except String Uuid :=
  if b.size == 16 then .ok ⟨b.toList.foldl (fun n x => n * 256 + x.toNat) 0⟩
  else .error s!"invalid length: expected 16 bytes, found {b.size}"

/-- The value of a hex digit of either case. -/
def hexValue (c : Char) : Nat :=
  if '0' ≤ c && c ≤ '9' then c.toNat - 48
  else if 'a' ≤ c && c ≤ 'f' then c.toNat - 87
  else c.toNat - 55

/-- The identifier whose hex digits these are, most significant first. -/
def ofHex (cs : List Char) : Uuid := ⟨cs.foldl (fun n c => n * 16 + hexValue c) 0⟩

/-- The hyphenated form: hyphens at 8, 13, 18 and 23 and hex digits elsewhere. -/
def hyphenated? (cs : List Char) : Option Uuid :=
  if cs.length == 36 &&
      (List.range 36).all (fun i =>
        let c := cs.getD i ' '
        if i == 8 || i == 13 || i == 18 || i == 23 then c == '-' else Text.isHexDigit c)
  then some (ofHex (cs.filter (· != '-')))
  else none

/-- Whether characters start with `urn:uuid:`, in any case. -/
private def urnPrefixed (cs : List Char) : Bool :=
  (cs.take 9).map Char.toLower == "urn:uuid:".toList

/-- The length of the longest text form of a UUID, in bytes. -/
def longestText : Nat := 45

/-- The reason characters are not a UUID, once a brace or prefix is set
aside: `offset` is the byte length of what was set aside, `plain` whether
nothing was, and `total` the byte length of the whole text. -/
private def explainBody (body : List Char) (offset : Nat) (plain : Bool) (total : Nat) : String :=
  -- byte index of each character, the first bad character, and the hyphens
  let rec scan (i : Nat) (hyphens : List Nat) : List Char → Except String (List Nat)
    | [] => .ok hyphens.reverse
    | c :: rest =>
      if c == '-' then scan (i + c.utf8Size) (i :: hyphens) rest
      else if Text.isHexDigit c then scan (i + c.utf8Size) hyphens rest
      else .error ("invalid character: found `" ++ String.singleton c ++ "` at " ++ toString (i + offset))
  match scan 0 [] body with
  | .error m => m
  | .ok hyphens =>
    if hyphens.isEmpty && plain then
      s!"invalid length: found {total}"
    else if hyphens.length != 4 then
      s!"invalid group count: expected 5, found {hyphens.length + 1}"
    else
      let starts := [0, 9, 14, 19, 24]
      let expected := [8, 4, 4, 4, 12]
      let bad := (List.range 4).find? fun g => hyphens.getD g 0 != starts.getD (g + 1) 0 - 1
      match bad with
      | some g =>
        let want := expected.getD g 0
        let found := hyphens.getD g 0 - starts.getD g 0
        s!"invalid group length in group {g}: expected {want}, found {found}"
      | none =>
        s!"invalid group length in group 4: expected 12, found {total - 24}"

/-- The reason a whole text is not a UUID, a brace pair or a `urn:uuid:`
prefix set aside. -/
private def explain (input : String) : String :=
  let all := input.toList
  let total := input.utf8ByteSize
  if all.length ≥ 2 && all.head? == some '{' && all.getLast? == some '}' then
    explainBody ((all.drop 1).dropLast) 1 false total
  else if urnPrefixed all then explainBody (all.drop 9) 9 false total
  else explainBody all 0 true total

/-- The hyphenated form, or why the characters, taken as they stand, are
not one. -/
def readHyphenated (cs : List Char) : Except String Uuid :=
  match hyphenated? cs with
  | some u => .ok u
  | none => .error (explainBody cs 0 false (String.ofList cs).utf8ByteSize)

/-- Read a UUID in any of its text forms. -/
def parse (input : String) : Except String Uuid :=
  let cs := input.toList
  let n := input.utf8ByteSize
  if n > longestText then .error s!"invalid length: found {n}"
  else if n == 32 then
    if cs.all Text.isHexDigit then .ok (ofHex cs) else .error (explain input)
  else if n == 36 then readHyphenated cs
  else if n == 38 && cs.head? == some '{' && cs.getLast? == some '}' then
    readHyphenated ((cs.drop 1).dropLast)
  else if n == 45 && urnPrefixed cs then readHyphenated (cs.drop 9)
  else .error (explain input)

end Uuid

end Herald
