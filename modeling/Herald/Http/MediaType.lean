set_option autoImplicit false

/-!
Media types as a `Content-Type` header names them.

A media type is a type and a subtype, each a run of token characters,
separated by a slash that may not come first; the subtype may end in a
structured-syntax suffix after its last `+` (a `+` that begins the subtype
is part of it). Parameters may follow after a semicolon: each is a name of
token characters, `=`, and a value that is a run of token characters,
possibly empty, or a quoted string of visible characters and blanks,
which blanks may follow. Parameters are separated by semicolons; a blank
may stand before a name, and nothing else may stand between the parts.
Type, subtype and suffix compare without regard to ASCII case.

Every read of the header text walks it once from the left, so each reader
is structural recursion on the characters left.
-/

namespace Herald.Http

/-- A media type: type, subtype and suffix, in lowercase. -/
structure MediaType where
  kind : String
  subtype : String
  suffix : Option String
  deriving DecidableEq, Repr

/-- Whether a character may stand in a token. -/
def tokenChar (c : Char) : Bool :=
  c.isAlphanum || "!#$%&'*+-.^_`|~".toList.contains c

/-- Whether a character may stand inside a quoted parameter value. -/
def quotedChar (c : Char) : Bool := c.toNat > 31 && c.toNat != 127

namespace MediaType

/-- The type: token characters up to a slash, which must not come first.
Gives the type's characters and what follows the slash. -/
def readKind : List Char → List Char → Option (List Char × List Char)
  | [], _ => none
  | c :: rest, seen =>
    if c == '/' && !seen.isEmpty then some (seen.reverse, rest)
    else if tokenChar c then readKind rest (c :: seen)
    else none

/-- The subtype with its suffix: token characters up to the end or a
semicolon that does not come first. Gives the characters before the last
inner `+`, those after it, and what follows the semicolon if there is one. -/
def readSubtype : List Char → List Char → Option (List Char) →
    Option (List Char × Option (List Char) × Option (List Char))
  | [], seen, suffix => some (seen.reverse, suffix.map List.reverse, none)
  | c :: rest, seen, suffix =>
    let started := !seen.isEmpty || suffix.isSome
    if c == '+' && started then
      -- a later plus starts the suffix again: what came before joins the subtype
      let seen := match suffix with
        | some s => s ++ ['+'] ++ seen
        | none => seen
      readSubtype rest seen (some [])
    else if c == ';' && started then some (seen.reverse, suffix.map List.reverse, some rest)
    else if tokenChar c then
      match suffix with
      | some s => readSubtype rest seen (some (c :: s))
      | none => readSubtype rest (c :: seen) none
    else none

/-- Where a parameter reader stands. -/
inductive ParamState where
  /-- Before a name; blanks may still come. -/
  | start
  /-- Inside a name. -/
  | name
  /-- Right after `=`. -/
  | valueStart
  /-- Inside an unquoted value. -/
  | value
  /-- Inside a quoted value; `opening` right after its opening quote. -/
  | quoted (opening : Bool)
  /-- After a closing quote. -/
  | afterQuote
  deriving DecidableEq, Repr

/-- Whether the parameters after a semicolon are well formed. -/
def paramsValid : ParamState → List Char → Bool
  | .start, [] => true
  | .start, c :: rest =>
    if c == ' ' then paramsValid .start rest
    else if tokenChar c then paramsValid .name rest
    else false
  | .name, [] => false
  | .name, c :: rest =>
    if c == '=' then paramsValid .valueStart rest
    else if tokenChar c then paramsValid .name rest
    else false
  | .valueStart, [] => true
  | .valueStart, c :: rest =>
    if c == '"' then paramsValid (.quoted true) rest
    else if tokenChar c then paramsValid .value rest
    else false
  | .value, [] => true
  | .value, c :: rest =>
    if c == ';' then paramsValid .start rest
    else if tokenChar c then paramsValid .value rest
    else false
  | .quoted _, [] => false
  | .quoted opening, c :: rest =>
    if c == '"' && !opening then paramsValid .afterQuote rest
    else if quotedChar c then paramsValid (.quoted false) rest
    else false
  | .afterQuote, [] => true
  | .afterQuote, c :: rest =>
    if c == ';' then paramsValid .start rest
    else if c == ' ' then paramsValid .afterQuote rest
    else false

def lowerText (cs : List Char) : String := String.ofList (cs.map Char.toLower)

def parse? (text : String) : Option MediaType := do
  let (kind, rest) ← readKind text.toList []
  let (subtype, suffix, params) ← readSubtype rest [] none
  match params with
  | some ps => if !paramsValid .start ps then none
  | none => pure ()
  pure { kind := lowerText kind, subtype := lowerText subtype, suffix := suffix.map lowerText }

/-- Whether a media type is JSON: `application/json`, or an `application`
type whose suffix is `json`. -/
def isJson (m : MediaType) : Bool :=
  m.kind == "application" && (m.subtype == "json" || m.suffix == some "json")

end MediaType

end Herald.Http
