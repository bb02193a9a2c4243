import Herald.Toml.Tree
import Herald.Number.Binary64

set_option autoImplicit false

/-!
Reading a TOML document.

The reader walks the bytes of the document with a position. A reader that
fails may leave the position where it stopped; choices and optional parts
put it back where they started before trying something else, so the
position of the failure that finally surfaces is where the report points.
A failure inside a construct that has been recognised (a string after its
opening quote, the value after `=`) is final: no alternative is tried.

Loops are bounded by the length of the input and nesting by a depth limit,
so every reader here is total.
-/

namespace Herald.Toml

/-- Where the reader is, and the document built so far. -/
structure Cursor where
  pos : Nat := 0
  doc : Builder := {}
  deriving Inhabited

/-- A reader of part of a document. -/
abbrev Reader := ReaderT ByteArray (EStateM Failure Cursor)

namespace Reader

def pos : Reader Nat := do return (← get).pos

def setPos (p : Nat) : Reader Unit := modify fun c => { c with pos := p }

/-- The byte `k` places ahead, if any. -/
def peekAt (k : Nat) : Reader (Option UInt8) := do
  let input ← read
  let p := (← pos) + k
  return if p < input.size then some (input.get! p) else none

def peek : Reader (Option UInt8) := peekAt 0

def skip (n : Nat) : Reader Unit := modify fun c => { c with pos := c.pos + n }

/-- Fail without a description; alternatives may still be tried. -/
def fail {α : Type} : Reader α := throw {}

def failWith {α : Type} (cause : String) : Reader α := throw { cause := some cause }

/-- Make every failure of `r` final. -/
def final {α : Type} (r : Reader α) : Reader α :=
  tryCatch r fun e => throw { e with final := true }

/-- Add a context to every failure of `r`. -/
def within {α : Type} (c : Context) (r : Reader α) : Reader α :=
  tryCatch r fun e => throw { e with context := e.context ++ [c] }

def label {α : Type} (s : String) (r : Reader α) : Reader α := within (.label s) r

def expecting {α : Type} (e : Expectation) (r : Reader α) : Reader α := within (.expected e) r

/-- Run `r`; when it fails without being final, go back and give `none`. -/
def optional {α : Type} (r : Reader α) : Reader (Option α) := do
  let start ← pos
  tryCatch (some <$> r) fun e => if e.final then throw e else do
    setPos start
    pure none

/-- `r`, or else `s` from the same place; after both fail the position is
back at the start and the failure is `s`'s. -/
def orElse {α : Type} (r s : Reader α) : Reader α := do
  let start ← pos
  tryCatch r fun e => if e.final then throw e else do
    setPos start
    tryCatch s fun e2 => if e2.final then throw e2 else do
      setPos start
      throw e2

/-- Look at what `r` reads without moving. -/
def lookAhead {α : Type} (r : Reader α) : Reader α := do
  let start ← pos
  tryCatch (do let a ← r; setPos start; pure a) fun e => do
    setPos start
    throw e

/-- Run `r` and turn its result with `f`; when `f` refuses, go back to the
start and fail with its cause. -/
def mapOrFail {α β : Type} (r : Reader α) (f : α → Except String β) : Reader β := do
  let start ← pos
  let a ← r
  match f a with
  | .ok b => pure b
  | .error cause =>
    setPos start
    failWith cause

def byteWhere (p : UInt8 → Bool) : Reader UInt8 := do
  match ← peek with
  | some b => if p b then do skip 1; pure b else fail
  | none => fail

def byte (c : Char) : Reader Unit := do
  let _ ← byteWhere (· == c.toNat.toUInt8)

def literal (s : String) : Reader Unit := do
  let input ← read
  let p ← pos
  let bytes := s.toUTF8
  if p + bytes.size ≤ input.size && input.extract p (p + bytes.size) == bytes then skip bytes.size
  else fail

def eof : Reader Unit := do
  match ← peek with
  | none => pure ()
  | some _ => fail

/-- The bytes from `start` to the current position, as text. -/
def textFrom (start : Nat) : Reader String := do
  let input ← read
  pure (String.fromUTF8? (input.extract start (← pos)) |>.getD "")

/-- As many bytes satisfying `p` as there are, at most `max`. -/
def takeWhileUpTo (p : UInt8 → Bool) : Nat → Reader Nat
  | 0 => pure 0
  | max + 1 => do
    match ← peek with
    | some b =>
      if p b then do
        skip 1
        return 1 + (← takeWhileUpTo p max)
      else pure 0
    | none => pure 0

/-- At least `min` and at most `max` bytes satisfying `p`, as text; too few
fails where it started. -/
def takeWhile (p : UInt8 → Bool) (min max : Nat) : Reader String := do
  let start ← pos
  let n ← takeWhileUpTo p max
  if n < min then
    setPos start
    fail
  else textFrom start

/-- The most bytes any loop over the input may take. -/
def budget : Reader Nat := do return (← read).size + 2

/-- Run `r` as often as it succeeds (at least `min` times), going back to
before the failed attempt; a success that consumes nothing is final. -/
def many {α : Type} (r : Reader α) (min : Nat) : Nat → Reader (List α)
  | 0 => pure []
  | fuel + 1 => do
    let start ← pos
    let got ← tryCatch (some <$> r) fun e =>
      if e.final || min > 0 then throw e else do
        setPos start
        pure none
    match got with
    | none => pure []
    | some a =>
      if (← pos) == start then throw { final := true }
      return a :: (← many r (min - 1) fuel)

/-- Items read by `r` and separated by `sep`: when a separator or the item
after it fails, the position goes back before that separator. With
`atLeastOne`, a failure of the first item fails the whole. -/
def separated {α : Type} (r : Reader α) (sep : Reader Unit) (atLeastOne : Bool) : Reader (List α) := do
  let start ← pos
  let first ← tryCatch (some <$> r) fun e =>
    if e.final || atLeastOne then throw e else do
      setPos start
      pure none
  match first with
  | none => pure []
  | some a => return a :: (← rest (← budget))
where
  /-- The items after the first. -/
  rest : Nat → Reader (List α)
    | 0 => pure []
    | fuel + 1 => do
      let start ← pos
      let got ← tryCatch (do sep; some <$> r) fun e =>
        if e.final then throw e else do
          setPos start
          pure none
      match got with
      | none => pure []
      | some a => return a :: (← rest fuel)

end Reader

open Reader

/-! ### Whitespace, comments, newlines -/

def isBlank (b : UInt8) : Bool := b == 32 || b == 9

def isCommentByte (b : UInt8) : Bool := b == 9 || (0x20 ≤ b && b ≤ 0x7E) || b ≥ 0x80

def blanks : Reader Unit := do
  let _ ← takeWhileUpTo isBlank ((← read).size)

/-- A comment, from `#` to the end of the line (not included). -/
def comment : Reader Unit := do
  byte '#'
  let _ ← takeWhileUpTo isCommentByte ((← read).size)

/-- A line break: LF or CR LF. -/
def newline : Reader Unit := orElse (byte '\n') (do byte '\r'; byte '\n')

/-- A line break or the end of the input. -/
def lineEnding : Reader Unit := orElse newline eof

/-- The rest of a line after a value or header: blanks, maybe a comment,
and the line's end. -/
def lineTrailing : Reader Unit := do
  blanks
  let _ ← optional comment
  lineEnding

def blankLines : Reader Unit := do
  let _ ← many (orElse newline (do let _ ← takeWhile isBlank 1 ((← read).size))) 0 (← budget)

/-- Blanks, comments and line breaks, as between array items. -/
def blankLinesAndComments : Nat → Reader Unit
  | 0 => pure ()
  | fuel + 1 => do
    let start ← pos
    blanks
    match ← peek with
    | some 35 => do comment; newline
    | some 10 | some 13 => newline
    | _ => return
    if (← pos) == start then return
    blankLinesAndComments fuel

/-! ### Strings -/

/-- A byte a basic string holds as itself. -/
def isBasicByte (b : UInt8) : Bool :=
  isBlank b || b == 0x21 || (0x23 ≤ b && b ≤ 0x5B) || (0x5D ≤ b && b ≤ 0x7E) || b ≥ 0x80

/-- A byte a literal string may hold. -/
def isLiteralByte (b : UInt8) : Bool :=
  b == 9 || (0x20 ≤ b && b ≤ 0x26) || (0x28 ≤ b && b ≤ 0x7E) || b ≥ 0x80

def isHexByte (b : UInt8) : Bool :=
  (48 ≤ b && b ≤ 57) || (65 ≤ b && b ≤ 70) || (97 ≤ b && b ≤ 102)

def isDigitByte (b : UInt8) : Bool := 48 ≤ b && b ≤ 57

/-- The value of a hex digit text. -/
def hexValue (s : String) : Nat :=
  s.foldl (fun acc c =>
    let d := if c.isDigit then c.toNat - 48 else if 'a' ≤ c && c ≤ 'f' then c.toNat - 87 else c.toNat - 55
    acc * 16 + d) 0

/-- `n` hex digits naming a character. -/
def hexEscape (n : Nat) : Reader Char := do
  let start ← pos
  let digits ← takeWhile isHexByte 0 n
  if digits.length != n then
    setPos start
    fail
  let v := hexValue digits
  if v < 0xD800 || (0xDFFF < v && v ≤ 0x10FFFF) then pure (Char.ofNat v)
  else
    setPos start
    failWith TreeError.outOfRange.message

def escapeChar : Reader Char := do
  match ← peek with
  | none => fail
  | some b =>
    skip 1
    match b with
    | 98 => pure '\x08'
    | 102 => pure '\x0c'
    | 110 => pure '\n'
    | 114 => pure '\r'
    | 116 => pure '\t'
    | 117 => final (label "unicode 4-digit hex code" (hexEscape 4))
    | 85 => final (label "unicode 8-digit hex code" (hexEscape 8))
    | 92 => pure '\\'
    | 34 => pure '"'
    | _ =>
      final (['b', 'f', 'n', 'r', 't', 'u', 'U', '\\', '"'].foldl
        (fun r c => expecting (.char c) r) (label "escape sequence" fail))

def escaped : Reader String := do
  byte '\\'
  return String.singleton (← escapeChar)

/-- A run of plain characters or one escape of a basic string. -/
def basicChars : Reader String := do orElse (takeWhile isBasicByte 1 ((← read).size)) escaped

/-- A basic string: `"` text with escapes `"`. -/
def basicString : Reader String := do
  byte '"'
  let parts ← many basicChars 0 (← budget)
  final (label "basic string" (byte '"'))
  pure (String.join parts)

/-- A literal string: `'` text `'`. -/
def literalString : Reader String :=
  label "literal string" do
    byte '\''
    let s ← final (takeWhile isLiteralByte 0 ((← read).size))
    final (byte '\'')
    pure s

/-- A backslash at the end of a line in a multi-line basic string: it and
all following blanks and line breaks are dropped. -/
def escapedNewline : Reader Unit := do
  let _ ← many (do byte '\\'; blanks; newline; blankLines) 1 (← budget)

/-- A piece of a multi-line basic string. -/
def multiBasicContent : Reader String := do
  orElse (takeWhile isBasicByte 1 ((← read).size)) <|
  orElse (do escapedNewline; pure "") <|
  orElse escaped (do newline; pure "\n")

/-- One or two quote marks followed by something `term` accepts. -/
def quotesBefore (q : Char) (term : Reader Unit) : Reader String := do
  let start ← pos
  tryCatch (do byte q; byte q; lookAhead term; pure (String.ofList [q, q])) fun e =>
    if e.final then throw e else do
      setPos start
      byte q
      lookAhead term
      pure (String.singleton q)

/-- The body of a multi-line basic string. -/
def multiBasicBody : Reader String := do
  let first ← many multiBasicContent 0 (← budget)
  let rec more : Nat → Reader String
    | 0 => pure ""
    | fuel + 1 => do
      match ← optional (quotesBefore '"' (do let _ ← byteWhere (· != 34))) with
      | none => pure ""
      | some q =>
        match ← optional multiBasicContent with
        | none => pure ""
        | some c =>
          let rest ← many multiBasicContent 0 (← budget)
          return q ++ c ++ String.join rest ++ (← more fuel)
  let middle ← more (← budget)
  let last ← optional (quotesBefore '"' (literal "\"\"\""))
  pure (String.join first ++ middle ++ last.getD "")

/-- A multi-line basic string: `"""` text `"""`, a first line break dropped. -/
def multiBasicString : Reader String :=
  label "multiline basic string" do
    literal "\"\"\""
    let _ ← optional newline
    let body ← final multiBasicBody
    final (literal "\"\"\"")
    pure body

/-- A piece of a multi-line literal string. -/
def multiLiteralContent : Reader Unit :=
  orElse (do let _ ← byteWhere isLiteralByte) newline

/-- A multi-line literal string: `'''` text `'''`, a first line break
dropped and CR LF read as LF. -/
def multiLiteralString : Reader String :=
  label "multiline literal string" do
    literal "'''"
    let _ ← optional newline
    let start ← pos
    let body ← final do
      let _ ← many multiLiteralContent 0 (← budget)
      let _ ← many (do
          let _ ← quotesBefore '\'' (do let _ ← byteWhere (· != 39))
          let _ ← many multiLiteralContent 1 (← budget)) 0 (← budget)
      let _ ← optional (quotesBefore '\'' (literal "'''"))
      textFrom start
    final (literal "'''")
    pure (body.replace "\r\n" "\n")

/-- Any of the four kinds of string. -/
def anyString : Reader String :=
  orElse multiBasicString (orElse basicString (orElse multiLiteralString literalString))

/-! ### Keys -/

def isBareKeyByte (b : UInt8) : Bool :=
  (65 ≤ b && b ≤ 90) || (97 ≤ b && b ≤ 122) || isDigitByte b || b == 45 || b == 95

/-- One key, bare or quoted, with its source text and place. -/
def simpleKey : Reader Key := do
  let start ← pos
  let name ← match ← peek with
    | some 34 => basicString
    | some 39 => literalString
    | some _ => takeWhile isBareKeyByte 1 ((← read).size)
    | none => fail
  let stop ← pos
  pure { name, raw := ← textFrom start, span := some ⟨start, stop⟩ }

/-- The most parts a dotted key may have. -/
def depthLimit : Nat := 80

/-- A dotted key: keys separated by `.`, blanks allowed around each. -/
def dottedKey : Reader (List Key) :=
  mapOrFail (label "key" (separated (do blanks; let k ← simpleKey; blanks; pure k) (byte '.') true))
    fun keys => if keys.length < depthLimit then .ok keys else .error TreeError.recursionLimit.message

/-! ### Numbers, booleans and dates -/

/-- Digits with single underscores between them, the first already
required by the caller's choice of `first`. -/
def digitRun (first : UInt8 → Bool) (digit : UInt8 → Bool) : Reader Unit := do
  let _ ← byteWhere first
  let _ ← many (orElse (do let _ ← byteWhere digit)
    (do byte '_'; final (expecting (.description "digit") (do let _ ← byteWhere digit; pure ())))) 0 (← budget)

/-- A decimal integer's text: a sign, then `0` or digits not starting with
`0`. -/
def decimalIntText : Reader String := do
  let start ← pos
  label "integer" do
    let _ ← optional (byteWhere fun b => b == 43 || b == 45)
    orElse (digitRun (fun b => 49 ≤ b && b ≤ 57) isDigitByte) (do let _ ← byteWhere isDigitByte)
  textFrom start

def zeroPrefixable : Reader Unit := digitRun isDigitByte isDigitByte

def exponentPart : Reader Unit := do
  let _ ← byteWhere fun b => b == 101 || b == 69
  let _ ← optional (byteWhere fun b => b == 43 || b == 45)
  final zeroPrefixable

def fractionPart : Reader Unit := do
  byte '.'
  final (expecting (.description "digit") zeroPrefixable)

def floatOfText (s : String) : Float :=
  let cs := s.toList.filter (· != '_')
  let (negative, cs) := match cs with
    | '-' :: rest => (true, rest)
    | '+' :: rest => (false, rest)
    | rest => (false, rest)
  let mantissa := cs.takeWhile fun c => c != 'e' && c != 'E'
  let expPart := (cs.dropWhile fun c => c != 'e' && c != 'E').drop 1
  let intPart := mantissa.takeWhile (· != '.')
  let fracPart := (mantissa.dropWhile (· != '.')).drop 1
  let digits := (String.ofList (intPart ++ fracPart)).toNat!
  let e : Int := match expPart with
    | '-' :: ds => -((String.ofList ds).toNat! : Int)
    | '+' :: ds => (String.ofList ds).toNat!
    | ds => (String.ofList ds).toNat!
  Binary64.ofDecimal negative digits (e - fracPart.length)

/-- A float: a decimal integer with a fraction or exponent, or `inf`/`nan`
with a sign. -/
def floatValue : Reader Float :=
  label "floating-point number" <|
  orElse
    (do
      let start ← pos
      let _ ← decimalIntText
      orElse exponentPart (do fractionPart; let _ ← optional exponentPart)
      let text ← textFrom start
      -- a magnitude too large for the format reads as an infinity
      pure (floatOfText text))
    (do
      let sign ← optional (byteWhere fun b => b == 43 || b == 45)
      let f ← orElse (do literal "inf"; pure (Float.ofBits 0x7FF0000000000000))
        (do literal "nan"; pure (Float.ofBits 0x7FF8000000000000))
      pure (if sign == some 45 then -f else f))

/-- The largest integer a document may hold. -/
def intMax : Int := 9223372036854775807

/-- The text of an integer in a base, after its prefix. -/
def radixDigits (prefixText labelText : String) (digit : UInt8 → Bool) : Reader String := do
  literal prefixText
  let start ← pos
  label labelText (final (digitRun digit digit))
  textFrom start

/-- The value of digits (underscores removed) in a base. -/
def valueInBase (base : Nat) (s : String) : Nat :=
  s.foldl (fun acc c =>
    if c == '_' then acc
    else
      let d := if c.isDigit then c.toNat - 48 else if 'a' ≤ c && c ≤ 'z' then c.toNat - 87 else c.toNat - 55
      acc * base + d) 0

/-- An integer in range for a document, or the reason it is not. -/
def checkedInt (i : Int) : Except String Int :=
  if i > intMax then .error "number too large to fit in target type"
  else if i < -intMax - 1 then .error "number too small to fit in target type"
  else .ok i

/-- An integer: decimal, or hexadecimal, octal or binary after a prefix. -/
def integerValue : Reader Int := do
  let b0 ← peekAt 0
  let b1 ← peekAt 1
  match b0, b1 with
  | some 48, some 120 => final (mapOrFail (radixDigits "0x" "hexadecimal integer" isHexByte)
      fun s => checkedInt (valueInBase 16 s))
  | some 48, some 111 => final (mapOrFail (radixDigits "0o" "octal integer" fun b => 48 ≤ b && b ≤ 55)
      fun s => checkedInt (valueInBase 8 s))
  | some 48, some 98 => final (mapOrFail (radixDigits "0b" "binary integer" fun b => b == 48 || b == 49)
      fun s => checkedInt (valueInBase 2 s))
  | _, _ =>
    let start ← pos
    let text ← decimalIntText
    let cs := text.toList.filter (· != '_')
    let (negative, ds) := match cs with
      | '-' :: rest => (true, rest)
      | '+' :: rest => (false, rest)
      | rest => (false, rest)
    let n : Int := (String.ofList ds).toNat!
    match checkedInt (if negative then -n else n) with
    | .ok i => pure i
    | .error cause =>
      setPos start
      final (failWith cause)

/-- Exactly `n` digits, as a number. -/
def fixedDigits (n : Nat) : Reader Nat := do
  let s ← takeWhile isDigitByte n n
  pure s.toNat!

def boundedDigits (n lo hi : Nat) : Reader Nat :=
  mapOrFail (fixedDigits n) fun v => if lo ≤ v && v ≤ hi then .ok v else .error TreeError.outOfRange.message

/-- The nanoseconds a fraction of a second gives; digits past the ninth
are dropped. -/
def nanosOfFraction (digits : String) : Nat :=
  let kept := digits.toList.take 9
  (String.ofList kept).toNat! * Nat.pow 10 (9 - kept.length)

/-- A time of day: hours, minutes, seconds and an optional fraction. -/
def partialTime : Reader LocalTime := do
  let hour ← boundedDigits 2 0 23
  byte ':'
  final do
    let minute ← boundedDigits 2 0 59
    byte ':'
    let second ← boundedDigits 2 0 60
    let frac ← optional (do byte '.'; takeWhile isDigitByte 1 ((← read).size))
    pure { hour, minute, second, nanosecond := (frac.map nanosOfFraction).getD 0 }

/-- A date: year, month and day, the day checked against the month. -/
def fullDate : Reader LocalDate := do
  let year ← fixedDigits 4
  byte '-'
  let month ← final (boundedDigits 2 1 12)
  final (byte '-')
  let dayStart ← pos
  let day ← final (boundedDigits 2 1 31)
  let leap := year % 4 == 0 && (year % 100 != 0 || year % 400 == 0)
  let maxDay := match month with
    | 2 => if leap then 29 else 28
    | 4 | 6 | 9 | 11 => 30
    | _ => 31
  if maxDay < day then
    setPos dayStart
    final (failWith TreeError.outOfRange.message)
  else pure { year, month, day }

/-- A time zone offset: `Z` or a signed hours and minutes. -/
def timeOffset : Reader Offset :=
  label "time offset" <|
  orElse (do let _ ← byteWhere fun b => b == 90 || b == 122; pure .utc)
    (do
      let sign ← byteWhere fun b => b == 43 || b == 45
      final do
        let hours ← boundedDigits 2 0 23
        byte ':'
        let minutes ← boundedDigits 2 0 59
        let total : Int := hours * 60 + minutes
        pure (.minutes (if sign == 45 then -total else total)))

/-- A date with an optional time and offset, or a time alone. -/
def dateTime : Reader Datetime :=
  orElse
    (label "date-time" do
      let date ← fullDate
      let rest ← optional (do
        let _ ← byteWhere fun b => b == 84 || b == 116 || b == 32
        let time ← partialTime
        let offset ← optional timeOffset
        pure (time, offset))
      match rest with
      | some (time, offset) => pure { date, time, offset }
      | none => pure { date })
    (label "time" do pure { time := some (← partialTime) })

/-! ### Values -/

/-- Add the contexts of a value that looks like a mistyped string. -/
def asString {α : Type} (r : Reader α) : Reader α :=
  expecting (.char '\'') (expecting (.char '"') (label "string" r))

/-- Read a nested array or inline table at nesting `level`, refusing
documents nested too deeply. -/
def nested {α : Type} (level : Nat) (r : Reader α) : Reader α :=
  if level < depthLimit then r
  else final (failWith TreeError.recursionLimit.message)

mutual

/-- A value inside `level` enclosing arrays and inline tables. -/
def value : Nat → Nat → Reader Item
  | 0, _ => final (failWith TreeError.recursionLimit.message)
  | fuel + 1, level => do
    let start ← pos
    match ← peek with
    | none => fail
    | some 34 | some 39 => do
      let s ← anyString
      pure (Item.str s ⟨start, ← pos⟩)
    | some 91 => nested (level + 1) (array fuel (level + 1))
    | some 123 => nested (level + 1) (inlineTable fuel (level + 1))
    | some b =>
      if b == 43 || b == 45 || isDigitByte b then
        orElse (do let d ← dateTime; pure (Item.datetime d ⟨start, ← pos⟩)) <|
        orElse (do let f ← floatValue; pure (Item.float f ⟨start, ← pos⟩))
          (do let i ← integerValue; pure (Item.int i ⟨start, ← pos⟩))
      else if b == 95 then
        expecting (.description "leading digit") (do let i ← integerValue; pure (Item.int i ⟨start, ← pos⟩))
      else if b == 46 then
        expecting (.description "leading digit") (do let f ← floatValue; pure (Item.float f ⟨start, ← pos⟩))
      else if b == 116 then
        asString (do final (literal "true"); pure (Item.bool true ⟨start, ← pos⟩))
      else if b == 102 then
        asString (do final (literal "false"); pure (Item.bool false ⟨start, ← pos⟩))
      else if b == 105 then
        asString (do literal "inf"; pure (Item.float (Float.ofBits 0x7FF0000000000000) ⟨start, ← pos⟩))
      else if b == 110 then
        asString (do literal "nan"; pure (Item.float (Float.ofBits 0x7FF8000000000000) ⟨start, ← pos⟩))
      else asString fail

/-- An array: `[` values separated by commas, an optional trailing comma,
`]`; comments and line breaks may come between. -/
def array : Nat → Nat → Reader Item
  | 0, _ => final (failWith TreeError.recursionLimit.message)
  | fuel + 1, level => do
    let start ← pos
    byte '['
    let items ← final do
      if (← peek) == some 93 then pure []
      else
        let items ← separated (arrayItem fuel level) (byte ',') false
        if !items.isEmpty then
          let _ ← optional (byte ',')
        blankLinesAndComments (← budget)
        pure items
    final (expecting (.char ']') (label "array" (byte ']')))
    pure (.array items ⟨start, ← pos⟩)

/-- One array item with the blanks and comments around it. -/
def arrayItem : Nat → Nat → Reader Item
  | 0, _ => final (failWith TreeError.recursionLimit.message)
  | fuel + 1, level => do
    blankLinesAndComments (← budget)
    let v ← value fuel level
    blankLinesAndComments (← budget)
    pure v

/-- An inline table: `{` `key = value` pairs separated by commas `}`. -/
def inlineTable : Nat → Nat → Reader Item
  | 0, _ => final (failWith TreeError.recursionLimit.message)
  | fuel + 1, level => do
    let start ← pos
    byte '{'
    let table ← final (mapOrFail (do
        let pairs ← separated (inlineKeyval fuel level) (byte ',') false
        blanks
        pure pairs)
      fun pairs => (pairs.foldlM (fun (t : Table) (path, key, v) =>
          t.insertKeyval path key v none true) { inline := true }).mapError TreeError.message)
    final (expecting (.char '}') (label "inline table" (byte '}')))
    pure (.table table.entries true false false (some ⟨start, ← pos⟩))

/-- One `key = value` of an inline table. -/
def inlineKeyval : Nat → Nat → Reader (List Key × Key × Item)
  | 0, _ => final (failWith TreeError.recursionLimit.message)
  | fuel + 1, level => do
    let keys ← dottedKey
    final do
      expecting (.char '=') (expecting (.char '.') (byte '='))
      blanks
      let v ← value fuel level
      blanks
      pure (keys.dropLast, keys.getLast?.getD default, v)

end

/-- Enough steps for the deepest nesting a document may have. -/
def valueFuel : Nat := 4 * depthLimit + 8

/-! ### The document -/

/-- Record a finished line in the document, or fail at its start. -/
def build (start : Nat) (f : Builder → Except TreeError Builder) : Reader Unit := do
  match f (← get).doc with
  | .ok doc => modify fun c => { c with doc }
  | .error e =>
    setPos start
    failWith e.message

def keyvalLine : Reader Unit := do
  let start ← pos
  let keys ← dottedKey
  let v ← final do
    expecting (.char '=') (expecting (.char '.') (byte '='))
    blanks
    let v ← value valueFuel 0
    expecting (.char '#') (expecting (.char '\n') lineTrailing)
    pure v
  build start fun b => b.onKeyval keys.dropLast (keys.getLast?.getD default) v

def headerLine : Reader Unit :=
  label "table header" do
    let start ← pos
    if (← peekAt 1) == none then fail
    if (← peekAt 1) == some 91 then
      literal "[["
      let keys ← final dottedKey
      final (expecting (.text "]]") (expecting (.char '.') (literal "]]")))
      let stop ← pos
      final (expecting (.char '#') (expecting (.char '\n') lineTrailing))
      build start fun b => b.onArrayHeader keys ⟨start, stop⟩
    else
      byte '['
      let keys ← final dottedKey
      final (expecting (.text "]") (expecting (.char '.') (byte ']')))
      let stop ← pos
      final (expecting (.char '#') (expecting (.char '\n') lineTrailing))
      build start fun b => b.onStdHeader keys ⟨start, stop⟩

def element : Reader Unit := do
  match ← peek with
  | none => fail
  | some 35 => final (do comment; lineEnding)
  | some 91 => final headerLine
  | some 10 | some 13 => newline
  | some _ => final keyvalLine

def document : Reader Unit := do
  let _ ← optional (literal "\uFEFF")
  blanks
  let _ ← many (do element; blanks) 0 (← budget)
  eof

/-- The number of bytes of the character starting at a byte offset: none
at the end, otherwise from its first byte (a stray continuation byte
counts as one). -/
def charWidthAt (bytes : ByteArray) (p : Nat) : Nat :=
  if p ≥ bytes.size then 0
  else
    let b := bytes.get! p
    if b < 0xC0 then 1 else if b < 0xE0 then 2 else if b < 0xF0 then 3 else 4

/-- Read a document into its root table, or give the report of why it is
not a document: a failure points at the whole character where it
happened. -/
def readDocument (text : String) : Except String Table :=
  let bytes := text.toUTF8
  match (document.run bytes).run {} with
  | .ok () c =>
    match c.doc.finalize with
    | .ok b => .ok b.root
    | .error e => .error (report text none e.message [])
  | .error f c =>
    let p := c.pos
    .error (report text (some ⟨p, p + charWidthAt bytes p⟩) f.render [])

end Herald.Toml
