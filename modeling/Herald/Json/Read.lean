import Herald.Json.Value
import Herald.Wire.Content
import Herald.Number.Binary64

set_option autoImplicit false

/-!
Reading JSON text, with the error texts and positions of this library's text
wire format.

The reader works on UTF-8 bytes. A position is a 1-based line and a column
that counts bytes from the start of the line; it points at the last byte
consumed, or for a look-ahead error at the byte looked at. An error raised
by a typed decoder carries no position of its own and is given the position
where the reader stands when the error comes back up (`located`).

Numbers keep their form: an integer that fits 64 bits unsigned is `unsigned`,
a negative one that fits 64 bits signed is `signed`, and every other number
is a float built the way the format's reader builds it: the digits as a
64-bit integer, then multiplied or divided by a power of ten, both steps
rounded to the nearest float.

Nesting is limited: the 128th open bracket in a row is an error.
-/

namespace Herald.Json

/-- One step into a value: a member's key or an item's index. -/
inductive PathStep where
  | key (name : String)
  | index (i : Nat)
  deriving Inhabited, BEq

/-- A path into a value, outermost step first: keys joined by dots, indexes
in brackets (`items[2].name`). -/
def pathText (steps : List PathStep) : String :=
  let rec go (first : Bool) : List PathStep → String
    | [] => ""
    | .key k :: rest => (if first then "" else ".") ++ k ++ go false rest
    | .index i :: rest => s!"[{i}]" ++ go false rest
  go true steps

/-- A read failure. `line = 0` means the position is not known yet; `path`
is where inside the value being read it happened. -/
structure ReadError where
  message : String
  line : Nat := 0
  column : Nat := 0
  path : List PathStep := []
  deriving Inhabited

/-- The error text, with the position when known. -/
def ReadError.render (e : ReadError) : String :=
  if e.line == 0 then e.message else s!"{e.message} at line {e.line} column {e.column}"

/-- The error text led by the path to where it happened, when there is one. -/
def ReadError.renderAtPath (e : ReadError) : String :=
  if e.path.isEmpty then e.render else pathText e.path ++ ": " ++ e.render

-- The reasons a read stops, worded as the wire format words them.
namespace Reason
def eofList := "EOF while parsing a list"
def eofObject := "EOF while parsing an object"
def eofString := "EOF while parsing a string"
def eofValue := "EOF while parsing a value"
def expectedColon := "expected `:`"
def expectedListCommaOrEnd := "expected `,` or `]`"
def expectedObjectCommaOrEnd := "expected `,` or `\x7d`"
def expectedIdent := "expected ident"
def expectedValue := "expected value"
def invalidEscape := "invalid escape"
def invalidNumber := "invalid number"
def numberOutOfRange := "number out of range"
def invalidCodePoint := "invalid unicode code point"
def controlCharacter := "control character (\\u0000-\\u001F) found while parsing a string"
def keyMustBeString := "key must be a string"
def loneSurrogate := "lone leading surrogate in hex escape"
def trailingComma := "trailing comma"
def trailingCharacters := "trailing characters"
def unexpectedEndOfHexEscape := "unexpected end of hex escape"
def recursionLimit := "recursion limit exceeded"

/-- Every reason that is about the text itself rather than the values in it. -/
def syntaxReasons : List String :=
  [eofList, eofObject, eofString, eofValue, expectedColon, expectedListCommaOrEnd,
    expectedObjectCommaOrEnd, expectedIdent, expectedValue, invalidEscape, invalidNumber,
    numberOutOfRange, invalidCodePoint, controlCharacter, keyMustBeString, loneSurrogate,
    trailingComma, trailingCharacters, unexpectedEndOfHexEscape, recursionLimit]
end Reason

/-- Whether a failure is about the text itself (its syntax or its end),
rather than about a value of the wrong shape. -/
def ReadError.isSyntax (e : ReadError) : Bool := Reason.syntaxReasons.contains e.message

/-- Where the reader stands and how much nesting is still allowed. -/
structure Cursor where
  pos : Nat
  depth : Nat

/-- Reading from a fixed input. The cursor lives outside the failure, so a
caught error still sees how far reading got. -/
abbrev ReadM := ReaderT ByteArray (ExceptT ReadError (StateM Cursor))

/-- The byte at `i`, if any. -/
def byteAt (b : ByteArray) (i : Nat) : Option UInt8 :=
  if h : i < b.size then some b[i] else none

/-- Line and column of the byte index `i`: the column counts the bytes since
the last line break before `i`. -/
def positionOf (b : ByteArray) (i : Nat) : Nat × Nat :=
  let i := min i b.size
  let rec go (k : Nat) (line lineStart : Nat) : Nat → Nat × Nat
    | 0 => (line, i - lineStart)
    | fuel + 1 =>
      if k < i then
        if byteAt b k == some 10 then go (k + 1) (line + 1) (k + 1) fuel
        else go (k + 1) line lineStart fuel
      else (line, i - lineStart)
  go 0 1 0 (i + 1)

namespace ReadM

def input : ReadM ByteArray := read

def pos : ReadM Nat := do return (← getThe Cursor).pos

def setPos (p : Nat) : ReadM Unit := modifyThe Cursor fun c => { c with pos := p }

def peek : ReadM (Option UInt8) := do return byteAt (← read) (← getThe Cursor).pos

def eat : ReadM Unit := modifyThe Cursor fun c => { c with pos := c.pos + 1 }

def next : ReadM (Option UInt8) := do
  let b ← peek
  if b.isSome then eat
  return b

/-- An error at the reader's position (after the last byte consumed). -/
def errorHere {α : Type} (msg : String) : ReadM α := do
  let (line, column) := positionOf (← read) (← getThe Cursor).pos
  throw { message := msg, line, column }

/-- An error at the byte looked at. -/
def peekError {α : Type} (msg : String) : ReadM α := do
  let b ← read
  let (line, column) := positionOf b (min b.size ((← getThe Cursor).pos + 1))
  throw { message := msg, line, column }

/-- Give a position-less error the reader's position. -/
def locate (e : ReadError) : ReadM ReadError := do
  if e.line != 0 then return e
  let (line, column) := positionOf (← read) (← getThe Cursor).pos
  return { e with line, column }

/-- Run `body`; an error it raises without a position gets the reader's
position at that point. -/
def located {α : Type} (body : ReadM α) : ReadM α :=
  tryCatch body fun e => do throw (← locate e)

/-- Fail with a decoder's message, positioned later by `located`. -/
def failWith {α : Type} (msg : String) : ReadM α := throw { message := msg }

/-- Run a decoder on a value already read. -/
def ofExcept {α : Type} : Except String α → ReadM α
  | .ok a => pure a
  | .error m => failWith m

/-- Run `body` one step inside the value being read: a failure records the
step in front of its path. -/
def within {α : Type} (step : PathStep) (body : ReadM α) : ReadM α :=
  tryCatch body fun e => throw { e with path := step :: e.path }

/-- Run `body`, then `finish` whatever the outcome; the first error wins. -/
def thenAlways {α : Type} (body : ReadM α) (finish : ReadM Unit) : ReadM α := do
  let r ← tryCatch (do return Except.ok (← body)) fun e => return .error e
  let f ← tryCatch (do finish; return Except.ok ()) fun e => return .error e
  match r, f with
  | .ok a, .ok () => return a
  | .error e, _ => throw e
  | .ok _, .error e => throw e

end ReadM

open ReadM

/-- Skip blanks (space, tab, line feed, carriage return) and look at the next byte. -/
def skipBlanks : ReadM (Option UInt8) := do
  let b ← read
  let rec go (p : Nat) : Nat → Nat
    | 0 => p
    | fuel + 1 =>
      match byteAt b p with
      | some 32 | some 9 | some 10 | some 13 => go (p + 1) fuel
      | _ => p
  let p := go (← getThe Cursor).pos (b.size + 1)
  setPos p
  return byteAt b p

/-- Consume the rest of a literal word, failing on a different byte or the end. -/
def expectWord : List UInt8 → ReadM Unit
  | [] => pure ()
  | c :: rest => do
    match ← next with
    | none => errorHere Reason.eofValue
    | some b => if b == c then expectWord rest else errorHere Reason.expectedIdent

/-- A number as read: which of the three forms it took. -/
inductive ReadNumber where
  | unsigned (n : Nat)
  | signed (i : Int)
  | float (f : Float)

def ReadNumber.toContent : ReadNumber → Content
  | .unsigned n => .unsigned .w64 n
  | .signed i => .signed .w64 i
  | .float f => .float f

def u64Max : Nat := Nat.pow 2 64 - 1
private def i32Max : Nat := Nat.pow 2 31 - 1

/-- Whether appending `digit` to the decimal number `acc` passes `limit`. -/
def overflows (acc digit limit : Nat) : Bool :=
  acc ≥ limit / 10 && (acc > limit / 10 || digit > limit % 10)

/-- Whether a byte is an ASCII digit. -/
def isDigitByte (b : UInt8) : Bool := 48 ≤ b && b ≤ 57

/-- `significand * 10 ^ exponent` built as the reader builds it: the integer
rounded to a float, then one multiplication or division by a power of ten. -/
def floatFromParts (positive : Bool) (significand : Nat) (exponent : Int) : ReadM Float := do
  let rec go (f : Float) (exponent : Int) : Nat → ReadM Float
    | 0 => pure f
    | fuel + 1 => do
      let k := exponent.natAbs
      if k ≤ 308 then
        if exponent ≥ 0 then
          let g := f * Binary64.pow10 k
          if g.isInf then errorHere Reason.numberOutOfRange else pure g
        else pure (f / Binary64.pow10 k)
      else if f == 0.0 then pure f
      else if exponent ≥ 0 then errorHere Reason.numberOutOfRange
      else go (f / Binary64.pow10 308) (exponent + 308) fuel
  let f ← go (Binary64.ofNat significand) exponent 16
  return if positive then f else -f

/-- Skip the digits of an exponent that no longer fits. -/
def exponentOverflow (positive zeroSignificand positiveExp : Bool) : ReadM Float := do
  if !zeroSignificand && positiveExp then errorHere Reason.numberOutOfRange
  else
    let b ← input
    let rec skip (p : Nat) : Nat → Nat
      | 0 => p
      | fuel + 1 => match byteAt b p with
        | some c => if isDigitByte c then skip (p + 1) fuel else p
        | none => p
    setPos (skip (← pos) (b.size + 1))
    return if positive then 0.0 else -0.0

/-- The exponent part, after the `e`. -/
def readExponent (positive : Bool) (significand : Nat) (start : Int) : ReadM Float := do
  eat
  let positiveExp ← match ← peek with
    | some 43 => do eat; pure true
    | some 45 => do eat; pure false
    | _ => pure true
  let first ← match ← next with
    | none => errorHere Reason.eofValue
    | some c => if isDigitByte c then pure (c - 48).toNat else errorHere Reason.invalidNumber
  let b ← input
  let rec digits (exp : Nat) : Nat → ReadM (Sum Nat Float)
    | 0 => pure (.inl exp)
    | fuel + 1 => do
      match ← peek with
      | some c =>
        if isDigitByte c then
          eat
          let d := (c - 48).toNat
          if overflows exp d i32Max then
            return .inr (← exponentOverflow positive (significand == 0) positiveExp)
          digits (exp * 10 + d) fuel
        else pure (.inl exp)
      | none => pure (.inl exp)
  match ← digits first (b.size + 1) with
  | .inr f => pure f
  | .inl exp =>
    let lo : Int := -(Int.pow 2 31)
    let hi : Int := Int.pow 2 31 - 1
    let final := if positiveExp then min hi (start + exp) else max lo (start - exp)
    floatFromParts positive significand final

def readFraction (positive : Bool) (significand : Nat) (before : Int) : ReadM Float := do
  eat
  let b ← input
  -- digits after the point, while the significand still fits
  let rec digits (sig : Nat) (after : Int) : Nat → ReadM (Nat × Int × Bool)
    | 0 => pure (sig, after, false)
    | fuel + 1 => do
      match ← peek with
      | some c =>
        if isDigitByte c then
          let d := (c - 48).toNat
          if overflows sig d u64Max then pure (sig, after, true)
          else do eat; digits (sig * 10 + d) (after - 1) fuel
        else pure (sig, after, false)
      | none => pure (sig, after, false)
  let (sig, after, overflowed) ← digits significand 0 (b.size + 1)
  if overflowed then
    let rec skip (p : Nat) : Nat → Nat
      | 0 => p
      | fuel + 1 => match byteAt b p with
        | some c => if isDigitByte c then skip (p + 1) fuel else p
        | none => p
    setPos (skip (← pos) (b.size + 1))
    match ← peek with
    | some 101 | some 69 => readExponent positive sig (before + after)
    | _ => floatFromParts positive sig (before + after)
  else
    if after == 0 then
      match ← peek with
      | some _ => peekError Reason.invalidNumber
      | none => peekError Reason.eofValue
    else
      match ← peek with
      | some 101 | some 69 => readExponent positive sig (before + after)
      | _ => floatFromParts positive sig (before + after)

/-- What follows the integer digits: a fraction, an exponent, or nothing. -/
def readNumberTail (positive : Bool) (significand : Nat) : ReadM ReadNumber := do
  match ← peek with
  | some 46 => return .float (← readFraction positive significand 0)
  | some 101 | some 69 => return .float (← readExponent positive significand 0)
  | _ =>
    if positive then return .unsigned significand
    else if significand == 0 then return .float (-0.0)
    else if significand ≤ Nat.pow 2 63 then return .signed (-(significand : Int))
    else return .float (-(Binary64.ofNat significand))

/-- An integer too long for 64 bits: count the remaining digits as a power of ten. -/
def readLongInteger (positive : Bool) (significand : Nat) : ReadM Float := do
  let b ← input
  let rec go (exponent : Nat) : Nat → ReadM Float
    | 0 => floatFromParts positive significand exponent
    | fuel + 1 => do
      match ← peek with
      | some c =>
        if isDigitByte c then do eat; go (exponent + 1) fuel
        else if c == 46 then readFraction positive significand exponent
        else if c == 101 || c == 69 then readExponent positive significand exponent
        else floatFromParts positive significand exponent
      | none => floatFromParts positive significand exponent
  go 0 (b.size + 1)

/-- A number, after an optional minus sign has been consumed. -/
def readNumber (positive : Bool) : ReadM ReadNumber := do
  match ← next with
  | none => errorHere Reason.eofValue
  | some 48 =>
    match ← peek with
    | some c => if isDigitByte c then peekError Reason.invalidNumber else readNumberTail positive 0
    | none => readNumberTail positive 0
  | some c =>
    if isDigitByte c then
      let b ← input
      let rec go (sig : Nat) : Nat → ReadM ReadNumber
        | 0 => readNumberTail positive sig
        | fuel + 1 => do
          match ← peek with
          | some d =>
            if isDigitByte d then
              let digit := (d - 48).toNat
              if overflows sig digit u64Max then
                return .float (← readLongInteger positive sig)
              eat
              go (sig * 10 + digit) fuel
            else readNumberTail positive sig
          | none => readNumberTail positive sig
      go (c - 48).toNat (b.size + 1)
    else errorHere Reason.invalidNumber

/-- The value of a hex digit byte of either case. -/
def hexValue (c : UInt8) : Option Nat :=
  if 48 ≤ c && c ≤ 57 then some (c - 48).toNat
  else if 97 ≤ c && c ≤ 102 then some (c - 87).toNat
  else if 65 ≤ c && c ≤ 70 then some (c - 55).toNat
  else none

/-- Four hex digits of a `\u` escape. -/
def readHexEscape : ReadM Nat := do
  let b ← input
  let p ← pos
  if p + 4 ≤ b.size then
    setPos (p + 4)
    match hexValue (b.get! p), hexValue (b.get! (p + 1)), hexValue (b.get! (p + 2)),
        hexValue (b.get! (p + 3)) with
    | some a, some c, some d, some e => pure (((a * 16 + c) * 16 + d) * 16 + e)
    | _, _, _, _ => errorHere Reason.invalidEscape
  else
    setPos b.size
    errorHere Reason.eofString

/-- The UTF-8 bytes of a code point. -/
def utf8Bytes (n : Nat) : ByteArray :=
  if n < 0x80 then ByteArray.mk #[n.toUInt8]
  else if n < 0x800 then ByteArray.mk #[(0xC0 + n / 64).toUInt8, (0x80 + n % 64).toUInt8]
  else if n < 0x10000 then
    ByteArray.mk #[(0xE0 + n / 4096).toUInt8, (0x80 + (n / 64) % 64).toUInt8, (0x80 + n % 64).toUInt8]
  else
    ByteArray.mk #[(0xF0 + n / 262144).toUInt8, (0x80 + (n / 4096) % 64).toUInt8,
      (0x80 + (n / 64) % 64).toUInt8, (0x80 + n % 64).toUInt8]

/-- A `\u` escape, possibly a surrogate pair. -/
def readUnicodeEscape : ReadM ByteArray := do
  let n ← readHexEscape
  if 0xDC00 ≤ n && n ≤ 0xDFFF then errorHere Reason.loneSurrogate
  else if n < 0xD800 || n > 0xDBFF then return utf8Bytes n
  else
    match ← peek with
    | none => errorHere Reason.eofString
    | some c =>
      eat
      if c != 92 then errorHere Reason.unexpectedEndOfHexEscape
      else
        match ← peek with
        | none => errorHere Reason.eofString
        | some u =>
          eat
          if u != 117 then errorHere Reason.unexpectedEndOfHexEscape
          else
            let n2 ← readHexEscape
            if n2 < 0xDC00 || n2 > 0xDFFF then errorHere Reason.loneSurrogate
            else return utf8Bytes ((((n - 0xD800) * 1024) + (n2 - 0xDC00)) + 0x10000)

def readEscape : ReadM ByteArray := do
  match ← next with
  | none => errorHere Reason.eofString
  | some c =>
    match c with
    | 34 => pure (ByteArray.mk #[34])
    | 92 => pure (ByteArray.mk #[92])
    | 47 => pure (ByteArray.mk #[47])
    | 98 => pure (ByteArray.mk #[8])
    | 102 => pure (ByteArray.mk #[12])
    | 110 => pure (ByteArray.mk #[10])
    | 114 => pure (ByteArray.mk #[13])
    | 116 => pure (ByteArray.mk #[9])
    | 117 => readUnicodeEscape
    | _ => errorHere Reason.invalidEscape

/-- The first index at or after `p` holding a quote, a backslash or a control byte. -/
def scanPlain (b : ByteArray) (p : Nat) : Nat :=
  let rec go (p : Nat) : Nat → Nat
    | 0 => p
    | fuel + 1 =>
      match byteAt b p with
      | some c => if c == 34 || c == 92 || c < 32 then p else go (p + 1) fuel
      | none => p
  go p (b.size + 1)

/-- The body of a string, after the opening quote; its bytes must be UTF-8. -/
def readStringBody : ReadM String := do
  let b ← input
  let rec go (scratch : ByteArray) : Nat → ReadM ByteArray
    | 0 => pure scratch
    | fuel + 1 => do
      let start ← pos
      let stop := scanPlain b start
      let scratch := scratch ++ b.extract start stop
      setPos stop
      match byteAt b stop with
      | none => errorHere Reason.eofString
      | some 34 => do eat; pure scratch
      | some 92 => do
        eat
        let piece ← readEscape
        go (scratch ++ piece) fuel
      | some _ => do eat; errorHere Reason.controlCharacter
  let bytes ← go ByteArray.empty (b.size + 1)
  match String.fromUTF8? bytes with
  | some s => pure s
  | none => errorHere Reason.invalidCodePoint

/-- Enter a bracket: fail when the nesting allowance runs out. -/
def enterNesting : ReadM Unit := do
  let c ← getThe Cursor
  if c.depth ≤ 1 then peekError Reason.recursionLimit
  modifyThe Cursor fun c => { c with depth := c.depth - 1 }

def leaveNesting : ReadM Unit := modifyThe Cursor fun c => { c with depth := c.depth + 1 }

/-- After the items of an array: the closing bracket. -/
def endList : ReadM Unit := do
  match ← skipBlanks with
  | some 93 => eat
  | some 44 =>
    eat
    match ← skipBlanks with
    | some 93 => peekError Reason.trailingComma
    | _ => peekError Reason.trailingCharacters
  | some _ => peekError Reason.trailingCharacters
  | none => peekError Reason.eofList

/-- After the members of an object: the closing brace. -/
def endObject : ReadM Unit := do
  match ← skipBlanks with
  | some 125 => eat
  | some 44 => peekError Reason.trailingComma
  | some _ => peekError Reason.trailingCharacters
  | none => peekError Reason.eofObject

/-- Before the next array item: `true` if there is one. A comma is expected
before every item but the first. -/
def nextItem (first : Bool) : ReadM Bool := do
  let peeked ← match ← skipBlanks with
    | some 93 => return false
    | some 44 =>
      if first then pure (some 44)
      else do eat; skipBlanks
    | some b => if first then pure (some b) else peekError Reason.expectedListCommaOrEnd
    | none => peekError Reason.eofList
  match peeked with
  | some 93 => peekError Reason.trailingComma
  | some _ => return true
  | none => peekError Reason.eofValue

/-- Before the next object member: its key, if there is one. A comma is
expected before every member but the first. -/
def nextKey (first : Bool) : ReadM (Option String) := do
  let peeked ← match ← skipBlanks with
    | some 125 => return none
    | some 44 =>
      if first then pure (some 44)
      else do eat; skipBlanks
    | some b => if first then pure (some b) else peekError Reason.expectedObjectCommaOrEnd
    | none => peekError Reason.eofObject
  match peeked with
  | some 34 => do eat; return some (← readStringBody)
  | some 125 => peekError Reason.trailingComma
  | some _ => peekError Reason.keyMustBeString
  | none => peekError Reason.eofValue

/-- The colon between a key and its value. -/
def colon : ReadM Unit := do
  match ← skipBlanks with
  | some 58 => eat
  | some _ => peekError Reason.expectedColon
  | none => peekError Reason.eofObject

mutual

def readContent : Nat → ReadM Content
  | 0 => failWith Reason.recursionLimit
  | fuel + 1 => located do
    match ← skipBlanks with
    | none => peekError Reason.eofValue
    | some 110 => do eat; expectWord [117, 108, 108]; pure .unit
    | some 116 => do eat; expectWord [114, 117, 101]; pure (.bool true)
    | some 102 => do eat; expectWord [97, 108, 115, 101]; pure (.bool false)
    | some 45 => do eat; return (← readNumber false).toContent
    | some 34 => do eat; return .str (← readStringBody)
    | some 91 => do
      enterNesting
      eat
      let items ← thenAlways (readItems fuel true []) endList
      leaveNesting
      return .seq items
    | some 123 => do
      enterNesting
      eat
      let entries ← thenAlways (readMembers fuel true []) endObject
      leaveNesting
      return .map entries
    | some c =>
      if isDigitByte c then return (← readNumber true).toContent
      else peekError Reason.expectedValue

def readItems : Nat → Bool → List Content → ReadM (List Content)
  | 0, _, acc => pure acc.reverse
  | fuel + 1, first, acc => do
    if ← nextItem first then
      let item ← readContent fuel
      readItems fuel false (item :: acc)
    else pure acc.reverse

def readMembers : Nat → Bool → List (Content × Content) → ReadM (List (Content × Content))
  | 0, _, acc => pure acc.reverse
  | fuel + 1, first, acc => do
    match ← nextKey first with
    | none => pure acc.reverse
    | some k =>
      colon
      let v ← readContent fuel
      readMembers fuel false ((.str k, v) :: acc)

end

/-- Skip a number's syntax without building it: no range is checked. -/
def skipNumber : ReadM Unit := do
  let b ← input
  let skipDigits : ReadM Unit := do
    let rec go (p : Nat) : Nat → Nat
      | 0 => p
      | fuel + 1 => match byteAt b p with
        | some c => if isDigitByte c then go (p + 1) fuel else p
        | none => p
    setPos (go (← pos) (b.size + 1))
  let skipExponent : ReadM Unit := do
    eat
    match ← peek with
    | some 43 | some 45 => eat
    | _ => pure ()
    match ← peek with
    | some c => if isDigitByte c then do eat; skipDigits else do eat; errorHere Reason.invalidNumber
    | none => errorHere Reason.invalidNumber
  match ← peek with
  | some 48 =>
    eat
    match ← peek with
    | some c => if isDigitByte c then peekError Reason.invalidNumber else pure ()
    | none => pure ()
  | some c =>
    if isDigitByte c then do eat; skipDigits
    else do eat; errorHere Reason.invalidNumber
  | none => errorHere Reason.invalidNumber
  match ← peek with
  | some 46 =>
    eat
    let start ← pos
    skipDigits
    if (← pos) == start then peekError Reason.invalidNumber
    match ← peek with
    | some 101 | some 69 => skipExponent
    | _ => pure ()
  | some 101 | some 69 => skipExponent
  | _ => pure ()

/-- Skip a string's body after the opening quote, checking only its escapes. -/
def skipStringBody : ReadM Unit := do
  let b ← input
  let rec go : Nat → ReadM Unit
    | 0 => pure ()
    | fuel + 1 => do
      let stop := scanPlain b (← pos)
      setPos stop
      match byteAt b stop with
      | none => errorHere Reason.eofString
      | some 34 => eat
      | some 92 => do
        eat
        match ← next with
        | none => errorHere Reason.eofString
        | some c =>
          if c == 34 || c == 92 || c == 47 || c == 98 || c == 102 || c == 110 || c == 114 ||
              c == 116 then go fuel
          else if c == 117 then do let _ ← readHexEscape; go fuel
          else errorHere Reason.invalidEscape
      | some _ => errorHere Reason.controlCharacter
  go (b.size + 1)

mutual

/-- Skip one value; `stack` holds the brackets still open, innermost first,
`true` for an object. -/
def skipFrom (stack : List Bool) : Nat → ReadM Unit
  | 0 => pure ()
  | fuel + 1 => do
    let opened ← match ← skipBlanks with
      | none => peekError Reason.eofValue
      | some 110 => do eat; expectWord [117, 108, 108]; pure none
      | some 116 => do eat; expectWord [114, 117, 101]; pure none
      | some 102 => do eat; expectWord [97, 108, 115, 101]; pure none
      | some 45 => do eat; skipNumber; pure none
      | some 34 => do eat; skipStringBody; pure none
      | some 91 => do eat; pure (some false)
      | some 123 => do eat; pure (some true)
      | some c =>
        if isDigitByte c then do skipNumber; pure none
        else peekError Reason.expectedValue
    match opened with
    | some isObject => skipOpened isObject stack fuel
    | none => skipClose stack fuel

/-- Just after an opening bracket, which may close at once. -/
def skipOpened (isObject : Bool) (stack : List Bool) : Nat → ReadM Unit
  | 0 => pure ()
  | fuel + 1 => do
    match ← skipBlanks with
    | some 93 =>
      if !isObject then do eat; skipClose stack fuel else skipMember isObject stack fuel
    | some 125 =>
      if isObject then do eat; skipClose stack fuel else skipMember isObject stack fuel
    | some _ => skipMember isObject stack fuel
    | none => peekError (if isObject then Reason.eofObject else Reason.eofList)

/-- Inside a bracket, before an item or a member. -/
def skipMember (isObject : Bool) (stack : List Bool) : Nat → ReadM Unit
  | 0 => pure ()
  | fuel + 1 => do
    if isObject then
      match ← skipBlanks with
      | some 34 => do eat; skipStringBody
      | some _ => peekError Reason.keyMustBeString
      | none => peekError Reason.eofObject
      match ← skipBlanks with
      | some 58 => eat
      | some _ => peekError Reason.expectedColon
      | none => peekError Reason.eofObject
    skipFrom (isObject :: stack) fuel

/-- After a value: a comma, a closing bracket, or the end. -/
def skipClose (stack : List Bool) : Nat → ReadM Unit
  | 0 => pure ()
  | fuel + 1 => do
    match stack with
    | [] => pure ()
    | isObject :: rest =>
      match ← skipBlanks with
      | some 44 => do eat; skipMember isObject rest fuel
      | some 93 =>
        if !isObject then do eat; skipClose rest fuel
        else peekError Reason.expectedObjectCommaOrEnd
      | some 125 =>
        if isObject then do eat; skipClose rest fuel
        else peekError Reason.expectedListCommaOrEnd
      | some _ => peekError (if isObject then Reason.expectedObjectCommaOrEnd
                             else Reason.expectedListCommaOrEnd)
      | none => peekError (if isObject then Reason.eofObject else Reason.eofList)

end

/-- Skip any value without building it, checking only its syntax. Nesting is
not limited here. -/
def skipValue : ReadM Unit := do
  let b ← input
  skipFrom [] (4 * b.size + 4)

/-- After the value: only blanks may follow. -/
def finish : ReadM Unit := do
  match ← skipBlanks with
  | some _ => peekError Reason.trailingCharacters
  | none => pure ()

/-- Run a reader on bytes with the standard nesting allowance. -/
def runReader {α : Type} (r : ReadM α) (bytes : ByteArray) : Except ReadError α :=
  ((r.run bytes).run.run ⟨0, 128⟩).1

/-- Content of a whole text: one value and nothing after it. -/
def contentOfBytes (bytes : ByteArray) : Except ReadError Content :=
  runReader (do let c ← readContent (2 * bytes.size + 4); finish; pure c) bytes

mutual

/-- The JSON value of a content tree read from text. -/
def ofContent : Content → Json
  | .bool b => .bool b
  | .unsigned _ n => .num (.nat n)
  | .signed _ i => .num (.neg i)
  | .float f => .num (.float f)
  | .str s => .str s
  | .bytes b => .arr (b.toList.map fun x => .num (.nat x.toNat))
  | .none | .unit => .null
  | .some c => ofContent c
  | .seq items => .arr (ofContents items)
  | .map entries => .obj (ofEntries entries)
  | .newtype c => ofContent c

/-- The JSON values of a list of content trees. -/
def ofContents : List Content → List Json
  | [] => []
  | c :: rest => ofContent c :: ofContents rest

/-- The JSON members of content entries; a key that is not a string is empty. -/
def ofEntries : List (Content × Content) → List (String × Json)
  | [] => []
  | (k, v) :: rest =>
    ((match k with | .str s => s | _ => ""), ofContent v) :: ofEntries rest

end

/-- Parse a JSON text into a value, with a nesting allowance of `depth`. -/
def parseWithDepth (text : String) (depth : Nat) : Except ReadError Json :=
  let bytes := text.toUTF8
  (((do let c ← readContent (2 * bytes.size + 4); finish; pure (ofContent c)) |>.run bytes).run.run
    ⟨0, depth⟩).1

/-- Parse a JSON text into a value. -/
def parse (text : String) : Except ReadError Json := parseWithDepth text 128

end Herald.Json
