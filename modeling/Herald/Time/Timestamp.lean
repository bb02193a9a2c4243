import Herald.Time.Civil
import Herald.Text.Unicode

set_option autoImplicit false

/-!
Instants in UTC, read from and written as RFC 3339 text.

An instant is a count of seconds since 1970-01-01T00:00:00Z and a count of
nanoseconds. A leap second is the second `:59` with a nanosecond count of
one billion or more, so instants still order by the pair.

Reading is relaxed: the date and time may be separated by `T`, `t` or a
space, blanks may stand before numbers, months, days and time fields may
have one digit, a year has up to four digits or a sign and any number of
digits, fractions may have any number of digits (past nine they are
ignored), and the offset is `Z`, `z`, `UTC` in any case, or a signed
`HH:MM` (the colon may be absent, repeated or mixed with blanks; the minus
may be U+2212).
Fields are range-checked as they are read, so the first problem found
decides the error. The instant is then converted to UTC.

Writing gives `YYYY-MM-DDTHH:MM:SS`, a fraction of 3, 6 or 9 digits when
the nanoseconds are not zero, and `Z`. A year outside 0..9999 is written
with its sign and at least four digits.
-/

namespace Herald

/-- An instant in UTC. -/
structure Timestamp where
  /-- Whole seconds since the epoch; a leap second counts as the second before it. -/
  seconds : Int
  /-- Nanoseconds into the second, from 1000000000 up during a leap second. -/
  nanos : Nat
  deriving DecidableEq, Repr, Inhabited

namespace Timestamp

def lt (a b : Timestamp) : Bool :=
  a.seconds < b.seconds || (a.seconds == b.seconds && a.nanos < b.nanos)

/-- The smallest year a date may have. -/
def minYear : Int := -262143
/-- The largest year a date may have. -/
def maxYear : Int := 262142

def ofCivil (year : Int) (month day hour minute second nanos : Nat) : Timestamp :=
  { seconds := Time.daysFromCivil year month day * 86400 + (hour * 3600 + minute * 60 + second : Nat),
    nanos }

def date (t : Timestamp) : Int × Nat × Nat := Time.civilFromDays (t.seconds / 86400)

/-- Whether the instant's date lies in the representable years. -/
def inRange (t : Timestamp) : Bool :=
  let (y, _, _) := t.date
  minYear ≤ y && y ≤ maxYear

private def pad (width : Nat) (n : Nat) : String :=
  let s := toString n
  String.ofList (List.replicate (width - s.length) '0') ++ s

/-- RFC 3339 text in UTC with `Z`. -/
def render (t : Timestamp) : String :=
  let (y, mo, d) := t.date
  let secOfDay := (t.seconds % 86400).toNat
  let hour := secOfDay / 3600
  let minute := secOfDay % 3600 / 60
  let (second, nano) :=
    if t.nanos ≥ 1000000000 then (secOfDay % 60 + 1, t.nanos - 1000000000)
    else (secOfDay % 60, t.nanos)
  let yearText :=
    if 0 ≤ y && y ≤ 9999 then pad 4 y.toNat
    else (if y < 0 then "-" else "+") ++ pad 4 y.natAbs
  let fraction :=
    if nano == 0 then ""
    else if nano % 1000000 == 0 then "." ++ pad 3 (nano / 1000000)
    else if nano % 1000 == 0 then "." ++ pad 6 (nano / 1000)
    else "." ++ pad 9 nano
  s!"{yearText}-{pad 2 mo}-{pad 2 d}T{pad 2 hour}:{pad 2 minute}:{pad 2 second}{fraction}Z"

/-- Why a text is not an instant. -/
inductive ParseError where
  | outOfRange
  | impossible
  | invalid
  | tooShort
  | tooLong
  deriving DecidableEq, Repr

def ParseError.message : ParseError → String
  | .outOfRange => "input is out of range"
  | .impossible => "no possible date and time matching input"
  | .invalid => "input contains invalid characters"
  | .tooShort => "premature end of input"
  | .tooLong => "trailing input"

/-- Reading state: the characters still to read. -/
abbrev Scan := StateT (List Char) (Except ParseError)

private def skipBlanks : Scan Unit := modify (·.dropWhile Text.isWhitespace)

/-- Between `lo` and `hi` digits, as a number; at least `lo` must be there. -/
private def digits (lo hi : Nat) : Scan Nat := do
  let s ← get
  if s.length < lo then throw .tooShort
  let ds := (s.take hi).takeWhile Text.isDigit
  if ds.length < lo then throw .invalid
  set (s.drop ds.length)
  return ds.foldl (fun n c => n * 10 + (c.toNat - 48)) 0

private def literal (c : Char) : Scan Unit := do
  match ← get with
  | [] => throw .tooShort
  | d :: rest => if d == c then set rest else throw .invalid

private def field (lo hi : Nat) : Scan Nat := do
  skipBlanks
  let n ← digits 1 2
  if n < lo || n > hi then throw .outOfRange
  return n

private def yearField : Scan Int := do
  skipBlanks
  match ← get with
  | '-' :: rest => do
    set rest
    let n ← digits 1 1000000
    if n > Nat.pow 2 63 then throw .outOfRange
    if n > Nat.pow 2 31 then throw .outOfRange
    return -(n : Int)
  | '+' :: rest => do
    set rest
    let n ← digits 1 1000000
    if n ≥ Nat.pow 2 63 then throw .outOfRange
    if n ≥ Nat.pow 2 31 then throw .outOfRange
    return n
  | _ => return (← digits 1 4)

private def fraction : Scan Nat := do
  match ← get with
  | '.' :: rest => do
    set rest
    let s ← get
    let ds := (s.take 9).takeWhile Text.isDigit
    if s.isEmpty then throw .tooShort
    if ds.isEmpty then throw .invalid
    let n := ds.foldl (fun n c => n * 10 + (c.toNat - 48)) 0
    set ((s.drop ds.length).dropWhile Text.isDigit)
    return n * Nat.pow 10 (9 - ds.length)
  | _ => return 0

/-- The first two bytes' characters, for a check that they are digits: a
lone character of several bytes is not a digit, a lone byte is too little. -/
private def twoDigits : Scan (Char × Char) := do
  match ← get with
  | a :: b :: _ => return (a, b)
  | [a] => if a.utf8Size ≥ 2 then throw .invalid else throw .tooShort
  | [] => throw .tooShort

private def offset : Scan Int := do
  let s ← get
  match s with
  | 'Z' :: rest | 'z' :: rest => do set rest; return 0
  | _ =>
  if s.length ≥ 3 && Text.asciiLower (String.ofList (s.take 3)) == "utc" then
    set (s.drop 3); return 0
  let negative ← match s with
    | '+' :: rest => do set rest; pure false
    | '-' :: rest => do set rest; pure true
    | c :: rest => if c.toNat == 0x2212 then do set rest; pure true else throw .invalid
    | [] => throw .tooShort
  let (h1, h2) ← twoDigits
  if !(Text.isDigit h1 && Text.isDigit h2) then throw .invalid
  let hours := (h1.toNat - 48) * 10 + (h2.toNat - 48)
  modify fun s => (s.drop 2).dropWhile (fun c => c == ':' || Text.isWhitespace c)
  let (m1, m2) ← twoDigits
  let minutes ←
    if '0' ≤ m1 && m1 ≤ '5' && Text.isDigit m2 then pure ((m1.toNat - 48) * 10 + (m2.toNat - 48))
    else if '6' ≤ m1 && m1 ≤ '9' && Text.isDigit m2 then throw .outOfRange
    else throw .invalid
  modify (·.drop 2)
  let total := hours * 3600 + minutes * 60
  return if negative then -(total : Int) else total

/-- The fields of an RFC 3339 text, each range-checked, and the offset in seconds. -/
private def fields : Scan (Int × Nat × Nat × Nat × Nat × Nat × Nat × Int) := do
  let year ← yearField
  skipBlanks
  literal '-'
  let month ← field 1 12
  skipBlanks
  literal '-'
  let day ← field 1 31
  match ← get with
  | c :: rest => if c == 'T' || c == 't' || c == ' ' then set rest else throw .invalid
  | [] => throw .tooShort
  let hour ← field 0 23
  skipBlanks
  literal ':'
  let minute ← field 0 59
  skipBlanks
  literal ':'
  let second ← field 0 60
  let nanos ← fraction
  skipBlanks
  let off ← offset
  return (year, month, day, hour, minute, second, nanos, off)

/-- Read an RFC 3339 instant and convert it to UTC. -/
def parse (text : String) : Except ParseError Timestamp := do
  let ((year, month, day, hour, minute, second, nanos, off), rest) ← fields.run text.toList
  if !(rest.dropWhile Text.isWhitespace).isEmpty then throw .tooLong
  if year < minYear || year > maxYear || day > Time.daysInMonth year month then
    throw .outOfRange
  let (second, nanos) := if second == 60 then (59, nanos + 1000000000) else (second, nanos)
  if off.natAbs ≥ 86400 then throw .outOfRange
  let wall := ofCivil year month day hour minute second nanos
  let utc : Timestamp := { wall with seconds := wall.seconds - off }
  if !utc.inRange then throw .impossible
  return utc

/-- Read an instant, with the error as text. -/
def parseText (text : String) : Except String Timestamp :=
  (parse text).mapError ParseError.message

def addMillis (t : Timestamp) (ms : Nat) : Timestamp :=
  let total := t.nanos + (ms % 1000) * 1000000
  { seconds := t.seconds + (ms / 1000 : Nat) + (total / 1000000000 : Nat), nanos := total % 1000000000 }

def addNanos (t : Timestamp) (ns : Nat) : Timestamp :=
  let total := t.nanos + ns
  { seconds := t.seconds + (total / 1000000000 : Nat), nanos := total % 1000000000 }

end Timestamp

end Herald
