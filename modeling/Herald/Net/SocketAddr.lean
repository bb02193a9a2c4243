set_option autoImplicit false

/-!
Socket addresses: an IPv4 address and port, or a bracketed IPv6 address
(with an optional numeric scope) and port.

Reading is strict: IPv4 octets are decimal without leading zeros, IPv6
groups have at most four hex digits and `::` stands for at least one zero
group. Writing gives the canonical text, IPv6 with the longest run of two
or more zero groups shortened to `::`.
-/

namespace Herald.Net

/-- A socket address. -/
inductive SocketAddr where
  | v4 (octets : List Nat) (port : Nat)
  | v6 (groups : List Nat) (port : Nat) (scope : Nat)
  deriving DecidableEq, Repr, Inhabited

/-- The digit value of a character in a base. -/
def digitIn (base : Nat) (c : Char) : Option Nat :=
  let d := if c.isDigit then some (c.toNat - 48)
    else if 'a' ≤ c && c ≤ 'z' then some (c.toNat - 87)
    else if 'A' ≤ c && c ≤ 'Z' then some (c.toNat - 55)
    else none
  d.bind fun v => if v < base then some v else none

/-- The digits of a number at the front, in a base: at most `maxDigits`
when given, the value below `limit`, and no leading zero unless allowed. -/
def readNumber (cs : List Char) (base limit : Nat) (maxDigits : Option Nat) (zeroPrefix : Bool) :
    Option (Nat × List Char) :=
  let digits := cs.takeWhile fun c => (digitIn base c).isSome
  let rest := cs.drop digits.length
  let value := digits.foldl (fun acc c => acc * base + (digitIn base c).getD 0) 0
  let tooMany := match maxDigits with
    | some m => digits.length > m
    | none => false
  if digits.isEmpty || tooMany then none
  else if (digits.zip (List.range digits.length)).any (fun (_, i) =>
      (digits.take (i + 1)).foldl (fun acc c => acc * base + (digitIn base c).getD 0) 0 ≥ limit) then none
  else if !zeroPrefix && digits.head? == some '0' && digits.length > 1 then none
  else some (value, rest)

/-- A dotted IPv4 address at the front. -/
def readIpv4 (cs : List Char) : Option (List Nat × List Char) := do
  let (a, r) ← readNumber cs 10 256 (some 3) false
  let r ← match r with | '.' :: r => some r | _ => none
  let (b, r) ← readNumber r 10 256 (some 3) false
  let r ← match r with | '.' :: r => some r | _ => none
  let (c, r) ← readNumber r 10 256 (some 3) false
  let r ← match r with | '.' :: r => some r | _ => none
  let (d, r) ← readNumber r 10 256 (some 3) false
  pure ([a, b, c, d], r)

/-- Up to `limit` colon-separated groups; the last two may be an embedded
IPv4 address. Gives the groups and whether an IPv4 part ended them. -/
def readGroups (cs : List Char) (limit : Nat) : List Nat × Bool × List Char :=
  go cs 0 limit []
where
  /-- Read group `i` onwards. -/
  go (cs : List Char) (i : Nat) : Nat → List Nat → List Nat × Bool × List Char
    | 0, acc => (acc, false, cs)
    | fuel + 1, acc =>
      let afterSep := if i > 0 then (match cs with | ':' :: r => some r | _ => none) else some cs
      let v4 := if i + 1 < limit then afterSep.bind readIpv4 else none
      match v4 with
      | some (o, r) => (acc ++ [o[0]! * 256 + o[1]!, o[2]! * 256 + o[3]!], true, r)
      | none =>
        match afterSep.bind fun r => readNumber r 16 65536 (some 4) true with
        | some (g, r) => go r (i + 1) fuel (acc ++ [g])
        | none => (acc, false, cs)

def readIpv6 (cs : List Char) : Option (List Nat × List Char) := do
  let (head, headV4, r) := readGroups cs 8
  if head.length == 8 then return (head, r)
  if headV4 then none
  let r ← match r with | ':' :: ':' :: r => some r | _ => none
  let (tail, _, r) := readGroups r (8 - (head.length + 1))
  pure (head ++ List.replicate (8 - head.length - tail.length) 0 ++ tail, r)

/-- Read a socket address; the whole text must be used. -/
def SocketAddr.parse (s : String) : Option SocketAddr :=
  let cs := s.toList
  let v4 : Option SocketAddr := do
    let (ip, r) ← readIpv4 cs
    let r ← match r with | ':' :: r => some r | _ => none
    let (port, r) ← readNumber r 10 65536 none true
    if r.isEmpty then some (.v4 ip port) else none
  let v6 : Option SocketAddr := do
    let r ← match cs with | '[' :: r => some r | _ => none
    let (ip, r) ← readIpv6 r
    let (scope, r) := match r with
      | '%' :: more => match readNumber more 10 4294967296 none true with
        | some (sc, r') => (sc, r')
        | none => (0, r)
      | _ => (0, r)
    let r ← match r with | ']' :: r => some r | _ => none
    let r ← match r with | ':' :: r => some r | _ => none
    let (port, r) ← readNumber r 10 65536 none true
    if r.isEmpty then some (.v6 ip port scope) else none
  v4 <|> v6

def hexText (n : Nat) : String := String.ofList (Nat.toDigits 16 n)

/-- The longest run of zero groups: its start and length (the first of
equal runs). -/
def longestZeroRun (groups : List Nat) : Nat × Nat :=
  let (best, _, _) := groups.foldl (fun (acc : (Nat × Nat) × (Nat × Nat) × Nat) g =>
    let (best, cur, i) := acc
    if g == 0 then
      let cur := if cur.2 == 0 then (i, 1) else (cur.1, cur.2 + 1)
      let best := if cur.2 > best.2 then cur else best
      (best, cur, i + 1)
    else (best, (0, 0), i + 1)) ((0, 0), (0, 0), 0)
  best

def ipv6Text (groups : List Nat) : String :=
  if groups.take 6 == [0, 0, 0, 0, 0, 65535] then
    let a := groups.getD 6 0
    let b := groups.getD 7 0
    s!"::ffff:{a / 256}.{a % 256}.{b / 256}.{b % 256}"
  else
    let (start, len) := longestZeroRun groups
    let join (gs : List Nat) := ":".intercalate (gs.map hexText)
    if len > 1 then join (groups.take start) ++ "::" ++ join (groups.drop (start + len))
    else join groups

def SocketAddr.render : SocketAddr → String
  | .v4 o port => ".".intercalate (o.map toString) ++ s!":{port}"
  | .v6 g port scope =>
    "[" ++ ipv6Text g ++ (if scope == 0 then "" else s!"%{scope}") ++ s!"]:{port}"

def invalidSocketAddr : String := "invalid socket address syntax"

end Herald.Net
