set_option autoImplicit false

/-!
Binary64 floats as exact arithmetic sees them.

`roundRatio` gives the float nearest to a positive rational (ties to the even
mantissa), which is how a decimal literal becomes a float. `shortest` goes the
other way: the decimal with the fewest significant digits that still reads
back as the same float, the nearer of two candidates when both do. Both work
on `Nat` only; the float's bits are decoded into `mantissa * 2 ^ exponent`.
-/

namespace Herald.Binary64

/-- The field layout of a binary64 value. -/
inductive Kind where
  | nan
  | infinite (negative : Bool)
  /-- The value `(-1)^negative * mantissa * 2 ^ exponent`. -/
  | finite (negative : Bool) (mantissa : Nat) (exponent : Int) (lowerCloser : Bool)

/-- Split the bits of a float into sign, mantissa and exponent. `lowerCloser`
holds when the float below is nearer than the float above, at a power of two. -/
def decode (bits : UInt64) : Kind :=
  let negative := bits >>> 63 == 1
  let biased := ((bits >>> 52) &&& 0x7FF).toNat
  let fraction := (bits &&& 0xFFFFFFFFFFFFF).toNat
  if biased == 0x7FF then
    if fraction == 0 then .infinite negative else .nan
  else if biased == 0 then .finite negative fraction (-1074) false
  else .finite negative (fraction + Nat.pow 2 52) ((biased : Int) - 1075) (fraction == 0 && biased > 1)

/-- `a / b` as a pair of naturals scaled so that `2 ^ e` is folded in. -/
private def scaleByTwo (num den : Nat) (e : Int) : Nat × Nat :=
  if e ≥ 0 then (num, den * Nat.pow 2 e.toNat) else (num * Nat.pow 2 (-e).toNat, den)

/-- The bits of the binary64 value nearest to `num / den`, which must be
positive; ties go to the even mantissa, and overflow gives infinity. -/
def roundRatio (num den : Nat) : UInt64 :=
  if num == 0 || den == 0 then 0 else
  let e0 : Int := (num.log2 : Int) - (den.log2 : Int) - 52
  let e1 :=
    let (a, b) := scaleByTwo num den e0
    if a / b < Nat.pow 2 52 then e0 - 1 else e0
  let e := if e1 < -1074 then -1074 else e1
  let (a, b) := scaleByTwo num den e
  let m := a / b
  let r := a % b
  let m := if 2 * r > b || (2 * r == b && m % 2 == 1) then m + 1 else m
  let (m, e) := if m == Nat.pow 2 53 then (Nat.pow 2 52, e + 1) else (m, e)
  if m < Nat.pow 2 52 then m.toUInt64
  else
    let biased := e + 1075
    if biased ≥ 2047 then 0x7FF0000000000000
    else (biased.toNat.toUInt64 <<< 52) ||| (m - Nat.pow 2 52).toUInt64

/-- Compare `c * 10 ^ e` with `u * 2 ^ f`, all exact. -/
private def compareScaled (c : Nat) (e : Int) (u : Nat) (f : Int) : Ordering :=
  let lhs := c * Nat.pow 10 (max e 0).toNat * Nat.pow 2 (max (-f) 0).toNat
  let rhs := u * Nat.pow 10 (max (-e) 0).toNat * Nat.pow 2 (max f 0).toNat
  compare lhs rhs

/-- The largest `k` with `10 ^ k ≤ m * 2 ^ q`, for `m > 0`. -/
private def decimalMagnitude (m : Nat) (q : Int) : Int :=
  -- log10 2 is about 0.30103; start low and step up
  let guess : Int := ((((m.log2 : Int) + q) * 30103) / 100000) - 2
  let rec climb (k : Int) : Nat → Int
    | 0 => k
    | fuel + 1 =>
      if compareScaled 1 (k + 1) m q != .gt then climb (k + 1) fuel else k
  climb guess 8

/-- Shortest decimal `digits * 10 ^ exponent` that reads back as the positive
finite float `m * 2 ^ q`; `digits` has no trailing zero. -/
def shortestOf (m : Nat) (q : Int) (lowerCloser : Bool) : Nat × Int :=
  -- bounds of the rounding interval, in units of 2 ^ (q - 2)
  let unit := q - 2
  let high := 4 * m + 2
  let low := if lowerCloser then 4 * m - 1 else 4 * m - 2
  let inclusive := m % 2 == 0
  let inside (c : Nat) (e : Int) : Bool :=
    let aboveLow := match compareScaled c e low unit with
      | .gt => true
      | .eq => inclusive
      | .lt => false
    let belowHigh := match compareScaled c e high unit with
      | .lt => true
      | .eq => inclusive
      | .gt => false
    aboveLow && belowHigh
  let magnitude := decimalMagnitude m q
  let distance (c : Nat) (e : Int) : Nat × Nat :=
    -- |c * 10^e - m * 2^q| as a fraction over a common denominator
    let (a, b) := (c * Nat.pow 10 (max e 0).toNat * Nat.pow 2 (max (-q) 0).toNat,
                   m * Nat.pow 10 (max (-e) 0).toNat * Nat.pow 2 (max q 0).toNat)
    (if a ≥ b then a - b else b - a, 0)
  let rec search (k : Nat) : Nat → Nat × Int
    | 0 => (m, q)
    | fuel + 1 =>
      let e : Int := magnitude - k + 1
      let (num, den) :=
        (m * Nat.pow 2 (max q 0).toNat * Nat.pow 10 (max (-e) 0).toNat,
         Nat.pow 2 (max (-q) 0).toNat * Nat.pow 10 (max e 0).toNat)
      let down := num / den
      let up := if num % den == 0 then down else down + 1
      let downIn := down > 0 && inside down e
      let upIn := inside up e
      if downIn && upIn && down != up then
        let dd := (distance down e).1
        let du := (distance up e).1
        if dd < du then (down, e) else if du < dd then (up, e)
        else if down % 2 == 0 then (down, e) else (up, e)
      else if downIn then (down, e)
      else if upIn then (up, e)
      else search (k + 1) fuel
  let (c, e) := search 1 17
  let rec strip (c : Nat) (e : Int) : Nat → Nat × Int
    | 0 => (c, e)
    | fuel + 1 => if c > 0 && c % 10 == 0 then strip (c / 10) (e + 1) fuel else (c, e)
  strip c e 20

/-- How a float is written: the sign, the significant digits and the
position of the decimal point counted from the left of the digits. -/
structure Digits where
  negative : Bool
  digits : String
  point : Int

/-- The shortest digits of a finite float; zero is the single digit `0`. -/
def digitsOf (negative : Bool) (m : Nat) (q : Int) (lowerCloser : Bool) : Digits :=
  if m == 0 then ⟨negative, "0", 1⟩
  else
    let (c, e) := shortestOf m q lowerCloser
    let s := toString c
    ⟨negative, s, s.length + e⟩

private def zeros (n : Nat) : String := String.ofList (List.replicate n '0')

/-- Scientific or positional text in the style of shortest-float printers:
positional between `1e-5` and `1e16`, a `.0` on whole numbers, and
`e+N`/`e-N` exponents outside. -/
def Digits.render (d : Digits) : String :=
  let sign := if d.negative then "-" else ""
  let n := d.digits.length
  let body :=
    if d.point ≥ n && d.point ≤ 16 then d.digits ++ zeros (d.point.toNat - n) ++ ".0"
    else if 0 < d.point && d.point ≤ 16 then
      String.ofList (d.digits.toList.take d.point.toNat) ++ "." ++
        String.ofList (d.digits.toList.drop d.point.toNat)
    else if -5 < d.point && d.point ≤ 0 then "0." ++ zeros (-d.point).toNat ++ d.digits
    else
      let exp := d.point - 1
      let expText := if exp < 0 then "e-" ++ toString (-exp) else "e+" ++ toString exp
      match d.digits.toList with
      | [c] => String.singleton c ++ expText
      | c :: rest => String.singleton c ++ "." ++ String.ofList rest ++ expText
      | [] => "0" ++ expText
  sign ++ body

/-- Always positional text, with `.0` added when no point is written. -/
def Digits.renderPositional (d : Digits) : String :=
  let sign := if d.negative then "-" else ""
  let n := d.digits.length
  let body :=
    if d.point ≥ n then d.digits ++ zeros (d.point.toNat - n) ++ ".0"
    else if 0 < d.point then
      String.ofList (d.digits.toList.take d.point.toNat) ++ "." ++
        String.ofList (d.digits.toList.drop d.point.toNat)
    else "0." ++ zeros (-d.point).toNat ++ d.digits
  sign ++ body

/-- A float written the way JSON writers print it (`2.0`, `1e+20`). -/
def render (f : Float) : String :=
  match decode f.toBits with
  | .nan => "NaN"
  | .infinite neg => if neg then "-inf" else "inf"
  | .finite neg m q lc => (digitsOf neg m q lc).render

/-- A float written positionally, always with a decimal point (`100.0`). -/
def renderPositional (f : Float) : String :=
  match decode f.toBits with
  | .nan => "NaN"
  | .infinite neg => if neg then "-inf" else "inf"
  | .finite neg m q lc => (digitsOf neg m q lc).renderPositional

/-- The power of ten `10 ^ k` rounded to the nearest float. -/
def pow10 (k : Nat) : Float := Float.ofBits (roundRatio (Nat.pow 10 k) 1)

/-- A natural number rounded to the nearest float. -/
def ofNat (n : Nat) : Float := Float.ofBits (roundRatio n 1)

/-- The float nearest to `±digits * 10 ^ exponent`; exponents far outside
the float range go straight to zero or infinity. -/
def ofDecimal (negative : Bool) (digits : Nat) (exponent : Int) : Float :=
  let magnitude :=
    if digits == 0 then 0.0
    else
      let size : Int := (toString digits).length
      if exponent + size > 310 then Float.ofBits 0x7FF0000000000000
      else if exponent + size < -330 then 0.0
      else if exponent ≥ 0 then Float.ofBits (roundRatio (digits * Nat.pow 10 exponent.toNat) 1)
      else Float.ofBits (roundRatio digits (Nat.pow 10 (-exponent).toNat))
  if negative then -magnitude else magnitude

private def digitRun (cs : List Char) : List Char × List Char :=
  (cs.takeWhile Char.isDigit, cs.dropWhile Char.isDigit)

private def digitsValue (cs : List Char) : Nat :=
  cs.foldl (fun n c => n * 10 + (c.toNat - 48)) 0

/-- Read a float written as an optional sign and then `inf`, `infinity`,
`nan` (in any case) or decimal digits with an optional point and an
optional exponent; at least one digit must stand before or after the
point. Anything else, including surrounding blanks, is refused. -/
def read? (s : String) : Option Float :=
  let (negative, body) := match s.toList with
    | '-' :: rest => (true, rest)
    | '+' :: rest => (false, rest)
    | rest => (false, rest)
  let word := String.ofList (body.map Char.toLower)
  if word == "inf" || word == "infinity" then
    some (if negative then Float.ofBits 0xFFF0000000000000 else Float.ofBits 0x7FF0000000000000)
  else if word == "nan" then some (Float.ofBits 0x7FF8000000000000)
  else
    let (whole, rest) := digitRun body
    let (frac, rest) := match rest with
      | '.' :: more => digitRun more
      | _ => ([], rest)
    if whole.isEmpty && frac.isEmpty then none
    else
      let exp? : Option Int := match rest with
        | [] => some 0
        | e :: more =>
          if e != 'e' && e != 'E' then none
          else
            let (neg, ds) := match more with
              | '-' :: ds => (true, ds)
              | '+' :: ds => (false, ds)
              | ds => (false, ds)
            if ds.isEmpty || !ds.all Char.isDigit then none
            else
              let v : Int := digitsValue ds
              some (if neg then -v else v)
      exp?.map fun e => ofDecimal negative (digitsValue (whole ++ frac)) (e - frac.length)

/-- Plain positional text with no point added to whole numbers (`1`, `0.5`,
`-0`, `100000000000000000000`), `NaN`, `inf` or `-inf`. -/
def renderPlain (f : Float) : String :=
  let text := renderPositional f
  if text.endsWith ".0" then (text.dropEnd 2).toString else text

/-- Round half away from zero and convert to a 64-bit unsigned integer,
saturating: negatives and NaN give zero, values past the top give the
largest. -/
def roundToWord (f : Float) : Nat :=
  let top := Nat.pow 2 64 - 1
  match decode f.toBits with
  | .nan => 0
  | .infinite neg => if neg then 0 else top
  | .finite neg m q _ =>
    if neg then 0
    else if q ≥ 0 then min top (m * Nat.pow 2 q.toNat)
    else
      let d := Nat.pow 2 (-q).toNat
      let n := m / d
      min top (if 2 * (m % d) ≥ d then n + 1 else n)

end Herald.Binary64
