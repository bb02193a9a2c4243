set_option autoImplicit false

/-!
The recall cache: the latest payload per key, each with an expiry instant.

An entry is live while its expiry lies strictly after the current instant.
Reading a key that is not live removes its entry; purging removes every
expired entry. Instants are counted in nanoseconds on a monotonic clock
whose seconds must fit a signed 64-bit count, so an expiry that would pass
that bound cannot be stored.
-/

namespace Herald

/-- A span of time as seconds and nanoseconds (below one second). -/
structure Span where
  secs : Nat
  nanos : Nat
  deriving DecidableEq, Repr, Inhabited

namespace Span

/-- Digits of a fraction written after the point: `frac` over `scale`
(a power of ten), without trailing zeros. -/
def fractionDigits (frac scale : Nat) : String :=
  let rec go (frac scale : Nat) (acc : String) : Nat → String
    | 0 => acc
    | fuel + 1 =>
      if frac == 0 || scale ≤ 1 then acc
      else
        let scale := scale / 10
        go (frac % scale) scale (acc.push (Char.ofNat (48 + frac / scale))) fuel
  go frac scale "" 12

/-- A number with an optional fraction and a unit. -/
def withUnit (whole frac scale : Nat) (unitName : String) : String :=
  let digits := fractionDigits frac scale
  (if digits.isEmpty then toString whole else s!"{whole}.{digits}") ++ unitName

/-- The span written in the largest unit that keeps its whole part nonzero:
`1.5s`, `100ms`, `5µs`, `7ns`. -/
def render (d : Span) : String :=
  if d.secs > 0 then withUnit d.secs d.nanos 1000000000 "s"
  else if d.nanos ≥ 1000000 then withUnit (d.nanos / 1000000) (d.nanos % 1000000) 1000000 "ms"
  else if d.nanos ≥ 1000 then withUnit (d.nanos / 1000) (d.nanos % 1000) 1000 "µs"
  else s!"{d.nanos}ns"

def toNanos (d : Span) : Nat := d.secs * 1000000000 + d.nanos

end Span

/-- The largest second count an instant may hold. -/
def instantSecondsLimit : Nat := 9223372036854775807

/-- `now + d`, unless the seconds pass the limit. -/
def addSpan (now : Nat) (d : Span) : Option Nat :=
  let nanos := now % 1000000000 + d.nanos
  let secs := now / 1000000000 + d.secs + nanos / 1000000000
  if secs > instantSecondsLimit then none else some (now + d.toNanos)

/-- The recall cache. -/
structure RecallCache where
  /-- Keys with their payload and expiry instant (nanoseconds). -/
  entries : List (String × ByteArray × Nat) := []
  deriving Inhabited

namespace RecallCache

/-- Store a payload for `ttl` from `now`, replacing any previous one. -/
def set (c : RecallCache) (now : Nat) (key : String) (value : ByteArray) (ttl : Span) :
    Except String RecallCache :=
  match addSpan now ttl with
  | none => .error s!"Cache unavailable: ttl out of range: {ttl.render}"
  | some expires =>
    let rest := c.entries.filter (·.1 != key)
    .ok { entries := rest ++ [(key, value, expires)] }

/-- The live payload of a key; a key that is not live loses its entry. -/
def get (c : RecallCache) (now : Nat) (key : String) : Option ByteArray × RecallCache :=
  match c.entries.find? (·.1 == key) with
  | some (_, value, expires) =>
    if expires > now then (some value, c)
    else (none, { entries := c.entries.filter (·.1 != key) })
  | none => (none, c)

/-- Remove expired entries; returns how many went. -/
def purge (c : RecallCache) (now : Nat) : Nat × RecallCache :=
  let live := c.entries.filter fun (_, _, expires) => expires > now
  (c.entries.length - live.length, { entries := live })

/-- The number of entries, expired or not. -/
def size (c : RecallCache) : Nat := c.entries.length

end RecallCache

end Herald
