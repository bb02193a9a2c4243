import Herald.Number.Binary64
import Herald.Cluster.Transport

set_option autoImplicit false

/-!
Backplane settings and failures.

Envelopes go out on `<subject_prefix>.events`. A consumer whose stream
fails resubscribes after a delay that starts at `initialDelay`, is
multiplied by `backoffMultiplier` after every failed attempt and capped at
`maxDelay`; it gives up after `resubscribeAttempts` attempts, and ends at
once when a multiplier below zero makes the delay negative. Delays are
whole nanoseconds: the product is computed in binary64 seconds and rounded
to the nearest nanosecond, ties to even.
-/

namespace Herald

open Cluster

/-- Backplane settings. -/
structure BackplaneConfig where
  subjectPrefix : String := "courier"
  resubscribeAttempts : Nat := 5
  /-- In nanoseconds. -/
  initialDelay : Nat := 100000000
  /-- In nanoseconds. -/
  maxDelay : Nat := 5000000000
  backoffMultiplier : Float := 2.0
  deriving Inhabited

/-- A float of seconds as nanoseconds, rounded to nearest, ties to even
(negative and non-finite values give zero). -/
def nanosOfSeconds (f : Float) : Nat :=
  match Binary64.decode f.toBits with
  | .finite false m e _ =>
    if e ≥ 0 then m * Nat.pow 2 e.toNat * 1000000000
    else
      let num := m * 1000000000
      let den := Nat.pow 2 (-e).toNat
      let q := num / den
      let r := num % den
      if 2 * r > den || (2 * r == den && q % 2 == 1) then q + 1 else q
  | _ => 0

/-- Nanoseconds as binary64 seconds: whole seconds plus the fraction. -/
def secondsOfNanos (n : Nat) : Float :=
  Binary64.ofNat (n / 1000000000) + Binary64.ofNat (n % 1000000000) / 1000000000.0

namespace BackplaneConfig

def subject (c : BackplaneConfig) : String := c.subjectPrefix ++ ".events"

/-- The delay after `delay` (nanoseconds), or `none` when the grown delay
is negative, which is no span of time: the consumer then ends. A grown
delay that is not a number gives way to the cap. -/
def nextDelay? (c : BackplaneConfig) (delay : Nat) : Option Nat :=
  let grown := secondsOfNanos delay * c.backoffMultiplier
  let cap := secondsOfNanos c.maxDelay
  let next := if grown < cap then grown else cap
  if next < 0.0 then none else some (nanosOfSeconds next)

end BackplaneConfig

/-- Backplane failures. -/
inductive BackplaneError where
  | encode (e : ProtocolError)
  | publish (transport : String) (e : TransportError)
  | subscribe (transport : String) (e : TransportError)
  deriving DecidableEq, Repr

def BackplaneError.message : BackplaneError → String
  | .encode e => s!"Envelope encode failed: {e.message}"
  | .publish t e => s!"Publish on {t} failed: {e.message}"
  | .subscribe t e => s!"Subscribe on {t} failed: {e.message}"

end Herald
