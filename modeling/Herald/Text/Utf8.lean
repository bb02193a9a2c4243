set_option autoImplicit false

/-!
UTF-8 validation with the position of the first problem.

A byte sequence is checked left to right. At the first problem, `validUpTo`
is the length of the valid prefix, and `errorLength` is the number of bytes
that make the bad sequence (1 to 3), or none when the input ends in the
middle of a sequence that could still have been valid. The allowed second
bytes follow the UTF-8 definition: after E0 only A0..BF, after ED only
80..9F, after F0 only 90..BF, after F4 only 80..8F; C0, C1 and F5..FF never
start a sequence.
-/

namespace Herald.Text

/-- The first problem in a byte sequence. -/
structure Utf8Problem where
  validUpTo : Nat
  errorLength : Option Nat
  deriving DecidableEq, Repr

def Utf8Problem.message (p : Utf8Problem) : String :=
  match p.errorLength with
  | some n => s!"invalid utf-8 sequence of {n} bytes from index {p.validUpTo}"
  | none => s!"incomplete utf-8 byte sequence from index {p.validUpTo}"

private def isCont (b : UInt8) : Bool := 0x80 ≤ b && b ≤ 0xBF

/-- The length of the valid sequence starting at `i`, or the problem there. -/
def sequenceAt (b : ByteArray) (i : Nat) : Except (Option Nat) Nat :=
  let at_ (k : Nat) : Option UInt8 := if h : i + k < b.size then some b[i + k] else none
  match at_ 0 with
  | none => .ok 0
  | some first =>
    if first < 0x80 then .ok 1
    else
      let width := if 0xC2 ≤ first && first ≤ 0xDF then 2
        else if 0xE0 ≤ first && first ≤ 0xEF then 3
        else if 0xF0 ≤ first && first ≤ 0xF4 then 4 else 0
      let secondOk (s : UInt8) : Bool :=
        if width == 2 then isCont s
        else if first == 0xE0 then 0xA0 ≤ s && s ≤ 0xBF
        else if first == 0xED then 0x80 ≤ s && s ≤ 0x9F
        else if first == 0xF0 then 0x90 ≤ s && s ≤ 0xBF
        else if first == 0xF4 then 0x80 ≤ s && s ≤ 0x8F
        else isCont s
      if width == 0 then .error (some 1)
      else
        match at_ 1 with
        | none => .error none
        | some s =>
          if !secondOk s then .error (some 1)
          else if width == 2 then .ok 2
          else
            match at_ 2 with
            | none => .error none
            | some t =>
              if !isCont t then .error (some 2)
              else if width == 3 then .ok 3
              else
                match at_ 3 with
                | none => .error none
                | some u => if isCont u then .ok 4 else .error (some 3)

/-- The first problem at or after `i`, if any. -/
def firstProblemFrom (b : ByteArray) (i : Nat) : Nat → Option Utf8Problem
  | 0 => none
  | fuel + 1 =>
    if i ≥ b.size then none
    else
      match sequenceAt b i with
      | .ok 0 => none
      | .ok n => firstProblemFrom b (i + n) fuel
      | .error len => some { validUpTo := i, errorLength := len }

/-- The first problem in a byte sequence, if any. -/
def firstProblem (b : ByteArray) : Option Utf8Problem := firstProblemFrom b 0 (b.size + 1)

/-- Decode, replacing each bad sequence (or an unfinished one at the end)
by U+FFFD. -/
def decodeLossy (b : ByteArray) : String :=
  let rec go (i : Nat) (out : String) : Nat → String
    | 0 => out
    | fuel + 1 =>
      if i ≥ b.size then out
      else
        match sequenceAt b i with
        | .ok 0 => out
        | .ok n =>
          match String.fromUTF8? (b.extract i (i + n)) with
          | some s => go (i + n) (out ++ s) fuel
          | none => go (i + n) (out.push '�') fuel
        | .error (some n) => go (i + n) (out.push '�') fuel
        | .error none => out.push '�'
  go 0 "" (b.size + 1)

end Herald.Text
