set_option autoImplicit false

/-!
A failure together with the failures that caused it.

An operation that fails because another did keeps both: the outer message
says what was being attempted, and the causes below it say why, innermost
last. There are two ways to write such a chain. On one line, every message
is joined by `: `. As a report, the outer message stands alone and the
causes follow under `Caused by:`, indented by four blanks, numbered when
there are several, with each later line of a cause indented to match.
-/

namespace Herald

/-- A failure and its causes, outermost first. -/
structure ErrorChain where
  /-- What was being attempted. -/
  head : String
  /-- Why it failed, each cause explaining the one before. -/
  causes : List String := []
  deriving Inhabited, BEq

namespace ErrorChain

def leaf (message : String) : ErrorChain := { head := message }

/-- Put a new outer message over a chain, its head becoming the first
cause. -/
def within (outer : String) (c : ErrorChain) : ErrorChain :=
  { head := outer, causes := c.head :: c.causes }

def messages (c : ErrorChain) : List String := c.head :: c.causes

/-- The chain on one line: `outer: cause: cause`. -/
def inline (c : ErrorChain) : String := ": ".intercalate c.messages

/-- Indent every line after the first of a cause's text. -/
private def indentLines (first rest : String) (text : String) : String :=
  match text.splitOn "\n" with
  | [] => first
  | line :: more => first ++ line ++ String.join (more.map fun l => "\n" ++ rest ++ l)

private def numberColumn (n : Nat) : String :=
  let s := toString n
  String.ofList (List.replicate (5 - s.length) ' ') ++ s

/-- The chain as a report: the outer message, then each cause on its own
lines under `Caused by:`. A single cause is indented by four blanks; several
are numbered from zero, later lines indented past the number. -/
def report (c : ErrorChain) : String :=
  match c.causes with
  | [] => c.head
  | [only] => c.head ++ "\n\nCaused by:\n" ++ indentLines "    " "    " only
  | many =>
    let numbered := (List.range many.length).zip many |>.map fun (i, text) =>
      indentLines (numberColumn i ++ ": ") "       " text
    c.head ++ "\n\nCaused by:\n" ++ "\n".intercalate numbered

end ErrorChain

end Herald
