import Herald.Text.Unicode

set_option autoImplicit false

/-!
How a TOML reading failure is described.

A failure carries what the reader was trying to read when it gave up: the
names of the constructs it was inside ("invalid table header"), the tokens
that would have let it go on ("expected newline, `#`"), and possibly a
cause that is not about syntax ("duplicate key `port` in document root").
A failure is either recoverable, when an alternative may still be tried,
or final.

The report of a failure quotes the line it happened on and underlines the
offending text; a failure that points nowhere is reported by its text
alone.
-/

namespace Herald.Toml

/-- Something the reader would have accepted. -/
inductive Expectation where
  | char (c : Char)
  | text (s : String)
  | description (s : String)
  deriving DecidableEq, Repr

/-- How an expectation is written in a report. -/
def Expectation.render : Expectation → String
  | .char '\n' => "newline"
  | .char '`' => "'`'"
  | .char c => "`" ++ String.singleton c ++ "`"
  | .text s => "`" ++ s ++ "`"
  | .description s => s

/-- One piece of what the reader was doing. -/
inductive Context where
  | label (s : String)
  | expected (e : Expectation)
  deriving DecidableEq, Repr

/-- A reading failure. -/
structure Failure where
  /-- A final failure stops every alternative. -/
  final : Bool := false
  /-- Contexts in the order they were added, innermost first. -/
  context : List Context := []
  cause : Option String := none
  deriving Repr, Inhabited

/-- The text of a failure: the first construct's name, every expectation,
and the cause, one per line. -/
def Failure.render (f : Failure) : String :=
  let label := f.context.findSome? fun c => match c with
    | .label s => some s
    | _ => none
  let expected := f.context.filterMap fun c => match c with
    | .expected e => some e.render
    | _ => none
  let lines := (label.map ("invalid " ++ ·)).toList ++
    (if expected.isEmpty then [] else ["expected " ++ ", ".intercalate expected]) ++ f.cause.toList
  "\n".intercalate lines

/-- A stretch of the document, as byte offsets. -/
structure Span where
  start : Nat
  stop : Nat
  deriving DecidableEq, Repr, Inhabited

/-- The line and column (both from zero, the column in characters) of a byte
offset; an offset at the very end counts one column past the last byte. -/
def locate (input : ByteArray) (index : Nat) : Nat × Nat :=
  if input.size == 0 then (0, index) else
  let safe := min index (input.size - 1)
  let beyond := index - safe
  let before := (input.extract 0 safe).toList
  let lineStart := match (List.range safe).reverse.find? (fun i => input.get! i == 10) with
    | some nl => nl + 1
    | none => 0
  let line := before.count 10
  let column :=
    match String.fromUTF8? (input.extract lineStart (safe + 1)) with
    | some s => s.length - 1
    | none => safe - lineStart
  (line, column + beyond)

/-- A report of a problem in a document: the position, the quoted line with
the span underlined, and the message. Without a span only the message is
given, followed by the keys leading to the problem. -/
def report (input : String) (span : Option Span) (message : String) (keys : List String) : String :=
  match span with
  | some sp =>
    let bytes := input.toUTF8
    let (line, column) := locate bytes sp.start
    let lineNum := line + 1
    let gutter := (toString lineNum).length
    let content := (input.splitOn "\n").getD line ""
    let highlight := min (sp.stop - sp.start) (content.utf8ByteSize - column)
    let pad (n : Nat) := String.ofList (List.replicate n ' ')
    s!"TOML parse error at line {lineNum}, column {column + 1}\n" ++
      pad (gutter + 1) ++ "|\n" ++
      s!"{lineNum} | {content}\n" ++
      pad (gutter + 1) ++ "|" ++ pad (column + 1) ++ "^" ++
      String.ofList (List.replicate (highlight - 1) '^') ++ "\n" ++
      message ++ "\n"
  | none =>
    message ++ "\n" ++ (if keys.isEmpty then "" else "in `" ++ ".".intercalate keys ++ "`\n")

end Herald.Toml
