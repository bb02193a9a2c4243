import Herald.Json.Value
import Herald.Ident.Uuid
import Herald.Time.Timestamp
import Herald.Text.Unicode

set_option autoImplicit false

/-!
Stable labels for the values a run makes up.

A run draws fresh identifiers and reads the clock, so its answer is only
comparable after those values are replaced by labels that depend on where
they appear. The answer is walked with arrays in order and objects by
sorted key:

1. every hyphenated identifier that the request did not mention becomes
   `uuid#k`, numbered by first appearance;
2. in the texts step 1 left alone, every `conn_` followed by 32 hex digits
   becomes `conn#k`;
3. a text that is a whole timestamp inside the run's own time window
   becomes `now#k`, ranked by instant, oldest first.
-/

namespace Herald.Scenario

open Json

/-- Whether a character is a hex digit of either case. -/
def hexChar (c : Char) : Bool := Text.isHexDigit c

/-- Exactly `n` hex digits at the front, and what follows. -/
def hexRun (cs : List Char) (n : Nat) : Option (List Char × List Char) :=
  let front := cs.take n
  if front.length == n && front.all hexChar then some (front, cs.drop n) else none

/-- Drop a hyphen at the front, if `required`; else an optional one. -/
def hyphenFront (cs : List Char) (required : Bool) : Option (List Char) :=
  match cs with
  | '-' :: rest => some rest
  | _ => if required then none else some cs

/-- An identifier at the front, its groups joined by hyphens or (when
`strict` is false) also run together; gives the lowercase hyphenated form. -/
def uuidFront (cs : List Char) (strict : Bool) : Option (String × List Char) := do
  let (a, r) ← hexRun cs 8
  let r ← hyphenFront r strict
  let (b, r) ← hexRun r 4
  let r ← hyphenFront r strict
  let (c, r) ← hexRun r 4
  let r ← hyphenFront r strict
  let (d, r) ← hexRun r 4
  let r ← hyphenFront r strict
  let (e, r) ← hexRun r 12
  let text := String.ofList (a ++ '-' :: b ++ '-' :: c ++ '-' :: d ++ '-' :: e)
  return (Text.asciiLower text, r)

/-- The identifiers written in a text, in any form, lowercase hyphenated. -/
def uuidsIn (cs : List Char) : Nat → List String
  | 0 => []
  | fuel + 1 =>
    match cs with
    | [] => []
    | _ :: rest =>
      match uuidFront cs false with
      | some (u, after) => u :: uuidsIn after fuel
      | none => uuidsIn rest fuel

mutual

/-- The identifiers written in the texts of a request. -/
def requestUuids : Json → List String
  | .str s => uuidsIn s.toList (s.length + 1)
  | .arr items => itemUuids items
  | .obj members => memberUuids members
  | _ => []

def itemUuids : List Json → List String
  | [] => []
  | j :: rest => requestUuids j ++ itemUuids rest

def memberUuids : List (String × Json) → List String
  | [] => []
  | (_, v) :: rest => requestUuids v ++ memberUuids rest

end

mutual

/-- A value with every object's members sorted by key. -/
def sortKeys : Json → Json
  | .arr items => .arr (sortItems items)
  | .obj members => .obj ((sortMembers members).mergeSort fun a b => decide (a.1 ≤ b.1))
  | j => j

def sortItems : List Json → List Json
  | [] => []
  | j :: rest => sortKeys j :: sortItems rest

def sortMembers : List (String × Json) → List (String × Json)
  | [] => []
  | (k, v) :: rest => (k, sortKeys v) :: sortMembers rest

end

/-- The labels given so far, by kind. -/
structure Labels where
  uuids : List String := []
  conns : List String := []

/-- The label number of a value in a list of labelled values, adding it. -/
def labelOf (known : List String) (v : String) : List String × Nat :=
  match known.idxOf? v with
  | some i => (known, i + 1)
  | none => (known ++ [v], known.length + 1)

/-- Replace the identifiers of a text that `keep` does not protect. -/
def labelUuids (keep : List String) (cs : List Char) : Nat → StateM Labels (List Char)
  | 0 => pure cs
  | fuel + 1 =>
    match cs with
    | [] => pure []
    | c :: rest =>
      match uuidFront cs true with
      | some (u, after) =>
        if keep.contains u then
          return (cs.take (cs.length - after.length)) ++ (← labelUuids keep after fuel)
        else do
          let (known, k) := labelOf (← get).uuids u
          modify fun l => { l with uuids := known }
          return s!"uuid#{k}".toList ++ (← labelUuids keep after fuel)
      | none => return c :: (← labelUuids keep rest fuel)

/-- Replace every `conn_` and 32 hex digits of a text. -/
def labelConns (cs : List Char) : Nat → StateM Labels (List Char)
  | 0 => pure cs
  | fuel + 1 =>
    match cs with
    | 'c' :: 'o' :: 'n' :: 'n' :: '_' :: rest =>
      match hexRun rest 32 with
      | some (digits, after) => do
        let (known, k) := labelOf (← get).conns (String.ofList digits)
        modify fun l => { l with conns := known }
        return s!"conn#{k}".toList ++ (← labelConns after fuel)
      | none => return 'c' :: (← labelConns ('o' :: 'n' :: 'n' :: '_' :: rest) fuel)
    | [] => pure []
    | c :: rest => return c :: (← labelConns rest fuel)

def labelText (keep : List String) (s : String) : StateM Labels String := do
  let cs := s.toList
  let withUuids ← labelUuids keep cs (cs.length + 1)
  if withUuids != cs then return String.ofList withUuids
  return String.ofList (← labelConns cs (cs.length + 1))

mutual

/-- Label the identifiers of every text of a value, in walk order. -/
def labelIds (keep : List String) : Json → StateM Labels Json
  | .str s => Json.str <$> labelText keep s
  | .arr items => Json.arr <$> labelItems keep items
  | .obj members => Json.obj <$> labelMembers keep members
  | j => pure j

def labelItems (keep : List String) : List Json → StateM Labels (List Json)
  | [] => pure []
  | j :: rest => do
    let j ← labelIds keep j
    return j :: (← labelItems keep rest)

def labelMembers (keep : List String) : List (String × Json) → StateM Labels (List (String × Json))
  | [] => pure []
  | (k, v) :: rest => do
    let v ← labelIds keep v
    return (k, v) :: (← labelMembers keep rest)

end

/-- The instant a text names, if it is a timestamp inside a window. -/
def instantIn (first last : Timestamp) (s : String) : Option Timestamp :=
  match Timestamp.parseText s with
  | .ok t => if t.lt first || last.lt t then none else some t
  | .error _ => none

mutual

/-- The run-time instants named by the texts of a value. -/
def instantsOf (first last : Timestamp) : Json → List Timestamp
  | .str s => (instantIn first last s).toList
  | .arr items => itemInstants first last items
  | .obj members => memberInstants first last members
  | _ => []

def itemInstants (first last : Timestamp) : List Json → List Timestamp
  | [] => []
  | j :: rest => instantsOf first last j ++ itemInstants first last rest

def memberInstants (first last : Timestamp) : List (String × Json) → List Timestamp
  | [] => []
  | (_, v) :: rest => instantsOf first last v ++ memberInstants first last rest

end

mutual

/-- Replace every run-time timestamp text by its rank among `ranked`. -/
def labelInstants (first last : Timestamp) (ranked : List Timestamp) : Json → Json
  | .str s =>
    match instantIn first last s with
    | some t => .str s!"now#{(ranked.idxOf t) + 1}"
    | none => .str s
  | .arr items => .arr (labelInstantItems first last ranked items)
  | .obj members => .obj (labelInstantMembers first last ranked members)
  | j => j

def labelInstantItems (first last : Timestamp) (ranked : List Timestamp) : List Json → List Json
  | [] => []
  | j :: rest => labelInstants first last ranked j :: labelInstantItems first last ranked rest

def labelInstantMembers (first last : Timestamp) (ranked : List Timestamp) :
    List (String × Json) → List (String × Json)
  | [] => []
  | (k, v) :: rest => (k, labelInstants first last ranked v) :: labelInstantMembers first last ranked rest

end

/-- Label an answer: identifiers the request did not mention, connection
ids, and timestamps between `first` and `last`. -/
def labelAnswer (request answer : Json) (first last : Timestamp) : Json :=
  let keep := requestUuids request
  let (labelled, _) := (labelIds keep (sortKeys answer)).run {}
  let instants := (instantsOf first last labelled).foldl
    (fun acc t => if acc.contains t then acc else acc ++ [t]) []
  let ranked := instants.mergeSort fun a b => !b.lt a
  labelInstants first last ranked labelled

end Herald.Scenario
