import Herald.Json.Value

set_option autoImplicit false

/-!
Requests to the scenario runner: one JSON object per line, `op` naming the
operation and the other members its arguments.

Long texts are written compactly: any string may be given as
`{"repeat": U, "times": N, "prefix": P, "suffix": S}` (the last two
optional), which stands for `P ++ U * N ++ S`. `expand` replaces every such
object by its text before an operation sees the request.
-/

namespace Herald.Scenario

open Json

def repeatText (s : String) (n : Nat) : String :=
  String.join (List.replicate n s)

/-- The text a repeat object stands for, if `members` is one. -/
def repeatOf (members : List (String × Json)) : Option String :=
  if members.all (fun (k, _) => k == "repeat" || k == "times" || k == "prefix" || k == "suffix")
  then
    match (Json.obj members).strAt? "repeat", (Json.obj members).natAt? "times" with
    | some unit, some n =>
      let text (k : String) : Option String :=
        match (Json.obj members).get? k with
        | none => some ""
        | some (.str s) => some s
        | some _ => none
      match text "prefix", text "suffix" with
      | some p, some s => some (p ++ repeatText unit n ++ s)
      | _, _ => none
    | _, _ => none
  else none

mutual

/-- Replace every repeat object by the text it stands for. -/
def expand : Json → Json
  | .arr items => .arr (expandItems items)
  | .obj members =>
    match repeatOf members with
    | some s => .str s
    | none => .obj (expandMembers members)
  | j => j

def expandItems : List Json → List Json
  | [] => []
  | j :: rest => expand j :: expandItems rest

def expandMembers : List (String × Json) → List (String × Json)
  | [] => []
  | (k, v) :: rest => (k, expand v) :: expandMembers rest

end

/-- A failed operation: its error kind and message. -/
def failure (kind message : String) : Json :=
  .obj [("error", .str kind), ("message", .str message)]

/-- A problem with the request itself, not with the operation. -/
def requestError (message : String) : Json := failure "driver" message

def textArg (req : Json) (key : String) : Except Json String :=
  match req.get? key with
  | some (.str s) => .ok s
  | some _ => .error (requestError s!"field {key} must be a string")
  | none => .error (requestError s!"missing field {key}")

/-- An optional string argument; `null` counts as absent. -/
def optTextArg (req : Json) (key : String) : Except Json (Option String) :=
  match req.get? key with
  | some (.str s) => .ok (some s)
  | some .null | none => .ok none
  | some _ => .error (requestError s!"field {key} must be a string")

def natArg (req : Json) (key : String) : Except Json Nat :=
  match req.natAt? key with
  | some n => .ok n
  | none => .error (requestError s!"field {key} must be a non-negative integer")

def optNatArg (req : Json) (key : String) : Except Json (Option Nat) :=
  match req.get? key with
  | some .null | none => .ok none
  | some _ => match req.natAt? key with
    | some n => .ok (some n)
    | none => .error (requestError s!"field {key} must be a non-negative integer")

def optBoolArg (req : Json) (key : String) : Except Json (Option Bool) :=
  match req.get? key with
  | some .null | none => .ok none
  | some (.bool b) => .ok (some b)
  | some _ => .error (requestError s!"field {key} must be a boolean")

def valueArg (req : Json) (key : String) : Except Json Json :=
  match req.get? key with
  | some v => .ok v
  | none => .error (requestError s!"missing field {key}")

end Herald.Scenario
