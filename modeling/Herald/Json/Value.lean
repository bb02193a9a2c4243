set_option autoImplicit false

/-!
JSON values as this library reads and writes them.

A number keeps the form it was read in: a non-negative integer, a negative
integer, or a binary64 float. The reader and the typed decoders need that
distinction, because the error texts name it (`integer` against `floating
point`), and the writer prints a float with a decimal point even when it is
whole. Objects keep their members in the order they were written.
-/

namespace Herald

/-- A JSON number in the form it was read or built in. -/
inductive Number where
  /-- A non-negative integer. -/
  | nat (n : Nat)
  /-- A negative integer. -/
  | neg (i : Int)
  /-- A binary64 float. -/
  | float (f : Float)
  deriving Inhabited

/-- A JSON value; object members stay in insertion order. -/
inductive Json where
  | null
  | bool (b : Bool)
  | num (n : Number)
  | str (s : String)
  | arr (items : List Json)
  | obj (members : List (String × Json))
  deriving Inhabited

namespace Json

/-- An integer value, written without a decimal point. -/
def int (i : Int) : Json :=
  if i < 0 then .num (.neg i) else .num (.nat i.toNat)

def nat (n : Nat) : Json := .num (.nat n)

def float (f : Float) : Json := .num (.float f)

/-- The member named `key`, the first one if several share it. -/
def get? (j : Json) (key : String) : Option Json :=
  match j with
  | .obj members => members.lookup key
  | _ => none

/-- Whether the object has a member named `key`. -/
def has (j : Json) (key : String) : Bool := (j.get? key).isSome

/-- The string held by a string value. -/
def str? : Json → Option String
  | .str s => some s
  | _ => none

/-- The boolean held by a boolean value. -/
def bool? : Json → Option Bool
  | .bool b => some b
  | _ => none

/-- The integer held by an integer value. -/
def int? : Json → Option Int
  | .num (.nat n) => some n
  | .num (.neg i) => some i
  | _ => none

/-- The natural number held by a non-negative integer value. -/
def nat? : Json → Option Nat
  | .num (.nat n) => some n
  | _ => none

def arr? : Json → Option (List Json)
  | .arr items => some items
  | _ => none

def obj? : Json → Option (List (String × Json))
  | .obj members => some members
  | _ => none

def strAt? (j : Json) (key : String) : Option String := (j.get? key).bind str?

def natAt? (j : Json) (key : String) : Option Nat := (j.get? key).bind nat?

def isNull : Json → Bool
  | .null => true
  | _ => false

/-- A value from an optional one, `null` standing for absence. -/
def ofOption {α : Type} (f : α → Json) : Option α → Json
  | some a => f a
  | none => .null

/-- Replace or append the member `key`. -/
def set (j : Json) (key : String) (v : Json) : Json :=
  match j with
  | .obj members =>
    if members.any (·.1 == key) then
      .obj (members.map fun (k, old) => if k == key then (k, v) else (k, old))
    else .obj (members ++ [(key, v)])
  | other => other

end Json

end Herald
