import Herald.Toml.Tree
import Herald.Number.Binary64
import Herald.Text.Unicode
import Herald.Text.CaseMap

set_option autoImplicit false

/-!
Settings gathered from several sources, later sources laid over earlier ones.

Each source gives a table of values, and each value remembers the source it
came from, so that a complaint about it can name that source. A source's
keys are read as paths (`backplane.transports`, `peers[0]`): a value is set
at the end of its path, creating tables (or list slots) on the way and
replacing whatever stood there that was not one. A table value is merged key
by key into the table already there rather than replacing it.

Two sources feed a configuration: a TOML document, whose dates become text;
and the environment, where `SCOPE__SECTION__KEY=text` sets `section.key`.
Environment text is read as a boolean, an integer or a float when it is one,
as a comma-separated list for the keys declared to be lists, and as text
otherwise.
-/

namespace Herald.Settings

open Text

/-- A setting value and the source it came from (none for tables and slots
made along a path). -/
inductive Setting where
  | nil (origin : Option String)
  | bool (origin : Option String) (b : Bool)
  | int (origin : Option String) (i : Int)
  | float (origin : Option String) (f : Float)
  | str (origin : Option String) (s : String)
  | list (origin : Option String) (items : List Setting)
  | table (origin : Option String) (entries : List (String × Setting))
  deriving Inhabited

/-- Where a path leads inside nested tables and lists. -/
inductive SettingPath where
  /-- An entry of the outermost table. -/
  | key (name : String)
  /-- An entry of the table a path leads to. -/
  | child (parent : SettingPath) (name : String)
  /-- A slot of the list a path leads to, counted from the end when
  negative. -/
  | index (parent : SettingPath) (i : Int)
  deriving Inhabited

namespace Setting

def origin : Setting → Option String
  | .nil o | .bool o _ | .int o _ | .float o _ | .str o _ | .list o _ | .table o _ => o

/-- A table with no entries and no source. -/
def emptyTable : Setting := .table none []

def entry? (s : Setting) (name : String) : Option Setting :=
  match s with
  | .table _ entries => entries.lookup name
  | _ => none

end Setting

/-- Set an entry of a table's entries, in place when the name is present and
at the end otherwise. -/
def upsertEntry (entries : List (String × Setting)) (name : String) (v : Setting) :
    List (String × Setting) :=
  if entries.any (·.1 == name) then entries.map fun (k, w) => if k == name then (k, v) else (k, w)
  else entries ++ [(name, v)]

namespace Setting

/-- Set an entry of `root`, which becomes an empty table first if it is not
a table. -/
def withEntry (root : Setting) (name : String) (v : Setting) : Setting :=
  match root with
  | .table o entries => .table o (upsertEntry entries name v)
  | _ => .table none [(name, v)]

mutual

/-- Set entry `name` of `root` to a value. A table value is merged into the
entry entry by entry, starting from an empty table when there is none. -/
def setKey (root : Setting) (name : String) : Setting → Setting
  | .table _ incoming =>
    root.withEntry name (mergeEntries ((root.entry? name).getD emptyTable) incoming)
  | value => root.withEntry name value

/-- Merge entries into a setting one by one. -/
def mergeEntries (target : Setting) : List (String × Setting) → Setting
  | [] => target
  | (k, v) :: rest => mergeEntries (setKey target k v) rest

end

/-- The list slot a signed index names: from the start when non-negative,
from the end when negative, and none when it reaches before the start. -/
def slotIndex (i : Int) (length : Nat) : Option Nat :=
  if 0 ≤ i then some i.toNat
  else if i.natAbs ≤ length then some (length - i.natAbs) else none

/-- Change the setting a path leads to, creating it on the way: a missing
entry starts as `nil`, a step through something that is not a table (or a
list, for an index) first replaces it with an empty one, and a list is
padded with `nil` up to the slot. Nothing changes when the outermost value is
not a table. -/
def modifyAt (root : Setting) (path : SettingPath) (f : Setting → Setting) : Setting :=
  match path with
  | .key name =>
    match root with
    | .table o entries => .table o (upsertEntry entries name (f ((entries.lookup name).getD (.nil none))))
    | other => other
  | .child parent name =>
    root.modifyAt parent fun v =>
      match v with
      | .table o entries => .table o (upsertEntry entries name (f ((entries.lookup name).getD (.nil none))))
      | _ => .table none [(name, f (.nil none))]
  | .index parent i =>
    root.modifyAt parent fun v =>
      let (o, items) := match v with
        | .list o items => (o, items)
        | _ => (none, [])
      match slotIndex i items.length with
      | some n =>
        let padded := items ++ List.replicate (n + 1 - items.length) (.nil none)
        .list o (padded.set n (f (padded.getD n (.nil none))))
      | none => .list o items

/-- Set the value at the end of a path. -/
def place (root : Setting) (path : SettingPath) (value : Setting) : Setting :=
  match path with
  | .key name => root.setKey name value
  | .child parent name => root.modifyAt parent fun v => v.setKey name value
  | .index .. => root.modifyAt path fun _ => value

end Setting

/-! ### Paths -/

/-- A character of a path's names: an ASCII letter or digit, a blank, `_`
or `-`. -/
def isPathNameChar (c : Char) : Bool := c.isAlphanum || c == ' ' || c == '_' || c == '-'

/-- The value of a run of decimal digits. -/
def digitsValue (cs : List Char) : Nat := cs.foldl (fun n c => n * 10 + (c.toNat - 48)) 0

/-- A list index inside brackets: blanks, an optional minus, digits, blanks,
then `]`; the characters after the bracket with it. -/
def bracketIndex (cs : List Char) : Option (Int × List Char) :=
  let blank (c : Char) : Bool := c == ' ' || c == '\t'
  let cs := cs.dropWhile blank
  let (negative, cs) := match cs with
    | '-' :: rest => (true, rest)
    | rest => (false, rest)
  let digits := cs.takeWhile Char.isDigit
  let n : Int := digitsValue digits
  let value := if negative then -n else n
  if digits.isEmpty || value < -(Int.pow 2 63) || value ≥ Int.pow 2 63 then none
  else
    match (cs.dropWhile Char.isDigit).dropWhile blank with
    | ']' :: rest => some (value, rest)
    | _ => none

/-- The steps after a path's first name, each `.name` or `[index]`, until
the text ends; `fuel` bounds the steps, each of which reads at least one
character. -/
def pathSteps : Nat → SettingPath → List Char → Option SettingPath
  | _, p, [] => some p
  | 0, _, _ :: _ => none
  | fuel + 1, p, '.' :: rest =>
    let name := rest.takeWhile isPathNameChar
    if name.isEmpty then none
    else pathSteps fuel (.child p (String.ofList name)) (rest.dropWhile isPathNameChar)
  | fuel + 1, p, '[' :: rest =>
    match bracketIndex rest with
    | some (i, after) => pathSteps fuel (.index p i) after
    | none => none
  | _ + 1, _, _ :: _ => none

/-- Read a key as a path: a name of letters, digits, blanks, `_` and `-`,
then `.name` and `[index]` steps. -/
def SettingPath.parse? (s : String) : Option SettingPath :=
  let cs := s.toList
  let name := cs.takeWhile isPathNameChar
  if name.isEmpty then none
  else pathSteps cs.length (.key (String.ofList name)) (cs.dropWhile isPathNameChar)

namespace Setting

/-- Lay a source's entries over the settings so far. A key that reads as a
path is set at the end of it; any other key names one outermost entry. -/
def layer (root : Setting) (entries : List (String × Setting)) : Setting :=
  entries.foldl (fun acc (k, v) => acc.place ((SettingPath.parse? k).getD (.key k)) v) root

/-- Entries with their keys lowercased, as keys in a file compare without
case. Keys that lowercase alike name one entry, holding the value of the key
that is greatest by code point, as when the keys are taken in sorted order
and each replaces the one before. -/
def lowercaseKeys (entries : List (String × Setting)) : List (String × Setting) :=
  let step (acc : List (String × String × Setting)) (e : String × Setting) :=
    let low := toLowerFull e.1
    match acc.find? (·.2.1 == low) with
    | some (seen, _, _) =>
      if seen < e.1 then acc.map fun x => if x.2.1 == low then (e.1, low, e.2) else x else acc
    | none => acc ++ [(e.1, low, e.2)]
  (entries.foldl step []).map fun (_, low, v) => (low, v)

mutual

/-- A TOML value as a setting from source `origin`; a date-time becomes its
text and a table's keys are lowercased. -/
def ofItem (origin : Option String) : Toml.Item → Setting
  | .str s _ => .str origin s
  | .int i _ => .int origin i
  | .float f _ => .float origin f
  | .bool b _ => .bool origin b
  | .datetime d _ => .str origin d.render
  | .array items _ => .list origin (ofItems origin items)
  | .tables items _ => .list origin (ofItems origin items)
  | .table entries .. => .table origin (lowercaseKeys (ofEntries origin entries))

def ofItems (origin : Option String) : List Toml.Item → List Setting
  | [] => []
  | i :: rest => ofItem origin i :: ofItems origin rest

/-- TOML entries as settings, by key name. -/
def ofEntries (origin : Option String) : List (Toml.Key × Toml.Item) → List (String × Setting)
  | [] => []
  | (k, i) :: rest => (k.name, ofItem origin i) :: ofEntries origin rest

end

end Setting

/-! ### The environment -/

/-- An integer written as an optional sign and decimal digits, within the
signed 64-bit range. -/
def readInt64? (s : String) : Option Int :=
  let (negative, ds) := match s.toList with
    | '-' :: rest => (true, rest)
    | '+' :: rest => (false, rest)
    | rest => (false, rest)
  if ds.isEmpty || !ds.all Char.isDigit then none
  else
    let n : Int := digitsValue ds
    let v := if negative then -n else n
    if v < -(Int.pow 2 63) || v ≥ Int.pow 2 63 then none else some v

/-- How environment variables become settings. -/
structure EnvironmentRules where
  /-- The leading word of the variables read; compared without case. -/
  scope : String
  /-- What separates the leading word and the path's names in a variable. -/
  separator : String
  /-- What separates the items of a list. -/
  listSeparator : String
  /-- The paths whose text is read as a list. -/
  listKeys : List String

def environmentOrigin : String := "the environment"

namespace EnvironmentRules

/-- The setting a variable's text gives: a boolean for `true` or `false` in
any case, else an integer, else a float, else a list for a list key, else
the text itself. -/
def settingOf (rules : EnvironmentRules) (key text : String) : Setting :=
  let o := some environmentOrigin
  let lower := Text.toLowerFull text
  if lower == "true" then .bool o true
  else if lower == "false" then .bool o false
  else match readInt64? text with
    | some i => .int o i
    | none =>
      match Binary64.read? text with
      | some f => .float o f
      | none =>
        if rules.listKeys.contains key then .list o ((text.splitOn rules.listSeparator).map (.str o))
        else .str o text

/-- The entries the environment gives: each variable whose lowercased name
starts with the scope and separator, that start removed and the remaining
separators turned into dots. -/
def collect (rules : EnvironmentRules) (vars : List (String × String)) : List (String × Setting) :=
  let lead := Text.toLowerFull (rules.scope ++ rules.separator)
  vars.filterMap fun (name, text) =>
    let lowered := Text.toLowerFull name
    if lowered.startsWith lead then
      let key := (String.ofList (lowered.toList.drop lead.length)).replace rules.separator "."
      some (key, rules.settingOf key text)
    else none

end EnvironmentRules

end Herald.Settings
