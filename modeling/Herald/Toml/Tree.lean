import Herald.Toml.Failure

set_option autoImplicit false

/-!
The tree a TOML document reads into, and the rules that build it.

Values remember where they were written, so that a later complaint about a
value can point at it. Tables come in three kinds: the document root and
tables opened by a `[header]`; implicit tables that only exist because a
longer header or a dotted key passes through them; and inline tables
written as values. A table may be defined once: a second header for it, a
key given twice, or a dotted key reaching into a table a header defined, is
a duplicate.
-/

namespace Herald.Toml

/-- A key as written: its text, its source form, and where it stands. -/
structure Key where
  name : String
  raw : String
  span : Option Span := none
  deriving Repr, Inhabited

/-- A calendar date. -/
structure LocalDate where
  year : Nat
  month : Nat
  day : Nat
  deriving Inhabited

/-- A time of day, to the nanosecond. -/
structure LocalTime where
  hour : Nat
  minute : Nat
  second : Nat
  nanosecond : Nat
  deriving Inhabited

/-- A time zone offset: UTC, or a signed number of minutes east of it. -/
inductive Offset where
  | utc
  | minutes (m : Int)
  deriving Inhabited

/-- A date-time value: a date, a time of day, or both, with an optional
offset. -/
structure Datetime where
  date : Option LocalDate := none
  time : Option LocalTime := none
  offset : Option Offset := none
  deriving Inhabited

private def padded (width n : Nat) : String :=
  let s := toString n
  String.ofList (List.replicate (width - s.length) '0') ++ s

def LocalDate.render (d : LocalDate) : String :=
  s!"{padded 4 d.year}-{padded 2 d.month}-{padded 2 d.day}"

/-- A time as `HH:MM:SS`, with the fraction's significant digits when it
has one. -/
def LocalTime.render (t : LocalTime) : String :=
  let whole := s!"{padded 2 t.hour}:{padded 2 t.minute}:{padded 2 t.second}"
  if t.nanosecond == 0 then whole
  else
    let frac := (padded 9 t.nanosecond).toList.reverse.dropWhile (· == '0') |>.reverse
    whole ++ "." ++ String.ofList frac

/-- An offset as `Z` or `±HH:MM`; a zero offset is written `+00:00`. -/
def Offset.render : Offset → String
  | .utc => "Z"
  | .minutes m =>
    let sign := if m < 0 then "-" else "+"
    let a := m.natAbs
    s!"{sign}{padded 2 (a / 60)}:{padded 2 (a % 60)}"

/-- A date-time written back in its canonical form, the date and time
joined by `T`. -/
def Datetime.render (d : Datetime) : String :=
  let date := (d.date.map LocalDate.render).getD ""
  let time := match d.time with
    | some t => (if d.date.isSome then "T" else "") ++ t.render
    | none => ""
  date ++ time ++ ((d.offset.map Offset.render).getD "")

/-- A node of a document. -/
inductive Item where
  | str (s : String) (span : Span)
  | int (i : Int) (span : Span)
  | float (f : Float) (span : Span)
  | bool (b : Bool) (span : Span)
  | datetime (d : Datetime) (span : Span)
  | array (items : List Item) (span : Span)
  /-- A table: its entries in the order they were added. -/
  | table (entries : List (Key × Item)) (inline implicit dotted : Bool) (span : Option Span)
  /-- An array of tables, each a `table`. -/
  | tables (list : List Item) (span : Option Span)
  deriving Inhabited

namespace Item

/-- Where an item was written, when it was written at all. -/
def span? : Item → Option Span
  | .str _ s | .int _ s | .float _ s | .bool _ s | .datetime _ s | .array _ s => some s
  | .table _ _ _ _ s | .tables _ s => s

def typeName : Item → String
  | .str .. => "string"
  | .int .. => "integer"
  | .float .. => "float"
  | .bool .. => "boolean"
  | .datetime .. => "datetime"
  | .array .. => "array"
  | .table _ true _ _ _ => "inline table"
  | .table .. => "table"
  | .tables .. => "array of tables"

end Item

/-- A table under construction. -/
structure Table where
  entries : List (Key × Item) := []
  inline : Bool := false
  implicit : Bool := false
  dotted : Bool := false
  span : Option Span := none
  deriving Inhabited

namespace Table

def toItem (t : Table) : Item := .table t.entries t.inline t.implicit t.dotted t.span

def find (t : Table) (name : String) : Option Item :=
  (t.entries.find? (·.1.name == name)).map (·.2)

def has (t : Table) (name : String) : Bool := t.entries.any (·.1.name == name)

def replace (t : Table) (name : String) (item : Item) : Table :=
  { t with entries := t.entries.map fun (k, v) => if k.name == name then (k, item) else (k, v) }

def remove (t : Table) (name : String) : Table :=
  { t with entries := t.entries.filter (·.1.name != name) }

def push (t : Table) (key : Key) (item : Item) : Table :=
  { t with entries := t.entries ++ [(key, item)] }

end Table

/-- A failure to build the tree. -/
inductive TreeError where
  | duplicateKey (key : String) (table : Option (List String))
  | extendWrongType (path : List String) (actual : String)
  | outOfRange
  | recursionLimit
  deriving Repr

def TreeError.message : TreeError → String
  | .duplicateKey key none => s!"duplicate key `{key}`"
  | .duplicateKey key (some []) => s!"duplicate key `{key}` in document root"
  | .duplicateKey key (some path) =>
    let joined := ".".intercalate path
    s!"duplicate key `{key}` in table `{joined}`"
  | .extendWrongType path actual =>
    let joined := ".".intercalate path
    s!"dotted key `{joined}` attempted to extend non-table type ({actual})"
  | .outOfRange => "value is out of range"
  | .recursionLimit => "recursion limit exceeded"

/-- A duplicate header key: key `i` of a header path, named as written,
in the table the keys before it lead to. -/
def duplicateAt (path : List Key) (i : Nat) : TreeError :=
  .duplicateKey ((path.getD i default).raw) (some ((path.take i).map (·.name)))

/-- The table an item stands for when a path goes through it. -/
def tableOf (item : Item) : Option Table :=
  match item with
  | .table es inl imp dot sp => some { entries := es, inline := inl, implicit := imp, dotted := dot, span := sp }
  | _ => none

/-- Follow `path` from a document table, creating implicit tables on the
way (dotted ones when `dotted`), and change the table at its end with `k`.
Going through an array of tables goes into its last table. A value in the
way, or (for dotted keys) a table defined by a header, is an error. -/
def Table.descend {α : Type} (t : Table) (path : List Key) (dotted : Bool) (seen : List String)
    (k : Table → Except TreeError (Table × α)) : Except TreeError (Table × α) :=
  match path with
  | [] => k t
  | key :: rest => do
    let seen := seen ++ [key.name]
    match t.find key.name with
    | none =>
      let (child, a) ← Table.descend { implicit := true, dotted } rest dotted seen k
      pure (t.push key child.toItem, a)
    | some item =>
      match item with
      | .table es false imp dot sp =>
        if dotted && !imp then throw (.duplicateKey key.name none)
        let (child, a) ← Table.descend { entries := es, implicit := imp, dotted := dot, span := sp }
          rest dotted seen k
        pure (t.replace key.name child.toItem, a)
      | .tables list sp =>
        match list.getLast? >>= tableOf with
        | some last =>
          let (child, a) ← Table.descend last rest dotted seen k
          pure (t.replace key.name (.tables (list.dropLast ++ [child.toItem]) sp), a)
        | none => throw (.extendWrongType seen item.typeName)
      | other => throw (.extendWrongType seen other.typeName)

/-- Follow a dotted path inside an inline table, creating dotted inline
tables; anything but an inline table in the way is an error. -/
def Table.descendInline {α : Type} (t : Table) (path : List Key) (seen : List String)
    (k : Table → Except TreeError (Table × α)) : Except TreeError (Table × α) :=
  match path with
  | [] => k t
  | key :: rest => do
    let seen := seen ++ [key.name]
    match t.find key.name with
    | none =>
      let (child, a) ← Table.descendInline { inline := true, implicit := true, dotted := true } rest seen k
      pure (t.push key child.toItem, a)
    | some (.table es true imp dot sp) =>
      if !imp then throw (.duplicateKey key.name none)
      let (child, a) ← Table.descendInline
        { entries := es, inline := true, implicit := imp, dotted := dot, span := sp } rest seen k
      pure (t.replace key.name child.toItem, a)
    | some other => throw (.extendWrongType seen other.typeName)

/-- Put one `key = value` into a table being built. -/
def Table.insertKeyval (t : Table) (path : List Key) (key : Key) (value : Item)
    (tablePath : Option (List String)) (inline : Bool) : Except TreeError Table := do
  let place (target : Table) : Except TreeError (Table × Unit) := do
    if target.dotted == path.isEmpty then throw (.duplicateKey key.name none)
    if target.has key.name then throw (.duplicateKey key.name tablePath)
    pure (target.push key value, ())
  let (t, ()) ← if inline then t.descendInline path [] place else t.descend path true [] place
  pure t

/-- The state of a document being read: the finished root, the table the
latest header opened, and that header's path. -/
structure Builder where
  root : Table := {}
  current : Table := {}
  path : List Key := []
  isArray : Bool := false
  deriving Inhabited

namespace Builder

/-- A `key = value` line of the current table. -/
def onKeyval (b : Builder) (path : List Key) (key : Key) (value : Item) : Except TreeError Builder := do
  let current := match b.current.span, value.span? with
    | some s, some v => { b.current with span := some ⟨s.start, v.stop⟩ }
    | _, _ => b.current
  let current ← current.insertKeyval path key value (some (b.path.map (·.name))) false
  pure { b with current }

/-- File the current table under its header's path. -/
def finalize (b : Builder) : Except TreeError Builder := do
  let t := b.current
  let path := b.path
  let b := { b with current := {}, path := [] }
  match path.getLast? with
  | none => pure { b with root := t }
  | some key =>
    let parents := path.dropLast
    if b.isArray then
      let (root, ()) ← b.root.descend parents false [] fun parent =>
        match parent.find key.name with
        | none => pure (parent.push key (.tables [t.toItem] t.span), ())
        | some (.tables list _) =>
          let list := list ++ [t.toItem]
          let span := match (list.head? >>= Item.span?), (list.getLast? >>= Item.span?) with
            | some first, some last => some ⟨first.start, last.stop⟩
            | _, _ => none
          pure (parent.replace key.name (.tables list span), ())
        | some _ => throw (duplicateAt path (path.length - 1))
      pure { b with root }
    else
      let (root, ()) ← b.root.descend parents false [] fun parent =>
        match parent.find key.name with
        | none => pure (parent.push key t.toItem, ())
        | some (.table _ false true _ _) => pure (parent.replace key.name t.toItem, ())
        | some _ => throw (duplicateAt path (path.length - 1))
      pure { b with root }

/-- A `[header]` line: the previous table is filed and a new one opens; an
implicit table of that name is taken over. -/
def onStdHeader (b : Builder) (path : List Key) (span : Span) : Except TreeError Builder := do
  let b ← b.finalize
  let key := path.getLast?.getD default
  let (root, taken) ← b.root.descend path.dropLast false [] fun parent =>
    match parent.find key.name with
    | none => pure (parent, none)
    | some item =>
      match item with
      | .table es false true false sp =>
        pure (parent.remove key.name, some ({ entries := es, span := sp } : Table))
      | _ => throw (duplicateAt path (path.length - 1))
  let current := { (taken.getD {}) with implicit := false, dotted := false, span := some span }
  pure { b with root, current, path, isArray := false }

/-- A `[[header]]` line: the previous table is filed and a new element of
an array of tables opens. -/
def onArrayHeader (b : Builder) (path : List Key) (span : Span) : Except TreeError Builder := do
  let b ← b.finalize
  let key := path.getLast?.getD default
  let (root, ()) ← b.root.descend path.dropLast false [] fun parent =>
    match parent.find key.name with
    | none => pure (parent.push key (.tables [] none), ())
    | some (.tables _ _) => pure (parent, ())
    | some _ => throw (duplicateAt path (path.length - 1))
  pure { b with root, current := { span := some span }, path, isArray := true }

end Builder

end Herald.Toml
