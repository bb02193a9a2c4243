import Herald.Markup.Tokenizer

set_option autoImplicit false

/-!
The document tree a parse builds.

Nodes live in an array and refer to each other by index: each knows its
parent and its children in order. Node 0 is the root `html` element that a
fragment is parsed into. Text is kept in text nodes; a text inserted right
after another text node is merged into it.
-/

namespace Herald.Markup

/-- The namespace of an element. -/
inductive Ns where
  | html | svg | mathml
  deriving DecidableEq, Inhabited, Repr

/-- An element: its namespace, its local name, and the tag it came from
(kept to recreate formatting elements). -/
structure Element where
  ns : Ns
  name : String
  tag : Tag
  deriving Inhabited

/-- What a node is. -/
inductive NodeKind where
  | element (e : Element)
  | text (s : String)
  | comment
  deriving Inhabited

/-- A node and its place in the tree. -/
structure Node where
  kind : NodeKind
  parent : Option Nat := none
  children : Array Nat := #[]
  deriving Inhabited

/-- The tree: nodes by index. -/
structure Dom where
  nodes : Array Node
  deriving Inhabited

namespace Dom

/-- A tree holding only the root `html` element. -/
def rootOnly : Dom :=
  { nodes := #[{ kind := .element { ns := .html, name := "html", tag := { name := "html" } } }] }

def node (d : Dom) (i : Nat) : Node := d.nodes.getD i default

/-- The element at an index, if it is one. -/
def element? (d : Dom) (i : Nat) : Option Element :=
  match (d.node i).kind with
  | .element e => some e
  | _ => none

/-- Whether node `i` is an HTML element named `name`. -/
def isHtml (d : Dom) (i : Nat) (name : String) : Bool :=
  match d.element? i with
  | some e => e.ns == .html && e.name == name
  | none => false

/-- Whether node `i` is an HTML element with one of the names. -/
def isHtmlIn (d : Dom) (i : Nat) (names : List String) : Bool :=
  match d.element? i with
  | some e => e.ns == .html && names.contains e.name
  | none => false

/-- Add a node without a place in the tree; give its index. -/
def create (d : Dom) (kind : NodeKind) : Dom × Nat :=
  ({ nodes := d.nodes.push { kind } }, d.nodes.size)

def modifyNode (d : Dom) (i : Nat) (f : Node → Node) : Dom :=
  { nodes := d.nodes.modify i f }

/-- Take a node out of its parent's children. -/
def detach (d : Dom) (i : Nat) : Dom :=
  match (d.node i).parent with
  | none => d
  | some p =>
    let d := d.modifyNode p fun n => { n with children := n.children.filter (· != i) }
    d.modifyNode i fun n => { n with parent := none }

/-- Insert node `i` into `parent` before child `before`, or last. -/
def insertAt (d : Dom) (parent : Nat) (before : Option Nat) (i : Nat) : Dom :=
  let d := d.detach i
  let d := d.modifyNode parent fun n =>
    let idx := match before with
      | some b => (n.children.idxOf? b).getD n.children.size
      | none => n.children.size
    { n with children := n.children.insertIdxIfInBounds idx i }
  d.modifyNode i fun n => { n with parent := some parent }

/-- The child just before the insertion point. -/
def previousChild (d : Dom) (parent : Nat) (before : Option Nat) : Option Nat :=
  let cs := (d.node parent).children
  let idx := match before with
    | some b => (cs.idxOf? b).getD cs.size
    | none => cs.size
  if idx == 0 then none else cs[idx - 1]?

/-- Insert text at a place, merging it into a text node just before it. -/
def insertText (d : Dom) (parent : Nat) (before : Option Nat) (s : String) : Dom :=
  match d.previousChild parent before with
  | some prev =>
    match (d.node prev).kind with
    | .text old => d.modifyNode prev fun n => { n with kind := .text (old ++ s) }
    | _ =>
      let (d, i) := d.create (.text s)
      d.insertAt parent before i
  | none =>
    let (d, i) := d.create (.text s)
    d.insertAt parent before i

/-- Move all children of `src` to the end of `dst`. -/
def moveChildren (d : Dom) (src dst : Nat) : Dom :=
  let kids := (d.node src).children
  let d := d.modifyNode src fun n => { n with children := #[] }
  let d := kids.foldl (fun d k => d.modifyNode k fun n => { n with parent := some dst }) d
  d.modifyNode dst fun n => { n with children := n.children ++ kids }

end Dom

end Herald.Markup
