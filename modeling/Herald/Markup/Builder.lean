import Herald.Markup.Dom

set_option autoImplicit false

/-!
The tree builder's state and the operations its rules share.

The builder keeps the stack of open elements (the root `html` element at the
bottom), the list of active formatting elements with its markers, the
insertion mode, and a few flags. A fragment is parsed as the content of a
`div`: when only the root is open, that `div` stands in as the current node
for the rules that ask about it.

The element categories used by the rules (special elements, the scope
boundaries, the integration points between HTML and foreign content) are
defined here. Only HTML elements are special, and `annotation-xml` bounds no
scope even when its content is HTML. A `select` has no insertion mode of its
own: what it holds is read by the rules of the mode around it.
-/

namespace Herald.Markup

/-- The insertion modes a fragment parse can be in. -/
inductive Mode where
  | inBody | text | inTable | inTableText | inCaption | inColumnGroup | inTableBody
  | inRow | inCell | inTemplate
  deriving DecidableEq, Inhabited

/-- An entry of the list of active formatting elements. -/
inductive Formatting where
  | marker
  | element (node : Nat)
  deriving DecidableEq, Inhabited

/-- The tree builder's state. -/
structure Builder where
  dom : Dom := Dom.rootOnly
  stack : Array Nat := #[0]
  formatting : Array Formatting := #[]
  mode : Mode := .inBody
  original : Mode := .inBody
  templateModes : Array Mode := #[]
  framesetOk : Bool := true
  fosterParenting : Bool := false
  pendingText : String := ""
  formElement : Option Nat := none
  ignoreLineFeed : Bool := false
  /-- A state the tokenizer must switch to before the next token. -/
  switchTo : Option TokState := none
  deriving Inhabited

abbrev BuildM := StateM Builder

def specialHtml : List String :=
  ["address", "applet", "area", "article", "aside", "base", "basefont", "bgsound", "blockquote",
   "body", "br", "button", "caption", "center", "col", "colgroup", "dd", "details", "dir", "div",
   "dl", "dt", "embed", "fieldset", "figcaption", "figure", "footer", "form", "frame", "frameset",
   "h1", "h2", "h3", "h4", "h5", "h6", "head", "header", "hgroup", "hr", "html", "iframe", "img",
   "input", "isindex", "keygen", "li", "link", "listing", "main", "marquee", "menu", "meta", "nav",
   "noembed", "noframes", "noscript", "object", "ol", "p", "param", "plaintext", "pre", "script",
   "section", "select", "source", "style", "summary", "table", "tbody", "td", "template",
   "textarea", "tfoot", "th", "thead", "title", "tr", "track", "ul", "wbr", "xmp"]

/-- MathML elements where text is HTML text. -/
def mathmlTextPoints : List String := ["mi", "mo", "mn", "ms", "mtext"]

def svgHtmlPoints : List String := ["foreignObject", "desc", "title"]

/-- Whether an element is in the special category: only HTML elements are. -/
def Element.special (e : Element) : Bool := e.ns == .html && specialHtml.contains e.name

/-- Whether an element is a MathML text integration point. -/
def Element.mathmlTextPoint (e : Element) : Bool :=
  e.ns == .mathml && mathmlTextPoints.contains e.name

/-- Whether an element is one of the SVG elements whose content is HTML. -/
def Element.svgHtmlPoint (e : Element) : Bool := e.ns == .svg && svgHtmlPoints.contains e.name

/-- Whether an element bounds the default scope: a few HTML elements, the
MathML text integration points and the SVG elements whose content is HTML
(but not `annotation-xml`, whatever its encoding). -/
def Element.scopeBoundary (e : Element) : Bool :=
  (e.ns == .html &&
    ["applet", "caption", "html", "table", "td", "th", "marquee", "object", "template"].contains e.name) ||
  e.mathmlTextPoint || e.svgHtmlPoint

/-- Whether an element is an HTML integration point. -/
def Element.htmlPoint (e : Element) : Bool :=
  match e.ns with
  | .mathml =>
    e.name == "annotation-xml" &&
      match e.tag.attr? "encoding" with
      | some v => let v := lowerText v; v == "text/html" || v == "application/xhtml+xml"
      | none => false
  | .svg => svgHtmlPoints.contains e.name
  | .html => false

/-- The kinds of scope. -/
inductive Scope where
  | default | listItem | button | table

/-- Whether an element bounds a kind of scope. -/
def Element.bounds (e : Element) : Scope → Bool
  | .default => e.scopeBoundary
  | .listItem => e.scopeBoundary || (e.ns == .html && (e.name == "ol" || e.name == "ul"))
  | .button => e.scopeBoundary || (e.ns == .html && e.name == "button")
  | .table => e.ns == .html && ["html", "table", "template"].contains e.name

/-- The element that stands for the fragment's context. -/
def contextElement : Element := { ns := .html, name := "div", tag := { name := "div" } }

namespace Builder

/-- The element of a node, or the context element for a non-element. -/
def elementOf (b : Builder) (i : Nat) : Element := (b.dom.element? i).getD contextElement

def current (b : Builder) : Nat := b.stack.back?.getD 0

def currentElement (b : Builder) : Element := b.elementOf b.current

/-- The adjusted current node's element: the context element when only the
root is open. -/
def adjustedElement (b : Builder) : Element :=
  if b.stack.size ≤ 1 then contextElement else b.currentElement

/-- Whether the current node is an HTML element with one of the names. -/
def currentIs (b : Builder) (names : List String) : Bool :=
  let e := b.currentElement
  e.ns == .html && names.contains e.name

/-- Whether an HTML element with one of the names is in scope. -/
def inScope (b : Builder) (names : List String) (scope : Scope) : Bool :=
  let rec go : List Nat → Bool
    | [] => false
    | i :: rest =>
      let e := b.elementOf i
      if e.ns == .html && names.contains e.name then true
      else if e.bounds scope then false
      else go rest
  go b.stack.toList.reverse

/-- Whether a node is on the stack of open elements. -/
def onStack (b : Builder) (i : Nat) : Bool := b.stack.contains i

/-- Whether an HTML template element is open. -/
def templateOpen (b : Builder) : Bool :=
  b.stack.any fun i => b.dom.isHtml i "template"

end Builder

open Builder

def popNode : BuildM Unit := modify fun b => { b with stack := if b.stack.size > 1 then b.stack.pop else b.stack }

/-- Pop until a node satisfying `p` has been popped (never the root). -/
def popUntil (p : Element → Bool) : BuildM Unit := do
  let b ← get
  let rec go (stack : Array Nat) : Nat → Array Nat
    | 0 => stack
    | fuel + 1 =>
      if stack.size ≤ 1 then stack
      else
        let top := stack.back?.getD 0
        let stack := stack.pop
        if p (b.elementOf top) then stack else go stack fuel
  set { b with stack := go b.stack b.stack.size }

/-- Pop until an HTML element with one of the names has been popped. -/
def popUntilHtml (names : List String) : BuildM Unit :=
  popUntil fun e => e.ns == .html && names.contains e.name

/-- Pop while the current node satisfies `p` (never the root). -/
def popWhile (p : Element → Bool) : BuildM Unit := do
  let b ← get
  let rec go (stack : Array Nat) : Nat → Array Nat
    | 0 => stack
    | fuel + 1 =>
      if stack.size ≤ 1 then stack
      else if p (b.elementOf (stack.back?.getD 0)) then go stack.pop fuel else stack
  set { b with stack := go b.stack b.stack.size }

def impliedEndTags : List String := ["dd", "dt", "li", "optgroup", "option", "p", "rb", "rp", "rt", "rtc"]

/-- Generate implied end tags, except for the element named `except`. -/
def generateImpliedEndTags (except : String := "") : BuildM Unit :=
  popWhile fun e => e.ns == .html && impliedEndTags.contains e.name && e.name != except

def generateAllImpliedEndTags : BuildM Unit :=
  popWhile fun e => e.ns == .html &&
    (impliedEndTags ++ ["caption", "colgroup", "tbody", "td", "tfoot", "th", "thead", "tr"]).contains e.name

/-- Where a new node goes: a parent, and the child to insert before (none
for last). With foster parenting, content aimed at a table part goes just
before the table. -/
def insertionPlace (target : Option Nat := none) : BuildM (Nat × Option Nat) := do
  let b ← get
  let t := target.getD b.current
  if b.fosterParenting && b.dom.isHtmlIn t ["table", "tbody", "tfoot", "thead", "tr"] then
    let lastTemplate := (List.range b.stack.size).reverse.find? fun k => b.dom.isHtml (b.stack.getD k 0) "template"
    let lastTable := (List.range b.stack.size).reverse.find? fun k => b.dom.isHtml (b.stack.getD k 0) "table"
    match lastTemplate, lastTable with
    | some tk, some tb =>
      if tk > tb then return (b.stack.getD tk 0, none)
      else
        let table := b.stack.getD tb 0
        match (b.dom.node table).parent with
        | some p => return (p, some table)
        | none => return (b.stack.getD (tb - 1) 0, none)
    | some tk, none => return (b.stack.getD tk 0, none)
    | none, none => return (b.stack.getD 0 0, none)
    | none, some tb =>
      let table := b.stack.getD tb 0
      match (b.dom.node table).parent with
      | some p => return (p, some table)
      | none => return (b.stack.getD (tb - 1) 0, none)
  else return (t, none)

/-- Create an element node for a tag, not yet placed. -/
def createElement (ns : Ns) (name : String) (tag : Tag) : BuildM Nat := do
  let b ← get
  let (dom, i) := b.dom.create (.element { ns, name, tag })
  set { b with dom }
  return i

/-- Insert an element at the appropriate place and push it on the stack. -/
def insertForeign (ns : Ns) (name : String) (tag : Tag) : BuildM Nat := do
  let (parent, before) ← insertionPlace
  let i ← createElement ns name tag
  modify fun b => { b with dom := b.dom.insertAt parent before i, stack := b.stack.push i }
  return i

/-- Insert an HTML element for a tag. -/
def insertHtml (tag : Tag) : BuildM Nat := insertForeign .html tag.name tag

def insertText (s : String) : BuildM Unit := do
  if s.isEmpty then return
  let (parent, before) ← insertionPlace
  modify fun b => { b with dom := b.dom.insertText parent before s }

/-- Insert a comment at the appropriate place. -/
def insertComment : BuildM Unit := do
  let (parent, before) ← insertionPlace
  let b ← get
  let (dom, i) := b.dom.create .comment
  set { b with dom := dom.insertAt parent before i }

def switchTokenizer (s : TokState) : BuildM Unit := modify fun b => { b with switchTo := some s }

def setMode (m : Mode) : BuildM Unit := modify fun b => { b with mode := m }

/-- Insert an element whose text is read in state `s`, and read that text. -/
def insertTextElement (tag : Tag) (s : TokState) : BuildM Unit := do
  let _ ← insertHtml tag
  switchTokenizer s
  modify fun b => { b with original := b.mode, mode := .text }

/-- Remove the entries after the last marker, and the marker. -/
def clearFormattingToMarker : BuildM Unit := modify fun b =>
  let rec go (fs : Array Formatting) : Nat → Array Formatting
    | 0 => fs
    | fuel + 1 =>
      match fs.back? with
      | none => fs
      | some .marker => fs.pop
      | some (.element _) => go fs.pop fuel
  { b with formatting := go b.formatting b.formatting.size }

/-- Add a marker to the list of active formatting elements. -/
def pushMarker : BuildM Unit := modify fun b => { b with formatting := b.formatting.push .marker }

/-- Whether two tags carry the same attributes, in any order. -/
def sameAttributes (a b : Tag) : Bool :=
  a.attrs.length == b.attrs.length && a.attrs.all fun (k, v) => b.attrs.lookup k == some v

/-- Push an element on the list of active formatting elements; when three
equal ones follow the last marker already, the earliest of them goes. -/
def pushFormatting (i : Nat) : BuildM Unit := do
  let b ← get
  let e := b.elementOf i
  let afterMarker := (List.range b.formatting.size).reverse.takeWhile fun k =>
    b.formatting.getD k .marker != .marker
  let equal := afterMarker.filter fun k =>
    match b.formatting.getD k .marker with
    | .element j =>
      let f := b.elementOf j
      f.ns == e.ns && f.name == e.name && sameAttributes f.tag e.tag
    | .marker => false
  let fs := if equal.length ≥ 3 then b.formatting.eraseIdxIfInBounds (equal.getLast?.getD 0) else b.formatting
  set { b with formatting := fs.push (.element i) }

/-- Recreate the formatting elements that were closed implicitly but are
still active. -/
def reconstructFormatting : BuildM Unit := do
  let b ← get
  let n := b.formatting.size
  if n == 0 then return
  let isOpen (k : Nat) : Bool :=
    match b.formatting.getD k .marker with
    | .marker => true
    | .element i => b.onStack i
  if isOpen (n - 1) then return
  -- the first entry to recreate: just after the last one that is a marker or open
  let start := match (List.range (n - 1)).reverse.find? isOpen with
    | some k => k + 1
    | none => 0
  for k in [start:n] do
    let b ← get
    match b.formatting.getD k .marker with
    | .element i =>
      let e := b.elementOf i
      let j ← insertHtml e.tag
      modify fun b => { b with formatting := b.formatting.set! k (.element j) }
    | .marker => pure ()

def closeP : BuildM Unit := do
  generateImpliedEndTags "p"
  popUntilHtml ["p"]

/-- Close a `p` element if one is in button scope. -/
def closePInButtonScope : BuildM Unit := do
  if (← get).inScope ["p"] .button then closeP

/-- Reset the insertion mode from the open elements. -/
def resetInsertionMode : BuildM Unit := do
  let b ← get
  let n := b.stack.size
  let rec go (k : Nat) : Nat → Mode
    | 0 => .inBody
    | fuel + 1 =>
      let last := k == 0
      let e := if last then contextElement else b.elementOf (b.stack.getD k 0)
      let html (name : String) := e.ns == .html && e.name == name
      if (html "td" || html "th") && !last then .inCell
      else if html "tr" then .inRow
      else if html "tbody" || html "thead" || html "tfoot" then .inTableBody
      else if html "caption" then .inCaption
      else if html "colgroup" then .inColumnGroup
      else if html "table" then .inTable
      else if html "template" then b.templateModes.back?.getD .inBody
      else if last then .inBody
      else go (k - 1) fuel
  set { b with mode := go (n - 1) (n + 1) }

end Herald.Markup
