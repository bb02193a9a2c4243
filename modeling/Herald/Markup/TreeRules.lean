import Herald.Markup.Builder

set_option autoImplicit false

/-!
The rules that build a fragment's tree from its tokens.

Each token goes either to the rules of the current insertion mode or, when
the adjusted current node is a foreign element that is not an integration
point, to the rules for foreign content. The mode rules are one function per
mode; a rule that says "reprocess the token" calls the dispatcher again.
Every call lowers a fuel count, which the driver sets well above the longest
chain of reprocessing one token can cause.
-/

namespace Herald.Markup

open Builder

/-- Whitespace as the tree builder sees it. -/
def isTreeSpace (c : Char) : Bool :=
  c == '\t' || c == '\n' || c == '\x0C' || c == '\r' || c == ' '

def dropNul (s : String) : String := String.ofList (s.toList.filter (· != Char.ofNat 0))

/-- Whether text has a character that is not whitespace. -/
def hasInk (s : String) : Bool := s.toList.any fun c => !isTreeSpace c

/-- The camel-case names of SVG elements, from their lowercase tag names. -/
def svgTagName (name : String) : String :=
  match name with
  | "altglyph" => "altGlyph" | "altglyphdef" => "altGlyphDef" | "altglyphitem" => "altGlyphItem"
  | "animatecolor" => "animateColor" | "animatemotion" => "animateMotion"
  | "animatetransform" => "animateTransform" | "clippath" => "clipPath" | "feblend" => "feBlend"
  | "fecolormatrix" => "feColorMatrix" | "fecomponenttransfer" => "feComponentTransfer"
  | "fecomposite" => "feComposite" | "feconvolvematrix" => "feConvolveMatrix"
  | "fediffuselighting" => "feDiffuseLighting" | "fedisplacementmap" => "feDisplacementMap"
  | "fedistantlight" => "feDistantLight" | "fedropshadow" => "feDropShadow" | "feflood" => "feFlood"
  | "fefunca" => "feFuncA" | "fefuncb" => "feFuncB" | "fefuncg" => "feFuncG" | "fefuncr" => "feFuncR"
  | "fegaussianblur" => "feGaussianBlur" | "feimage" => "feImage" | "femerge" => "feMerge"
  | "femergenode" => "feMergeNode" | "femorphology" => "feMorphology" | "feoffset" => "feOffset"
  | "fepointlight" => "fePointLight" | "fespecularlighting" => "feSpecularLighting"
  | "fespotlight" => "feSpotLight" | "fetile" => "feTile" | "feturbulence" => "feTurbulence"
  | "foreignobject" => "foreignObject" | "glyphref" => "glyphRef"
  | "lineargradient" => "linearGradient" | "radialgradient" => "radialGradient"
  | "textpath" => "textPath"
  | other => other

/-- Start tags that leave foreign content for HTML. -/
def breakoutTags : List String :=
  ["b", "big", "blockquote", "body", "br", "center", "code", "dd", "div", "dl", "dt", "em",
   "embed", "h1", "h2", "h3", "h4", "h5", "h6", "head", "hr", "i", "img", "li", "listing", "menu",
   "meta", "nobr", "ol", "p", "pre", "ruby", "s", "small", "span", "strong", "strike", "sub",
   "sup", "table", "tt", "u", "ul", "var"]

/-- Whether a start tag leaves foreign content. -/
def Tag.breaksOut (t : Tag) : Bool :=
  breakoutTags.contains t.name ||
    (t.name == "font" && t.attrs.any fun (k, _) => k == "color" || k == "face" || k == "size")

/-- Whether a token is handled by the insertion mode rather than by the
rules for foreign content. -/
def usesModeRules (b : Builder) (tok : Token) : Bool :=
  let e := b.adjustedElement
  let isStart := match tok with | .startTag _ => true | _ => false
  let isChars := match tok with | .chars _ => true | _ => false
  e.ns == .html ||
  (e.mathmlTextPoint && (isChars ||
    match tok with
    | .startTag t => t.name != "mglyph" && t.name != "malignmark"
    | _ => false)) ||
  (e.ns == .mathml && e.name == "annotation-xml" &&
    match tok with
    | .startTag t => t.name == "svg"
    | _ => false) ||
  (e.htmlPoint && (isStart || isChars)) ||
  match tok with
  | .eof => true
  | _ => false

/-- Elements that belong in the block of a `p` and close an open one. -/
def blockTags : List String :=
  ["address", "article", "aside", "blockquote", "center", "details", "dialog", "dir", "div", "dl",
   "fieldset", "figcaption", "figure", "footer", "header", "hgroup", "main", "menu", "nav", "ol",
   "p", "search", "section", "summary", "ul"]

/-- Formatting elements other than `a` and `nobr`. -/
def formattingTags : List String :=
  ["b", "big", "code", "em", "font", "i", "s", "small", "strike", "strong", "tt", "u"]

def headingTags : List String := ["h1", "h2", "h3", "h4", "h5", "h6"]

def blockEndTags : List String :=
  ["address", "article", "aside", "blockquote", "button", "center", "details", "dialog", "dir",
   "div", "dl", "fieldset", "figcaption", "figure", "footer", "header", "hgroup", "listing", "main",
   "menu", "nav", "ol", "pre", "search", "section", "summary", "ul"]

/-- Insert text for the body: without NULs, after recreating open formatting. -/
def bodyText (s : String) : BuildM Unit := do
  let s := dropNul s
  if s.isEmpty then return
  reconstructFormatting
  insertText s
  if hasInk s then modify fun b => { b with framesetOk := false }

/-- Pop while the current node is not one of the HTML elements named. -/
def clearStackTo (names : List String) : BuildM Unit :=
  popWhile fun e => !(e.ns == .html && names.contains e.name)

/-- Whether the tag is a `type=hidden` input. -/
def Tag.hiddenInput (t : Tag) : Bool :=
  match t.attr? "type" with
  | some v => lowerText v == "hidden"
  | none => false

/-- Insert an element for a tag and pop it at once. -/
def insertVoid (t : Tag) : BuildM Unit := do
  let _ ← insertHtml t
  popNode

def closeTemplate : BuildM Unit := do
  generateAllImpliedEndTags
  popUntilHtml ["template"]
  clearFormattingToMarker
  modify fun b => { b with templateModes := b.templateModes.pop }
  resetInsertionMode

def closeCell : BuildM Unit := do
  generateImpliedEndTags
  popUntilHtml ["td", "th"]
  clearFormattingToMarker
  setMode .inRow

def closeCaption : BuildM Unit := do
  generateImpliedEndTags
  popUntilHtml ["caption"]
  clearFormattingToMarker
  setMode .inTable

/-- The position in the stack of a node, if it is open. -/
def stackIndex (b : Builder) (i : Nat) : Option Nat := b.stack.idxOf? i

/-- The position in the formatting list of an element. -/
def formattingIndex (b : Builder) (i : Nat) : Option Nat := b.formatting.idxOf? (.element i)

/-- The last element in the formatting list, after the last marker, that is
an HTML element named `name`. -/
def lastFormattingNamed (b : Builder) (name : String) : Option Nat :=
  let rec go : List Nat → Option Nat
    | [] => none
    | k :: rest =>
      match b.formatting.getD k .marker with
      | .marker => none
      | .element i => if b.dom.isHtml i name then some i else go rest
  go (List.range b.formatting.size).reverse

/-- Remove an element from the formatting list. -/
def dropFormatting (i : Nat) : BuildM Unit :=
  modify fun b => { b with formatting := b.formatting.filter (· != .element i) }

def dropFromStack (i : Nat) : BuildM Unit :=
  modify fun b => { b with stack := b.stack.filter (· != i) }

/-- Replace a node by another in the stack. -/
def replaceInStack (old new : Nat) : BuildM Unit :=
  modify fun b => { b with stack := b.stack.map fun j => if j == old then new else j }

/-- Replace an element by another in the formatting list. -/
def replaceFormatting (old new : Nat) : BuildM Unit :=
  modify fun b => { b with formatting := b.formatting.map fun f => if f == .element old then .element new else f }

/-- Create an HTML element with the same tag as an element. -/
def cloneElement (i : Nat) : BuildM Nat := do
  let e := (← get).elementOf i
  createElement .html e.name e.tag

/-- Insert a node at a place, moving it if it has one. -/
def placeNode (parent : Nat) (before : Option Nat) (i : Nat) : BuildM Unit :=
  modify fun b => { b with dom := b.dom.insertAt parent before i }

/-- Whether a particular open element is in the default scope. -/
def elementInScope (b : Builder) (i : Nat) : Bool :=
  let rec go : List Nat → Bool
    | [] => false
    | j :: rest => if j == i then true else if (b.elementOf j).bounds .default then false else go rest
  go b.stack.toList.reverse

/-- The inner loop of the adoption agency: walk up from the furthest block,
cloning the formatting elements met (at most three) and dropping the other
elements from the stack, each time hanging the previous node under the
current one. Returns the last node handled, which goes under the common
ancestor, and the clone after which the new formatting element is listed
(none when it takes the old one's place). -/
def adoptInner (formattingElement : Nat) (furthestBlock : Nat) : BuildM (Nat × Option Nat) := do
  let b ← get
  let mut bookmark : Option Nat := none
  let mut lastNode := furthestBlock
  let mut counter := 0
  let mut nodeIndex := (stackIndex b furthestBlock).getD 0
  for _ in [0:b.stack.size + 1] do
    counter := counter + 1
    let b ← get
    if nodeIndex == 0 then break
    nodeIndex := nodeIndex - 1
    let node := b.stack.getD nodeIndex 0
    if node == formattingElement then break
    if counter > 3 then
      dropFormatting node
      dropFromStack node
      continue
    match formattingIndex b node with
    | none =>
      dropFromStack node
      continue
    | some fi =>
      let fresh ← cloneElement node
      modify fun b => { b with formatting := b.formatting.set! fi (.element fresh) }
      replaceInStack node fresh
      if lastNode == furthestBlock then bookmark := some fresh
      placeNode fresh none lastNode
      lastNode := fresh
  return (lastNode, bookmark)

/-- The adoption agency algorithm for an end tag of a formatting element.
Returns false when the end tag is to be handled as any other end tag. -/
def adoptionAgency (subject : String) : BuildM Bool := do
  let b ← get
  if b.currentIs [subject] && (formattingIndex b b.current).isNone then
    popNode
    return true
  for _ in [0:8] do
    let b ← get
    match lastFormattingNamed b subject with
    | none => return false
    | some fe =>
      match stackIndex b fe with
      | none =>
        dropFormatting fe
        return true
      | some feIndex =>
        if !(elementInScope b fe) then return true
        -- the furthest block: the first special element above the formatting element
        let above := (List.range b.stack.size).filter (· > feIndex)
        let furthest := above.find? fun k => (b.elementOf (b.stack.getD k 0)).special
        match furthest with
        | none =>
          modify fun b => { b with stack := b.stack.extract 0 feIndex }
          dropFormatting fe
          return true
        | some fbIndex =>
          let furthestBlock := b.stack.getD fbIndex 0
          let commonAncestor := b.stack.getD (feIndex - 1) 0
          let (lastNode, bookmark) ← adoptInner fe furthestBlock
          -- put the last node under the common ancestor (foster parenting applies)
          let (parent, before) ← insertionPlace (some commonAncestor)
          placeNode parent before lastNode
          let fresh ← cloneElement fe
          modify fun b => { b with dom := b.dom.moveChildren furthestBlock fresh }
          placeNode furthestBlock none fresh
          -- the new element takes the formatting element's place, or follows the bookmark
          match bookmark with
          | none => replaceFormatting fe fresh
          | some mark =>
            dropFormatting fe
            let b ← get
            let spot := ((formattingIndex b mark).map (· + 1)).getD b.formatting.size
            set { b with formatting := b.formatting.insertIdxIfInBounds spot (.element fresh) }
          dropFromStack fe
          let b ← get
          let fbNow := (stackIndex b furthestBlock).getD 0
          set { b with stack := b.stack.insertIdxIfInBounds (fbNow + 1) fresh }
  return true

/-- Any other end tag in the body: close the matching element unless a
special element stands in the way. -/
def bodyOtherEnd (name : String) : BuildM Unit := do
  let b ← get
  let rec find : List Nat → Option Nat
    | [] => none
    | k :: rest =>
      let e := b.elementOf (b.stack.getD k 0)
      if e.ns == .html && e.name == name then some k
      else if e.special then none
      else find rest
  match find (List.range b.stack.size).reverse with
  | none => pure ()
  | some k =>
    if k == 0 then return
    generateImpliedEndTags name
    modify fun b => { b with stack := b.stack.extract 0 k }

/-- The list entry (`li`, or `dd` and `dt`) that a new one closes: the
nearest open one, unless a special element other than `address`, `div` and
`p` stands above it. -/
def openListEntry (b : Builder) (names : List String) : Option String :=
  let rec look : List Nat → Option String
    | [] => none
    | k :: rest =>
      let e := b.elementOf (b.stack.getD k 0)
      if e.ns == .html && names.contains e.name then some e.name
      else if e.special && !(e.ns == .html && ["address", "div", "p"].contains e.name) then none
      else look rest
  look (List.range b.stack.size).reverse

mutual

def dispatch : Nat → Token → BuildM Unit
  | 0, _ => pure ()
  | fuel + 1, tok => do
    let b ← get
    if usesModeRules b tok then inMode fuel b.mode tok else foreign fuel tok

def inMode : Nat → Mode → Token → BuildM Unit
  | 0, _, _ => pure ()
  | fuel + 1, m, tok =>
    match m with
    | .inBody => inBody fuel tok
    | .text => inText fuel tok
    | .inTable => inTable fuel tok
    | .inTableText => inTableText fuel tok
    | .inCaption => inCaption fuel tok
    | .inColumnGroup => inColumnGroup fuel tok
    | .inTableBody => inTableBody fuel tok
    | .inRow => inRow fuel tok
    | .inCell => inCell fuel tok
    | .inTemplate => inTemplate fuel tok

def foreign : Nat → Token → BuildM Unit
  | 0, _ => pure ()
  | fuel + 1, tok =>
    match tok with
    | .chars s => do
      let s := s.map fun c => if c == Char.ofNat 0 then replacementChar else c
      insertText s
      if hasInk s then modify fun b => { b with framesetOk := false }
    | .comment _ => insertComment
    | .doctype => pure ()
    | .startTag t => do
      if t.breaksOut then leaveForeign fuel tok
      else
        let ns := (← get).adjustedElement.ns
        let name := if ns == .svg then svgTagName t.name else t.name
        let _ ← insertForeign ns name t
        if t.selfClosing then popNode
    | .endTag "p" | .endTag "br" => leaveForeign fuel tok
    | .endTag n => do
      let b ← get
      let top := b.stack.size - 1
      let rec walk (k : Nat) (first : Bool) : Nat → Option (Option Nat)
        | 0 => none
        | f + 1 =>
          if k == 0 then none
          else
            let e := b.elementOf (b.stack.getD k 0)
            if !first && e.ns == .html then some none
            else if lowerText e.name == n then some (some k)
            else walk (k - 1) false f
      match walk top true (top + 1) with
      | none => pure ()
      | some none => inMode fuel b.mode tok
      | some (some k) => modify fun b => { b with stack := b.stack.extract 0 k }
    | .eof => pure ()

/-- Leave foreign content: close foreign elements up to an HTML element, a
MathML text integration point or an SVG element whose content is HTML, then
give the token to the insertion mode. -/
def leaveForeign : Nat → Token → BuildM Unit
  | 0, _ => pure ()
  | fuel + 1, tok => do
    popWhile fun e => !(e.ns == .html || e.mathmlTextPoint || e.svgHtmlPoint)
    inMode fuel (← get).mode tok

/-- The rules of the head that other modes borrow. -/
def inHead : Nat → Token → BuildM Unit
  | 0, _ => pure ()
  | _ + 1, tok =>
    match tok with
    | .startTag t =>
      match t.name with
      | "base" | "basefont" | "bgsound" | "link" | "meta" => insertVoid t
      | "title" => insertTextElement t .rcdata
      | "noframes" | "style" | "noscript" => insertTextElement t .rawtext
      | "script" => insertTextElement t .scriptData
      | "template" => do
        let _ ← insertHtml t
        pushMarker
        modify fun b => { b with framesetOk := false, mode := .inTemplate,
                                 templateModes := b.templateModes.push .inTemplate }
      | _ => pure ()
    | .endTag "template" => do
      if (← get).templateOpen then closeTemplate
    | _ => pure ()

/-- Text of an element whose content is read as raw text or RCDATA. -/
def inText : Nat → Token → BuildM Unit
  | 0, _ => pure ()
  | fuel + 1, tok =>
    match tok with
    | .chars s => insertText s
    | .eof => do
      popNode
      modify fun b => { b with mode := b.original }
      dispatch fuel tok
    | .endTag _ => do
      popNode
      modify fun b => { b with mode := b.original }
    | _ => pure ()

def inBody : Nat → Token → BuildM Unit
  | 0, _ => pure ()
  | fuel + 1, tok =>
    match tok with
    | .chars s => bodyText s
    | .comment _ => insertComment
    | .doctype => pure ()
    | .eof => do
      if (← get).templateModes.size > 0 then inTemplate fuel tok
    | .startTag t => bodyStart fuel t
    | .endTag n => bodyEnd fuel n

def bodyStart : Nat → Tag → BuildM Unit
  | 0, _ => pure ()
  | fuel + 1, t => do
    let b ← get
    match t.name with
    | "html" | "body" | "frameset" => pure ()
    | "base" | "basefont" | "bgsound" | "link" | "meta" | "noframes" | "script" | "style"
    | "template" | "title" => inHead fuel (.startTag t)
    | "h1" | "h2" | "h3" | "h4" | "h5" | "h6" => do
      closePInButtonScope
      if (← get).currentIs headingTags then popNode
      let _ ← insertHtml t
    | "pre" | "listing" => do
      closePInButtonScope
      let _ ← insertHtml t
      modify fun b => { b with ignoreLineFeed := true, framesetOk := false }
    | "form" => do
      if b.formElement.isSome && !b.templateOpen then return
      closePInButtonScope
      let i ← insertHtml t
      if !(← get).templateOpen then modify fun b => { b with formElement := some i }
    | "li" => do
      modify fun b => { b with framesetOk := false }
      if (openListEntry b ["li"]).isSome then
        generateImpliedEndTags "li"
        popUntilHtml ["li"]
      closePInButtonScope
      let _ ← insertHtml t
    | "dd" | "dt" => do
      modify fun b => { b with framesetOk := false }
      match openListEntry b ["dd", "dt"] with
      | some name =>
        generateImpliedEndTags name
        popUntilHtml [name]
      | none => pure ()
      closePInButtonScope
      let _ ← insertHtml t
    | "plaintext" => do
      closePInButtonScope
      let _ ← insertHtml t
      switchTokenizer .plaintext
    | "button" => do
      if b.inScope ["button"] .default then
        generateImpliedEndTags
        popUntilHtml ["button"]
      reconstructFormatting
      let _ ← insertHtml t
      modify fun b => { b with framesetOk := false }
    | "a" => do
      match lastFormattingNamed b "a" with
      | some old =>
        let handled ← adoptionAgency "a"
        if !handled then bodyOtherEnd "a"
        dropFormatting old
        dropFromStack old
      | none => pure ()
      reconstructFormatting
      let i ← insertHtml t
      pushFormatting i
    | "nobr" => do
      reconstructFormatting
      if (← get).inScope ["nobr"] .default then
        let handled ← adoptionAgency "nobr"
        if !handled then bodyOtherEnd "nobr"
        reconstructFormatting
      let i ← insertHtml t
      pushFormatting i
    | "applet" | "marquee" | "object" => do
      reconstructFormatting
      let _ ← insertHtml t
      pushMarker
      modify fun b => { b with framesetOk := false }
    | "table" => do
      closePInButtonScope
      let _ ← insertHtml t
      modify fun b => { b with framesetOk := false, mode := .inTable }
    | "area" | "br" | "embed" | "img" | "keygen" | "wbr" | "image" => do
      reconstructFormatting
      insertVoid (if t.name == "image" then { t with name := "img" } else t)
      modify fun b => { b with framesetOk := false }
    | "input" => do
      if b.inScope ["select"] .default then popUntilHtml ["select"]
      reconstructFormatting
      insertVoid t
      if !t.hiddenInput then modify fun b => { b with framesetOk := false }
    | "param" | "source" | "track" => insertVoid t
    | "hr" => do
      closePInButtonScope
      if (← get).inScope ["select"] .default then generateImpliedEndTags
      insertVoid t
      modify fun b => { b with framesetOk := false }
    | "textarea" => do
      if b.inScope ["select"] .default then popUntilHtml ["select"]
      let _ ← insertHtml t
      switchTokenizer .rcdata
      modify fun b => { b with ignoreLineFeed := true, original := b.mode, framesetOk := false,
                               mode := .text }
    | "xmp" => do
      closePInButtonScope
      reconstructFormatting
      modify fun b => { b with framesetOk := false }
      insertTextElement t .rawtext
    | "iframe" => do
      modify fun b => { b with framesetOk := false }
      insertTextElement t .rawtext
    | "noembed" | "noscript" => insertTextElement t .rawtext
    | "select" => do
      -- a select inside a select closes it instead
      if b.inScope ["select"] .default then popUntilHtml ["select"]
      else
        reconstructFormatting
        let _ ← insertHtml t
        modify fun b => { b with framesetOk := false }
    | "option" => do
      if b.inScope ["select"] .default then generateImpliedEndTags "optgroup"
      else if b.currentIs ["option"] then popNode
      reconstructFormatting
      let _ ← insertHtml t
    | "optgroup" => do
      if b.inScope ["select"] .default then generateImpliedEndTags
      else if b.currentIs ["option"] then popNode
      reconstructFormatting
      let _ ← insertHtml t
    | "rb" | "rtc" => do
      if b.inScope ["ruby"] .default then generateImpliedEndTags
      let _ ← insertHtml t
    | "rp" | "rt" => do
      if b.inScope ["ruby"] .default then generateImpliedEndTags "rtc"
      let _ ← insertHtml t
    | "math" => do
      reconstructFormatting
      let _ ← insertForeign .mathml "math" t
      if t.selfClosing then popNode
    | "svg" => do
      reconstructFormatting
      let _ ← insertForeign .svg "svg" t
      if t.selfClosing then popNode
    | "caption" | "col" | "colgroup" | "frame" | "head" | "tbody" | "td" | "tfoot" | "th"
    | "thead" | "tr" => pure ()
    | name =>
      if blockTags.contains name then do
        closePInButtonScope
        let _ ← insertHtml t
      else if formattingTags.contains name then do
        reconstructFormatting
        let i ← insertHtml t
        pushFormatting i
      else do
        reconstructFormatting
        let _ ← insertHtml t

def bodyEnd : Nat → String → BuildM Unit
  | 0, _ => pure ()
  | fuel + 1, n => do
    let b ← get
    match n with
    | "template" => inHead fuel (.endTag n)
    | "body" | "html" => pure ()
    | "form" =>
      if !b.templateOpen then
        let node := b.formElement
        modify fun b => { b with formElement := none }
        match node with
        | none => pure ()
        | some f =>
          if !(b.onStack f) || !(b.inScope ["form"] .default) then return
          generateImpliedEndTags
          dropFromStack f
      else
        if !(b.inScope ["form"] .default) then return
        generateImpliedEndTags
        popUntilHtml ["form"]
    | "p" => do
      if !(b.inScope ["p"] .button) then
        let _ ← insertHtml { name := "p" }
      closeP
    | "li" =>
      if b.inScope ["li"] .listItem then
        generateImpliedEndTags "li"
        popUntilHtml ["li"]
    | "dd" | "dt" =>
      if b.inScope [n] .default then
        generateImpliedEndTags n
        popUntilHtml [n]
    | "h1" | "h2" | "h3" | "h4" | "h5" | "h6" =>
      if b.inScope headingTags .default then
        generateImpliedEndTags
        popUntilHtml headingTags
    | "a" | "b" | "big" | "code" | "em" | "font" | "i" | "nobr" | "s" | "small" | "strike"
    | "strong" | "tt" | "u" => do
      let handled ← adoptionAgency n
      if !handled then bodyOtherEnd n
    | "applet" | "marquee" | "object" =>
      if b.inScope [n] .default then
        generateImpliedEndTags
        popUntilHtml [n]
        clearFormattingToMarker
    | "br" => bodyStart fuel { name := "br" }
    | "select" => if b.inScope ["select"] .default then popUntilHtml ["select"]
    | _ =>
      if blockEndTags.contains n then
        if b.inScope [n] .default then
          generateImpliedEndTags
          popUntilHtml [n]
      else bodyOtherEnd n

/-- Content of a table that is not part of its structure goes before the table. -/
def tableOther : Nat → Token → BuildM Unit
  | 0, _ => pure ()
  | fuel + 1, tok => do
    modify fun b => { b with fosterParenting := true }
    inBody fuel tok
    modify fun b => { b with fosterParenting := false }

def inTable : Nat → Token → BuildM Unit
  | 0, _ => pure ()
  | fuel + 1, tok => do
    let b ← get
    match tok with
    | .chars _ =>
      if b.currentIs ["table", "tbody", "template", "tfoot", "thead", "tr"] then
        modify fun b => { b with pendingText := "", original := b.mode, mode := .inTableText }
        inTableText fuel tok
      else tableOther fuel tok
    | .comment _ => insertComment
    | .doctype => pure ()
    | .startTag t =>
      match t.name with
      | "caption" => do
        clearStackTo ["table", "template", "html"]
        pushMarker
        let _ ← insertHtml t
        setMode .inCaption
      | "colgroup" => do
        clearStackTo ["table", "template", "html"]
        let _ ← insertHtml t
        setMode .inColumnGroup
      | "col" => do
        clearStackTo ["table", "template", "html"]
        let _ ← insertHtml { name := "colgroup" }
        setMode .inColumnGroup
        dispatch fuel tok
      | "tbody" | "tfoot" | "thead" => do
        clearStackTo ["table", "template", "html"]
        let _ ← insertHtml t
        setMode .inTableBody
      | "td" | "th" | "tr" => do
        clearStackTo ["table", "template", "html"]
        let _ ← insertHtml { name := "tbody" }
        setMode .inTableBody
        dispatch fuel tok
      | "table" =>
        if b.inScope ["table"] .table then do
          popUntilHtml ["table"]
          resetInsertionMode
          dispatch fuel tok
      | "style" | "script" | "template" => inHead fuel tok
      | "input" =>
        if t.hiddenInput then insertVoid t else tableOther fuel tok
      | "form" =>
        if b.templateOpen || b.formElement.isSome then pure ()
        else do
          let i ← insertHtml t
          modify fun b => { b with formElement := some i }
          popNode
      | _ => tableOther fuel tok
    | .endTag n =>
      match n with
      | "table" =>
        if b.inScope ["table"] .table then do
          popUntilHtml ["table"]
          resetInsertionMode
      | "body" | "caption" | "col" | "colgroup" | "html" | "tbody" | "td" | "tfoot" | "th"
      | "thead" | "tr" => pure ()
      | "template" => inHead fuel tok
      | _ => tableOther fuel tok
    | .eof => inBody fuel tok

/-- Text inside a table, gathered until the next other token. -/
def inTableText : Nat → Token → BuildM Unit
  | 0, _ => pure ()
  | fuel + 1, tok =>
    match tok with
    | .chars s => modify fun b => { b with pendingText := b.pendingText ++ dropNul s }
    | _ => do
      let b ← get
      let pending := b.pendingText
      if hasInk pending then
        modify fun b => { b with fosterParenting := true }
        bodyText pending
        modify fun b => { b with fosterParenting := false }
      else insertText pending
      modify fun b => { b with pendingText := "", mode := b.original }
      dispatch fuel tok

def inCaption : Nat → Token → BuildM Unit
  | 0, _ => pure ()
  | fuel + 1, tok => do
    let b ← get
    let closesCaption : Bool := match tok with
      | .startTag t => ["caption", "col", "colgroup", "tbody", "td", "tfoot", "th", "thead", "tr"].contains t.name
      | .endTag n => n == "table"
      | _ => false
    match tok with
    | .endTag "caption" =>
      if b.inScope ["caption"] .table then closeCaption
    | .endTag n =>
      if closesCaption then
        if b.inScope ["caption"] .table then do
          closeCaption
          dispatch fuel tok
      else if ["body", "col", "colgroup", "html", "tbody", "td", "tfoot", "th", "thead", "tr"].contains n then
        pure ()
      else inBody fuel tok
    | _ =>
      if closesCaption then
        if b.inScope ["caption"] .table then do
          closeCaption
          dispatch fuel tok
      else inBody fuel tok

def inColumnGroup : Nat → Token → BuildM Unit
  | 0, _ => pure ()
  | fuel + 1, tok => do
    let b ← get
    let other : BuildM Unit := do
      if b.currentIs ["colgroup"] then
        popNode
        setMode .inTable
        dispatch fuel tok
    match tok with
    | .chars s =>
      let cs := s.toList
      let blank := String.ofList (cs.takeWhile isTreeSpace)
      let rest := String.ofList (cs.dropWhile isTreeSpace)
      insertText blank
      if !rest.isEmpty then
        if b.currentIs ["colgroup"] then
          popNode
          setMode .inTable
          dispatch fuel (.chars rest)
    | .comment _ => insertComment
    | .doctype => pure ()
    | .startTag t =>
      match t.name with
      | "html" => inBody fuel tok
      | "col" => insertVoid t
      | "template" => inHead fuel tok
      | _ => other
    | .endTag n =>
      match n with
      | "colgroup" =>
        if b.currentIs ["colgroup"] then do
          popNode
          setMode .inTable
      | "col" => pure ()
      | "template" => inHead fuel tok
      | _ => other
    | .eof => inBody fuel tok

def inTableBody : Nat → Token → BuildM Unit
  | 0, _ => pure ()
  | fuel + 1, tok => do
    let b ← get
    let leave : BuildM Unit := do
      clearStackTo ["tbody", "tfoot", "thead", "template", "html"]
      popNode
      setMode .inTable
    match tok with
    | .startTag t =>
      match t.name with
      | "tr" => do
        clearStackTo ["tbody", "tfoot", "thead", "template", "html"]
        let _ ← insertHtml t
        setMode .inRow
      | "th" | "td" => do
        clearStackTo ["tbody", "tfoot", "thead", "template", "html"]
        let _ ← insertHtml { name := "tr" }
        setMode .inRow
        dispatch fuel tok
      | "caption" | "col" | "colgroup" | "tbody" | "tfoot" | "thead" =>
        if b.inScope ["tbody", "thead", "tfoot"] .table then do
          leave
          dispatch fuel tok
      | _ => inTable fuel tok
    | .endTag n =>
      match n with
      | "tbody" | "tfoot" | "thead" =>
        if b.inScope [n] .table then leave
      | "table" =>
        if b.inScope ["tbody", "thead", "tfoot"] .table then do
          leave
          dispatch fuel tok
      | "body" | "caption" | "col" | "colgroup" | "html" | "td" | "th" | "tr" => pure ()
      | _ => inTable fuel tok
    | _ => inTable fuel tok

def inRow : Nat → Token → BuildM Unit
  | 0, _ => pure ()
  | fuel + 1, tok => do
    let b ← get
    let leave : BuildM Unit := do
      clearStackTo ["tr", "template", "html"]
      popNode
      setMode .inTableBody
    match tok with
    | .startTag t =>
      match t.name with
      | "th" | "td" => do
        clearStackTo ["tr", "template", "html"]
        let _ ← insertHtml t
        setMode .inCell
        pushMarker
      | "caption" | "col" | "colgroup" | "tbody" | "tfoot" | "thead" | "tr" =>
        if b.inScope ["tr"] .table then do
          leave
          dispatch fuel tok
      | _ => inTable fuel tok
    | .endTag n =>
      match n with
      | "tr" => if b.inScope ["tr"] .table then leave
      | "table" =>
        if b.inScope ["tr"] .table then do
          leave
          dispatch fuel tok
      | "tbody" | "tfoot" | "thead" =>
        if b.inScope [n] .table && b.inScope ["tr"] .table then do
          leave
          dispatch fuel tok
      | "body" | "caption" | "col" | "colgroup" | "html" | "td" | "th" => pure ()
      | _ => inTable fuel tok
    | _ => inTable fuel tok

def inCell : Nat → Token → BuildM Unit
  | 0, _ => pure ()
  | fuel + 1, tok => do
    let b ← get
    match tok with
    | .startTag t =>
      if ["caption", "col", "colgroup", "tbody", "td", "tfoot", "th", "thead", "tr"].contains t.name then
        if b.inScope ["td", "th"] .table then do
          closeCell
          dispatch fuel tok
      else inBody fuel tok
    | .endTag n =>
      match n with
      | "td" | "th" =>
        if b.inScope [n] .table then do
          generateImpliedEndTags
          popUntilHtml [n]
          clearFormattingToMarker
          setMode .inRow
      | "body" | "caption" | "col" | "colgroup" | "html" => pure ()
      | "table" | "tbody" | "tfoot" | "thead" | "tr" =>
        if b.inScope [n] .table then do
          closeCell
          dispatch fuel tok
      | _ => inBody fuel tok
    | _ => inBody fuel tok

def inTemplate : Nat → Token → BuildM Unit
  | 0, _ => pure ()
  | fuel + 1, tok => do
    let switchMode (m : Mode) : BuildM Unit := do
      modify fun b => { b with templateModes := b.templateModes.pop.push m, mode := m }
      dispatch fuel tok
    match tok with
    | .chars _ | .comment _ | .doctype => inBody fuel tok
    | .startTag t =>
      match t.name with
      | "base" | "basefont" | "bgsound" | "link" | "meta" | "noframes" | "script" | "style"
      | "template" | "title" => inHead fuel tok
      | "caption" | "colgroup" | "tbody" | "tfoot" | "thead" => switchMode .inTable
      | "col" => switchMode .inColumnGroup
      | "tr" => switchMode .inTableBody
      | "td" | "th" => switchMode .inRow
      | _ => switchMode .inBody
    | .endTag "template" => inHead fuel tok
    | .endTag _ => pure ()
    | .eof => do
      if !(← get).templateOpen then return
      popUntilHtml ["template"]
      clearFormattingToMarker
      modify fun b => { b with templateModes := b.templateModes.pop }
      resetInsertionMode
      dispatch fuel tok

end

end Herald.Markup
