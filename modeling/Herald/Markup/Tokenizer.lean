import Herald.Markup.Entities

set_option autoImplicit false

/-!
Splitting HTML text into tokens.

The tokenizer is the state machine of the HTML standard. It reads
characters and emits character runs, start tags (with lowercase names, their
attributes, first one of a name wins, and the self-closing flag), end tags,
comments, doctypes and the end of input. Character references are resolved
in text and in attribute values.

The tree builder steers it: after some start tags the next text is read as
escapable raw text (`title`, `textarea`), raw text (`style`, `xmp`,
`iframe`, `noembed`, `noframes`, `noscript`), script text or plain text to
the end; and `<![CDATA[` opens a character section only inside foreign
(SVG or MathML) content.

The input has already had its line breaks normalized: a carriage return,
alone or before a line feed, is a line feed.
-/

namespace Herald.Markup

/-- A start tag. -/
structure Tag where
  name : String
  attrs : List (String × String) := []
  selfClosing : Bool := false
  deriving Inhabited, BEq

/-- The value of an attribute, if the tag has it. -/
def Tag.attr? (t : Tag) (name : String) : Option String := t.attrs.lookup name

/-- What the tokenizer emits. -/
inductive Token where
  | chars (s : String)
  | startTag (t : Tag)
  | endTag (name : String)
  | comment (s : String)
  | doctype
  | eof
  deriving Inhabited

/-- The tokenizer's states. -/
inductive TokState where
  | data | rcdata | rawtext | scriptData | plaintext
  | tagOpen | endTagOpen | tagName
  | rcdataLt | rcdataEndTagOpen | rcdataEndTagName
  | rawtextLt | rawtextEndTagOpen | rawtextEndTagName
  | scriptDataLt | scriptDataEndTagOpen | scriptDataEndTagName
  | scriptDataEscapeStart | scriptDataEscapeStartDash
  | scriptDataEscaped | scriptDataEscapedDash | scriptDataEscapedDashDash
  | scriptDataEscapedLt | scriptDataEscapedEndTagOpen | scriptDataEscapedEndTagName
  | scriptDataDoubleEscapeStart | scriptDataDoubleEscaped | scriptDataDoubleEscapedDash
  | scriptDataDoubleEscapedDashDash | scriptDataDoubleEscapedLt | scriptDataDoubleEscapeEnd
  | beforeAttrName | attrName | afterAttrName | beforeAttrValue
  | attrValueDouble | attrValueSingle | attrValueUnquoted | afterAttrValueQuoted
  | selfClosingStartTag | bogusComment | markupDeclOpen
  | commentStart | commentStartDash | comment | commentLt | commentLtBang
  | commentLtBangDash | commentLtBangDashDash | commentEndDash | commentEnd | commentEndBang
  | doctype | cdataSection | cdataSectionBracket | cdataSectionEnd
  deriving DecidableEq, Inhabited

/-- The tokenizer: the input, where it stands, and the token being built. -/
structure Tokenizer where
  input : Array Char
  pos : Nat := 0
  state : TokState := .data
  tagName : String := ""
  tagIsEnd : Bool := false
  selfClosing : Bool := false
  attrs : Array (String × String) := #[]
  attrName : String := ""
  attrValue : String := ""
  hasAttr : Bool := false
  tempBuffer : String := ""
  commentText : String := ""
  lastStartTag : String := ""
  deriving Inhabited

/-- Whitespace as the tokenizer sees it: tab, line feed, form feed, space. -/
def isSpaceChar (c : Char) : Bool := c == '\t' || c == '\n' || c == '\x0C' || c == ' '

/-- Whether a character is an ASCII letter. -/
def isAsciiAlpha (c : Char) : Bool := ('a' ≤ c && c ≤ 'z') || ('A' ≤ c && c ≤ 'Z')

/-- Whether a character is an ASCII letter or digit. -/
def isAsciiAlnum (c : Char) : Bool := isAsciiAlpha c || ('0' ≤ c && c ≤ '9')

def lowerChar (c : Char) : Char := if 'A' ≤ c && c ≤ 'Z' then Char.ofNat (c.toNat + 32) else c

def lowerText (s : String) : String := s.map lowerChar

def replacementChar : Char := Char.ofNat 0xFFFD

/-- The characters of the Windows-1252 range that numeric references in
0x80..0x9F stand for. -/
def c1Replacement (n : Nat) : Option Nat :=
  match n with
  | 0x80 => some 0x20AC | 0x82 => some 0x201A | 0x83 => some 0x0192 | 0x84 => some 0x201E
  | 0x85 => some 0x2026 | 0x86 => some 0x2020 | 0x87 => some 0x2021 | 0x88 => some 0x02C6
  | 0x89 => some 0x2030 | 0x8A => some 0x0160 | 0x8B => some 0x2039 | 0x8C => some 0x0152
  | 0x8E => some 0x017D | 0x91 => some 0x2018 | 0x92 => some 0x2019 | 0x93 => some 0x201C
  | 0x94 => some 0x201D | 0x95 => some 0x2022 | 0x96 => some 0x2013 | 0x97 => some 0x2014
  | 0x98 => some 0x02DC | 0x99 => some 0x2122 | 0x9A => some 0x0161 | 0x9B => some 0x203A
  | 0x9C => some 0x0153 | 0x9E => some 0x017E | 0x9F => some 0x0178
  | _ => none

/-- The character a numeric reference stands for. -/
def numericReference (n : Nat) : Char :=
  if n == 0 || n > 0x10FFFF || (0xD800 ≤ n && n ≤ 0xDFFF) then replacementChar
  else match c1Replacement n with
    | some r => Char.ofNat r
    | none => Char.ofNat n

private def hexDigitValue (c : Char) : Option Nat :=
  if '0' ≤ c && c ≤ '9' then some (c.toNat - 48)
  else if 'a' ≤ c && c ≤ 'f' then some (c.toNat - 87)
  else if 'A' ≤ c && c ≤ 'F' then some (c.toNat - 55)
  else none

/-- The digits of a numeric reference from `pos`: how many there are and
their value, capped just past the largest code point. -/
def numericDigits (input : Array Char) (pos : Nat) (hex : Bool) : Nat × Nat :=
  let rec go (i : Nat) (count value : Nat) : Nat → Nat × Nat
    | 0 => (count, value)
    | fuel + 1 =>
      match input[i]? with
      | some c =>
        let d := if hex then hexDigitValue c else if '0' ≤ c && c ≤ '9' then some (c.toNat - 48) else none
        match d with
        | some v => go (i + 1) (count + 1) (min (value * (if hex then 16 else 10) + v) 0x110000) fuel
        | none => (count, value)
      | none => (count, value)
  go pos 0 0 (input.size - pos + 1)

/-- A character reference after an ampersand at `pos - 1`: how many
characters after the ampersand it takes, and the text it stands for. When
nothing matches, nothing is taken and the text is the ampersand itself. -/
def characterReference (input : Array Char) (pos : Nat) (inAttribute : Bool) : Nat × String :=
  match input[pos]? with
  | some '#' =>
    let (hex, start) :=
      match input[pos + 1]? with
      | some 'x' | some 'X' => (true, pos + 2)
      | _ => (false, pos + 1)
    let (count, value) := numericDigits input start hex
    if count == 0 then (0, "&")
    else
      let afterDigits := start + count
      let taken := if input[afterDigits]? == some ';' then afterDigits + 1 else afterDigits
      (taken - pos, String.singleton (numericReference value))
  | some c =>
    if isAsciiAlnum c then
      let rest := (input.extract pos (pos + longestEntityName)).toList
      match matchEntity rest with
      | some (len, codes) =>
        let last := rest.getD (len - 1) ' '
        let after := input[pos + len]?
        let historical := inAttribute && last != ';' &&
          (after == some '=' || (after.map isAsciiAlnum).getD false)
        if historical then (0, "&")
        else (len, String.ofList (codes.map Char.ofNat))
      | none => (0, "&")
    else (0, "&")
  | none => (0, "&")

namespace Tokenizer

def create (input : Array Char) : Tokenizer := { input }

def current (t : Tokenizer) : Option Char := t.input[t.pos]?

def advance (t : Tokenizer) (n : Nat := 1) : Tokenizer := { t with pos := t.pos + n }

def go (t : Tokenizer) (s : TokState) : Tokenizer := { t with state := s }

def startTag (t : Tokenizer) (isEnd : Bool) : Tokenizer :=
  { t with tagName := "", tagIsEnd := isEnd, selfClosing := false, attrs := #[], hasAttr := false }

/-- Keep the attribute being read, unless one of its name is already there. -/
def commitAttr (t : Tokenizer) : Tokenizer :=
  if t.hasAttr then
    let attrs := if t.attrs.any (·.1 == t.attrName) then t.attrs else t.attrs.push (t.attrName, t.attrValue)
    { t with attrs, hasAttr := false, attrName := "", attrValue := "" }
  else t

def newAttr (t : Tokenizer) (name : String) : Tokenizer :=
  { t.commitAttr with hasAttr := true, attrName := name, attrValue := "" }

/-- The tag being built, as a token; a start tag becomes the last start tag. -/
def emitTag (t : Tokenizer) : Tokenizer × Option Token :=
  let t := t.commitAttr
  if t.tagIsEnd then (t, some (.endTag t.tagName))
  else
    ({ t with lastStartTag := t.tagName },
      some (.startTag { name := t.tagName, attrs := t.attrs.toList, selfClosing := t.selfClosing }))

/-- Whether the end tag being built closes the element whose text is being read. -/
def appropriate (t : Tokenizer) : Bool := !t.lastStartTag.isEmpty && t.tagName == t.lastStartTag

/-- Whether the characters at the position spell `word`, ASCII case ignored
when `caseless`. -/
def lookingAt (t : Tokenizer) (word : String) (caseless : Bool) : Bool :=
  let cs := word.toList
  (List.range cs.length).all fun i =>
    match t.input[t.pos + i]? with
    | some c => if caseless then lowerChar c == lowerChar (cs.getD i ' ') else c == cs.getD i ' '
    | none => false

/-- The run of plain text from the position: characters that need no state
change in a text state whose special characters are `special`. -/
def plainRun (t : Tokenizer) (special : Char → Bool) : Nat :=
  let rec go (i : Nat) : Nat → Nat
    | 0 => i
    | fuel + 1 =>
      match t.input[i]? with
      | some c => if special c || c == Char.ofNat 0 then i else go (i + 1) fuel
      | none => i
  go t.pos (t.input.size - t.pos + 1) - t.pos

/-- Emit the run of plain text at the position, if any. -/
def textRun (t : Tokenizer) (special : Char → Bool) : Option (Tokenizer × Option Token) :=
  let n := t.plainRun special
  if n == 0 then none
  else some (t.advance n, some (.chars (String.ofList (t.input.extract t.pos (t.pos + n)).toList)))

/-- The end-tag-name states of the text states share their rules; `back` is
the text state to return to. -/
def endTagNameStep (t : Tokenizer) (back : TokState) : Tokenizer × Option Token :=
  let other : Tokenizer × Option Token :=
    (t.go back, some (.chars ("</" ++ t.tempBuffer)))
  match t.current with
  | some c =>
    if isSpaceChar c then
      if t.appropriate then (t.advance.go .beforeAttrName, none) else other
    else if c == '/' then
      if t.appropriate then (t.advance.go .selfClosingStartTag, none) else other
    else if c == '>' then
      if t.appropriate then (t.advance.go .data).emitTag else other
    else if isAsciiAlpha c then
      ({ t.advance with tagName := t.tagName.push (lowerChar c), tempBuffer := t.tempBuffer.push c }, none)
    else other
  | none => other

def addComment (t : Tokenizer) (s : String) : Tokenizer := { t with commentText := t.commentText ++ s }

def emitComment (t : Tokenizer) : Tokenizer × Option Token := (t, some (.comment t.commentText))

/-- One step of the state machine: consume or reconsider one character,
possibly emitting a token. `cdata` says whether a CDATA section may open. -/
def step (t : Tokenizer) (cdata : Bool) : Tokenizer × Option Token :=
  let c? := t.current
  let nul := Char.ofNat 0
  match t.state with
  | .data =>
    match t.textRun (fun c => c == '&' || c == '<') with
    | some r => r
    | none =>
      match c? with
      | some '&' =>
        let (n, text) := characterReference t.input (t.pos + 1) false
        (t.advance (n + 1), some (.chars text))
      | some '<' => (t.advance.go .tagOpen, none)
      | some c => (t.advance, some (.chars (String.singleton c)))
      | none => (t, some .eof)
  | .rcdata =>
    match t.textRun (fun c => c == '&' || c == '<') with
    | some r => r
    | none =>
      match c? with
      | some '&' =>
        let (n, text) := characterReference t.input (t.pos + 1) false
        (t.advance (n + 1), some (.chars text))
      | some '<' => (t.advance.go .rcdataLt, none)
      | some _ => (t.advance, some (.chars (String.singleton replacementChar)))
      | none => (t, some .eof)
  | .rawtext =>
    match t.textRun (· == '<') with
    | some r => r
    | none =>
      match c? with
      | some '<' => (t.advance.go .rawtextLt, none)
      | some _ => (t.advance, some (.chars (String.singleton replacementChar)))
      | none => (t, some .eof)
  | .scriptData =>
    match t.textRun (· == '<') with
    | some r => r
    | none =>
      match c? with
      | some '<' => (t.advance.go .scriptDataLt, none)
      | some _ => (t.advance, some (.chars (String.singleton replacementChar)))
      | none => (t, some .eof)
  | .plaintext =>
    match t.textRun (fun _ => false) with
    | some r => r
    | none =>
      match c? with
      | some _ => (t.advance, some (.chars (String.singleton replacementChar)))
      | none => (t, some .eof)
  | .tagOpen =>
    match c? with
    | some '!' => (t.advance.go .markupDeclOpen, none)
    | some '/' => (t.advance.go .endTagOpen, none)
    | some '?' => ({ t with commentText := "" }.go .bogusComment, none)
    | some c =>
      if isAsciiAlpha c then ((t.startTag false).go .tagName, none)
      else (t.go .data, some (.chars "<"))
    | none => (t.go .data, some (.chars "<"))
  | .endTagOpen =>
    match c? with
    | some '>' => (t.advance.go .data, none)
    | some c =>
      if isAsciiAlpha c then ((t.startTag true).go .tagName, none)
      else ({ t with commentText := "" }.go .bogusComment, none)
    | none => (t.go .data, some (.chars "</"))
  | .tagName =>
    match c? with
    | some c =>
      if isSpaceChar c then (t.advance.go .beforeAttrName, none)
      else if c == '/' then (t.advance.go .selfClosingStartTag, none)
      else if c == '>' then (t.advance.go .data).emitTag
      else if c == nul then ({ t.advance with tagName := t.tagName.push replacementChar }, none)
      else ({ t.advance with tagName := t.tagName.push (lowerChar c) }, none)
    | none => (t.go .data, none)
  | .rcdataLt =>
    match c? with
    | some '/' => ({ t.advance with tempBuffer := "" }.go .rcdataEndTagOpen, none)
    | _ => (t.go .rcdata, some (.chars "<"))
  | .rcdataEndTagOpen =>
    match c? with
    | some c =>
      if isAsciiAlpha c then ((t.startTag true).go .rcdataEndTagName, none)
      else (t.go .rcdata, some (.chars "</"))
    | none => (t.go .rcdata, some (.chars "</"))
  | .rcdataEndTagName => t.endTagNameStep .rcdata
  | .rawtextLt =>
    match c? with
    | some '/' => ({ t.advance with tempBuffer := "" }.go .rawtextEndTagOpen, none)
    | _ => (t.go .rawtext, some (.chars "<"))
  | .rawtextEndTagOpen =>
    match c? with
    | some c =>
      if isAsciiAlpha c then ((t.startTag true).go .rawtextEndTagName, none)
      else (t.go .rawtext, some (.chars "</"))
    | none => (t.go .rawtext, some (.chars "</"))
  | .rawtextEndTagName => t.endTagNameStep .rawtext
  | .scriptDataLt =>
    match c? with
    | some '/' => ({ t.advance with tempBuffer := "" }.go .scriptDataEndTagOpen, none)
    | some '!' => (t.advance.go .scriptDataEscapeStart, some (.chars "<!"))
    | _ => (t.go .scriptData, some (.chars "<"))
  | .scriptDataEndTagOpen =>
    match c? with
    | some c =>
      if isAsciiAlpha c then ((t.startTag true).go .scriptDataEndTagName, none)
      else (t.go .scriptData, some (.chars "</"))
    | none => (t.go .scriptData, some (.chars "</"))
  | .scriptDataEndTagName => t.endTagNameStep .scriptData
  | .scriptDataEscapeStart =>
    match c? with
    | some '-' => (t.advance.go .scriptDataEscapeStartDash, some (.chars "-"))
    | _ => (t.go .scriptData, none)
  | .scriptDataEscapeStartDash =>
    match c? with
    | some '-' => (t.advance.go .scriptDataEscapedDashDash, some (.chars "-"))
    | _ => (t.go .scriptData, none)
  | .scriptDataEscaped =>
    match t.textRun (fun c => c == '-' || c == '<') with
    | some r => r
    | none =>
      match c? with
      | some '-' => (t.advance.go .scriptDataEscapedDash, some (.chars "-"))
      | some '<' => (t.advance.go .scriptDataEscapedLt, none)
      | some _ => (t.advance, some (.chars (String.singleton replacementChar)))
      | none => (t.go .data, none)
  | .scriptDataEscapedDash =>
    match c? with
    | some '-' => (t.advance.go .scriptDataEscapedDashDash, some (.chars "-"))
    | some '<' => (t.advance.go .scriptDataEscapedLt, none)
    | some c =>
      (t.advance.go .scriptDataEscaped,
        some (.chars (String.singleton (if c == nul then replacementChar else c))))
    | none => (t.go .data, none)
  | .scriptDataEscapedDashDash =>
    match c? with
    | some '-' => (t.advance, some (.chars "-"))
    | some '<' => (t.advance.go .scriptDataEscapedLt, none)
    | some '>' => (t.advance.go .scriptData, some (.chars ">"))
    | some c =>
      (t.advance.go .scriptDataEscaped,
        some (.chars (String.singleton (if c == nul then replacementChar else c))))
    | none => (t.go .data, none)
  | .scriptDataEscapedLt =>
    match c? with
    | some '/' => ({ t.advance with tempBuffer := "" }.go .scriptDataEscapedEndTagOpen, none)
    | some c =>
      if isAsciiAlpha c then ({ t with tempBuffer := "" }.go .scriptDataDoubleEscapeStart, some (.chars "<"))
      else (t.go .scriptDataEscaped, some (.chars "<"))
    | none => (t.go .scriptDataEscaped, some (.chars "<"))
  | .scriptDataEscapedEndTagOpen =>
    match c? with
    | some c =>
      if isAsciiAlpha c then ((t.startTag true).go .scriptDataEscapedEndTagName, none)
      else (t.go .scriptDataEscaped, some (.chars "</"))
    | none => (t.go .scriptDataEscaped, some (.chars "</"))
  | .scriptDataEscapedEndTagName => t.endTagNameStep .scriptDataEscaped
  | .scriptDataDoubleEscapeStart =>
    match c? with
    | some c =>
      if isSpaceChar c || c == '/' || c == '>' then
        (t.advance.go (if t.tempBuffer == "script" then .scriptDataDoubleEscaped else .scriptDataEscaped),
          some (.chars (String.singleton c)))
      else if isAsciiAlpha c then
        ({ t.advance with tempBuffer := t.tempBuffer.push (lowerChar c) }, some (.chars (String.singleton c)))
      else (t.go .scriptDataEscaped, none)
    | none => (t.go .scriptDataEscaped, none)
  | .scriptDataDoubleEscaped =>
    match t.textRun (fun c => c == '-' || c == '<') with
    | some r => r
    | none =>
      match c? with
      | some '-' => (t.advance.go .scriptDataDoubleEscapedDash, some (.chars "-"))
      | some '<' => (t.advance.go .scriptDataDoubleEscapedLt, some (.chars "<"))
      | some _ => (t.advance, some (.chars (String.singleton replacementChar)))
      | none => (t.go .data, none)
  | .scriptDataDoubleEscapedDash =>
    match c? with
    | some '-' => (t.advance.go .scriptDataDoubleEscapedDashDash, some (.chars "-"))
    | some '<' => (t.advance.go .scriptDataDoubleEscapedLt, some (.chars "<"))
    | some c =>
      (t.advance.go .scriptDataDoubleEscaped,
        some (.chars (String.singleton (if c == nul then replacementChar else c))))
    | none => (t.go .data, none)
  | .scriptDataDoubleEscapedDashDash =>
    match c? with
    | some '-' => (t.advance, some (.chars "-"))
    | some '<' => (t.advance.go .scriptDataDoubleEscapedLt, some (.chars "<"))
    | some '>' => (t.advance.go .scriptData, some (.chars ">"))
    | some c =>
      (t.advance.go .scriptDataDoubleEscaped,
        some (.chars (String.singleton (if c == nul then replacementChar else c))))
    | none => (t.go .data, none)
  | .scriptDataDoubleEscapedLt =>
    match c? with
    | some '/' => ({ t.advance with tempBuffer := "" }.go .scriptDataDoubleEscapeEnd, some (.chars "/"))
    | _ => (t.go .scriptDataDoubleEscaped, none)
  | .scriptDataDoubleEscapeEnd =>
    match c? with
    | some c =>
      if isSpaceChar c || c == '/' || c == '>' then
        (t.advance.go (if t.tempBuffer == "script" then .scriptDataEscaped else .scriptDataDoubleEscaped),
          some (.chars (String.singleton c)))
      else if isAsciiAlpha c then
        ({ t.advance with tempBuffer := t.tempBuffer.push (lowerChar c) }, some (.chars (String.singleton c)))
      else (t.go .scriptDataDoubleEscaped, none)
    | none => (t.go .scriptDataDoubleEscaped, none)
  | .beforeAttrName =>
    match c? with
    | some c =>
      if isSpaceChar c then (t.advance, none)
      else if c == '/' || c == '>' then (t.go .afterAttrName, none)
      else if c == '=' then ((t.newAttr "=").advance.go .attrName, none)
      else ((t.newAttr "").go .attrName, none)
    | none => (t.go .afterAttrName, none)
  | .attrName =>
    match c? with
    | some c =>
      if isSpaceChar c || c == '/' || c == '>' then (t.go .afterAttrName, none)
      else if c == '=' then (t.advance.go .beforeAttrValue, none)
      else if c == nul then ({ t.advance with attrName := t.attrName.push replacementChar }, none)
      else ({ t.advance with attrName := t.attrName.push (lowerChar c) }, none)
    | none => (t.go .afterAttrName, none)
  | .afterAttrName =>
    match c? with
    | some c =>
      if isSpaceChar c then (t.advance, none)
      else if c == '/' then (t.advance.go .selfClosingStartTag, none)
      else if c == '=' then (t.advance.go .beforeAttrValue, none)
      else if c == '>' then (t.advance.go .data).emitTag
      else ((t.newAttr "").go .attrName, none)
    | none => (t.go .data, none)
  | .beforeAttrValue =>
    match c? with
    | some c =>
      if isSpaceChar c then (t.advance, none)
      else if c == '"' then (t.advance.go .attrValueDouble, none)
      else if c == '\'' then (t.advance.go .attrValueSingle, none)
      else if c == '>' then (t.advance.go .data).emitTag
      else (t.go .attrValueUnquoted, none)
    | none => (t.go .attrValueUnquoted, none)
  | .attrValueDouble | .attrValueSingle =>
    let quote := if t.state == .attrValueDouble then '"' else '\''
    match c? with
    | some c =>
      if c == quote then (t.advance.go .afterAttrValueQuoted, none)
      else if c == '&' then
        let (n, text) := characterReference t.input (t.pos + 1) true
        ({ t.advance (n + 1) with attrValue := t.attrValue ++ text }, none)
      else if c == nul then ({ t.advance with attrValue := t.attrValue.push replacementChar }, none)
      else ({ t.advance with attrValue := t.attrValue.push c }, none)
    | none => (t.go .data, none)
  | .attrValueUnquoted =>
    match c? with
    | some c =>
      if isSpaceChar c then (t.advance.go .beforeAttrName, none)
      else if c == '&' then
        let (n, text) := characterReference t.input (t.pos + 1) true
        ({ t.advance (n + 1) with attrValue := t.attrValue ++ text }, none)
      else if c == '>' then (t.advance.go .data).emitTag
      else if c == nul then ({ t.advance with attrValue := t.attrValue.push replacementChar }, none)
      else ({ t.advance with attrValue := t.attrValue.push c }, none)
    | none => (t.go .data, none)
  | .afterAttrValueQuoted =>
    match c? with
    | some c =>
      if isSpaceChar c then (t.advance.go .beforeAttrName, none)
      else if c == '/' then (t.advance.go .selfClosingStartTag, none)
      else if c == '>' then (t.advance.go .data).emitTag
      else (t.go .beforeAttrName, none)
    | none => (t.go .data, none)
  | .selfClosingStartTag =>
    match c? with
    | some '>' => ({ t.advance with selfClosing := true }.go .data).emitTag
    | some _ => (t.go .beforeAttrName, none)
    | none => (t.go .data, none)
  | .bogusComment =>
    match c? with
    | some '>' => (t.advance.go .data).emitComment
    | some c => (t.advance.addComment (String.singleton (if c == nul then replacementChar else c)), none)
    | none => (t.go .data).emitComment
  | .markupDeclOpen =>
    if t.lookingAt "--" false then ({ t.advance 2 with commentText := "" }.go .commentStart, none)
    else if t.lookingAt "doctype" true then (t.advance 7 |>.go .doctype, none)
    else if t.lookingAt "[CDATA[" false then
      if cdata then (t.advance 7 |>.go .cdataSection, none)
      else ({ t.advance 7 with commentText := "[CDATA[" }.go .bogusComment, none)
    else ({ t with commentText := "" }.go .bogusComment, none)
  | .commentStart =>
    match c? with
    | some '-' => (t.advance.go .commentStartDash, none)
    | some '>' => (t.advance.go .data).emitComment
    | _ => (t.go .comment, none)
  | .commentStartDash =>
    match c? with
    | some '-' => (t.advance.go .commentEnd, none)
    | some '>' => (t.advance.go .data).emitComment
    | some _ => ((t.addComment "-").go .comment, none)
    | none => (t.go .data).emitComment
  | .comment =>
    match c? with
    | some '<' => ((t.advance.addComment "<").go .commentLt, none)
    | some '-' => (t.advance.go .commentEndDash, none)
    | some c => (t.advance.addComment (String.singleton (if c == nul then replacementChar else c)), none)
    | none => (t.go .data).emitComment
  | .commentLt =>
    match c? with
    | some '!' => ((t.advance.addComment "!").go .commentLtBang, none)
    | some '<' => (t.advance.addComment "<", none)
    | _ => (t.go .comment, none)
  | .commentLtBang =>
    match c? with
    | some '-' => (t.advance.go .commentLtBangDash, none)
    | _ => (t.go .comment, none)
  | .commentLtBangDash =>
    match c? with
    | some '-' => (t.advance.go .commentLtBangDashDash, none)
    | _ => (t.go .commentEndDash, none)
  | .commentLtBangDashDash => (t.go .commentEnd, none)
  | .commentEndDash =>
    match c? with
    | some '-' => (t.advance.go .commentEnd, none)
    | some _ => ((t.addComment "-").go .comment, none)
    | none => (t.go .data).emitComment
  | .commentEnd =>
    match c? with
    | some '>' => (t.advance.go .data).emitComment
    | some '!' => (t.advance.go .commentEndBang, none)
    | some '-' => (t.advance.addComment "-", none)
    | some _ => ((t.addComment "--").go .comment, none)
    | none => (t.go .data).emitComment
  | .commentEndBang =>
    match c? with
    | some '-' => ((t.advance.addComment "--!").go .commentEndDash, none)
    | some '>' => (t.advance.go .data).emitComment
    | some _ => ((t.addComment "--!").go .comment, none)
    | none => (t.go .data).emitComment
  | .doctype =>
    match c? with
    | some '>' => (t.advance.go .data, some .doctype)
    | some _ => (t.advance, none)
    | none => (t.go .data, some .doctype)
  | .cdataSection =>
    match t.textRun (· == ']') with
    | some r => r
    | none =>
      match c? with
      | some ']' => (t.advance.go .cdataSectionBracket, none)
      | some c => (t.advance, some (.chars (String.singleton c)))
      | none => (t.go .data, none)
  | .cdataSectionBracket =>
    match c? with
    | some ']' => (t.advance.go .cdataSectionEnd, none)
    | _ => (t.go .cdataSection, some (.chars "]"))
  | .cdataSectionEnd =>
    match c? with
    | some ']' => (t.advance, some (.chars "]"))
    | some '>' => (t.advance.go .data, none)
    | _ => (t.go .cdataSection, some (.chars "]]"))

/-- Run the state machine to the next token. -/
def nextToken (t : Tokenizer) (cdata : Bool) : Token × Tokenizer :=
  let rec go (t : Tokenizer) : Nat → Token × Tokenizer
    | 0 => (.eof, t)
    | fuel + 1 =>
      match t.step cdata with
      | (t', some tok) => (tok, t')
      | (t', none) => go t' fuel
  go t (8 * (t.input.size - t.pos) + 64)

end Tokenizer

/-- Normalize line breaks: CR LF and a lone CR become LF. A leading byte
order mark is dropped. -/
def preprocessInput (s : String) : Array Char :=
  let cs := match s.toList with
    | c :: rest => if c.toNat == 0xFEFF then rest else c :: rest
    | [] => []
  let rec go (acc : Array Char) : List Char → Array Char
    | [] => acc
    | '\r' :: '\n' :: rest => go (acc.push '\n') rest
    | '\r' :: rest => go (acc.push '\n') rest
    | c :: rest => go (acc.push c) rest
  go #[] cs

end Herald.Markup
