import Mathlib
import Herald.Proofs.EscapeReading
import Herald.Proofs.ClusterRun

set_option autoImplicit false

/-!
# Stripping markup from stripped text

Text without markup parses into the root holding one text node: every token
the tokenizer reads from it is a piece of the text, and the body rules
append each piece, less its NULs, to the text node (`HoldsText.dispatch_chars`).
So stripping markup from an escaped text gives back the text after the
input normalization of HTML (a leading byte-order mark dropped, line breaks
made line feeds), without NULs, escaped again and trimmed
(`stripMarkup_escaped`).

For what markup removal writes this means that a second removal leaves it
as it is, except where it holds a carriage return, a NUL, or a leading
byte-order mark, the characters the input normalization or the body rules
change (`stripped_markup_is_escaped_text`).
-/

namespace Herald.Markup

open Herald.Cluster (id_bind id_pure)

/-- The tree a fragment of plain text parses into: the root, holding one text
node when the text is not empty. -/
def textDom : List Char → Dom
  | [] => Dom.rootOnly
  | text@(_ :: _) =>
    { nodes := #[{ Dom.rootOnly.node 0 with children := #[1] },
        { kind := .text (String.ofList text), parent := some 0 }] }

@[simp] theorem textDom_nil : textDom [] = Dom.rootOnly := rfl

@[simp] theorem textDom_cons (c : Char) (rest : List Char) :
    textDom (c :: rest) = { nodes := #[{ Dom.rootOnly.node 0 with children := #[1] },
      { kind := .text (String.ofList (c :: rest)), parent := some 0 }] } := rfl

theorem textDom_insertText (text : List Char) {s : String} (nonempty : s.isEmpty = false) :
    (textDom text).insertText 0 none s = textDom (text ++ s.toList) := by
  cases text with
  | nil =>
    obtain ⟨c, rest, split⟩ : ∃ c rest, s.toList = c :: rest := by
      cases spelled : s.toList with
      | nil => simp_all
      | cons c rest => exact ⟨c, rest, rfl⟩
    rw [List.nil_append, split, textDom_cons, ← split, String.ofList_toList]
    simp [Dom.insertText, Dom.previousChild, Dom.create, Dom.insertAt, Dom.detach, Dom.modifyNode,
      Dom.node, Dom.rootOnly]
  | cons c text =>
    -- the new text is merged into the text node already there
    simp [Dom.insertText, Dom.previousChild, Dom.node, Dom.modifyNode, String.append_assoc]

namespace Builder

/-- The builder holds plain text only: the root is the only open element,
no rule is pending, and the tree is the text read so far. -/
structure HoldsText (b : Builder) (text : List Char) : Prop where
  dom : b.dom = textDom text
  stack : b.stack = #[0]
  formatting : b.formatting = #[]
  mode : b.mode = .inBody
  templates : b.templateModes = #[]
  foster : b.fosterParenting = false
  lineFeed : b.ignoreLineFeed = false
  switch : b.switchTo = none

theorem holdsText_init : ({} : Builder).HoldsText [] := ⟨rfl, rfl, rfl, rfl, rfl, rfl, rfl, rfl⟩

variable {b : Builder} {text : List Char}

theorem HoldsText.frameset (holds : b.HoldsText text) (f : Bool) :
    { b with framesetOk := f }.HoldsText text :=
  ⟨holds.dom, holds.stack, holds.formatting, holds.mode, holds.templates, holds.foster,
    holds.lineFeed, holds.switch⟩

/-- With only the root open, the context `div` stands in as the adjusted
current node, so tokens go to the rules of the insertion mode. -/
theorem HoldsText.adjustedElement (holds : b.HoldsText text) : b.adjustedElement = contextElement := by
  simp [Builder.adjustedElement, holds.stack]

theorem HoldsText.lineFeed_self (holds : b.HoldsText text) : { b with ignoreLineFeed := false } = b := by
  obtain ⟨-, -, -, -, -, -, lineFeed, -⟩ := holds
  cases b
  simp_all

end Builder

open Builder

variable {b : Builder} {text : List Char}

theorem reconstructFormatting_run (holds : b.HoldsText text) : reconstructFormatting.run b = ((), b) := by
  simp [reconstructFormatting, holds.formatting]

theorem insertText_run (holds : b.HoldsText text) {s : String} (nonempty : s.isEmpty = false) :
    (insertText s).run b = ((), { b with dom := (textDom text).insertText 0 none s }) := by
  simp [insertText, insertionPlace, holds.foster, nonempty, Builder.current, holds.stack, holds.dom]

theorem Builder.HoldsText.insert (holds : b.HoldsText text) {s : String} (nonempty : s.isEmpty = false) :
    { b with dom := (textDom text).insertText 0 none s }.HoldsText (text ++ s.toList) :=
  ⟨textDom_insertText text nonempty, holds.stack, holds.formatting, holds.mode, holds.templates,
    holds.foster, holds.lineFeed, holds.switch⟩

theorem Builder.HoldsText.bodyText (holds : b.HoldsText text) (s : String) :
    ((bodyText s).run b).2.HoldsText (text ++ (dropNul s).toList) := by
  cases nonempty : (dropNul s).isEmpty with
  | true =>
    have empty : dropNul s = "" := String.isEmpty_iff.mp nonempty
    simpa [Markup.bodyText, empty] using holds
  | false =>
    simp only [Markup.bodyText, nonempty, Bool.false_eq_true, if_false, StateT.run_bind,
      reconstructFormatting_run holds, insertText_run holds nonempty, id_bind]
    -- whether the text has ink only touches the frameset flag
    split
    · exact (holds.insert nonempty).frameset false
    · exact holds.insert nonempty

/-- With only the root open every token goes to the rules of the insertion
mode, here the body's. -/
theorem Builder.HoldsText.usesModeRules (holds : b.HoldsText text) (tok : Token) :
    usesModeRules b tok = true := by
  simp [Markup.usesModeRules, holds.adjustedElement, contextElement]

theorem Builder.HoldsText.noCdata (holds : b.HoldsText text) : (b.adjustedElement.ns != .html) = false := by
  simp [holds.adjustedElement, contextElement]

theorem Builder.HoldsText.dispatch_chars (holds : b.HoldsText text) (s : String) :
    ((dispatch 64 (.chars s)).run b).2.HoldsText (text ++ (dropNul s).toList) := by
  simp only [dispatch, StateT.run_bind, StateT.run_get, id_bind, id_pure, holds.usesModeRules, if_true,
    holds.mode, inMode, inBody]
  exact holds.bodyText s

theorem Builder.HoldsText.dispatch_eof (holds : b.HoldsText text) : ((dispatch 64 .eof).run b).2 = b := by
  simp [dispatch, holds.usesModeRules, holds.mode, inMode, inBody, holds.templates]

/-! ## The parse loop over escaped text -/

theorem run_chars {tz tz' : Tokenizer} (holds : b.HoldsText text) {piece : List Char}
    (nonempty : piece ≠ []) (next : tz.nextToken false = (.chars (String.ofList piece), tz'))
    (fuel : Nat) :
    parseFragment.run tz b (fuel + 1) =
      parseFragment.run tz' ((dispatch 64 (.chars (String.ofList piece))).run b).2 fuel := by
  have switch := (holds.dispatch_chars (String.ofList piece)).switch
  have notEmpty : (String.ofList piece).isEmpty = false := by
    simpa [String.isEmpty_iff, ← String.toList_inj] using nonempty
  simp only [parseFragment.run, holds.noCdata, next, holds.lineFeed, Bool.false_and, Bool.false_eq_true,
    if_false, holds.lineFeed_self, notEmpty, switch]

theorem run_eof {tz : Tokenizer} (holds : b.HoldsText text) (next : tz.nextToken false = (.eof, tz))
    (fuel : Nat) : parseFragment.run tz b (fuel + 1) = b := by
  simp only [parseFragment.run, holds.noCdata, next, holds.lineFeed, holds.lineFeed_self, Bool.false_eq_true,
    if_false, holds.dispatch_eof]
  simp [holds.switch]

/-- The parse loop reads what is left of an escaped text into the text node,
without its NULs, given a round for each character of the escape. -/
theorem run_reads_escaped (fuel : Nat) :
    ∀ {tz : Tokenizer} {b : Builder} {done rest text : List Char},
      tz.ReadsEscaped done rest → b.HoldsText text → (escapeText rest).length < fuel →
      (parseFragment.run tz b fuel).HoldsText (text ++ rest.filter (· != Char.ofNat 0)) := by
  induction fuel with
  | zero => intro _ _ _ _ _ _ _ enough; exact absurd enough (Nat.not_lt_zero _)
  | succ fuel inductionHypothesis =>
    intro tz b done rest text reads holds enough
    cases rest with
    | nil =>
      rw [run_eof holds (reads.nextToken_end false)]
      simpa using holds
    | cons c rest =>
      obtain ⟨piece, more, tz', nonempty, split, next, reads'⟩ := reads.nextToken false
      rw [run_chars holds nonempty next]
      have shorter := @escapeText_length_lt _ more nonempty
      rw [← split] at shorter
      have after := inductionHypothesis reads' (holds.dispatch_chars (String.ofList piece)) (by omega)
      rwa [dropNul, String.toList_ofList, String.toList_ofList, List.append_assoc, ← List.filter_append,
        ← split] at after

theorem parseFragment_escaped {s : String} {rest : List Char}
    (input : (preprocessInput s).toList = escapeText rest) :
    parseFragment s = textDom (rest.filter (· != Char.ofNat 0)) := by
  have reads : (Tokenizer.create (preprocessInput s)).ReadsEscaped [] rest := ⟨rfl, input, rfl⟩
  have enough : (escapeText rest).length < 2 * (preprocessInput s).size + 16 := by
    rw [← input, Array.length_toList]
    omega
  have loop := (run_reads_escaped _ reads holdsText_init enough).dom
  rw [List.nil_append] at loop
  exact loop

/-! ## Input normalization and NULs on escaped text -/

/-- Line breaks made line feeds, on a list: what the input normalization
does after the byte-order mark. -/
def lineFeeds : List Char → List Char
  | [] => []
  | '\r' :: '\n' :: rest => '\n' :: lineFeeds rest
  | '\r' :: rest => '\n' :: lineFeeds rest
  | c :: rest => c :: lineFeeds rest

theorem preprocessInput_go (acc : Array Char) (l : List Char) :
    preprocessInput.go acc l = acc ++ (lineFeeds l).toArray := by
  fun_induction preprocessInput.go acc l <;> simp_all [lineFeeds]

theorem lineFeeds_append {w : List Char} (l : List Char) (noReturn : '\r' ∉ w) :
    lineFeeds (w ++ l) = w ++ lineFeeds l := by
  induction w with
  | nil => rfl
  | cons c w inductionHypothesis =>
    have notReturn : c ≠ '\r' := fun same => noReturn (same ▸ List.mem_cons_self)
    rw [List.cons_append, lineFeeds.eq_4 _ _ (fun _ isReturn _ => notReturn isReturn) notReturn,
      inductionHypothesis (fun mem => noReturn (List.mem_cons_of_mem _ mem))]
    rfl

theorem escapeChar_no_return {c : Char} (notReturn : c ≠ '\r') : '\r' ∉ escapeChar c :=
  not_mem_escapeChar (fun same => absurd same.symm notReturn) (by decide)

/-- Escaping keeps line breaks as they are, so making them line feeds
commutes with it. -/
theorem lineFeeds_escapeText (t : List Char) : lineFeeds (escapeText t) = escapeText (lineFeeds t) := by
  have returnWritten : escapeChar '\r' = ['\r'] := escapeChar_of_literal (by decide)
  have feedWritten : escapeChar '\n' = ['\n'] := escapeChar_of_literal (by decide)
  fun_induction lineFeeds t with
  | case1 => rfl
  | case2 rest inductionHypothesis =>
    simp [returnWritten, feedWritten, lineFeeds, inductionHypothesis]
  | case3 rest notFeed inductionHypothesis =>
    -- what follows the carriage return is not written with a line feed first
    have next : ∀ rest', escapeText rest ≠ '\n' :: rest' := by
      intro rest' opens
      cases rest with
      | nil => simp at opens
      | cons d rest =>
        rcases literal_or_escaped d with written | ⟨name, escaped⟩
        · rw [escapeText_cons, escapeChar_of_literal written, List.singleton_append] at opens
          exact notFeed rest (by rw [(List.cons.inj opens).1])
        · rw [escapeText_cons, escapeChar_of_mem escaped, List.cons_append] at opens
          exact absurd (List.cons.inj opens).1 (by decide)
    rw [escapeText_cons, returnWritten, List.singleton_append, lineFeeds.eq_3 _ next, inductionHypothesis]
    simp [feedWritten]
  | case4 c rest _ notReturn inductionHypothesis =>
    rw [escapeText_cons, lineFeeds_append _ (escapeChar_no_return notReturn), inductionHypothesis]
    rfl

theorem preprocessInput_marked {s : String} {rest : List Char} (marked : s.toList = '\uFEFF' :: rest) :
    (preprocessInput s).toList = lineFeeds rest := by
  simp [preprocessInput, preprocessInput_go, marked]

theorem preprocessInput_unmarked {s : String} (unmarked : s.toList.head? ≠ some '\uFEFF') :
    (preprocessInput s).toList = lineFeeds s.toList := by
  cases spelled : s.toList with
  | nil => simp [preprocessInput, preprocessInput_go, spelled, lineFeeds]
  | cons c rest =>
    have notMark : (c.toNat == 0xFEFF) = false := by
      rw [beq_eq_false_iff_ne]
      intro code
      exact unmarked (by rw [spelled, List.head?_cons, ← Char.ofNat_toNat c, code])
    simp [preprocessInput, preprocessInput_go, spelled, notMark]

/-- The input normalization commutes with escaping: a byte-order mark and
line breaks are written as themselves. -/
theorem preprocessInput_escapeText (t : List Char) :
    (preprocessInput (String.ofList (escapeText t))).toList =
      escapeText (preprocessInput (String.ofList t)).toList := by
  cases t with
  | nil => rfl
  | cons c rest =>
    by_cases mark : c = '\uFEFF'
    · subst mark
      have written : literal '\uFEFF' = true := by decide
      rw [@preprocessInput_marked _ (escapeText rest)
          (by rw [String.toList_ofList, escapeText_cons, escapeChar_of_literal written]; rfl),
        preprocessInput_marked (String.toList_ofList), lineFeeds_escapeText]
    · -- neither the character nor the ampersand of its escape is a byte-order mark
      have opens : (escapeText (c :: rest)).head? ≠ some '\uFEFF' := by
        rw [escapeText_cons, List.head?_append_of_ne_nil _ (escapeChar_ne_nil c)]
        rcases literal_or_escaped c with written | ⟨name, escaped⟩
        · simpa [escapeChar_of_literal written] using mark
        · simp [escapeChar_of_mem escaped]
      rw [preprocessInput_unmarked (by rwa [String.toList_ofList]),
        preprocessInput_unmarked (by simpa using mark), String.toList_ofList, String.toList_ofList,
        lineFeeds_escapeText]

/-- A NUL is written as itself and in no escape, so dropping NULs commutes
with escaping, one character at a time. -/
theorem filter_escapeChar (c : Char) :
    (escapeChar c).filter (· != Char.ofNat 0) = escapeText ([c].filter (· != Char.ofNat 0)) := by
  by_cases nul : c = Char.ofNat 0
  · subst nul
    rw [escapeChar_of_literal (by decide)]
    rfl
  · have absent : Char.ofNat 0 ∉ escapeChar c := not_mem_escapeChar (fun same => absurd same.symm nul) (by decide)
    have kept : (escapeChar c).filter (· != Char.ofNat 0) = escapeChar c :=
      List.filter_eq_self.mpr fun d mem => bne_iff_ne.mpr fun same => absent (same ▸ mem)
    simp [kept, nul]

theorem dropNul_escapeText (t : List Char) :
    dropNul (String.ofList (escapeText t)) = String.ofList (escapeText (t.filter (· != Char.ofNat 0))) := by
  rw [dropNul, String.toList_ofList]
  congr 1
  induction t with
  | nil => rfl
  | cons c t inductionHypothesis =>
    rw [escapeText_cons, List.filter_append, inductionHypothesis, filter_escapeChar, ← escapeText_append,
      ← List.filter_append, List.singleton_append]

/-! ## Stripping escaped text -/

theorem keptText_textDom (text : List Char) :
    ((textDom text).node 0).children.foldl (fun out c => keptText (textDom text) out c (textDom text).nodes.size) "" =
      String.ofList (escapeText text) := by
  cases text with
  | nil => rfl
  | cons c rest =>
    rw [← String.toList_inj, String.toList_ofList]
    simp [Dom.node, keptText, foldl_escapeTextChar]
    rfl

/-- Stripping markup from escaped text gives the text normalized as HTML input
and without NULs, escaped again and trimmed. -/
theorem stripMarkup_escaped {s : String} {t : List Char} (escaped : s.toList = escapeText t) :
    stripMarkup s = Text.trim (dropNul (String.ofList (preprocessInput s).toList)) := by
  have spelled : s = String.ofList (escapeText t) := by rw [← escaped, String.ofList_toList]
  have input : (preprocessInput s).toList = escapeText (preprocessInput (String.ofList t)).toList := by
    rw [spelled, preprocessInput_escapeText]
  simp only [stripMarkup]
  rw [parseFragment_escaped input, keptText_textDom, input, dropNul_escapeText]

theorem trim_eq_self {s : String} (first : ∀ c ∈ s.toList.head?, Text.isWhitespace c = false)
    (last : ∀ c ∈ s.toList.getLast?, Text.isWhitespace c = false) : Text.trim s = s := by
  have leading : s.toList.dropWhile Text.isWhitespace = s.toList := by
    cases spelled : s.toList with
    | nil => rfl
    | cons c rest => simp [first c (by simp [spelled])]
  have trailing : s.toList.reverse.dropWhile Text.isWhitespace = s.toList.reverse := by
    cases ends : s.toList.reverse with
    | nil => rfl
    | cons c rest =>
      have isLast : c ∈ s.toList.getLast? := by
        rw [← List.head?_reverse, ends]
        rfl
      simp [last c isLast]
  rw [Text.trim, leading, trailing, List.reverse_reverse, String.ofList_toList]

/-- Escaped text trimmed at both ends, without carriage returns, NULs or a
leading byte-order mark, is left as it is by markup removal. -/
theorem stripMarkup_fixed {s : String} {t : List Char} (escaped : s.toList = escapeText t)
    (noReturn : '\r' ∉ s.toList) (noNul : Char.ofNat 0 ∉ s.toList) (unmarked : s.toList.head? ≠ some '\uFEFF')
    (first : ∀ c ∈ s.toList.head?, Text.isWhitespace c = false)
    (last : ∀ c ∈ s.toList.getLast?, Text.isWhitespace c = false) : stripMarkup s = s := by
  have kept : lineFeeds s.toList = s.toList := by
    have feeds := lineFeeds_append [] noReturn
    rwa [List.append_nil, lineFeeds.eq_1, List.append_nil] at feeds
  have noNuls : dropNul s = s := by
    rw [dropNul, List.filter_eq_self.mpr, String.ofList_toList]
    intro c mem
    simp only [bne_iff_ne, ne_eq]
    rintro rfl
    exact noNul mem
  rw [stripMarkup_escaped escaped, preprocessInput_unmarked unmarked, kept, String.ofList_toList, noNuls,
    trim_eq_self first last]

/-- Markup removal writes text with no `<` and no `>`, where an ampersand only
opens `&amp;`, `&lt;`, `&gt;` or `&nbsp;`, that neither starts nor ends with
whitespace. Removing markup from it again only normalizes it as HTML input
(a leading byte-order mark dropped, each line break made a line feed), drops
its NULs and trims it; so the second removal leaves it as it is unless it
holds a carriage return or a NUL or starts with a byte-order mark. -/
theorem stripped_markup_is_escaped_text (x : String) :
    '<' ∉ (stripMarkup x).toList ∧ '>' ∉ (stripMarkup x).toList ∧
      (∀ pre post, (stripMarkup x).toList = pre ++ '&' :: post →
        ∃ name ∈ ["amp;", "lt;", "gt;", "nbsp;"], name.toList <+: post) ∧
      (∀ c ∈ (stripMarkup x).toList.head?, Text.isWhitespace c = false) ∧
      (∀ c ∈ (stripMarkup x).toList.getLast?, Text.isWhitespace c = false) ∧
      stripMarkup (stripMarkup x) =
        Text.trim (dropNul (String.ofList (preprocessInput (stripMarkup x)).toList)) ∧
      ('\r' ∉ (stripMarkup x).toList → Char.ofNat 0 ∉ (stripMarkup x).toList →
        (stripMarkup x).toList.head? ≠ some '\uFEFF' → stripMarkup (stripMarkup x) = stripMarkup x) := by
  obtain ⟨t, strip⟩ := stripMarkup_escapes x
  have written : (stripMarkup x).toList = escapeText (trimBlank t) := by rw [strip, String.toList_ofList]
  obtain ⟨noLt, noGt, ampersands, first, last⟩ := escapeText_trimBlank_shape t
  rw [← written] at noLt noGt ampersands first last
  have again := stripMarkup_escaped written
  refine ⟨noLt, noGt, fun pre post split => ?_, first, last, again, fun noReturn noNul unmarked => ?_⟩
  · obtain ⟨p, escape, named⟩ := ampersands pre post split
    exact ⟨p.2, (List.mem_map_of_mem escape : p.2 ∈ escapes.map Prod.snd), named⟩
  · exact stripMarkup_fixed written noReturn noNul unmarked first last

/-- A character reference to a carriage return is kept by markup removal, and
removing markup again turns it into a line feed. -/
theorem carriage_return_reference_strips_twice :
    stripMarkup "a&#13;b" = "a\rb" ∧ stripMarkup (stripMarkup "a&#13;b") = "a\nb" := by
  decide +kernel

/-- Tags go, their text stays, and removing markup again changes nothing. -/
theorem tags_strip_once :
    stripMarkup "<b>x</b> y" = "x y" ∧ stripMarkup (stripMarkup "<b>x</b> y") = stripMarkup "<b>x</b> y" :=
  ⟨by decide +kernel, (stripped_markup_is_escaped_text "<b>x</b> y").2.2.2.2.2.2 (by decide +kernel)
    (by decide +kernel) (by decide +kernel)⟩

end Herald.Markup
