import Mathlib
import Herald.Markup.Sanitize

set_option autoImplicit false

/-!
# The text markup removal writes

`stripMarkup` writes what it keeps one character at a time through
`escapeTextChar`: `&`, `<`, `>` and the no-break space become `&amp;`,
`&lt;`, `&gt;` and `&nbsp;`, and every other character stands for itself.
So whatever tree the parse builds, the result is the escape of a text that
is trimmed of the whitespace written as itself, which is every kind but the
no-break space (`stripMarkup_escapes`). Read on its characters, such a
result holds no `<` and no `>`, an ampersand in it only opens one of the
four escapes, and it neither starts nor ends with whitespace
(`escapeText_trimBlank_shape`).
-/

namespace Herald.Markup

/-- The characters written as escapes, with the escape's name as written
after the ampersand. -/
def escapes : List (Char × String) :=
  [('&', "amp;"), ('<', "lt;"), ('>', "gt;"), ('\u00A0', "nbsp;")]

/-- Whether a character is written as itself. -/
def literal (c : Char) : Bool := escapes.all fun p => p.1 != c

/-- The characters one text character is written as. -/
def escapeChar (c : Char) : List Char := (escapeTextChar "" c).toList

/-- The characters a text is written as. -/
def escapeText (t : List Char) : List Char := t.flatMap escapeChar

@[simp] theorem escapeText_nil : escapeText [] = [] := rfl

@[simp] theorem escapeText_cons (c : Char) (t : List Char) :
    escapeText (c :: t) = escapeChar c ++ escapeText t := rfl

@[simp] theorem escapeText_append (t u : List Char) :
    escapeText (t ++ u) = escapeText t ++ escapeText u := List.flatMap_append

theorem escapeTextChar_toList (out : String) (c : Char) :
    (escapeTextChar out c).toList = out.toList ++ escapeChar c := by
  unfold escapeChar escapeTextChar
  split <;> try simp
  split <;> simp

theorem foldl_escapeTextChar (t : List Char) (out : String) :
    (t.foldl escapeTextChar out).toList = out.toList ++ escapeText t := by
  induction t generalizing out with
  | nil => simp
  | cons c t inductionHypothesis =>
    rw [List.foldl_cons, inductionHypothesis, escapeTextChar_toList, escapeText_cons,
      List.append_assoc]

theorem eq_nbsp_of_toNat {c : Char} (code : c.toNat = 0xA0) : c = '\u00A0' := by
  rw [← Char.ofNat_toNat c, code]

theorem escapeChar_of_literal {c : Char} (written : literal c = true) : escapeChar c = [c] := by
  simp only [literal, escapes, List.all_cons, List.all_nil, Bool.and_true, Bool.and_eq_true,
    bne_iff_ne, ne_eq] at written
  obtain ⟨notAmp, notLt, notGt, notNbsp⟩ := written
  unfold escapeChar escapeTextChar
  split
  · exact absurd rfl notAmp
  · exact absurd rfl notLt
  · exact absurd rfl notGt
  · rw [if_neg]
    · simp
    · exact fun isNbsp => notNbsp (eq_nbsp_of_toNat (beq_iff_eq.mp isNbsp)).symm

theorem escapeChar_of_mem {c : Char} {name : String} (escaped : (c, name) ∈ escapes) :
    escapeChar c = '&' :: name.toList := by
  simp only [escapes, List.mem_cons, Prod.mk.injEq, List.not_mem_nil, or_false] at escaped
  rcases escaped with ⟨rfl, rfl⟩ | ⟨rfl, rfl⟩ | ⟨rfl, rfl⟩ | ⟨rfl, rfl⟩ <;> decide

theorem literal_or_escaped (c : Char) : literal c = true ∨ ∃ name, (c, name) ∈ escapes := by
  by_cases written : literal c = true
  · exact .inl written
  · right
    simp only [literal, List.all_eq_true, bne_iff_ne, ne_eq, not_forall, not_not] at written
    obtain ⟨⟨d, name⟩, mem, rfl⟩ := written
    exact ⟨name, mem⟩

/-- A character stands in what `c` is written as only as `c` written as
itself, or within the spelling of an escape. -/
theorem not_mem_escapeChar {c d : Char} (self : d = c → literal c = false)
    (unspelled : ∀ p ∈ escapes, d ∉ '&' :: p.2.toList) : d ∉ escapeChar c := by
  rcases literal_or_escaped c with written | ⟨name, escaped⟩
  · rw [escapeChar_of_literal written, List.mem_singleton]
    intro same
    exact Bool.false_ne_true ((self same).symm.trans written)
  · rw [escapeChar_of_mem escaped]
    exact unspelled _ escaped

theorem escapes_shape : ∀ p ∈ escapes, '&' ∉ p.2.toList ∧ p.2.toList.getLast? = some ';' := by
  decide

theorem not_mem_escapeText (t : List Char) : '<' ∉ escapeText t ∧ '>' ∉ escapeText t := by
  have unwritten : literal '<' = false ∧ literal '>' = false := by decide
  have unspelled : ∀ p ∈ escapes, '<' ∉ '&' :: p.2.toList ∧ '>' ∉ '&' :: p.2.toList := by decide
  simp only [escapeText, List.mem_flatMap, not_exists, not_and]
  exact ⟨fun c _ => not_mem_escapeChar (fun same => same ▸ unwritten.1) fun p escape => (unspelled p escape).1,
    fun c _ => not_mem_escapeChar (fun same => same ▸ unwritten.2) fun p escape => (unspelled p escape).2⟩

theorem ampersand_opens_escape {t pre post : List Char}
    (split : escapeText t = pre ++ '&' :: post) : ∃ p ∈ escapes, p.2.toList <+: post := by
  induction t generalizing pre with
  | nil => simp at split
  | cons c t inductionHypothesis =>
    rw [escapeText_cons] at split
    rcases literal_or_escaped c with written | ⟨name, escaped⟩
    · rw [escapeChar_of_literal written, List.singleton_append] at split
      cases pre with
      | nil =>
        obtain ⟨rfl, -⟩ := List.cons.inj split
        exact absurd written (by decide)
      | cons a pre => exact inductionHypothesis (List.cons.inj split).2
    · rw [escapeChar_of_mem escaped, List.cons_append] at split
      cases pre with
      | nil => exact ⟨(c, name), escaped, (List.cons.inj split).2 ▸ List.prefix_append _ _⟩
      | cons a pre =>
        have rest := (List.cons.inj split).2
        -- the escape's own name holds no ampersand, so this one lies further on
        rcases List.append_eq_append_iff.mp rest with ⟨mid, rfl, later⟩ | ⟨mid, inName, later⟩
        · exact inductionHypothesis later
        · cases mid with
          | nil => exact @inductionHypothesis [] (by simpa using later.symm)
          | cons x mid =>
            obtain ⟨rfl, -⟩ := List.cons.inj later
            exact absurd (inName ▸ List.mem_append_right _ List.mem_cons_self)
              (escapes_shape _ escaped).1

/-- Whitespace written as itself: every kind but the no-break space. -/
def blank (c : Char) : Bool := Text.isWhitespace c && c.toNat != 0xA0

/-- A text without blanks at either end. -/
def trimBlank (t : List Char) : List Char := (t.dropWhile blank).rdropWhile blank

theorem literal_of_blank {c : Char} (isBlank : blank c = true) : literal c = true := by
  simp only [blank, Bool.and_eq_true, bne_iff_ne, ne_eq] at isBlank
  obtain ⟨white, notNbsp⟩ := isBlank
  rcases literal_or_escaped c with written | ⟨name, escaped⟩
  · exact written
  · simp only [escapes, List.mem_cons, Prod.mk.injEq, List.not_mem_nil, or_false] at escaped
    rcases escaped with ⟨rfl, -⟩ | ⟨rfl, -⟩ | ⟨rfl, -⟩ | ⟨rfl, -⟩ <;> simp_all [Text.isWhitespace]

/-- The first and the last character an escape of a character that is not
blank is written with are not whitespace. -/
theorem escapeChar_ends {c : Char} (notBlank : blank c = false) :
    (∃ d rest, escapeChar c = d :: rest ∧ Text.isWhitespace d = false) ∧
      ∃ d rest, (escapeChar c).reverse = d :: rest ∧ Text.isWhitespace d = false := by
  rcases literal_or_escaped c with written | ⟨name, escaped⟩
  · rw [escapeChar_of_literal written]
    have plain : Text.isWhitespace c = false := by
      simp only [blank, Bool.and_eq_false_iff, bne_eq_false_iff_eq] at notBlank
      rcases notBlank with white | nbsp
      · exact white
      · rw [eq_nbsp_of_toNat nbsp] at written
        exact absurd written (by decide)
    exact ⟨⟨c, [], rfl, plain⟩, c, [], rfl, plain⟩
  · rw [escapeChar_of_mem escaped]
    obtain ⟨-, endsSemicolon⟩ := escapes_shape _ escaped
    obtain ⟨init, split⟩ := List.getLast?_eq_some_iff.mp endsSemicolon
    refine ⟨⟨'&', name.toList, rfl, by decide⟩, ';', ('&' :: init).reverse, ?_, by decide⟩
    rw [split, ← List.cons_append, List.reverse_append]
    rfl

/-- Dropping leading whitespace from a text written in blocks drops exactly
the blocks of leading blank characters, when a blank character is its own
block and every other block opens with a character that is not whitespace. -/
theorem dropWhile_flatMap {f : Char → List Char} (self : ∀ c, blank c = true → f c = [c])
    (opens : ∀ c, blank c = false → ∃ d rest, f c = d :: rest ∧ Text.isWhitespace d = false)
    (t : List Char) : (t.flatMap f).dropWhile Text.isWhitespace = (t.dropWhile blank).flatMap f := by
  induction t with
  | nil => rfl
  | cons c t inductionHypothesis =>
    cases isBlank : blank c with
    | true =>
      have white : Text.isWhitespace c = true := by
        simp only [blank, Bool.and_eq_true] at isBlank
        exact isBlank.1
      rw [List.flatMap_cons, self c isBlank, List.singleton_append,
        List.dropWhile_cons_of_pos white, inductionHypothesis, List.dropWhile_cons_of_pos isBlank]
    | false =>
      obtain ⟨d, rest, block, notWhite⟩ := opens c isBlank
      rw [List.dropWhile_cons_of_neg (by simp [isBlank]), List.flatMap_cons, block,
        List.cons_append, List.dropWhile_cons_of_neg (by simp [notWhite])]

theorem trim_escapeText (t : List Char) :
    Text.trim (String.ofList (escapeText t)) = String.ofList (escapeText (trimBlank t)) := by
  have leading := @dropWhile_flatMap escapeChar
    (fun c isBlank => escapeChar_of_literal (literal_of_blank isBlank))
    (fun c notBlank => (escapeChar_ends notBlank).1)
  have trailing := @dropWhile_flatMap (List.reverse ∘ escapeChar)
    (fun c isBlank => by simp [escapeChar_of_literal (literal_of_blank isBlank)])
    (fun c notBlank => (escapeChar_ends notBlank).2)
  -- trimming reads the text backwards, where each block is read backwards too
  simp only [Text.trim, String.toList_ofList, escapeText, leading, trimBlank, List.rdropWhile,
    List.reverse_flatMap, trailing]
  simp [Function.comp_def]

theorem trimBlank_head? {t : List Char} {c : Char} (first : c ∈ (trimBlank t).head?) :
    blank c = false := by
  obtain ⟨rest, split⟩ := List.rdropWhile_prefix blank (t.dropWhile blank)
  have trimmed : ((t.dropWhile blank).rdropWhile blank).head? = some c := first
  have leading : (t.dropWhile blank).head? = some c := by
    rw [← split, List.head?_append, trimmed]
    rfl
  simpa [leading] using List.head?_dropWhile_not blank t

theorem trimBlank_getLast? {t : List Char} {c : Char} (last : c ∈ (trimBlank t).getLast?) :
    blank c = false := by
  have nonempty : trimBlank t ≠ [] := by
    rintro empty
    simp [empty] at last
  rw [List.getLast?_eq_some_getLast nonempty, Option.mem_some_iff] at last
  subst last
  simpa [trimBlank] using List.rdropWhile_last_not blank (t.dropWhile blank) nonempty

theorem escapeText_head? {t : List Char} (first : ∀ c ∈ t.head?, blank c = false) :
    ∀ d ∈ (escapeText t).head?, Text.isWhitespace d = false := by
  cases t with
  | nil => simp
  | cons c t =>
    obtain ⟨d, rest, block, notWhite⟩ := (escapeChar_ends (first c rfl)).1
    simp [block, notWhite]

theorem escapeText_getLast? {t : List Char} (last : ∀ c ∈ t.getLast?, blank c = false) :
    ∀ d ∈ (escapeText t).getLast?, Text.isWhitespace d = false := by
  rcases List.eq_nil_or_concat t with rfl | ⟨init, c, rfl⟩
  · simp
  · obtain ⟨d, rest, block, notWhite⟩ := (escapeChar_ends (last c (by simp))).2
    have ends : (escapeChar c).getLast? = some d := by
      rw [← List.head?_reverse, block, List.head?_cons]
    simp [List.getLast?_append, ends, notWhite]

/-- An escaped text trimmed of blanks holds no `<` and no `>`, an ampersand
in it opens one of the escapes, and it starts and ends with characters that
are not whitespace. -/
theorem escapeText_trimBlank_shape (t : List Char) :
    '<' ∉ escapeText (trimBlank t) ∧ '>' ∉ escapeText (trimBlank t) ∧
      (∀ pre post, escapeText (trimBlank t) = pre ++ '&' :: post →
        ∃ p ∈ escapes, p.2.toList <+: post) ∧
      (∀ c ∈ (escapeText (trimBlank t)).head?, Text.isWhitespace c = false) ∧
      (∀ c ∈ (escapeText (trimBlank t)).getLast?, Text.isWhitespace c = false) :=
  ⟨(not_mem_escapeText _).1, (not_mem_escapeText _).2, fun _ _ => ampersand_opens_escape,
    escapeText_head? fun _ => trimBlank_head?, escapeText_getLast? fun _ => trimBlank_getLast?⟩

/-- A fold whose every step adds the escape of some text adds the escape of
some text. -/
theorem foldl_escapes {α : Type} {g : String → α → String}
    (step : ∀ out a, ∃ t, (g out a).toList = out.toList ++ escapeText t) (l : List α) (out : String) :
    ∃ t, (l.foldl g out).toList = out.toList ++ escapeText t := by
  induction l generalizing out with
  | nil => exact ⟨[], by simp⟩
  | cons a l inductionHypothesis =>
    obtain ⟨first, firstEq⟩ := step out a
    obtain ⟨rest, restEq⟩ := inductionHypothesis (g out a)
    exact ⟨first ++ rest, by rw [List.foldl_cons, restEq, firstEq]; simp⟩

theorem keptText_escapes (d : Dom) (fuel : Nat) :
    ∀ (out : String) (i : Nat), ∃ t, (keptText d out i fuel).toList = out.toList ++ escapeText t := by
  induction fuel with
  | zero => exact fun out _ => ⟨[], by simp [keptText]⟩
  | succ fuel inductionHypothesis =>
    intro out i
    simp only [keptText]
    split
    · exact ⟨_, foldl_escapeTextChar _ out⟩
    · exact ⟨[], by simp⟩
    · split
      · exact ⟨[], by simp⟩
      · rw [← Array.foldl_toList]
        exact foldl_escapes inductionHypothesis _ out

/-- Whatever tree the parse builds, markup removal writes the escape of a
text without blanks at either end. -/
theorem stripMarkup_escapes (s : String) :
    ∃ t, stripMarkup s = String.ofList (escapeText (trimBlank t)) := by
  let d := parseFragment s
  obtain ⟨t, body⟩ := foldl_escapes (keptText_escapes d d.nodes.size) (d.node 0).children.toList ""
  rw [String.toList_empty, List.nil_append] at body
  refine ⟨t, ?_⟩
  simp only [stripMarkup]
  rw [← trim_escapeText, ← body, String.ofList_toList, Array.foldl_toList]

end Herald.Markup
