import Mathlib
import Herald.Proofs.EscapedText

set_option autoImplicit false

/-!
# Reading escaped text back

In the data state the tokenizer reads an escaped text back as the text: a
run of characters written as themselves comes out as one piece, a NUL as a
piece of its own, and each escape as the character it stands for
(`ReadsEscaped.nextToken`). An escape is read through the entity table,
which holds each escape's name with its character and no longer name that
starts with one (`entities_extending_escapes`), so the longest match after
the ampersand is the escape's name whatever follows it
(`characterReference_escape`).
-/

namespace Herald.Markup

/-! ## The escapes in the entity table -/

/-- The entries whose names start with the name of an escape are the escapes
themselves. -/
theorem entities_extending_escapes :
    entities.filter (fun e => escapes.any fun p => e.1.startsWith p.2) =
      [("amp;", [0x26]), ("gt;", [0x3E]), ("lt;", [0x3C]), ("nbsp;", [0xA0])] := by
  decide +kernel

/-- What reading the entity table needs of the escapes' names, checked on
each: no name extends another, each stands for its own character, and each
opens with a letter and fits the longest name. -/
theorem escape_names_fit :
    (∀ p ∈ escapes, ∀ q ∈ escapes, p.2.toList <+: q.2.toList → p = q) ∧
      (∀ p ∈ escapes, ∀ e ∈ [("amp;", [0x26]), ("gt;", [0x3E]), ("lt;", [0x3C]), ("nbsp;", [0xA0])],
        e.1 = p.2 ↔ e = (p.2, [p.1.toNat])) ∧
      ∀ p ∈ escapes, (p.2.toList.head?.all fun f => f != '#' && isAsciiAlnum f) ∧
        0 < p.2.toList.length ∧ p.2.toList.length ≤ longestEntityName := by
  decide +kernel

theorem get?_foldl_insert_of_forall_ne {l : List (String × List Nat)}
    {m : Std.HashMap String (List Nat)} {k : String} (absent : ∀ e ∈ l, e.1 ≠ k) :
    (l.foldl (fun m (name, codes) => m.insert name codes) m).get? k = m.get? k := by
  induction l generalizing m with
  | nil => rfl
  | cons e l inductionHypothesis =>
    obtain ⟨name, codes⟩ := e
    rw [List.foldl_cons, inductionHypothesis (fun e mem => absent e (List.mem_cons_of_mem _ mem)),
      Std.HashMap.get?_insert, if_neg (by simpa using absent _ List.mem_cons_self)]

theorem get?_foldl_insert_of_mem {l : List (String × List Nat)} {m : Std.HashMap String (List Nat)}
    {k : String} {v : List Nat} (agree : ∀ e ∈ l, e.1 = k → e.2 = v)
    (found : m.get? k = some v ∨ (k, v) ∈ l) :
    (l.foldl (fun m (name, codes) => m.insert name codes) m).get? k = some v := by
  induction l generalizing m with
  | nil => simpa using found
  | cons e l inductionHypothesis =>
    obtain ⟨name, codes⟩ := e
    rw [List.foldl_cons]
    apply inductionHypothesis (fun e mem => agree e (List.mem_cons_of_mem _ mem))
    rw [Std.HashMap.get?_insert]
    by_cases same : name = k
    · subst same
      have value : codes = v := agree _ List.mem_cons_self rfl
      exact .inl (by simp [value])
    · rw [if_neg (by simpa using same)]
      rcases found with inMap | inList
      · exact .inl inMap
      · rcases List.mem_cons.mp inList with head | later
        · exact absurd (congrArg Prod.fst head).symm same
        · exact .inr later

theorem mem_extending_escapes {e : String × List Nat} {p : Char × String} (mem : e ∈ entities)
    (escape : p ∈ escapes) (extends_ : p.2.toList <+: e.1.toList) :
    e ∈ [("amp;", [0x26]), ("gt;", [0x3E]), ("lt;", [0x3C]), ("nbsp;", [0xA0])] := by
  rw [← entities_extending_escapes, List.mem_filter]
  refine ⟨mem, List.any_eq_true.mpr ⟨p, escape, ?_⟩⟩
  exact String.startsWith_string_iff.mpr extends_

theorem entityTable_escape {c : Char} {name : String} (escape : (c, name) ∈ escapes) :
    entityTable.get? name = some [c.toNat] := by
  unfold entityTable
  apply get?_foldl_insert_of_mem
  · intro e mem named
    have listed := mem_extending_escapes mem escape (by rw [named])
    exact congrArg Prod.snd ((escape_names_fit.2.1 _ escape e listed).mp named)
  · right
    have listed : (name, [c.toNat]) ∈ entities.filter (fun e => escapes.any fun p => e.1.startsWith p.2) := by
      rw [entities_extending_escapes]
      simp only [escapes, List.mem_cons, Prod.mk.injEq, List.not_mem_nil, or_false] at escape
      rcases escape with ⟨rfl, rfl⟩ | ⟨rfl, rfl⟩ | ⟨rfl, rfl⟩ | ⟨rfl, rfl⟩ <;> decide
    exact (List.mem_filter.mp listed).1

theorem entityTable_extending_escape {c : Char} {name : String} (escape : (c, name) ∈ escapes)
    {more : List Char} (nonempty : more ≠ []) :
    entityTable.get? (String.ofList (name.toList ++ more)) = none := by
  unfold entityTable
  rw [get?_foldl_insert_of_forall_ne]
  · simp
  intro e mem named
  have listed := mem_extending_escapes mem escape (by simp [named])
  -- the only names so listed are the escapes', and none extends another
  obtain ⟨q, escape', rfl⟩ : ∃ q ∈ escapes, e = (q.2, [q.1.toNat]) := by
    simp only [escapes, List.mem_cons, List.not_mem_nil, or_false] at listed ⊢
    rcases listed with rfl | rfl | rfl | rfl <;> simp
  have spelled : q.2.toList = name.toList ++ more := by simpa using congrArg String.toList named
  have same := escape_names_fit.1 _ escape _ escape' (spelled ▸ List.prefix_append _ _)
  subst same
  exact nonempty (by simpa using spelled)

/-! ## Finding the longest name -/

theorem matchEntity_go_escape {c : Char} {name : String} (escape : (c, name) ∈ escapes)
    (more : List Char) (k : Nat) :
    matchEntity.go (name.toList ++ more) (name.toList.length + k) = some (name.toList.length, [c.toNat]) := by
  have named := (escape_names_fit.2.2 _ escape).2.1
  induction k with
  | zero =>
    obtain ⟨n, length⟩ : ∃ n, name.toList.length = n + 1 := ⟨_, (Nat.succ_pred_eq_of_pos named).symm⟩
    rw [Nat.add_zero, length, matchEntity.go, ← length, List.take_left, String.ofList_toList,
      entityTable_escape escape]
    simp
  | succ k inductionHypothesis =>
    have extra : name.toList.length + k + 1 - name.toList.length = k + 1 := by omega
    rw [← Nat.add_assoc, matchEntity.go, List.take_append, List.take_of_length_le (by omega),
      extra]
    -- a longer candidate either runs past the text or extends the escape's name
    by_cases past : more.take (k + 1) = []
    · rw [past, List.append_nil, String.ofList_toList, entityTable_escape escape]
      have short : more = [] := by simpa using past
      subst short
      rw [List.append_nil] at inductionHypothesis
      simp [inductionHypothesis]
    · rw [entityTable_extending_escape escape past]
      exact inductionHypothesis

/-- After an ampersand, the name of an escape is matched as a whole,
whatever follows it. -/
theorem matchEntity_escape {c : Char} {name : String} (escape : (c, name) ∈ escapes)
    (more : List Char) : matchEntity (name.toList ++ more) = some (name.toList.length, [c.toNat]) := by
  have short := (escape_names_fit.2.2 _ escape).2.2
  obtain ⟨k, longest⟩ := Nat.exists_eq_add_of_le short
  rw [matchEntity, List.take_append, List.take_of_length_le short, longest]
  exact matchEntity_go_escape escape _ k

/-- A character reference that spells an escape in text stands for the
escaped character and takes the escape's name. -/
theorem characterReference_escape {c : Char} {name : String} (escape : (c, name) ∈ escapes)
    {input : Array Char} {pos : Nat} {more : List Char}
    (spelled : input.toList.drop pos = name.toList ++ more) :
    characterReference input pos false = (name.toList.length, String.ofList [c]) := by
  obtain ⟨opens, nonempty, short⟩ := escape_names_fit.2.2 _ escape
  obtain ⟨first, rest, spelling⟩ : ∃ first rest, name.toList = first :: rest := by
    cases named : name.toList with
    | nil => simp [named] at nonempty
    | cons first rest => exact ⟨first, rest, rfl⟩
  rw [spelling, List.head?_cons, Option.all_some, Bool.and_eq_true, bne_iff_ne] at opens
  obtain ⟨notHash, alnum⟩ := opens
  have atPos : input[pos]? = some first := by
    rw [← Array.getElem?_toList, ← List.head?_drop, spelled, spelling, List.cons_append,
      List.head?_cons]
  have window : (input.extract pos (pos + longestEntityName)).toList =
      name.toList ++ more.take (longestEntityName - name.toList.length) := by
    rw [Array.toList_extract, List.extract_eq_drop_take', List.drop_take, spelled,
      Nat.add_sub_cancel_left, List.take_append, List.take_of_length_le short]
  unfold characterReference
  rw [atPos]
  split
  · simp_all
  · next found _ same =>
    obtain rfl := (Option.some.inj same).symm
    rw [if_pos alnum, window]
    simp only [matchEntity_escape escape]
    simp [Char.ofNat_toNat]
  · simp_all

/-! ## The data state on escaped text -/

/-- A character the data state reads straight through: written as itself,
and not NUL. -/
def plainChar (c : Char) : Bool := literal c && c != Char.ofNat 0

theorem escapeText_of_plain {t : List Char} (plain : ∀ c ∈ t, plainChar c = true) :
    escapeText t = t := by
  induction t with
  | nil => rfl
  | cons c t inductionHypothesis =>
    have written : literal c = true := by
      have := plain c List.mem_cons_self
      simp only [plainChar, Bool.and_eq_true] at this
      exact this.1
    rw [escapeText_cons, escapeChar_of_literal written,
      inductionHypothesis fun d mem => plain d (List.mem_cons_of_mem _ mem)]
    rfl

theorem escapeChar_ne_nil (c : Char) : escapeChar c ≠ [] := by
  rcases literal_or_escaped c with written | ⟨name, escaped⟩
  · simp [escapeChar_of_literal written]
  · simp [escapeChar_of_mem escaped]

theorem escapeText_length_lt {piece more : List Char} (nonempty : piece ≠ []) :
    (escapeText more).length < (escapeText (piece ++ more)).length := by
  obtain ⟨c, rest, rfl⟩ := List.exists_cons_of_ne_nil nonempty
  have block := List.length_pos_of_ne_nil (escapeChar_ne_nil c)
  simp only [List.cons_append, escapeText_cons, escapeText_append, List.length_append]
  omega

namespace Tokenizer

/-- The tokenizer stands in the data state over the escape of `done ++ rest`,
having read the escape of `done`. -/
structure ReadsEscaped (t : Tokenizer) (done rest : List Char) : Prop where
  data : t.state = .data
  input : t.input.toList = escapeText (done ++ rest)
  pos : t.pos = (escapeText done).length

theorem ReadsEscaped.ahead {t : Tokenizer} {done rest : List Char} (reads : t.ReadsEscaped done rest) :
    t.input.toList.drop t.pos = escapeText rest := by
  rw [reads.input, reads.pos, escapeText_append, List.drop_left]

theorem ReadsEscaped.advance {t : Tokenizer} {done piece more : List Char}
    (reads : t.ReadsEscaped done (piece ++ more)) :
    { t with pos := (escapeText (done ++ piece)).length }.ReadsEscaped (done ++ piece) more :=
  ⟨reads.data, by rw [reads.input, List.append_assoc], rfl⟩

theorem step_data {t : Tokenizer} (cdata : Bool) (data : t.state = .data) :
    t.step cdata = match t.textRun (fun c => c == '&' || c == '<') with
      | some r => r
      | none =>
        match t.current with
        | some '&' =>
          let (n, text) := characterReference t.input (t.pos + 1) false
          (t.advance (n + 1), some (.chars text))
        | some '<' => (t.advance.go .tagOpen, none)
        | some c => (t.advance, some (.chars (String.singleton c)))
        | none => (t, some .eof) := by
  -- the two sides are one match up to the name of its matcher
  rewrite [Tokenizer.step, data]
  rfl

/-- A scan that passes over `run` stops right after it, at a character the
scan stops at or at the end. -/
theorem plainRun_go {t : Tokenizer} {special : Char → Bool} (run : List Char) :
    ∀ {i fuel : Nat} {after : List Char}, t.input.toList.drop i = run ++ after →
      (∀ c ∈ run, special c = false ∧ c ≠ Char.ofNat 0) →
      (∀ c ∈ after.head?, special c = true ∨ c = Char.ofNat 0) → run.length < fuel →
      plainRun.go t special i fuel = i + run.length := by
  induction run with
  | nil =>
    intro i fuel after ahead _ stops enough
    obtain ⟨fuel, rfl⟩ : ∃ f, fuel = f + 1 := ⟨fuel - 1, by simp at enough; omega⟩
    have atI : t.input[i]? = after.head? := by
      rw [← Array.getElem?_toList, ← List.head?_drop, ahead, List.nil_append]
    rw [plainRun.go, atI]
    cases first : after.head? with
    | none => rfl
    | some c =>
      have stop := stops c first
      simp only [Bool.or_eq_true, beq_iff_eq]
      rw [if_pos stop]
      rfl
  | cons c run inductionHypothesis =>
    intro i fuel after ahead passes stops enough
    obtain ⟨fuel, rfl⟩ : ∃ f, fuel = f + 1 := ⟨fuel - 1, by simp at enough; omega⟩
    have atI : t.input[i]? = some c := by
      rw [← Array.getElem?_toList, ← List.head?_drop, ahead, List.cons_append, List.head?_cons]
    have next : t.input.toList.drop (i + 1) = run ++ after := by
      rw [← List.tail_drop, ahead, List.cons_append, List.tail_cons]
    obtain ⟨plain, notNul⟩ := passes c List.mem_cons_self
    rw [plainRun.go, atI]
    simp only [plain, Bool.false_or, beq_iff_eq, notNul, if_false]
    rw [inductionHypothesis next (fun d mem => passes d (List.mem_cons_of_mem _ mem)) stops
      (by simp at enough; omega), List.length_cons]
    omega

/-- In the data state over escaped text, the run of plain text is the text's
longest prefix of characters read straight through. -/
theorem ReadsEscaped.plainRun {t : Tokenizer} {done rest : List Char}
    (reads : t.ReadsEscaped done rest) :
    t.plainRun (fun c => c == '&' || c == '<') = (rest.takeWhile plainChar).length := by
  have plainPrefix : ∀ c ∈ rest.takeWhile plainChar, plainChar c = true :=
    fun c mem => List.mem_takeWhile_imp mem
  have split : t.input.toList.drop t.pos =
      rest.takeWhile plainChar ++ escapeText (rest.dropWhile plainChar) := by
    rw [reads.ahead, ← escapeText_of_plain plainPrefix, ← escapeText_append, List.takeWhile_append_dropWhile]
  have passes : ∀ c ∈ rest.takeWhile plainChar,
      (c == '&' || c == '<') = false ∧ c ≠ Char.ofNat 0 := by
    intro c mem
    have plain := plainPrefix c mem
    simp only [plainChar, literal, escapes, Bool.and_eq_true, List.all_cons, List.all_nil,
      Bool.and_true, bne_iff_ne, ne_eq] at plain
    simp only [Bool.or_eq_false_iff, beq_eq_false_iff_ne, ne_eq]
    exact ⟨⟨fun h => plain.1.1 h.symm, fun h => plain.1.2.1 h.symm⟩, plain.2⟩
  have stops : ∀ c ∈ (escapeText (rest.dropWhile plainChar)).head?,
      (c == '&' || c == '<') = true ∨ c = Char.ofNat 0 := by
    intro c first
    cases after : rest.dropWhile plainChar with
    | nil => simp [after] at first
    | cons d later =>
      have stopped : plainChar d = false := by
        simpa [after] using List.head?_dropWhile_not plainChar rest
      rw [after, escapeText_cons] at first
      rcases literal_or_escaped d with written | ⟨name, escaped⟩
      · have nul : d = Char.ofNat 0 := by simpa [plainChar, written] using stopped
        rw [escapeChar_of_literal written, List.singleton_append, List.head?_cons,
          Option.mem_some_iff] at first
        exact .inr (first ▸ nul)
      · rw [escapeChar_of_mem escaped, List.cons_append, List.head?_cons, Option.mem_some_iff] at first
        subst first
        simp
  have fits : (rest.takeWhile plainChar).length < t.input.size - t.pos + 1 := by
    have within := congrArg List.length split
    rw [List.length_drop, Array.length_toList, List.length_append] at within
    omega
  unfold Tokenizer.plainRun
  rw [plainRun_go _ split passes stops fits]
  omega

/-- In the data state, with no plain run ahead, a character that opens
nothing is read on its own. -/
theorem step_data_char {t : Tokenizer} (cdata : Bool) (data : t.state = .data)
    (noRun : t.plainRun (fun c => c == '&' || c == '<') = 0) {d : Char} (current : t.current = some d)
    (notAmp : d ≠ '&') (notLt : d ≠ '<') :
    t.step cdata = (t.advance, some (.chars (String.singleton d))) := by
  rw [step_data cdata data, Tokenizer.textRun, noRun]
  -- the match on the character passes its `&` and `<` arms by `notAmp` and `notLt`
  simp only [beq_self_eq_true, if_true, current]

/-- In the data state, with no plain run ahead, an ampersand opens a
character reference. -/
theorem step_data_ampersand {t : Tokenizer} (cdata : Bool) (data : t.state = .data)
    (noRun : t.plainRun (fun c => c == '&' || c == '<') = 0) (current : t.current = some '&') :
    t.step cdata = (t.advance ((characterReference t.input (t.pos + 1) false).1 + 1),
      some (.chars (characterReference t.input (t.pos + 1) false).2)) := by
  rw [step_data cdata data, Tokenizer.textRun, noRun]
  simp [current]

/-- The data state reads a nonempty escaped text as a first piece of it: a
run of characters read straight through, a NUL, or the character an escape
stands for. -/
theorem ReadsEscaped.step {t : Tokenizer} {done rest : List Char} {c : Char}
    (reads : t.ReadsEscaped done (c :: rest)) (cdata : Bool) :
    ∃ piece more, piece ≠ [] ∧ c :: rest = piece ++ more ∧
      t.step cdata = ({ t with pos := (escapeText (done ++ piece)).length },
        some (.chars (String.ofList piece))) := by
  have atPos : t.current = (escapeChar c).head? := by
    rw [Tokenizer.current, ← Array.getElem?_toList, ← List.head?_drop, reads.ahead, escapeText_cons,
      List.head?_append_of_ne_nil _ (escapeChar_ne_nil c)]
  by_cases plain : plainChar c = true
  · -- a run of plain characters, taken at once
    obtain ⟨piece, more, pieceDef, moreDef⟩ : ∃ piece more,
        (c :: rest).takeWhile plainChar = piece ∧ (c :: rest).dropWhile plainChar = more := ⟨_, _, rfl, rfl⟩
    have split : c :: rest = piece ++ more := by rw [← pieceDef, ← moreDef, List.takeWhile_append_dropWhile]
    have pieceEscapes : escapeText piece = piece :=
      escapeText_of_plain fun d mem => List.mem_takeWhile_imp (pieceDef ▸ mem)
    have ahead : t.input.toList.drop t.pos = piece ++ escapeText more := by
      rw [reads.ahead, split, escapeText_append, pieceEscapes]
    have taken : (t.input.extract t.pos (t.pos + piece.length)).toList = piece := by
      rw [Array.toList_extract, List.extract_eq_drop_take', List.drop_take, Nat.add_sub_cancel_left, ahead,
        List.take_left]
    have advanced : t.pos + piece.length = (escapeText (done ++ piece)).length := by
      rw [reads.pos, escapeText_append, pieceEscapes, List.length_append]
    have nonempty : piece.length ≠ 0 := by simp [← pieceDef, plain]
    refine ⟨piece, more, fun empty => nonempty (by simp [empty]), split, ?_⟩
    rw [step_data cdata reads.data, Tokenizer.textRun, reads.plainRun, pieceDef]
    simp only [beq_iff_eq, nonempty, if_false]
    rw [taken, ← advanced]
    rfl
  · have noRun : t.plainRun (fun c => c == '&' || c == '<') = 0 := by
      simp [reads.plainRun, plain]
    rcases literal_or_escaped c with written | ⟨name, escaped⟩
    · -- a NUL, read on its own
      have nul : c = Char.ofNat 0 := by simpa [plainChar, written] using plain
      subst nul
      refine ⟨[Char.ofNat 0], rest, by simp, rfl, ?_⟩
      rw [escapeChar_of_literal written, List.head?_cons] at atPos
      have moved : t.pos + 1 = (escapeText (done ++ [Char.ofNat 0])).length := by
        rw [reads.pos, escapeText_append, List.length_append, escapeText_cons, escapeChar_of_literal written]
        rfl
      rw [step_data_char cdata reads.data noRun atPos (by decide) (by decide), String.singleton_eq_ofList,
        ← moved]
      rfl
    · -- an escape, read through the entity table
      refine ⟨[c], rest, by simp, rfl, ?_⟩
      have spelled : t.input.toList.drop (t.pos + 1) = name.toList ++ escapeText rest := by
        rw [← List.drop_drop, reads.ahead, escapeText_cons, escapeChar_of_mem escaped]
        rfl
      rw [escapeChar_of_mem escaped, List.head?_cons] at atPos
      have moved : t.pos + (name.toList.length + 1) = (escapeText (done ++ [c])).length := by
        rw [reads.pos, escapeText_append, List.length_append, escapeText_cons, escapeChar_of_mem escaped]
        simp
      rw [step_data_ampersand cdata reads.data noRun atPos, characterReference_escape escaped spelled,
        ← moved]
      rfl

theorem ReadsEscaped.step_end {t : Tokenizer} {done : List Char} (reads : t.ReadsEscaped done [])
    (cdata : Bool) : t.step cdata = (t, some .eof) := by
  have atEnd : t.current = none := by
    rw [Tokenizer.current, ← Array.getElem?_toList, ← List.head?_drop, reads.ahead]
    rfl
  rw [step_data cdata reads.data, Tokenizer.textRun, reads.plainRun]
  simp [atEnd]

theorem nextToken_of_step {t t' : Tokenizer} {cdata : Bool} {tok : Token}
    (emits : t.step cdata = (t', some tok)) : t.nextToken cdata = (tok, t') := by
  simp only [Tokenizer.nextToken, nextToken.go, emits]

/-- The data state reads a nonempty escaped text one piece at a time, and
goes on reading the rest. -/
theorem ReadsEscaped.nextToken {t : Tokenizer} {done rest : List Char} {c : Char}
    (reads : t.ReadsEscaped done (c :: rest)) (cdata : Bool) :
    ∃ piece more t', piece ≠ [] ∧ c :: rest = piece ++ more ∧
      t.nextToken cdata = (.chars (String.ofList piece), t') ∧ t'.ReadsEscaped (done ++ piece) more := by
  obtain ⟨piece, more, nonempty, split, emits⟩ := reads.step cdata
  refine ⟨piece, more, _, nonempty, split, nextToken_of_step emits, ?_⟩
  rw [split] at reads
  exact reads.advance

theorem ReadsEscaped.nextToken_end {t : Tokenizer} {done : List Char} (reads : t.ReadsEscaped done [])
    (cdata : Bool) : t.nextToken cdata = (.eof, t) :=
  nextToken_of_step (reads.step_end cdata)

end Tokenizer

end Herald.Markup
