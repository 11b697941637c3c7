import SqlRender.Proofs.Steady

/-!
# Lexemes of SQL, with identifiers read as one

A text is cut into words, signs and identifiers; blanks only separate. An identifier stands between
marks, and a mark that is written twice in it is one character of its name, so an identifier is read
as the name that was quoted.

`Parallel` says of two texts that they are the same but for their identifiers, and that a relation
holds between the names of the identifiers in one place. It is kept when texts are put one behind
the other with something between their identifiers (`Parallel.append`), and when the spaces at their
ends are taken care of (`Parallel.glue`, `Parallel.strip`).

* `Text.glyphs?_quoteChars`: a quoted name is read as the name.
* `Parallel.lexemes`: two such texts have the same lexemes but for the names of identifiers.
-/

namespace SqlRender

/-! ## Reading -/

/-- A character outside identifiers, or an identifier. -/
inductive Glyph where
  | char (c : Char)
  | identifier (name : List Char)
deriving DecidableEq, Repr

inductive Lexeme where
  | word (chars : List Char)
  | sign (c : Char)
  | identifier (name : List Char)
deriving DecidableEq, Repr

/-- Where the reading of a text stands: outside identifiers, in a name, or behind a mark that ends
the name unless another one follows. -/
inductive Quoting where
  | outside
  | inside (name : List Char)
  | closing (name : List Char)
deriving DecidableEq, Repr

namespace Text

/-- The characters and identifiers of a text. A text that ends inside an identifier has none. -/
def glyphs? (mark : Char) : Quoting → List Char → Option (List Glyph)
  | .outside, [] => some []
  | .inside _, [] => none
  | .closing name, [] => some [.identifier name]
  | .outside, c :: cs =>
    if c = mark then glyphs? mark (.inside []) cs
    else (glyphs? mark .outside cs).map (.char c :: ·)
  | .inside name, c :: cs =>
    if c = mark then glyphs? mark (.closing name) cs else glyphs? mark (.inside (name ++ [c])) cs
  | .closing name, c :: cs =>
    if c = mark then glyphs? mark (.inside (name ++ [mark])) cs
    else (glyphs? mark .outside cs).map fun glyphs => .identifier name :: .char c :: glyphs

/-- The word that has been read, if there is one. -/
def wordLexemes (word : List Char) : List Lexeme := if word = [] then [] else [.word word]

/-- The lexemes of glyphs, behind the characters of a word. -/
def lexemesFrom (word : List Char) : List Glyph → List Lexeme
  | [] => wordLexemes word
  | .identifier name :: glyphs => wordLexemes word ++ .identifier name :: lexemesFrom [] glyphs
  | .char c :: glyphs =>
    if isWord c then lexemesFrom (word ++ [c]) glyphs
    else if isBlank c then wordLexemes word ++ lexemesFrom [] glyphs
    else wordLexemes word ++ .sign c :: lexemesFrom [] glyphs

/-- The lexemes of a text whose identifiers stand between marks. -/
def lexemes? (mark : Char) (cs : List Char) : Option (List Lexeme) :=
  (glyphs? mark .outside cs).map (lexemesFrom [])

example : lexemes? '"' ['a', 's', ' ', '"', 'x', '"', '"', ' ', '"', '.', '*'] =
    some [.word ['a', 's'], .identifier ['x', '"', ' '], .sign '.', .sign '*'] := by decide

variable {mark : Char}

theorem glyphs?_closing {cs : List Char} (h : cs.head? ≠ some mark) (name : List Char) :
    glyphs? mark (.closing name) cs =
      (glyphs? mark .outside cs).map (.identifier name :: ·) := by
  cases cs with
  | nil => rfl
  | cons c cs =>
    have hc : c ≠ mark := by
      rintro rfl
      exact h rfl
    rw [glyphs?, if_neg hc, glyphs?, if_neg hc, Option.map_map]
    rfl

/-- The marks of a name are read as its characters, up to the mark that ends it. -/
theorem glyphs?_double (front name cs : List Char) :
    glyphs? mark (.inside front) (double [mark] name ++ mark :: cs) =
      glyphs? mark (.closing (front ++ name)) cs := by
  induction name generalizing front with
  | nil =>
    rw [List.append_nil]
    show glyphs? mark (.inside front) (mark :: cs) = _
    rw [glyphs?, if_pos rfl]
  | cons c name ih =>
    rw [double_cons]
    by_cases hc : c = mark
    · subst hc
      rw [if_pos rfl, List.cons_append, List.cons_append, glyphs?, if_pos rfl, glyphs?, if_pos rfl,
        ih, List.append_assoc]
      rfl
    · rw [if_neg hc, List.cons_append, glyphs?, if_neg hc, ih, List.append_assoc]
      rfl

theorem head?_quoteChars (name cs : List Char) :
    (Dialect.quoteChars [mark] name ++ cs).head? = some mark := by
  simp [Dialect.quoteChars]

theorem getLast?_quoteChars (name : List Char) :
    (Dialect.quoteChars [mark] name).getLast? = some mark := by
  rw [Dialect.quoteChars, List.getLast?_concat]

/-- A quoted name is read as the name. -/
theorem glyphs?_quoteChars (name : List Char) {cs : List Char} (h : cs.head? ≠ some mark) :
    glyphs? mark .outside (Dialect.quoteChars [mark] name ++ cs) =
      (glyphs? mark .outside cs).map (.identifier name :: ·) := by
  have hchars : Dialect.quoteChars [mark] name ++ cs =
      mark :: (double [mark] name ++ mark :: cs) := by
    simp [Dialect.quoteChars]
  rw [hchars, glyphs?, if_pos rfl, glyphs?_double, glyphs?_closing h, List.nil_append]

end Text

/-- What is left without the blanks at the end stands at the front. -/
theorem Text.stripRight_prefix (cs : List Char) : Text.stripRight cs <+: cs := by
  have hsuffix := (List.dropWhile_suffix Text.isBlank (l := cs.reverse)).reverse
  rwa [List.reverse_reverse] at hsuffix

/-! ## Texts that differ in their identifiers -/

/-- The same glyph, or two identifiers whose names are related. -/
inductive Glyph.Rel (P : List Char → List Char → Prop) : Glyph → Glyph → Prop
  | char (c : Char) : Rel P (.char c) (.char c)
  | identifier {x y : List Char} : P x y → Rel P (.identifier x) (.identifier y)

/-- The same lexeme, or two identifiers whose names are related. -/
inductive Lexeme.Rel (P : List Char → List Char → Prop) : Lexeme → Lexeme → Prop
  | word (w : List Char) : Rel P (.word w) (.word w)
  | sign (c : Char) : Rel P (.sign c) (.sign c)
  | identifier {x y : List Char} : P x y → Rel P (.identifier x) (.identifier y)

/-- The texts are the same but for their identifiers, which never touch; the names of two
identifiers in one place are related. -/
inductive Parallel (mark : Char) (P : List Char → List Char → Prop) :
    List Char → List Char → Prop
  | nil : Parallel mark P [] []
  | char {c : Char} {s t : List Char} : c ≠ mark → Parallel mark P s t →
      Parallel mark P (c :: s) (c :: t)
  | identifier {x y s t : List Char} : P x y → s.head? ≠ some mark → Parallel mark P s t →
      Parallel mark P (Dialect.quoteChars [mark] x ++ s) (Dialect.quoteChars [mark] y ++ t)

variable {mark : Char} {P : List Char → List Char → Prop}

theorem lexemesFrom_related {gs hs : List Glyph} (h : List.Forall₂ (Glyph.Rel P) gs hs)
    (word : List Char) :
    List.Forall₂ (Lexeme.Rel P) (Text.lexemesFrom word gs) (Text.lexemesFrom word hs) := by
  have hword : ∀ word, List.Forall₂ (Lexeme.Rel P) (Text.wordLexemes word)
      (Text.wordLexemes word) := by
    intro word
    unfold Text.wordLexemes
    split
    · exact .nil
    · exact .cons (.word word) .nil
  induction h generalizing word with
  | nil => exact hword word
  | cons hgh _ ih =>
    cases hgh with
    | identifier hxy => exact List.rel_append (hword word) (.cons (.identifier hxy) (ih []))
    | char c =>
      rw [Text.lexemesFrom, Text.lexemesFrom]
      split
      · exact ih (word ++ [c])
      · split
        · exact List.rel_append (hword word) (ih [])
        · exact List.rel_append (hword word) (.cons (.sign c) (ih []))

namespace Parallel

variable {s t u v : List Char}

theorem of_ne (h : ∀ c ∈ s, c ≠ mark) : Parallel mark P s s := by
  induction s with
  | nil => exact .nil
  | cons c s ih =>
    exact .char (h c (by simp)) (ih fun c' hc' => h c' (List.mem_cons_of_mem c hc'))

theorem quoted {x y : List Char} (h : P x y) :
    Parallel mark P (Dialect.quoteChars [mark] x) (Dialect.quoteChars [mark] y) := by
  have hwhole : Parallel mark P (Dialect.quoteChars [mark] x ++ [])
      (Dialect.quoteChars [mark] y ++ []) := .identifier h (by simp) .nil
  rwa [List.append_nil, List.append_nil] at hwhole

theorem head?_eq (h : Parallel mark P s t) : s.head? = t.head? := by
  cases h with
  | nil => rfl
  | char _ _ => rfl
  | identifier _ _ _ => rw [Text.head?_quoteChars, Text.head?_quoteChars]

theorem eq_nil_iff (h : Parallel mark P s t) : s = [] ↔ t = [] := by
  rw [← List.head?_eq_none_iff, ← List.head?_eq_none_iff, h.head?_eq]

theorem getLast?_eq (h : Parallel mark P s t) : s.getLast? = t.getLast? := by
  induction h with
  | nil => rfl
  | @char c s t _ _ ih => rw [List.getLast?_cons, List.getLast?_cons, ih]
  | @identifier x y s t _ _ _ ih =>
    rw [List.getLast?_append, List.getLast?_append, ih, Text.getLast?_quoteChars,
      Text.getLast?_quoteChars]

/-- The glyphs of two such texts. -/
theorem glyphs (h : Parallel mark P s t) :
    ∃ gs hs, Text.glyphs? mark .outside s = some gs ∧ Text.glyphs? mark .outside t = some hs ∧
      List.Forall₂ (Glyph.Rel P) gs hs := by
  induction h with
  | nil => exact ⟨[], [], rfl, rfl, .nil⟩
  | @char c s t hc _ ih =>
    obtain ⟨gs, hs, hgs, hhs, hrel⟩ := ih
    refine ⟨.char c :: gs, .char c :: hs, ?_, ?_, .cons (.char c) hrel⟩
    · rw [Text.glyphs?, if_neg hc, hgs]
      rfl
    · rw [Text.glyphs?, if_neg hc, hhs]
      rfl
  | @identifier x y s t hxy hhead h ih =>
    obtain ⟨gs, hs, hgs, hhs, hrel⟩ := ih
    refine ⟨.identifier x :: gs, .identifier y :: hs, ?_, ?_, .cons (.identifier hxy) hrel⟩
    · rw [Text.glyphs?_quoteChars x hhead, hgs]
      rfl
    · rw [Text.glyphs?_quoteChars y (h.head?_eq ▸ hhead), hhs]
      rfl

/-- The lexemes of two such texts. -/
theorem lexemes (h : Parallel mark P s t) :
    ∃ ls ms, Text.lexemes? mark s = some ls ∧ Text.lexemes? mark t = some ms ∧
      List.Forall₂ (Lexeme.Rel P) ls ms := by
  obtain ⟨gs, hs, hgs, hhs, hrel⟩ := h.glyphs
  refine ⟨Text.lexemesFrom [] gs, Text.lexemesFrom [] hs, ?_, ?_, lexemesFrom_related hrel []⟩
  · rw [Text.lexemes?, hgs]
    rfl
  · rw [Text.lexemes?, hhs]
    rfl

/-! ### Texts put together -/

/-- A text behind another, where not both have an identifier at the seam. -/
theorem append (h : Parallel mark P s t) (h' : Parallel mark P u v)
    (hseam : s.getLast? ≠ some mark ∨ u.head? ≠ some mark) : Parallel mark P (s ++ u) (t ++ v) := by
  induction h with
  | nil => exact h'
  | @char c s t hc _ ih =>
    refine .char hc (ih (hseam.imp_left fun hlast => ?_))
    cases s with
    | nil => simp
    | cons c' s => exact hlast
  | @identifier x y s t hxy hhead _ ih =>
    rw [List.append_assoc, List.append_assoc]
    cases s with
    | nil =>
      -- the identifier ends the first text, so the second one begins with something else
      have hu : u.head? ≠ some mark := hseam.resolve_left fun hlast => hlast (by
        rw [List.append_nil, Text.getLast?_quoteChars])
      exact .identifier hxy hu (ih (.inr hu))
    | cons c s =>
      refine .identifier hxy hhead (ih (hseam.imp_left fun hlast => ?_))
      rwa [List.getLast?_append_of_ne_nil _ (List.cons_ne_nil c s)] at hlast

/-- Blanks of one kind in front of the two texts are the same. -/
theorem dropWhile {q : Char → Bool} (hq : q mark = false) (h : Parallel mark P s t) :
    Parallel mark P (s.dropWhile q) (t.dropWhile q) := by
  induction h with
  | nil => exact .nil
  | @char c s t hc h ih =>
    by_cases hqc : q c = true
    · rw [List.dropWhile_cons_of_pos hqc, List.dropWhile_cons_of_pos hqc]
      exact ih
    · rw [List.dropWhile_cons_of_neg hqc, List.dropWhile_cons_of_neg hqc]
      exact .char hc h
  | @identifier x y s t hxy hhead h _ =>
    have hstays : ∀ name cs, (Dialect.quoteChars [mark] name ++ cs).dropWhile q =
        Dialect.quoteChars [mark] name ++ cs := by
      intro name cs
      simp [Dialect.quoteChars, hq]
    rw [hstays, hstays]
    exact .identifier hxy hhead h

section Spaces

variable (hmark : Text.isBlank mark = false)
include hmark

theorem stripRight (h : Parallel mark P s t) :
    Parallel mark P (Text.stripRight s) (Text.stripRight t) := by
  induction h with
  | nil => exact .nil
  | @char c s t hc h ih =>
    by_cases hblank : Text.isBlank c = true
    -- a blank goes if nothing is left behind it, which is so in both texts or in none
    · have hfront : Text.stripRight [c] = [] := by simp [Text.stripRight, hblank]
      rw [← List.singleton_append, ← List.singleton_append (l := t), Text.stripRight_append,
        Text.stripRight_append, hfront]
      have hempty := ih.eq_nil_iff
      by_cases hs : Text.stripRight s = []
      · rw [if_pos hs, if_pos (hempty.mp hs)]
        exact .nil
      · rw [if_neg hs, if_neg (mt hempty.mpr hs)]
        exact .char hc ih
    · rw [← List.singleton_append, ← List.singleton_append (l := t),
        Text.stripRight_append_of_solid s (by simpa using hblank),
        Text.stripRight_append_of_solid t (by simpa using hblank)]
      exact .char hc ih
  | @identifier x y s t hxy hhead h ih =>
    have hlast : ∀ name, ∀ c ∈ (Dialect.quoteChars [mark] name).getLast?,
        Text.isBlank c = false := by
      intro name c hc
      rw [Text.getLast?_quoteChars] at hc
      cases hc
      exact hmark
    rw [Text.stripRight_append_of_solid s (hlast x), Text.stripRight_append_of_solid t (hlast y)]
    refine .identifier hxy (fun hhead' => hhead ?_) ih
    obtain ⟨back, hback⟩ := Text.stripRight_prefix s
    rw [← hback, List.head?_append, hhead']
    rfl

theorem strip (h : Parallel mark P s t) : Parallel mark P (Text.strip s) (Text.strip t) :=
  (h.dropWhile hmark).stripRight hmark

theorem mark_ne_space : mark ≠ ' ' := by
  rintro rfl
  revert hmark
  decide

/-- Where a piece is put behind a text, the same spaces go in both. -/
theorem glue (h : Parallel mark P s t) (h' : Parallel mark P u v)
    (hseam : s.getLast? ≠ some mark ∨ u.head? ≠ some mark) :
    Parallel mark P (Template.glue s u) (Template.glue t v) := by
  have hspace := mark_ne_space hmark
  unfold Template.glue
  rw [h.getLast?_eq]
  split
  · next hend =>
    refine h.append (h'.dropWhile (by simpa using hspace)) (.inl ?_)
    rw [h.getLast?_eq, hend]
    exact fun hcontra => hspace (Option.some.inj hcontra).symm
  · exact h.append h' hseam

/-- Behind a text of the template there is no mark. -/
theorem getLast?_glue {text : List Char} (hne : text ≠ []) (htext : ∀ c ∈ text, c ≠ mark)
    (out : List Char) : (Template.glue out text).getLast? ≠ some mark := by
  have hlast : ∀ back, back <:+ text → back.getLast? ≠ some mark := by
    intro back hback hcontra
    exact htext mark (hback.subset (List.mem_of_getLast? hcontra)) rfl
  unfold Template.glue
  split
  · next hend =>
    rw [List.getLast?_append, hend]
    cases hdrop : (text.dropWhile (· = ' ')).getLast? with
    | none => exact fun hcontra => mark_ne_space hmark (Option.some.inj hcontra).symm
    | some c =>
      have hc := hlast (text.dropWhile (· = ' ')) (List.dropWhile_suffix _)
      rw [hdrop] at hc
      exact hc
  · rw [List.getLast?_append_of_ne_nil _ hne]
    exact hlast text List.suffix_rfl

/-- Texts in the slots of a template whose own texts have no mark and keep the slots apart. -/
theorem lay {slots : List (List Char × List Char)}
    (hslots : ∀ slot ∈ slots, ∀ c ∈ slot.2, c ≠ mark)
    (hapart : ∀ slot ∈ slots.dropLast, slot.2 ≠ []) {texts texts' : List String}
    (htexts : List.Forall₂ (fun x y => Parallel mark P x.toList y.toList) texts texts')
    (hlast : s.getLast? ≠ some mark) (h : Parallel mark P s t) :
    Parallel mark P (Template.lay s slots texts) (Template.lay t slots texts') := by
  induction htexts generalizing slots s t with
  | nil => cases slots <;> exact h
  | @cons x y texts texts' hxy _ ih =>
    cases slots with
    | nil => exact h
    | cons slot slots =>
      have hplain := hslots slot (by simp)
      have hslot : Parallel mark P slot.2 slot.2 := of_ne hplain
      have hhead : slot.2.head? ≠ some mark := fun hcontra =>
        hplain mark (List.mem_of_head? hcontra) rfl
      have hnext := (h.glue hmark hxy (.inl hlast)).glue hmark hslot (.inr hhead)
      rw [Template.lay, Template.lay]
      cases slots with
      | nil => cases texts <;> cases texts' <;> exact hnext
      | cons slot' slots =>
        refine ih (fun slot'' hmem => hslots slot'' (List.mem_cons_of_mem slot hmem))
          (fun slot'' hmem => hapart slot'' (by simpa using .inr hmem)) ?_ hnext
        exact getLast?_glue hmark (hapart slot (by simp)) hplain _

end Spaces

end Parallel

end SqlRender
