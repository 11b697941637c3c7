import Mathlib.Data.List.Chain
import SqlRender.Proofs.Occurrence

/-!
# What a template changes about its fragments

Putting fragments into a template touches spaces only. The words of the result are those of the
plain substitution, a double space never arises, and a template of tokens with single spaces between
them gives its words and the fragments that are not empty, again with single spaces between them.

* `Text.Respaced`: two texts with the same words, whatever stands around them.
* `Template.respaced_assemble`: a filled template beside the plain substitution.
* `Template.assemble_line`: a template of tokens, filled from the right.
* `Template.render_only_respaces`: what rendering does to a template.
-/

namespace SqlRender

namespace Text

/-! ## Words -/

/-- The words of a text: what stands between blanks. -/
def words (cs : List Char) : List (List Char) := (cs.splitOnP isBlank).filter (· ≠ [])

theorem words_nil : words [] = [] := by
  simp [words]

theorem words_append_blank {c : Char} (hc : isBlank c = true) (front back : List Char) :
    words (front ++ c :: back) = words front ++ words back := by
  rw [words, List.splitOnP_append_cons front back hc, List.filter_append]
  rfl

theorem words_blanks_append {blanks : List Char} (h : ∀ c ∈ blanks, isBlank c = true)
    (cs : List Char) : words (blanks ++ cs) = words cs := by
  induction blanks with
  | nil => rfl
  | cons c blanks ih =>
    have hc := words_append_blank (h c (by simp)) [] (blanks ++ cs)
    rw [words_nil] at hc
    exact hc.trans (ih fun c' hc' => h c' (List.mem_cons_of_mem c hc'))

theorem words_append_blanks {blanks : List Char} (h : ∀ c ∈ blanks, isBlank c = true)
    (cs : List Char) : words (cs ++ blanks) = words cs := by
  cases blanks with
  | nil => rw [List.append_nil]
  | cons c blanks =>
    have hblanks := words_blanks_append (fun c' hc' => h c' (List.mem_cons_of_mem c hc')) []
    rw [List.append_nil, words_nil] at hblanks
    rw [words_append_blank (h c (by simp)), hblanks, List.append_nil]

theorem words_dropWhile_append {p : Char → Bool} (hp : ∀ c, p c = true → isBlank c = true)
    (cs back : List Char) : words (cs.dropWhile p ++ back) = words (cs ++ back) := by
  have hblanks : ∀ c ∈ cs.takeWhile p, isBlank c = true :=
    fun c hc => hp c (List.mem_takeWhile_imp hc)
  conv_rhs => rw [← List.takeWhile_append_dropWhile (p := p) (l := cs), List.append_assoc]
  rw [words_blanks_append hblanks]

theorem exists_stripRight (cs : List Char) :
    ∃ blanks, (∀ c ∈ blanks, isBlank c = true) ∧ cs = stripRight cs ++ blanks := by
  refine ⟨(cs.reverse.takeWhile isBlank).reverse, fun c hc => ?_, ?_⟩
  · exact List.mem_takeWhile_imp (List.mem_reverse.mp hc)
  · rw [stripRight, ← List.reverse_append, List.takeWhile_append_dropWhile, List.reverse_reverse]

/-- Blanks at the ends of a text belong to no word. -/
theorem words_strip (cs : List Char) : words (strip cs) = words cs := by
  obtain ⟨blanks, hblanks, hcs⟩ := exists_stripRight (stripLeft cs)
  have hleft := words_dropWhile_append (p := isBlank) (fun _ h => h) cs []
  rw [List.append_nil, List.append_nil] at hleft
  calc words (strip cs) = words (strip cs ++ blanks) := (words_append_blanks hblanks _).symm
    _ = words (stripLeft cs) := by rw [strip, ← hcs]
    _ = words cs := hleft

/-- The texts have the same words, whatever stands around them. -/
def Respaced (cs ds : List Char) : Prop :=
  ∀ front back, words (front ++ cs ++ back) = words (front ++ ds ++ back)

namespace Respaced

variable {cs ds es : List Char}

theorem refl (cs : List Char) : Respaced cs cs := fun _ _ => rfl

theorem trans (h : Respaced cs ds) (h' : Respaced ds es) : Respaced cs es :=
  fun front back => (h front back).trans (h' front back)

theorem append {cs' ds' : List Char} (h : Respaced cs ds) (h' : Respaced cs' ds') :
    Respaced (cs ++ cs') (ds ++ ds') := by
  intro front back
  have hfirst := h front (cs' ++ back)
  have hsecond := h' (front ++ ds) back
  simp only [List.append_assoc] at hfirst hsecond ⊢
  exact hfirst.trans hsecond

theorem words_eq (h : Respaced cs ds) : words cs = words ds := by
  simpa using h [] []

end Respaced

/-! ## Double spaces -/

/-- No two spaces stand side by side. -/
def SingleSpaced (cs : List Char) : Prop := ¬[' ', ' '] <:+: cs

theorem singleSpaced_iff {cs : List Char} :
    SingleSpaced cs ↔ cs.IsChain fun c d => ¬(c = ' ' ∧ d = ' ') := by
  rw [List.isChain_iff_forall_rel_of_append_cons_cons, SingleSpaced]
  constructor
  · rintro h c d front back rfl ⟨rfl, rfl⟩
    exact h ⟨front, back, by simp⟩
  · rintro h ⟨front, back, rfl⟩
    exact h (List.append_assoc front [' ', ' '] back) ⟨rfl, rfl⟩

theorem SingleSpaced.of_isInfix {cs ds : List Char} (h : SingleSpaced ds) (hpart : cs <:+: ds) :
    SingleSpaced cs :=
  fun hspaces => h (hspaces.trans hpart)

theorem SingleSpaced.append {cs ds : List Char} (h : SingleSpaced cs) (h' : SingleSpaced ds)
    (hseam : cs.getLast? = some ' ' → ds.head? ≠ some ' ') : SingleSpaced (cs ++ ds) := by
  rw [singleSpaced_iff] at h h' ⊢
  refine h.append h' ?_
  rintro c hc d hd ⟨rfl, rfl⟩
  exact hseam hc hd

theorem strip_isInfix (cs : List Char) : strip cs <:+: cs := by
  obtain ⟨blanks, -, hblanks⟩ := exists_stripRight (stripLeft cs)
  have hright : strip cs <+: stripLeft cs := ⟨blanks, hblanks.symm⟩
  exact hright.isInfix.trans (List.dropWhile_suffix isBlank).isInfix

/-! ## Ends of texts -/

instance (cs : List Char) : Decidable (IsStripped cs) :=
  decidable_of_iff (cs.head?.all (!isBlank ·) = true ∧ cs.getLast?.all (!isBlank ·) = true)
    ⟨fun h => ⟨by simpa [Option.all_eq_true] using h.1, by simpa [Option.all_eq_true] using h.2⟩,
      fun h => ⟨by simpa [Option.all_eq_true] using h.first,
        by simpa [Option.all_eq_true] using h.last⟩⟩

theorem IsStripped.nil : IsStripped [] := ⟨by simp, by simp⟩

/-- Nothing but blanks goes from around a text that neither begins nor ends with one. -/
theorem IsStripped.strip_eq {core front back : List Char} (h : IsStripped core)
    (hfront : ∀ c ∈ front, isBlank c = true) (hback : ∀ c ∈ back, isBlank c = true) :
    strip (front ++ core ++ back) = core := by
  have hright : stripRight back = [] := by
    simpa [stripRight] using hback
  rw [List.append_assoc, strip, stripLeft, List.dropWhile_append_of_pos hfront,
    stripRight_dropWhile, stripRight_append_of_solid back h.last, hright, List.append_nil]
  cases core with
  | nil => rfl
  | cons c core => exact List.dropWhile_cons_of_neg (by simp [h.first c rfl])

theorem strip_append {core : List Char} (hne : core ≠ []) (h : IsStripped core)
    (back : List Char) : strip (core ++ back) = core ++ stripRight back := by
  rw [strip, stripLeft, stripRight_dropWhile, stripRight_append_of_solid back h.last]
  cases core with
  | nil => exact absurd rfl hne
  | cons c core => exact List.dropWhile_cons_of_neg (by simp [h.first c rfl])

end Text

/-! ## Filled templates -/

namespace Template

open Text (Respaced SingleSpaced IsStripped)

variable {out : List Char} {slots : List (List Char × List Char)}

theorem respaced_glue (out piece : List Char) : Respaced (glue out piece) (out ++ piece) := by
  by_cases hout : out.getLast? = some ' '
  · obtain ⟨start, rfl⟩ := List.getLast?_eq_some_iff.mp hout
    have hspace : Text.isBlank ' ' = true := by decide
    have hspaces : ∀ c, decide (c = ' ') = true → Text.isBlank c = true := by
      intro c hc
      rw [of_decide_eq_true hc]
      exact hspace
    intro front back
    have hdrop := Text.words_append_blank hspace (front ++ start)
      (piece.dropWhile (· = ' ') ++ back)
    rw [Text.words_dropWhile_append hspaces, ← Text.words_append_blank hspace] at hdrop
    rw [glue_of_space hout]
    simpa using hdrop
  · rw [glue_of_solid hout]
    exact Respaced.refl _

theorem singleSpaced_glue {piece : List Char} (hout : SingleSpaced out)
    (hpiece : SingleSpaced piece) : SingleSpaced (glue out piece) := by
  by_cases hspace : out.getLast? = some ' '
  · rw [glue_of_space hspace]
    refine hout.append (hpiece.of_isInfix (List.dropWhile_suffix _).isInfix) fun _ hhead => ?_
    have hnot := List.head?_dropWhile_not (fun c : Char => decide (c = ' ')) piece
    rw [hhead] at hnot
    exact absurd hnot (by decide)
  · rw [glue_of_solid hspace]
    exact hout.append hpiece fun h => absurd h hspace

/-- The template with a fragment in the place of each slot, as it stands. -/
def substitute (t : Template) (fragment : List Char → List Char) : List Char :=
  t.head ++ t.slots.flatMap fun slot => fragment slot.1 ++ slot.2

/-- Putting a slot and the text behind it into a template. -/
def fillSlot (fragment : List Char → List Char) (out : List Char)
    (slot : List Char × List Char) : List Char :=
  glue (glue out (fragment slot.1)) slot.2

/-- The template with a fragment in each slot, before the ends are stripped. -/
def assemble (t : Template) (fragment : List Char → List Char) : List Char :=
  t.slots.foldl (fillSlot fragment) t.head

variable {fragment : List Char → List Char}

theorem respaced_foldl (out : List Char) :
    Respaced (slots.foldl (fillSlot fragment) out)
      (out ++ slots.flatMap fun slot => fragment slot.1 ++ slot.2) := by
  induction slots generalizing out with
  | nil =>
    rw [List.flatMap_nil, List.append_nil]
    exact Respaced.refl out
  | cons slot slots ih =>
    have hslot : Respaced (fillSlot fragment out slot) (out ++ fragment slot.1 ++ slot.2) :=
      (respaced_glue _ _).trans ((respaced_glue _ _).append (Respaced.refl _))
    have hslots := (ih (fillSlot fragment out slot)).trans (hslot.append (Respaced.refl _))
    simpa using hslots

/-- The words of a filled template are those of the plain substitution. -/
theorem respaced_assemble (t : Template) (fragment : List Char → List Char) :
    Respaced (t.assemble fragment) (t.substitute fragment) :=
  respaced_foldl t.head

theorem singleSpaced_foldl (hout : SingleSpaced out)
    (hslots : ∀ slot ∈ slots, SingleSpaced (fragment slot.1) ∧ SingleSpaced slot.2) :
    SingleSpaced (slots.foldl (fillSlot fragment) out) := by
  induction slots generalizing out with
  | nil => exact hout
  | cons slot slots ih =>
    obtain ⟨hfragment, htext⟩ := hslots slot (by simp)
    exact ih (singleSpaced_glue (singleSpaced_glue hout hfragment) htext)
      fun slot' hslot' => hslots slot' (List.mem_cons_of_mem slot hslot')

/-! ## Templates of tokens -/

/-- A token of a template: a slot, or a word that stays as it is. -/
inductive Token where
  | slot (name : String)
  | word (text : String)
deriving DecidableEq, Repr

namespace Token

/-- The token in the text of a template. -/
def text : Token → String
  | slot name => "\x7b" ++ name ++ "\x7d"
  | word text => text

/-- A slot is named by word characters; a word has neither blanks nor braces. Neither is empty. -/
def isProper : Token → Bool
  | slot name => name ≠ "" && name.toList.all Text.isWord
  | word text => text ≠ "" && text.toList.all fun c => !Text.isBlank c && c ≠ '\x7b' && c ≠ '\x7d'

/-- What stands in the place of the token. -/
def filled (fragment : List Char → List Char) : Token → List Char
  | slot name => fragment name.toList
  | word text => text.toList

theorem forall_of_isProper {text : String} (h : (word text).isProper = true) :
    ∀ c ∈ text.toList, Text.isBlank c = false ∧ c ≠ '\x7b' := by
  intro c hc
  have hall : (text.toList.all fun c => !Text.isBlank c && c ≠ '\x7b' && c ≠ '\x7d') = true := by
    rw [isProper, Bool.and_eq_true] at h
    exact h.2
  simpa using (Bool.and_eq_true_iff.mp (List.all_eq_true.mp hall c hc)).1

/-- A template with the token in front. -/
def before : Token → Template → Template
  | slot name, t => ⟨[], (name.toList, t.head) :: t.slots⟩
  | word text, t => ⟨text.toList ++ t.head, t.slots⟩

end Token

/-- Tokens with single spaces between them. -/
def line (tokens : List Token) : String := Text.joined " " (tokens.map Token.text)

theorem parse_append (cs ds : List Char) : parse (cs ++ ds) = cs.foldr push (parse ds) :=
  List.foldr_append

/-- Text without an opening brace stays text. -/
theorem foldr_push {cs : List Char} (h : '\x7b' ∉ cs) (t : Template) :
    cs.foldr push t = ⟨cs ++ t.head, t.slots⟩ := by
  induction cs with
  | nil => rfl
  | cons c cs ih =>
    rw [List.mem_cons, not_or] at h
    rw [List.foldr_cons, ih h.2, push, if_neg (Ne.symm h.1)]
    rfl

theorem isWord_brace : Text.isWord '\x7b' = false ∧ Text.isWord '\x7d' = false := by
  decide +kernel

/-- A word and a closing brace at the start of a text close a slot. -/
theorem closeSlot?_append {name : List Char} (hne : name ≠ [])
    (hname : ∀ c ∈ name, Text.isWord c = true) (rest : List Char) :
    closeSlot? (name ++ '\x7d' :: rest) = some (name, rest) := by
  obtain ⟨c, cs, rfl⟩ := List.exists_cons_of_ne_nil hne
  rw [closeSlot?, List.takeWhile_append_of_pos hname, List.dropWhile_append_of_pos hname]
  simp [isWord_brace.2]

theorem parse_slot {name : List Char} (hne : name ≠ []) (hname : ∀ c ∈ name, Text.isWord c = true)
    (cs : List Char) :
    parse ('\x7b' :: name ++ '\x7d' :: cs) = ⟨[], (name, (parse cs).head) :: (parse cs).slots⟩ := by
  have hopen : '\x7b' ∉ name ++ ['\x7d'] := by
    intro hmem
    rcases List.mem_append.mp hmem with hmem | hmem
    · exact absurd (hname _ hmem) (by simp [isWord_brace.1])
    · exact absurd hmem (by decide)
  have hparse : parse (name ++ '\x7d' :: cs) =
      ⟨name ++ '\x7d' :: (parse cs).head, (parse cs).slots⟩ := by
    have happend : name ++ '\x7d' :: cs = name ++ ['\x7d'] ++ cs := by simp
    rw [happend, parse_append, foldr_push hopen]
    simp
  show push '\x7b' (parse (name ++ '\x7d' :: cs)) = _
  rw [hparse, push, if_pos rfl]
  simp only [closeSlot?_append hne hname]

/-- A piece in front of a filled template may be put there before or after filling it. -/
theorem foldl_glue (front out : List Char) :
    slots.foldl (fillSlot fragment) (glue front out) =
      glue front (slots.foldl (fillSlot fragment) out) := by
  induction slots generalizing out with
  | nil => rfl
  | cons slot slots ih =>
    have hslot : fillSlot fragment (glue front out) slot =
        glue front (fillSlot fragment out slot) := by
      rw [fillSlot, fillSlot, glue_assoc, glue_assoc, glue_assoc]
    rw [List.foldl_cons, hslot, ih]
    rfl

theorem parse_token {token : Token} (h : token.isProper = true) (cs : List Char) :
    parse (token.text.toList ++ cs) = token.before (parse cs) := by
  cases token with
  | slot name =>
    obtain ⟨hne, hname⟩ : name ≠ "" ∧ ∀ c ∈ name.toList, Text.isWord c = true := by
      simpa [Token.isProper] using h
    have htext : (Token.slot name).text.toList ++ cs = '\x7b' :: name.toList ++ '\x7d' :: cs := by
      simp [Token.text]
    rw [htext, parse_slot (by simpa using hne) hname]
    rfl
  | word text =>
    have hopen : '\x7b' ∉ text.toList := fun hmem => (Token.forall_of_isProper h _ hmem).2 rfl
    show parse (text.toList ++ cs) = _
    rw [parse_append, foldr_push hopen]
    rfl

/-- A proper token in front of a template is put in front of what fills the template. -/
theorem assemble_before {token : Token} (h : token.isProper = true) (t : Template) :
    (token.before t).assemble fragment = glue (token.filled fragment) (t.assemble fragment) := by
  cases token with
  | slot name =>
    rw [Token.before, assemble, List.foldl_cons, fillSlot, nil_glue, foldl_glue]
    rfl
  | word text =>
    have hlast : text.toList.getLast? ≠ some ' ' := fun hspace =>
      absurd (Token.forall_of_isProper h ' ' (List.mem_of_getLast? hspace)).1 (by decide)
    rw [Token.before, assemble, ← glue_of_solid hlast, foldl_glue]
    rfl

theorem head?_before {token : Token} (h : token.isProper = true) (t : Template) :
    (token.before t).head.head? ≠ some ' ' := by
  cases token with
  | slot name => simp [Token.before]
  | word text =>
    have hne : text.toList ≠ [] := by
      intro hnil
      simp [Token.isProper, String.toList_eq_nil_iff.mp hnil] at h
    intro hspace
    rw [Token.before, List.head?_append_of_ne_nil _ hne] at hspace
    exact absurd (Token.forall_of_isProper h ' ' (List.mem_of_head? hspace)).1 (by decide)

/-- Texts with spaces between them, put together from the right. -/
def glued : List (List Char) → List Char
  | [] => []
  | [text] => text
  | text :: texts => glue text (glue [' '] (glued texts))

theorem assemble_line {tokens : List Token} (h : ∀ token ∈ tokens, token.isProper = true) :
    (ofText (line tokens)).assemble fragment = glued (tokens.map (Token.filled fragment)) := by
  induction tokens with
  | nil => rfl
  | cons token tokens ih =>
    have htoken := h token (by simp)
    have hrest := fun token' hmem => h token' (List.mem_cons_of_mem token hmem)
    cases tokens with
    | nil =>
      have hline : (line [token]).toList = token.text.toList ++ [] := by simp [line, Text.joined]
      rw [ofText, hline, parse_token htoken, assemble_before htoken]
      exact glue_nil _
    | cons next tokens =>
      have hline : (line (token :: next :: tokens)).toList =
          token.text.toList ++ ' ' :: (line (next :: tokens)).toList := by
        simp [line, Text.joined]
      -- the token behind the space begins with none, so the space may be glued to it
      have hhead : (ofText (line (next :: tokens))).head.head? ≠ some ' ' := by
        obtain ⟨cs, hcs⟩ : ∃ cs, (line (next :: tokens)).toList = next.text.toList ++ cs := by
          cases tokens with
          | nil => exact ⟨[], by simp [line, Text.joined]⟩
          | cons _ _ => exact ⟨_, by simp [line, Text.joined]; rfl⟩
        have hnext := hrest next (by simp)
        rw [ofText, hcs, parse_token hnext]
        exact head?_before hnext _
      have hspace : parse (' ' :: (line (next :: tokens)).toList) =
          ⟨glue [' '] (ofText (line (next :: tokens))).head,
            (ofText (line (next :: tokens))).slots⟩ := by
        rw [glue_eq hhead]
        rfl
      rw [ofText, hline, parse_token htoken, assemble_before htoken, hspace, assemble,
        foldl_glue, ← assemble, ih hrest]
      rfl

/-- The texts that are not empty, with single spaces between them. -/
def spaced (texts : List (List Char)) : List Char := Text.join [' '] (texts.filter (· ≠ []))

theorem spaced_cons (text : List Char) (texts : List (List Char)) :
    spaced (text :: texts) =
      if text = [] then spaced texts
      else if spaced texts = [] then text
      else text ++ ' ' :: spaced texts := by
  by_cases htext : text = []
  · simp [spaced, htext]
  · rw [if_neg htext, spaced, List.filter_cons_of_pos (by simpa using htext), spaced]
    cases hfilter : texts.filter (· ≠ []) with
    | nil => rfl
    | cons kept rest =>
      have hne : kept ≠ [] := by
        have hmem : kept ∈ texts.filter (· ≠ []) := by
          rw [hfilter]
          exact List.mem_cons_self
        simpa using (List.mem_filter.mp hmem).2
      have hjoin : Text.join [' '] (kept :: rest) ≠ [] := by
        cases rest <;> simp [Text.join, hne]
      rw [if_neg hjoin]
      simp [Text.join]

theorem isStripped_spaced {texts : List (List Char)} (h : ∀ text ∈ texts, IsStripped text) :
    IsStripped (spaced texts) := by
  induction texts with
  | nil => exact IsStripped.nil
  | cons text texts ih =>
    have htext := h text (by simp)
    have hrest := ih fun text' hmem => h text' (List.mem_cons_of_mem text hmem)
    rw [spaced_cons]
    split
    · exact hrest
    · next hne =>
      split
      · exact htext
      · next hcore =>
        refine ⟨?_, ?_⟩
        · rw [List.head?_append_of_ne_nil _ hne]
          exact htext.first
        · rw [List.getLast?_append_of_ne_nil _ (by simp), List.getLast?_cons_of_ne_nil hcore]
          exact hrest.last

/-- Spaces that are left over stand at the ends. -/
theorem exists_margins {texts : List (List Char)} (h : ∀ text ∈ texts, IsStripped text) :
    ∃ front back, (∀ c ∈ front, c = ' ') ∧ (∀ c ∈ back, c = ' ') ∧
      glued texts = front ++ spaced texts ++ back := by
  fun_induction glued texts with
  | case1 => exact ⟨[], [], by simp, by simp, rfl⟩
  | case2 text =>
    refine ⟨[], [], by simp, by simp, ?_⟩
    rw [spaced_cons]
    by_cases htext : text = [] <;> simp [htext, spaced, Text.join]
  | case3 text texts _ ih =>
    have hcore := isStripped_spaced fun text' hmem => h text' (List.mem_cons_of_mem text hmem)
    obtain ⟨front, back, hfront, hback, hglued⟩ :=
      ih fun text' hmem => h text' (List.mem_cons_of_mem text hmem)
    have hspaces : ∀ cs ds : List Char, (∀ c ∈ cs, c = ' ') →
        (cs ++ ds).dropWhile (· = ' ') = ds.dropWhile (· = ' ') :=
      fun cs ds hcs => List.dropWhile_append_of_pos fun c hc => decide_eq_true (hcs c hc)
    -- what is left over in front goes where a space is put in front of it
    obtain ⟨back', hback', hspace⟩ : ∃ back', (∀ c ∈ back', c = ' ') ∧
        glue [' '] (glued texts) = ' ' :: spaced texts ++ back' := by
      rw [glue_of_space rfl, hglued, List.append_assoc, hspaces front _ hfront]
      cases hne : spaced texts with
      | nil =>
        have hnone := hspaces back [] hback
        rw [List.append_nil] at hnone
        exact ⟨[], by simp, by rw [List.nil_append, hnone]; rfl⟩
      | cons c core =>
        rw [hne] at hcore
        have hc : ¬decide (c = ' ') = true := by
          rw [decide_eq_true_iff]
          rintro rfl
          exact absurd (hcore.first ' ' rfl) (by decide)
        have hkept : (c :: (core ++ back)).dropWhile (· = ' ') = c :: (core ++ back) :=
          List.dropWhile_cons_of_neg hc
        exact ⟨back, hback, congrArg (' ' :: ·) hkept⟩
    rw [hspace, spaced_cons]
    by_cases htext : text = []
    · rw [if_pos htext, htext, nil_glue]
      exact ⟨[' '], back', by simp, hback', rfl⟩
    · have hlast : text.getLast? ≠ some ' ' := fun hend =>
        absurd ((h text (by simp)).last ' ' hend) (by decide)
      rw [if_neg htext, glue_of_solid hlast]
      split
      · next hnone => exact ⟨[], ' ' :: back', by simp, by simpa using hback', by simp [hnone]⟩
      · exact ⟨[], back', by simp, hback', by simp⟩

theorem strip_glued {texts : List (List Char)} (h : ∀ text ∈ texts, IsStripped text) :
    Text.strip (glued texts) = spaced texts := by
  have hblank : ∀ cs : List Char, (∀ c ∈ cs, c = ' ') → ∀ c ∈ cs, Text.isBlank c = true := by
    intro cs hcs c hc
    rw [hcs c hc]
    decide
  obtain ⟨front, back, hfront, hback, hglued⟩ := exists_margins h
  rw [hglued]
  exact (isStripped_spaced h).strip_eq (hblank front hfront) (hblank back hback)

/-! ## Rendering -/

/-- Fragments that may be missing, as values. -/
def optionalValues (fragments : List (String × Option String)) : List (String × Value) :=
  fragments.map fun entry => (entry.1, entry.2.elim .null .text)

/-- The fragment for a slot; a missing one is empty. -/
def fragmentFor (fragments : List (String × Option String)) (name : List Char) : List Char :=
  ((Assoc.get? (String.ofList name) fragments).join.getD "").toList

theorem get?_optionalValues (name : String) (fragments : List (String × Option String)) :
    (Assoc.get? name (optionalValues fragments)).getD .null =
      (Assoc.get? name fragments).join.elim .null .text := by
  induction fragments with
  | nil => rfl
  | cons entry rest ih =>
    rw [optionalValues, List.map_cons, Assoc.get?, Assoc.get?]
    split
    · rfl
    · exact ih

theorem assembleValues_optional (fragment : List Char → Option String) (out : List Char) :
    assembleValues (fun name => (fragment name).elim .null .text) out slots =
      .ok (slots.foldl (fillSlot fun name => ((fragment name).getD "").toList) out) := by
  induction slots generalizing out with
  | nil => rfl
  | cons slot slots ih =>
    rw [assembleValues, List.foldl_cons, fillSlot]
    cases fragment slot.1 with
    | some text => exact ih _
    | none =>
      rw [Option.getD_none, String.toList_empty, glue_nil]
      exact ih _

theorem renderValues_optional (t : Template) (fragments : List (String × Option String)) :
    t.renderValues (optionalValues fragments) =
      .ok (String.ofList (Text.strip (t.assemble (fragmentFor fragments)))) := by
  have hvalues :
      (fun name => (Assoc.get? (String.ofList name) (optionalValues fragments)).getD .null) =
        fun name => (Assoc.get? (String.ofList name) fragments).join.elim .null .text :=
    funext fun name => get?_optionalValues (String.ofList name) fragments
  rw [renderValues, hvalues, assembleValues_optional]
  rfl

/-- Rendering a template changes nothing but spaces: the words are those of the plain substitution,
no double space arises, and a template of tokens gives its words and the fragments that are not
empty, each as it is, with single spaces between them. -/
theorem render_only_respaces (template : String) (fragments : List (String × Option String)) :
    ∃ sql, (ofText template).renderValues (optionalValues fragments) = .ok sql ∧
      Text.words sql.toList =
        Text.words ((ofText template).substitute (fragmentFor fragments)) ∧
      (SingleSpaced (ofText template).head →
        (∀ slot ∈ (ofText template).slots,
          SingleSpaced (fragmentFor fragments slot.1) ∧ SingleSpaced slot.2) →
        SingleSpaced sql.toList) ∧
      ∀ tokens : List Token, template = line tokens →
        (∀ token ∈ tokens, token.isProper = true) →
        (∀ name, .slot name ∈ tokens → IsStripped (fragmentFor fragments name.toList)) →
        sql.toList = spaced (tokens.map (Token.filled (fragmentFor fragments))) := by
  refine ⟨_, renderValues_optional _ fragments, ?_, fun hhead hslots => ?_, ?_⟩
  · rw [String.toList_ofList, Text.words_strip]
    exact (respaced_assemble _ _).words_eq
  · rw [String.toList_ofList]
    exact (singleSpaced_foldl hhead hslots).of_isInfix (Text.strip_isInfix _)
  · rintro tokens rfl htokens hfragments
    rw [String.toList_ofList, assemble_line htokens, strip_glued]
    intro text htext
    obtain ⟨token, htoken, rfl⟩ := List.mem_map.mp htext
    cases token with
    | slot name => exact hfragments name htoken
    | word text =>
      have hproper := Token.forall_of_isProper (htokens _ htoken)
      exact ⟨fun c hc => (hproper c (List.mem_of_head? hc)).1,
        fun c hc => (hproper c (List.mem_of_getLast? hc)).1⟩

/-- The tokens of a select. -/
def reportTokens : List Token :=
  [.word "SELECT", .slot "distinct", .slot "fields", .word "FROM", .slot "table", .slot "where",
   .slot "having", .slot "limit"]

/-- A fragment of two lines, one that is null and one that is empty; one slot has none. -/
def reportFragments : List (String × Option String) :=
  [("fields", some "a,\n\tb"), ("table", some "t"), ("where", none), ("having", some ""),
   ("limit", some "LIMIT 5")]

theorem reportTokens_only_respaces :
    ∃ sql, (ofText (line reportTokens)).renderValues (optionalValues reportFragments) = .ok sql ∧
      SingleSpaced sql.toList ∧ sql.toList = "SELECT a,\n\tb FROM t LIMIT 5".toList := by
  obtain ⟨sql, hsql, -, hspaces, htokens⟩ :=
    render_only_respaces (line reportTokens) reportFragments
  have hstripped : ∀ name ∈ ["distinct", "fields", "table", "where", "having", "limit"],
      IsStripped (fragmentFor reportFragments name.toList) := by
    decide +kernel
  have hsingle : SingleSpaced (ofText (line reportTokens)).head ∧
      ∀ slot ∈ (ofText (line reportTokens)).slots,
        SingleSpaced (fragmentFor reportFragments slot.1) ∧ SingleSpaced slot.2 := by
    unfold SingleSpaced
    decide +kernel
  refine ⟨sql, hsql, hspaces hsingle.1 hsingle.2, ?_⟩
  rw [htokens reportTokens rfl (by decide +kernel) fun name hname =>
    hstripped name (by simpa [reportTokens] using hname)]
  decide +kernel

end Template

end SqlRender
