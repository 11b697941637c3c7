import SqlRender.Proofs.LockNotice
import SqlRender.Proofs.Phrase

/-!
# Spaces have no part in what is read

A template takes care of the spaces around what fills its slots, and blanks are cut off at the ends
of a statement. Blanks only separate tokens, so a filled template is read as its texts and what
fills its slots are read, one after the other.

* `Text.tokens?_strip`: blanks at the ends of a text.
* `Template.gives_lay`: a template with texts in its slots.
-/

namespace SqlRender

/-! ## Blanks -/

namespace Text

/-- The characters of ranges of code points. -/
def rangesChars (ranges : List (Nat × Nat)) : List Char :=
  ranges.flatMap fun r => (List.range' r.1 (r.2 + 1 - r.1)).map Char.ofNat

theorem exists_of_inRanges {ranges : List (Nat × Nat)} {n : Nat} (h : inRanges ranges n = true) :
    ∃ r ∈ ranges, r.1 ≤ n ∧ n ≤ r.2 := by
  induction ranges with
  | nil => cases h
  | cons r ranges ih =>
    obtain ⟨lo, hi⟩ := r
    rw [inRanges] at h
    split at h
    · cases h
    · next hlo =>
      rcases Bool.or_eq_true_iff.mp h with hhi | hrest
      · exact ⟨(lo, hi), by simp, Nat.le_of_not_lt hlo, of_decide_eq_true hhi⟩
      · obtain ⟨r, hr, hn⟩ := ih hrest
        exact ⟨r, List.mem_cons_of_mem _ hr, hn⟩

theorem mem_rangesChars {ranges : List (Nat × Nat)} {c : Char}
    (h : inRanges ranges c.toNat = true) : c ∈ rangesChars ranges := by
  obtain ⟨r, hr, hlo, hhi⟩ := exists_of_inRanges h
  refine List.mem_flatMap.mpr ⟨r, hr, List.mem_map.mpr ⟨c.toNat, ?_, Char.ofNat_toNat c⟩⟩
  rw [List.mem_range'_1]
  omega

/-- A blank belongs to no word and quotes nothing. -/
theorem start_blank {c : Char} (h : isBlank c = true) : Scan.start c = ([], .between) := by
  have hall : (rangesChars blankRanges).all (fun c => Scan.start c = ([], .between)) = true := by
    decide +kernel
  exact of_decide_eq_true (List.all_eq_true.mp hall c (mem_rangesChars h))

theorem isWord_blank {c : Char} (h : isBlank c = true) : isWord c = false := by
  have hstart := start_blank h
  unfold Scan.start at hstart
  split at hstart
  · cases hstart
  · next hword => simpa using hword

theorem quoteMarks_blank {c : Char} (h : isBlank c = true) : c ∉ quoteMarks := by
  have hstart := start_blank h
  unfold Scan.start at hstart
  rw [if_neg (by simp [isWord_blank h])] at hstart
  split at hstart
  · cases hstart
  · next hmark => exact hmark

theorem tokens?_cons_blank {c : Char} (h : isBlank c = true) (cs : List Char) :
    tokens? (c :: cs) = tokens? cs := by
  have hrun : Scan.between.run (c :: cs) = Scan.between.run cs := by
    rw [Scan.run]
    show ((Scan.start c).1 ++ ((Scan.start c).2.run cs).1, ((Scan.start c).2.run cs).2) = _
    rw [start_blank h]
    rfl
  rw [tokens?, tokens?, hrun]

theorem tokens?_dropWhile {p : Char → Bool} (hp : ∀ c, p c = true → isBlank c = true)
    (cs : List Char) : tokens? (cs.dropWhile p) = tokens? cs := by
  induction cs with
  | nil => rfl
  | cons c cs ih =>
    rw [List.dropWhile_cons]
    split
    · next hc => rw [ih, tokens?_cons_blank (hp c hc)]
    · rfl

end Text

namespace Scan

/-- A quoted run is one between quote marks. -/
def IsProper : Scan → Prop
  | .quoted mark _ => mark ∈ quoteMarks
  | _ => True

theorem IsProper.step {s : Scan} (h : s.IsProper) (c : Char) : (s.step c).2.IsProper := by
  have hstart : (start c).2.IsProper := by
    unfold start
    split
    · trivial
    · split
      · next hmark => exact hmark
      · split <;> trivial
  cases s with
  | between => exact hstart
  | word w =>
    rw [Scan.step]
    split
    · trivial
    · exact hstart
  | quoted mark w =>
    rw [Scan.step]
    split
    · trivial
    · exact h

theorem IsProper.run {s : Scan} (h : s.IsProper) (cs : List Char) : (s.run cs).2.IsProper := by
  induction cs generalizing s with
  | nil => exact h
  | cons c cs ih => exact ih (h.step c)

end Scan

namespace Text

theorem tokens?_concat_blank {c : Char} (h : isBlank c = true) (cs : List Char) :
    tokens? (cs ++ [c]) = tokens? cs := by
  have hproper : (Scan.between.run cs).2.IsProper := Scan.IsProper.run (s := .between) trivial cs
  rw [tokens?, tokens?, Scan.run_append]
  cases hscan : (Scan.between.run cs).2 with
  | between => simp [Scan.run, Scan.step, start_blank h]
  | word w => simp [Scan.run, Scan.step, start_blank h, isWord_blank h, Scan.finish]
  -- the text ends inside a quoted run, and a blank does not end it
  | quoted mark w =>
    rw [hscan] at hproper
    have hne : c ≠ mark := by
      rintro rfl
      exact quoteMarks_blank h hproper
    simp [Scan.run, Scan.step, hne, Scan.finish]

theorem tokens?_stripRight (cs : List Char) : tokens? (stripRight cs) = tokens? cs := by
  induction cs using List.reverseRecOn with
  | nil => rfl
  | append_singleton cs c ih =>
    by_cases hc : isBlank c = true
    · have hstrip : stripRight (cs ++ [c]) = stripRight cs := by
        simp [stripRight, hc]
      rw [hstrip, ih, tokens?_concat_blank hc]
    · rw [stripRight_eq_self]
      intro c' hc'
      rw [List.getLast?_concat] at hc'
      cases hc'
      simpa using hc

/-- Blanks at the ends of a text. -/
theorem tokens?_strip (cs : List Char) : tokens? (strip cs) = tokens? cs := by
  rw [strip, tokens?_stripRight, stripLeft, tokens?_dropWhile fun _ h => h]

/-! ## Texts one behind the other -/

/-- The characters add these items wherever they stand. -/
def Gives (cs : List Char) (items : List Item) : Prop :=
  ∃ ts, tokens? cs = some ts ∧ Contributes ts items

theorem Gives.append {cs ds : List Char} {items items' : List Item} (h : Gives cs items)
    (h' : Gives ds items') (hb : Breaks cs ds) : Gives (cs ++ ds) (items ++ items') := by
  obtain ⟨ts, hts, hitems⟩ := h
  obtain ⟨us, hus, hitems'⟩ := h'
  exact ⟨ts ++ us, tokens?_append hts hus hb, hitems.append hitems'⟩

theorem Gives.dropSpaces {cs : List Char} {items : List Item} (h : Gives cs items) :
    Gives (cs.dropWhile (· = ' ')) items := by
  obtain ⟨ts, hts, hitems⟩ := h
  refine ⟨ts, ?_, hitems⟩
  rw [tokens?_dropWhile (fun c hc => ?_), hts]
  rw [of_decide_eq_true hc]
  decide

theorem Gives.strip {cs : List Char} {items : List Item} (h : Gives cs items) :
    Yields (String.ofList (strip cs)) items := by
  obtain ⟨ts, hts, hitems⟩ := h
  refine ⟨ts, ?_, hitems⟩
  rw [String.toList_ofList, tokens?_strip, hts]

end Text

/-! ## Templates -/

namespace Template

open Text (Gives Yields)

theorem gives_glue {out piece : List Char} {items items' : List Item} (h : Gives out items)
    (h' : Gives piece items')
    (hapart : out.getLast? = some ' ' ∨ ∀ c ∈ piece.head?, Text.isWord c = false) :
    Gives (glue out piece) (items ++ items') := by
  by_cases hspace : out.getLast? = some ' '
  · rw [glue_of_space hspace]
    refine h.append h'.dropSpaces (.inl fun c hc => ?_)
    cases hspace.symm.trans hc
    decide
  · rw [glue_of_solid hspace]
    exact h.append h' (.inr (hapart.resolve_left hspace))

/-- A text between slots that begins and ends with a space, and what it is read as. -/
structure Spaced (sep : List Char) (items : List Item) : Prop where
  begins : sep.head? = some ' '
  ends : sep.getLast? = some ' '
  gives : Gives sep items

theorem getLast?_glue {sep : List Char} (h : sep.getLast? = some ' ') (out : List Char) :
    (glue out sep).getLast? = some ' ' := by
  unfold glue
  split
  · next hout =>
    by_cases hdrop : sep.dropWhile (· = ' ') = []
    · rw [hdrop, List.append_nil, hout]
    · rw [List.getLast?_append_of_ne_nil _ hdrop]
      rw [← List.takeWhile_append_dropWhile (p := (· = ' ')) (l := sep),
        List.getLast?_append_of_ne_nil _ hdrop] at h
      exact h
  · have hne : sep ≠ [] := by
      rintro rfl
      cases h
    rw [List.getLast?_append_of_ne_nil _ hne, h]

variable {slots : List (List Char × List Char)} {seps pieces : List (List Item)}
  {texts : List String} {out : List Char} {items : List Item}

/-- What fills the slots is read together with the texts behind them. -/
theorem gives_lay (hout : Gives out items) (hend : out.getLast? = some ' ')
    (hslots : List.Forall₂ (fun slot sep => Spaced slot.2 sep) slots seps)
    (htexts : List.Forall₂ Yields texts pieces) (hlength : texts.length = slots.length) :
    Gives (lay out slots texts) (items ++ (List.zipWith (· ++ ·) pieces seps).flatten) ∧
      (lay out slots texts).getLast? = some ' ' := by
  induction hslots generalizing out items texts pieces with
  | nil =>
    cases htexts with
    | nil => simpa [lay] using ⟨hout, hend⟩
    | cons => cases hlength
  | @cons slot sep slots seps hslot _ ih =>
    cases htexts with
    | nil => cases hlength
    | @cons text piece texts pieces htext htexts =>
      have hfilled := gives_glue hout htext (.inl hend)
      have hbegins : ∀ c ∈ slot.2.head?, Text.isWord c = false := by
        intro c hc
        cases hslot.begins.symm.trans hc
        decide
      have hspaced := gives_glue hfilled hslot.gives (.inr hbegins)
      have hrest := ih hspaced (getLast?_glue hslot.ends _) htexts (by simpa using hlength)
      simpa [lay] using hrest

/-- Slots with single spaces between them. -/
theorem gives_lay_spaces (hout : Gives out items) (hend : out.getLast? = some ' ')
    (hslots : ∀ slot ∈ slots.dropLast, slot.2 = [' '])
    (hlast : ∀ slot ∈ slots.getLast?, slot.2 = [])
    (htexts : List.Forall₂ Yields texts pieces) (hlength : texts.length = slots.length) :
    Gives (lay out slots texts) (items ++ pieces.flatten) := by
  induction slots generalizing out items texts pieces with
  | nil =>
    cases htexts with
    | nil => simpa [lay] using hout
    | cons => cases hlength
  | cons slot slots ih =>
    cases htexts with
    | nil => cases hlength
    | @cons text piece texts pieces htext htexts =>
      have hfilled := gives_glue hout htext (.inl hend)
      cases slots with
      | nil =>
        cases htexts with
        | nil =>
          show Gives (glue (glue out text.toList) slot.2) _
          rw [hlast slot rfl, glue_nil]
          simpa using hfilled
        | cons => cases hlength
      | cons next slots =>
        have hspace : slot.2 = [' '] := hslots slot (by simp)
        have hspaced : Gives (glue (glue out text.toList) slot.2) (items ++ piece ++ []) := by
          have hhead : ∀ c ∈ [' '].head?, Text.isWord c = false := by
            rintro c ⟨⟩
            decide
          rw [hspace]
          exact gives_glue hfilled ⟨[], by decide, .nil⟩ (.inr hhead)
        have hspaceEnd : (glue (glue out text.toList) slot.2).getLast? = some ' ' :=
          getLast?_glue (by rw [hspace]; rfl) _
        have hrest := ih hspaced hspaceEnd (fun slot' hslot' => hslots slot' (by simp [hslot']))
          (fun slot' hslot' => hlast slot' (by simpa using hslot')) htexts (by simpa using hlength)
        rw [lay]
        simpa using hrest

end Template

end SqlRender
