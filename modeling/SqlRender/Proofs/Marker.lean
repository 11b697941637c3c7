import SqlRender.Proofs.Layout

/-!
# Markers outside quotes

A mark in SQL begins or ends a quoted name, and a question mark between two marks is part of a name.
`Text.markers` counts the other question marks, and `Text.fillMarkers` puts texts in their places.

`Aligned` says of a text, its parameters and a second text that the second one is the first with a
literal for each parameter in the place of its marker. It is kept when texts are put one behind the
other, also where the spaces between them are taken care of (`Aligned.glue`, `Aligned.strip`).
-/

namespace SqlRender

namespace Text

/-- The number of markers outside quotes. `inside` says that the text begins inside a quoted
name. -/
def markers (mark : Char) : Bool → List Char → Nat
  | _, [] => 0
  | inside, c :: cs =>
    if c = mark then markers mark (!inside) cs
    else if c = '?' ∧ inside = false then markers mark inside cs + 1
    else markers mark inside cs

/-- The text with texts in the places of the markers outside quotes, from the left. -/
def fillMarkers (mark : Char) : Bool → List (List Char) → List Char → List Char
  | _, _, [] => []
  | inside, texts, c :: cs =>
    if c = mark then c :: fillMarkers mark (!inside) texts cs
    else if c = '?' ∧ inside = false then
      texts.headD [c] ++ fillMarkers mark inside texts.tail cs
    else c :: fillMarkers mark inside texts cs

/-- A question mark inside quotes is part of a name. -/
example : markers '"' false ['"', '?', '"', '=', '?'] = 1 ∧
    fillMarkers '"' false [['1']] ['"', '?', '"', '=', '?'] = ['"', '?', '"', '=', '1'] := by decide

theorem markers_quoted {mark : Char} {body : List Char} (h : mark ∉ body) (cs : List Char) :
    markers mark true (body ++ mark :: cs) = markers mark false cs := by
  induction body with
  | nil => simp [markers]
  | cons c body ih =>
    rw [List.mem_cons, not_or] at h
    simp [markers, Ne.symm h.1, ih h.2]

theorem fillMarkers_quoted {mark : Char} {body : List Char} (h : mark ∉ body)
    (texts : List (List Char)) (cs : List Char) :
    fillMarkers mark true texts (body ++ mark :: cs) =
      body ++ mark :: fillMarkers mark false texts cs := by
  induction body with
  | nil => simp [fillMarkers]
  | cons c body ih =>
    rw [List.mem_cons, not_or] at h
    simp [fillMarkers, Ne.symm h.1, ih h.2]

/-- Blanks at the end of a text are those at the end of its back, unless nothing else is there. -/
theorem stripRight_append (front back : List Char) :
    stripRight (front ++ back) =
      if stripRight back = [] then stripRight front else front ++ stripRight back := by
  unfold stripRight
  rw [List.reverse_append, List.dropWhile_append]
  by_cases hback : back.reverse.dropWhile isBlank = []
  · rw [hback]
    rfl
  · rw [if_neg (by rwa [List.isEmpty_iff]), if_neg (by rwa [List.reverse_eq_nil_iff]),
      List.reverse_append, List.reverse_reverse]

theorem stripRight_eq_self {cs : List Char} (h : ∀ c ∈ cs.getLast?, isBlank c = false) :
    stripRight cs = cs := by
  rcases List.eq_nil_or_concat cs with rfl | ⟨front, c, rfl⟩
  · rfl
  · have hc : isBlank c = false := h c (by simp)
    rw [List.concat_eq_append, stripRight, List.reverse_append]
    simp [hc]

/-- Behind a text that does not end in a blank, only the blanks at the end of the back go. -/
theorem stripRight_append_of_solid {front : List Char} (back : List Char)
    (h : ∀ c ∈ front.getLast?, isBlank c = false) :
    stripRight (front ++ back) = front ++ stripRight back := by
  rw [stripRight_append, stripRight_eq_self h]
  split
  · next hback => rw [hback, List.append_nil]
  · rfl

/-- The text ends in a space. -/
def EndsInSpace (cs : List Char) : Prop := cs.getLast? = some ' '

theorem endsInSpace_append (front back : List Char) :
    EndsInSpace (front ++ back) ↔ EndsInSpace back ∨ back = [] ∧ EndsInSpace front := by
  cases hback : back.getLast? with
  | none =>
    rw [List.getLast?_eq_none_iff] at hback
    subst hback
    simp [EndsInSpace]
  | some c =>
    have hne : back ≠ [] := by
      rintro rfl
      cases hback
    simp [EndsInSpace, List.getLast?_append, hback, hne]

theorem not_endsInSpace {cs : List Char} (h : ∀ c ∈ cs.getLast?, isBlank c = false) :
    ¬EndsInSpace cs := by
  intro hend
  have hspace := h ' ' hend
  revert hspace
  decide

end Text

/-! ## Texts with literals in the places of markers -/

/-- A text that can take the place of a marker: it is not empty and has no blank. -/
structure IsLiteral (s : String) : Prop where
  ne_nil : s.toList ≠ []
  not_blank : ∀ c ∈ s.toList, Text.isBlank c = false

/-- The second text is the first with the literal of each parameter in the place of its marker. -/
inductive Aligned (mark : Char) (lit : Value → String) :
    List Char → List Value → List Char → Prop
  | nil : Aligned mark lit [] [] []
  | plain {c : Char} {s t : List Char} {params : List Value} : c ≠ '?' → c ≠ mark →
      Aligned mark lit s params t → Aligned mark lit (c :: s) params (c :: t)
  | quoted {body s t : List Char} {params : List Value} : mark ∉ body →
      Aligned mark lit s params t →
      Aligned mark lit (mark :: body ++ mark :: s) params (mark :: body ++ mark :: t)
  | marker {v : Value} {s t : List Char} {params : List Value} : Aligned mark lit s params t →
      Aligned mark lit ('?' :: s) (v :: params) ((lit v).toList ++ t)

namespace Aligned

variable {mark : Char} {lit : Value → String} {s t s' t' : List Char} {params params' : List Value}

theorem append (h : Aligned mark lit s params t) (h' : Aligned mark lit s' params' t') :
    Aligned mark lit (s ++ s') (params ++ params') (t ++ t') := by
  induction h with
  | nil => exact h'
  | plain hc hm _ ih => exact .plain hc hm ih
  | @quoted body s t params hbody _ ih =>
    have hquoted := Aligned.quoted hbody ih
    simp only [List.cons_append, List.append_assoc] at hquoted ⊢
    exact hquoted
  | @marker v s t params _ ih =>
    rw [List.append_assoc]
    exact .marker ih

/-- A text without question marks and marks stays as it is. -/
theorem of_plain (h : ∀ c ∈ s, c ≠ '?' ∧ c ≠ mark) : Aligned mark lit s [] s := by
  induction s with
  | nil => exact .nil
  | cons c s ih =>
    obtain ⟨hc, hm⟩ := h c (by simp)
    exact .plain hc hm (ih fun c' hc' => h c' (List.mem_cons_of_mem c hc'))

/-- There are as many markers as parameters. -/
theorem markers_eq (hmark : mark ≠ '?') (h : Aligned mark lit s params t) :
    Text.markers mark false s = params.length := by
  induction h with
  | nil => rfl
  | plain hc hm _ ih => simp [Text.markers, hc, hm, ih]
  | quoted hbody _ ih =>
    rw [List.cons_append, Text.markers, if_pos rfl, Bool.not_false, Text.markers_quoted hbody, ih]
  | marker _ ih => simp [Text.markers, Ne.symm hmark, ih]

/-- The second text is the first with the literals in the places of its markers. -/
theorem fillMarkers_eq (hmark : mark ≠ '?') (h : Aligned mark lit s params t) :
    Text.fillMarkers mark false (params.map fun v => (lit v).toList) s = t := by
  induction h with
  | nil => rfl
  | plain hc hm _ ih => simp [Text.fillMarkers, hc, hm, ih]
  | quoted hbody _ ih =>
    rw [List.cons_append, Text.fillMarkers, if_pos rfl, Bool.not_false,
      Text.fillMarkers_quoted hbody, ih]
    rfl
  | marker _ ih => simp [Text.fillMarkers, Ne.symm hmark, ih]

theorem last_marker : ∀ c ∈ ['?'].getLast?, Text.isBlank c = false := by
  intro c hc
  cases hc
  decide

theorem last_quoted (hmark : Text.isBlank mark = false) (body : List Char) :
    ∀ c ∈ (mark :: body ++ [mark]).getLast?, Text.isBlank c = false := by
  intro c hc
  rw [List.getLast?_concat] at hc
  cases hc
  exact hmark

section Spaces

variable (hlit : ∀ v, IsLiteral (lit v)) (hmark : Text.isBlank mark = false)
include hlit

theorem eq_nil_iff (h : Aligned mark lit s params t) : s = [] ↔ t = [] := by
  cases h with
  | nil => exact Iff.rfl
  | plain _ _ _ => simp
  | quoted _ _ => simp
  | @marker v _ _ _ _ =>
    have hne := (hlit v).ne_nil
    simp [hne]

theorem last_literal (v : Value) : ∀ c ∈ (lit v).toList.getLast?, Text.isBlank c = false :=
  fun c hc => (hlit v).not_blank c (List.mem_of_getLast? hc)

theorem endsInSpace_iff (h : Aligned mark lit s params t) :
    Text.EndsInSpace s ↔ Text.EndsInSpace t := by
  induction h with
  | nil => exact Iff.rfl
  | @plain c s t params _ _ h ih =>
    rw [← List.singleton_append, ← List.singleton_append (l := t), Text.endsInSpace_append _ s,
      Text.endsInSpace_append _ t, ih, h.eq_nil_iff hlit]
  | @quoted body s t params _ h ih =>
    rw [List.append_cons _ mark s, List.append_cons _ mark t, Text.endsInSpace_append _ s,
      Text.endsInSpace_append _ t, ih, h.eq_nil_iff hlit]
  | @marker v s t params h ih =>
    have hend := Text.not_endsInSpace (last_literal hlit v)
    have hend' : ¬Text.EndsInSpace ['?'] := Text.not_endsInSpace last_marker
    rw [← List.singleton_append, Text.endsInSpace_append _ s, Text.endsInSpace_append _ t, ih]
    simp [hend, hend']

include hmark

/-- Blanks of one kind in front of the two texts are the same. -/
theorem dropWhile {q : Char → Bool} (hq : ∀ c, q c = true → Text.isBlank c = true)
    (h : Aligned mark lit s params t) :
    Aligned mark lit (s.dropWhile q) params (t.dropWhile q) := by
  have hstays : ∀ c, Text.isBlank c = false → q c = false := by
    intro c hc
    cases hqc : q c with
    | false => rfl
    | true => rw [hq c hqc] at hc; cases hc
  induction h with
  | nil => exact .nil
  | @plain c s t params hc hm h ih =>
    by_cases hqc : q c = true
    · rw [List.dropWhile_cons_of_pos hqc, List.dropWhile_cons_of_pos hqc]
      exact ih
    · rw [List.dropWhile_cons_of_neg hqc, List.dropWhile_cons_of_neg hqc]
      exact .plain hc hm h
  | quoted hbody h _ =>
    have hqm := hstays mark hmark
    rw [List.cons_append, List.cons_append, List.dropWhile_cons_of_neg (by simp [hqm]),
      List.dropWhile_cons_of_neg (by simp [hqm])]
    exact .quoted hbody h
  | @marker v s t params h _ =>
    obtain ⟨c, cs, hcs⟩ := List.exists_cons_of_ne_nil (hlit v).ne_nil
    have hqc := hstays c ((hlit v).not_blank c (by simp [hcs]))
    have hq' : q '?' = false := hstays '?' (by decide)
    have hmarker := Aligned.marker (v := v) h
    rw [hcs] at hmarker ⊢
    rw [List.cons_append, List.dropWhile_cons_of_neg (by simp [hq']),
      List.dropWhile_cons_of_neg (by simp [hqc])]
    exact hmarker

theorem stripRight (h : Aligned mark lit s params t) :
    Aligned mark lit (Text.stripRight s) params (Text.stripRight t) := by
  induction h with
  | nil => exact .nil
  | @plain c s t params hc hm h ih =>
    by_cases hblank : Text.isBlank c = true
    -- a blank goes if nothing is left behind it, which is so in both texts or in none
    · have hfront : Text.stripRight [c] = [] := by simp [Text.stripRight, hblank]
      rw [← List.singleton_append, ← List.singleton_append (l := t), Text.stripRight_append,
        Text.stripRight_append, hfront]
      have hempty := ih.eq_nil_iff hlit
      by_cases hs : Text.stripRight s = []
      · have ht := hempty.mp hs
        rw [if_pos hs, if_pos ht]
        rwa [hs, ht] at ih
      · rw [if_neg hs, if_neg (mt hempty.mpr hs)]
        exact .plain hc hm ih
    · rw [← List.singleton_append, ← List.singleton_append (l := t),
        Text.stripRight_append_of_solid s (by simpa using hblank),
        Text.stripRight_append_of_solid t (by simpa using hblank)]
      exact .plain hc hm ih
  | @quoted body s t params hbody h ih =>
    have hlast := last_quoted hmark body
    rw [List.append_cons _ mark s, List.append_cons _ mark t,
      Text.stripRight_append_of_solid s hlast, Text.stripRight_append_of_solid t hlast,
      ← List.append_cons, ← List.append_cons]
    exact .quoted hbody ih
  | @marker v s t params h ih =>
    rw [← List.singleton_append, Text.stripRight_append_of_solid s last_marker,
      Text.stripRight_append_of_solid t (last_literal hlit v)]
    exact .marker ih

theorem strip (h : Aligned mark lit s params t) :
    Aligned mark lit (Text.strip s) params (Text.strip t) :=
  (h.dropWhile hlit hmark fun _ hc => hc).stripRight hlit hmark

/-- Where a piece is put behind a text, the same spaces go in both. -/
theorem glue (h : Aligned mark lit s params t) (h' : Aligned mark lit s' params' t') :
    Aligned mark lit (Template.glue s s') (params ++ params') (Template.glue t t') := by
  have hspace : ∀ c : Char, decide (c = ' ') = true → Text.isBlank c = true := by
    intro c hc
    rw [of_decide_eq_true hc]
    decide
  have hend : s.getLast? = some ' ' ↔ t.getLast? = some ' ' := h.endsInSpace_iff hlit
  unfold Template.glue
  by_cases hs : s.getLast? = some ' '
  · rw [if_pos hs, if_pos (hend.mp hs)]
    exact h.append (h'.dropWhile hlit hmark hspace)
  · rw [if_neg hs, if_neg (mt hend.mpr hs)]
    exact h.append h'

/-- Fragments in the slots of a template whose own text has no question mark and no mark. -/
theorem lay {slots : List (List Char × List Char)}
    (hslots : ∀ slot ∈ slots, ∀ c ∈ slot.2, c ≠ '?' ∧ c ≠ mark) {parts parts' : List Fragment}
    (hparts : List.Forall₂ (fun f g => Aligned mark lit f.sql.toList f.params g.sql.toList)
      parts parts')
    (hlength : parts.length = slots.length) (h : Aligned mark lit s params t) :
    Aligned mark lit (Template.lay s slots (parts.map Fragment.sql))
      (params ++ parts.flatMap Fragment.params)
      (Template.lay t slots (parts'.map Fragment.sql)) := by
  induction hparts generalizing slots s t params with
  | nil =>
    cases slots with
    | nil => simpa [Template.lay] using h
    | cons slot slots => cases hlength
  | @cons f g parts parts' hfg _ ih =>
    cases slots with
    | nil => cases hlength
    | cons slot slots =>
      have hslot : Aligned mark lit slot.2 [] slot.2 := of_plain (hslots slot (by simp))
      have hnext := (h.glue hlit hmark hfg).glue hlit hmark hslot
      have hrest := ih (fun slot' hmem => hslots slot' (List.mem_cons_of_mem slot hmem))
        (Nat.succ.inj hlength) hnext
      simpa [Template.lay] using hrest

end Spaces

end Aligned

end SqlRender
