import Mathlib.Data.List.DropRight
import SqlRender.Proofs.Marker

/-!
# Slots that stay empty

A slot that is filled with nothing leaves no trace, not even a space: the result is that of the
template without the slot, with the texts on its two sides put together and the blanks at the end of
the last one left out.

* `Template.glue_assoc`: the order in which pieces are put together does not matter.
* `Statement.assemble_spread`: fragments in a template of which some slots stay empty.
* `mapM_spread`: only the other slots decide whether all can be filled.
-/

namespace SqlRender

namespace Text

theorem stripRight_cons (c : Char) (cs : List Char) :
    stripRight (c :: cs) =
      if stripRight cs = [] ∧ isBlank c = true then [] else c :: stripRight cs := by
  rw [← List.singleton_append, stripRight_append]
  by_cases hcs : stripRight cs = []
  · rw [if_pos hcs, hcs]
    cases hc : isBlank c <;> simp [stripRight, hc]
  · simp [hcs]

/-- The two ends can be stripped in either order. -/
theorem stripRight_dropWhile (q : Char → Bool) (cs : List Char) :
    stripRight (cs.dropWhile q) = (stripRight cs).dropWhile q := by
  induction cs with
  | nil => rfl
  | cons c cs ih =>
    by_cases hqc : q c = true
    · rw [List.dropWhile_cons_of_pos hqc, ih, stripRight_cons]
      split
      · next h => rw [h.1]
      · rw [List.dropWhile_cons_of_pos hqc]
    · rw [List.dropWhile_cons_of_neg hqc, stripRight_cons]
      split
      · rfl
      · rw [List.dropWhile_cons_of_neg hqc]

theorem stripRight_stripRight (cs : List Char) : stripRight (stripRight cs) = stripRight cs := by
  rw [stripRight, stripRight, List.reverse_reverse, List.dropWhile_idempotent]

theorem stripRight_append_stripRight (front back : List Char) :
    stripRight (front ++ stripRight back) = stripRight (front ++ back) := by
  rw [stripRight_append, stripRight_append, stripRight_stripRight]

theorem strip_congr {s t : List Char} (h : stripRight s = stripRight t) : strip s = strip t := by
  rw [strip, strip, stripLeft, stripLeft, stripRight_dropWhile, stripRight_dropWhile, h]

end Text

namespace Template

/-! ## Pieces -/

theorem glue_nil (out : List Char) : glue out [] = out := by
  simp [glue]

theorem nil_glue (piece : List Char) : glue [] piece = piece := by
  simp [glue]

theorem glue_of_space {out : List Char} (h : out.getLast? = some ' ') (piece : List Char) :
    glue out piece = out ++ piece.dropWhile (· = ' ') := if_pos h

theorem glue_of_solid {out : List Char} (h : out.getLast? ≠ some ' ') (piece : List Char) :
    glue out piece = out ++ piece := if_neg h

/-- A piece that is not empty decides alone what follows it. -/
theorem append_glue {a : List Char} (h : a ≠ []) (out b : List Char) :
    glue (out ++ a) b = out ++ glue a b := by
  unfold glue
  rw [List.getLast?_append_of_ne_nil _ h]
  split
  · rw [List.append_assoc]
  · rw [List.append_assoc]

/-- Pieces may be put together in any order. -/
theorem glue_assoc (out a b : List Char) : glue (glue out a) b = glue out (glue a b) := by
  by_cases hout : out.getLast? = some ' '
  · rw [glue_of_space hout a, glue_of_space hout (glue a b)]
    by_cases ha : a.dropWhile (· = ' ') = []
    -- nothing is left of the first piece, so the spaces of the second go too
    · have hb : (glue a b).dropWhile (· = ' ') = b.dropWhile (· = ' ') := by
        unfold glue
        split
        · rw [List.dropWhile_append, ha]
          exact List.dropWhile_idempotent _ _
        · rw [List.dropWhile_append, ha]
          rfl
      rw [ha, List.append_nil, glue_of_space hout, hb]
    · have hlast : (a.dropWhile (· = ' ')).getLast? = a.getLast? := by
        conv_rhs => rw [← List.takeWhile_append_dropWhile (p := (· = ' ')) (l := a)]
        rw [List.getLast?_append_of_ne_nil _ ha]
      have hb : (glue a b).dropWhile (· = ' ') = glue (a.dropWhile (· = ' ')) b := by
        have hsome : ¬(a.dropWhile (· = ' ')).isEmpty = true := by rwa [List.isEmpty_iff]
        unfold glue
        rw [hlast]
        split
        · rw [List.dropWhile_append, if_neg hsome]
        · rw [List.dropWhile_append, if_neg hsome]
      rw [append_glue ha, hb]
  · rw [glue_of_solid hout a, glue_of_solid hout (glue a b)]
    by_cases ha : a = []
    · rw [ha, List.append_nil, nil_glue, glue_of_solid hout]
    · exact append_glue ha out b

/-- Blanks at the end of a piece have no part in the stripped text. -/
theorem stripRight_glue (out piece : List Char) :
    Text.stripRight (glue out (Text.stripRight piece)) = Text.stripRight (glue out piece) := by
  unfold glue
  split
  · rw [← Text.stripRight_dropWhile, Text.stripRight_append_stripRight]
  · exact Text.stripRight_append_stripRight out piece

/-! ## Templates without the slots that stay empty -/

/-- The slots behind a text, without those that stay empty. -/
def thinFrom (empty : String → Bool) (text : List Char) :
    List (List Char × List Char) → List Char × List (List Char × List Char)
  | [] => (Text.stripRight text, [])
  | slot :: slots =>
    if empty (String.ofList slot.1) then thinFrom empty (glue text slot.2) slots
    else
      let (next, rest) := thinFrom empty slot.2 slots
      (text, (slot.1, next) :: rest)

/-- The template without the slots that stay empty. -/
def thin (empty : String → Bool) (t : Template) : Template :=
  let (head, slots) := thinFrom empty t.head t.slots
  ⟨head, slots⟩

end Template

/-- Items for the names, `none` for those that stay empty. -/
def spread {α : Type} (none : α) (empty : String → Bool) : List String → List α → List α
  | [], _ => []
  | name :: names, items =>
    if empty name then none :: spread none empty names items
    else
      match items with
      | [] => []
      | item :: items => item :: spread none empty names items

variable {α β : Type} {empty : String → Bool}

theorem spread_of_empty {name : String} (h : empty name = true) (none : α) (names : List String)
    (items : List α) :
    spread none empty (name :: names) items = none :: spread none empty names items := by
  rw [spread.eq_def]
  exact if_pos h

theorem spread_cons {name : String} (h : ¬empty name = true) (none : α) (names : List String)
    (item : α) (items : List α) :
    spread none empty (name :: names) (item :: items) =
      item :: spread none empty names items := by
  rw [spread.eq_def]
  exact if_neg h

theorem length_spread {none : α} {names : List String} {items : List α}
    (h : items.length = (names.filter (!empty ·)).length) :
    (spread none empty names items).length = names.length := by
  induction names generalizing items with
  | nil => rfl
  | cons name names ih =>
    by_cases hname : empty name = true
    · rw [List.filter_cons_of_neg (by simp [hname])] at h
      rw [spread_of_empty hname, List.length_cons, ih h, List.length_cons]
    · rw [List.filter_cons_of_pos (by simp [hname])] at h
      cases items with
      | nil => cases h
      | cons item items =>
        rw [spread_cons hname, List.length_cons, ih (Nat.succ.inj h), List.length_cons]

theorem map_spread (f : α → β) (none : α) (names : List String) (items : List α) :
    (spread none empty names items).map f = spread (f none) empty names (items.map f) := by
  fun_induction spread none empty names items with
  | case1 => rfl
  | case2 name names items hname ih => simp [spread, hname, ih]
  | case3 name names hname => simp [spread, hname]
  | case4 name names hname item items ih => simp [spread, hname, ih]

/-- Where the slots that stay empty never fail, only the others decide. -/
theorem mapM_spread {f : String → Except Error α} {none : α} {names : List String}
    (h : ∀ name ∈ names, empty name = true → f name = .ok none) :
    names.mapM f = spread none empty names <$> (names.filter (!empty ·)).mapM f := by
  induction names with
  | nil => rfl
  | cons name names ih =>
    have hrest := ih fun name' hmem => h name' (List.mem_cons_of_mem name hmem)
    by_cases hname : empty name = true
    · rw [List.mapM_cons, h name (by simp) hname, hrest, List.filter_cons_of_neg (by simp [hname])]
      cases (names.filter (!empty ·)).mapM f with
      | error e => rfl
      | ok items => exact congrArg Except.ok (spread_of_empty hname none names items).symm
    · rw [List.mapM_cons, hrest, List.filter_cons_of_pos (by simp [hname]), List.mapM_cons]
      cases f name with
      | error e => rfl
      | ok item =>
        cases (names.filter (!empty ·)).mapM f with
        | error e => rfl
        | ok items => exact congrArg Except.ok (spread_cons hname none names item items).symm

namespace Template

/-- Texts in a template of which some slots stay empty. -/
theorem stripRight_lay_spread {slots : List (List Char × List Char)} {texts : List String}
    (hlength : texts.length =
      ((slots.map fun slot => String.ofList slot.1).filter (!empty ·)).length)
    (out text : List Char) :
    Text.stripRight (lay (glue out text) slots
        (spread "" empty (slots.map fun slot => String.ofList slot.1) texts)) =
      Text.stripRight (lay (glue out (thinFrom empty text slots).1) (thinFrom empty text slots).2
        texts) := by
  induction slots generalizing out text texts with
  | nil =>
    cases texts with
    | nil => exact (stripRight_glue out text).symm
    | cons _ _ => cases hlength
  | cons slot slots ih =>
    rw [List.map_cons] at hlength ⊢
    by_cases hslot : empty (String.ofList slot.1) = true
    · rw [List.filter_cons_of_neg (by simp [hslot])] at hlength
      rw [spread_of_empty hslot, lay, thinFrom, if_pos hslot]
      have hempty : "".toList = [] := rfl
      rw [hempty, glue_nil, glue_assoc]
      exact ih hlength out (glue text slot.2)
    · rw [List.filter_cons_of_pos (by simp [hslot])] at hlength
      cases texts with
      | nil => cases hlength
      | cons t texts =>
        rw [spread_cons hslot, lay, thinFrom, if_neg hslot]
        exact ih (Nat.succ.inj hlength) (glue (glue out text) t.toList) slot.2

end Template

theorem params_spread {names : List String} {parts : List Fragment}
    (hlength : parts.length = (names.filter (!empty ·)).length) :
    (spread .empty empty names parts).flatMap Fragment.params =
      parts.flatMap Fragment.params := by
  induction names generalizing parts with
  | nil =>
    cases parts with
    | nil => rfl
    | cons _ _ => cases hlength
  | cons name names ih =>
    by_cases hname : empty name = true
    · rw [List.filter_cons_of_neg (by simp [hname])] at hlength
      rw [spread_of_empty hname, List.flatMap_cons, ih hlength]
      rfl
    · rw [List.filter_cons_of_pos (by simp [hname])] at hlength
      cases parts with
      | nil => cases hlength
      | cons part parts =>
        rw [spread_cons hname, List.flatMap_cons, List.flatMap_cons, ih (Nat.succ.inj hlength)]

/-- Fragments in a template of which some slots stay empty. -/
theorem Template.fragment_spread (t : Template) {parts : List Fragment}
    (hlength : parts.length = (t.names.filter (!empty ·)).length) :
    t.fragment (spread .empty empty t.names parts) = (t.thin empty).fragment parts := by
  have htexts : (parts.map Fragment.sql).length = (t.names.filter (!empty ·)).length := by
    rw [List.length_map, hlength]
  have htext := stripRight_lay_spread htexts [] t.head
  rw [nil_glue, nil_glue] at htext
  rw [fragment, fragment, map_spread, params_spread hlength]
  exact congrArg (fun text => Fragment.mk (String.ofList text) _) (Text.strip_congr htext)

/-- A template that names each slot once is filled as if it had no empty slots. -/
theorem Statement.assemble_spread {t : Template} (hnodup : t.names.Nodup) {parts : List Fragment}
    (hlength : parts.length = (t.names.filter (!empty ·)).length) :
    assemble t (t.names.zip
        (spread Fragment.empty.toFilling empty t.names (parts.map Fragment.toFilling))) =
      .ok ((t.thin empty).fragment parts) := by
  rw [← map_spread, assemble_eq hnodup (length_spread hlength), t.fragment_spread hlength]

end SqlRender
