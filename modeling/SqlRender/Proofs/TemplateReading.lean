import SqlRender.Proofs.Respacing

/-!
# The one reading of a template

A template is cut into literal text and slots in one way only. Put together, the pieces give the
text back; every slot is named by a word; and no literal text holds a slot. The names of slots have
no braces, so that two slots never share a character and a slot never reaches into the text behind
another one.

* `Template.isReading_parse`: `parse` cuts a text in such a way.
* `Template.parse_toChars`: every such cut is found by `parse`, hence there is no other.
* `Template.occurs_iff`: the slots of a template are the places of its text where a slot is written.
* `Template.ofText_only_reading`: all of this for the text of a template.
-/

namespace SqlRender.Template

/-! ## Slots in a text -/

/-- A name of a slot: word characters, and at least one. -/
def IsName (name : List Char) : Prop := name ≠ [] ∧ ∀ c ∈ name, Text.isWord c = true

/-- A slot is written in a text, with `front` before and `back` behind it. -/
def Occurs (front name back cs : List Char) : Prop :=
  IsName name ∧ cs = front ++ '\x7b' :: name ++ '\x7d' :: back

/-- No slot is written in the text. -/
def HasNoSlot (cs : List Char) : Prop := ∀ front name back, ¬Occurs front name back cs

/-- The template is a cut of the text into literal text and slots. -/
structure IsReading (cs : List Char) (t : Template) : Prop where
  text : t.toChars = cs
  named : ∀ slot ∈ t.slots, IsName slot.1
  head_plain : HasNoSlot t.head
  plain : ∀ slot ∈ t.slots, HasNoSlot slot.2

/-- All text of a template outside its slots. -/
def literal (t : Template) : List Char := t.head ++ t.slots.flatMap Prod.snd

theorem closeSlot?_eq_some {cs name rest : List Char} :
    closeSlot? cs = some (name, rest) ↔ IsName name ∧ cs = name ++ '\x7d' :: rest := by
  constructor
  · intro h
    unfold closeSlot? at h
    split at h
    · cases h
    · next _ _ c more hmore hne =>
      obtain ⟨rfl, heq⟩ := Option.ite_none_right_eq_some.mp h
      obtain ⟨rfl, rfl⟩ := Prod.mk.inj (Option.some.inj heq)
      refine ⟨⟨hne, fun c hc => List.mem_takeWhile_imp hc⟩, ?_⟩
      rw [← hmore, List.takeWhile_append_dropWhile]
    · cases h
  · rintro ⟨⟨hne, hname⟩, rfl⟩
    exact closeSlot?_append hne hname rest

theorem hasNoSlot_nil : HasNoSlot [] := by
  rintro front name back ⟨-, h⟩
  simp at h

/-- A slot begins with the first character of a text or lies behind it. -/
theorem hasNoSlot_cons {c : Char} {cs : List Char} :
    HasNoSlot (c :: cs) ↔ (c = '\x7b' → closeSlot? cs = none) ∧ HasNoSlot cs := by
  constructor
  · refine fun h => ⟨?_, ?_⟩
    · rintro rfl
      rw [Option.eq_none_iff_forall_ne_some]
      rintro ⟨name, rest⟩ hclose
      obtain ⟨hname, rfl⟩ := closeSlot?_eq_some.mp hclose
      exact h [] name rest ⟨hname, rfl⟩
    · rintro front name back ⟨hname, rfl⟩
      exact h (c :: front) name back ⟨hname, rfl⟩
  · rintro ⟨hopen, hcs⟩ front name back ⟨hname, heq⟩
    cases front with
    | nil =>
      obtain ⟨rfl, rfl⟩ := List.cons.inj heq
      have hclose := closeSlot?_append hname.1 hname.2 back
      exact absurd (hopen rfl) (by simp [hclose])
    | cons _ front =>
      obtain ⟨rfl, rfl⟩ := List.cons.inj heq
      exact hcs front name back ⟨hname, rfl⟩

theorem HasNoSlot.of_append {front back : List Char} (h : HasNoSlot (front ++ back)) :
    HasNoSlot back := by
  induction front with
  | nil => exact h
  | cons c front ih => exact ih (hasNoSlot_cons.mp h).2

/-! ## Reading from the last character to the first -/

theorem push_text {c : Char} {t : Template} (h : c = '\x7b' → closeSlot? t.head = none) :
    push c t = ⟨c :: t.head, t.slots⟩ := by
  unfold push
  split
  · next hc => simp only [h hc]
  · rfl

theorem push_slot {t : Template} {name rest : List Char}
    (h : closeSlot? t.head = some (name, rest)) :
    push '\x7b' t = ⟨[], (name, rest) :: t.slots⟩ := by
  rw [push, if_pos rfl]
  simp only [h]

theorem toChars_slot (head name text : List Char) (slots : List (List Char × List Char)) :
    toChars ⟨head, (name, text) :: slots⟩ =
      head ++ '\x7b' :: name ++ '\x7d' :: toChars ⟨text, slots⟩ := by
  simp [toChars]

/-- One more character in front keeps a reading a reading. -/
theorem IsReading.push {cs : List Char} {t : Template} (h : IsReading cs t) (c : Char) :
    IsReading (c :: cs) (push c t) := by
  by_cases hopen : c = '\x7b' → closeSlot? t.head = none
  · rw [push_text hopen]
    exact ⟨congrArg (c :: ·) h.text, h.named, hasNoSlot_cons.mpr ⟨hopen, h.head_plain⟩, h.plain⟩
  · obtain ⟨rfl, hclose⟩ := Classical.not_imp.mp hopen
    obtain ⟨⟨name, rest⟩, hclose⟩ := Option.ne_none_iff_exists'.mp hclose
    obtain ⟨hname, hhead⟩ := closeSlot?_eq_some.mp hclose
    -- the text behind the new slot was the end of a text without slots
    have hplain := h.head_plain
    rw [hhead, List.append_cons] at hplain
    rw [push_slot hclose]
    refine ⟨?_, ?_, hasNoSlot_nil, ?_⟩
    · rw [toChars_slot, ← h.text]
      simp [toChars, hhead]
    · exact List.forall_mem_cons.mpr ⟨hname, h.named⟩
    · exact List.forall_mem_cons.mpr ⟨hplain.of_append, h.plain⟩

theorem isReading_parse (cs : List Char) : IsReading cs (parse cs) := by
  induction cs with
  | nil => exact ⟨rfl, by simp [parse], hasNoSlot_nil, by simp [parse]⟩
  | cons c cs ih => exact ih.push c

/-- Text that holds no slot stays text in front of a slot and at the end. -/
theorem foldr_push_plain {cs : List Char} (h : HasNoSlot cs)
    (slots : List (List Char × List Char)) : cs.foldr push ⟨[], slots⟩ = ⟨cs, slots⟩ := by
  induction cs with
  | nil => rfl
  | cons c cs ih =>
    obtain ⟨hopen, hcs⟩ := hasNoSlot_cons.mp h
    rw [List.foldr_cons, ih hcs, push_text hopen]

/-- Every reading is found: the text of each slot is read on its own, since the slot in front of it
begins and ends with a brace. -/
theorem parse_toChars {t : Template} (hnamed : ∀ slot ∈ t.slots, IsName slot.1)
    (hhead : HasNoSlot t.head) (hplain : ∀ slot ∈ t.slots, HasNoSlot slot.2) :
    parse t.toChars = t := by
  obtain ⟨head, slots⟩ := t
  induction slots generalizing head with
  | nil =>
    rw [toChars, List.flatMap_nil, List.append_nil]
    exact foldr_push_plain hhead []
  | cons slot slots ih =>
    obtain ⟨name, text⟩ := slot
    obtain ⟨hname, hnamed⟩ := List.forall_mem_cons.mp hnamed
    obtain ⟨htext, hplain⟩ := List.forall_mem_cons.mp hplain
    rw [toChars_slot, List.append_assoc, parse_append, parse_slot hname.1 hname.2,
      ih text hnamed htext hplain, foldr_push_plain hhead]

theorem isReading_iff {cs : List Char} {t : Template} : IsReading cs t ↔ t = parse cs := by
  constructor
  · rintro ⟨rfl, hnamed, hhead, hplain⟩
    exact (parse_toChars hnamed hhead hplain).symm
  · rintro rfl
    exact isReading_parse cs

/-! ## Places of slots -/

/-- In front of a slot a text is read as if nothing followed it. -/
theorem foldr_push_slots (front : List Char) (slots : List (List Char × List Char)) :
    front.foldr push ⟨[], slots⟩ = ⟨(parse front).head, (parse front).slots ++ slots⟩ := by
  induction front with
  | nil => rfl
  | cons c front ih =>
    have hparse : parse (c :: front) = push c (parse front) := rfl
    rw [List.foldr_cons, ih, hparse]
    -- only the text in front of the first slot decides, and that is the same
    unfold push
    split
    · dsimp only
      cases closeSlot? (parse front).head <;> rfl
    · rfl

theorem occurs_iff {front name back cs : List Char} :
    Occurs front name back cs ↔ ∃ before text after,
      (parse cs).slots = before ++ (name, text) :: after ∧
        front = toChars ⟨(parse cs).head, before⟩ ∧ back = toChars ⟨text, after⟩ := by
  constructor
  · rintro ⟨hname, rfl⟩
    have hparse : parse (front ++ '\x7b' :: name ++ '\x7d' :: back) =
        ⟨(parse front).head,
          (parse front).slots ++ (name, (parse back).head) :: (parse back).slots⟩ := by
      rw [List.append_assoc, parse_append, parse_slot hname.1 hname.2, foldr_push_slots]
    rw [hparse]
    exact ⟨(parse front).slots, (parse back).head, (parse back).slots, rfl,
      (isReading_parse front).text.symm, (isReading_parse back).text.symm⟩
  · rintro ⟨before, text, after, hslots, rfl, rfl⟩
    have hread := isReading_parse cs
    refine ⟨hread.named (name, text) (by simp [hslots]), ?_⟩
    conv_lhs => rw [← hread.text]
    simp [toChars, hslots]

/-- Each slot has one pair of braces; the braces beyond these are literal text. -/
theorem IsReading.count_brace {cs : List Char} {t : Template} (h : IsReading cs t) :
    cs.count '\x7b' = t.slots.length + t.literal.count '\x7b' ∧
      cs.count '\x7d' = t.slots.length + t.literal.count '\x7d' := by
  obtain ⟨head, slots⟩ := t
  obtain ⟨rfl, hnamed, -, -⟩ := h
  induction slots generalizing head with
  | nil => simp [toChars, literal]
  | cons slot slots ih =>
    obtain ⟨name, text⟩ := slot
    obtain ⟨hname, hnamed⟩ := List.forall_mem_cons.mp hnamed
    obtain ⟨hopen, hclose⟩ := ih text hnamed
    have hbrace : ∀ brace, Text.isWord brace = false → name.count brace = 0 := by
      intro brace hbrace
      refine List.count_eq_zero.mpr fun hmem => ?_
      rw [hname.2 brace hmem] at hbrace
      cases hbrace
    rw [toChars_slot]
    simp only [literal, List.flatMap_cons, List.count_append, List.length_cons,
      List.count_cons] at hopen hclose ⊢
    simp only [hopen, hclose, hbrace _ isWord_brace.1, hbrace _ isWord_brace.2]
    constructor <;> simp <;> omega

/-- A text has one reading as a template, with a slot for each place where one is written, in the
order of these places, and with all other braces in its literal text. -/
theorem ofText_only_reading (s : String) :
    (∀ t, IsReading s.toList t ↔ t = ofText s) ∧
      (∀ front name back, Occurs front name back s.toList ↔ ∃ before text after,
        (ofText s).slots = before ++ (name, text) :: after ∧
          front = toChars ⟨(ofText s).head, before⟩ ∧ back = toChars ⟨text, after⟩) ∧
      s.toList.count '\x7b' = (ofText s).slots.length + (ofText s).literal.count '\x7b' ∧
      s.toList.count '\x7d' = (ofText s).slots.length + (ofText s).literal.count '\x7d' :=
  ⟨fun _ => isReading_iff, fun _ _ _ => occurs_iff, (isReading_parse s.toList).count_brace⟩

/-- Braces inside braces, and braces around nothing or around more than a word, are text. -/
example : parse "\x7b\x7ba\x7d\x7d\x7b\x7d\x7ba b\x7d".toList =
    ⟨['\x7b'], [(['a'], "\x7d\x7b\x7d\x7ba b\x7d".toList)]⟩ := by
  decide +kernel

end SqlRender.Template
