import Mathlib.Data.List.Infix
import SqlRender.Proofs.LookupKey
import SqlRender.Proofs.Parameter

/-!
# Patterns of a search for a part

A search for a part of a text binds the part between two per cent signs as a pattern. A text that
has the part in it always fits the pattern. The converse holds exactly if no character of the part
stands for others in a pattern: the part is not escaped, and nothing could be bound in its place,
for no pattern stands for the texts that have a per cent sign or a low line in them.

* `Like.fits`: the texts that fit a pattern.
* `Like.fits_append`: a pattern in two parts.
* `Like.fits_around_iff`: a pattern between two per cent signs.
* `Like.not_fits_iff_infix`: what no pattern can say.
* `contains_means_substring_iff`: what a search for a part finds.
* `percentSign_found_elsewhere`: it can find texts without the part.
-/

namespace SqlRender

namespace Like

/-! ## Texts that fit a pattern -/

/-- The characters that stand for others in a pattern. -/
def isWild (c : Char) : Bool := c = '%' || c = '_'

/-- The text fits the pattern: a per cent sign stands for any characters, a low line for any one
character, and every other character for itself. -/
def fits : List Char → List Char → Bool
  | [], cs => cs.isEmpty
  | p :: pattern, cs =>
    if p = '%' then cs.tails.any (fits pattern)
    else (cs.head?.any fun c => p = '_' || p = c) && fits pattern cs.tail

theorem fits_nil {cs : List Char} : fits [] cs = true ↔ cs = [] := List.isEmpty_iff

theorem fits_percent {pattern cs : List Char} :
    fits ('%' :: pattern) cs = true ↔
      ∃ front back, cs = front ++ back ∧ fits pattern back = true := by
  rw [fits, if_pos rfl, List.any_eq_true]
  constructor
  · rintro ⟨back, hback, hfits⟩
    obtain ⟨front, hfront⟩ := (List.mem_tails back cs).mp hback
    exact ⟨front, back, hfront.symm, hfits⟩
  · rintro ⟨front, back, rfl, hfits⟩
    exact ⟨back, (List.mem_tails back _).mpr (List.suffix_append front back), hfits⟩

theorem fits_cons {p : Char} (hp : p ≠ '%') {pattern cs : List Char} :
    fits (p :: pattern) cs = true ↔
      ∃ c back, cs = c :: back ∧ (p = '_' ∨ p = c) ∧ fits pattern back = true := by
  rw [fits, if_neg hp]
  cases cs with
  | nil => simp
  | cons c cs => simp

/-- A text fits a pattern in two parts if it has a part for each of them. -/
theorem fits_append {pattern pattern' cs : List Char} :
    fits (pattern ++ pattern') cs = true ↔
      ∃ front back, cs = front ++ back ∧ fits pattern front = true ∧ fits pattern' back = true := by
  induction pattern generalizing cs with
  | nil => simp [fits_nil]
  | cons p pattern ih =>
    by_cases hp : p = '%'
    · subst hp
      simp only [List.cons_append, fits_percent, ih]
      constructor
      · rintro ⟨before, _, rfl, front, back, rfl, hfront, hback⟩
        exact ⟨before ++ front, back, by simp, ⟨before, front, rfl, hfront⟩, hback⟩
      · rintro ⟨_, back, rfl, ⟨before, front, rfl, hfront⟩, hback⟩
        exact ⟨before, front ++ back, by simp, front, back, rfl, hfront, hback⟩
    · simp only [List.cons_append, fits_cons hp, ih]
      constructor
      · rintro ⟨c, _, rfl, hc, front, back, rfl, hfront, hback⟩
        exact ⟨c :: front, back, rfl, ⟨c, front, rfl, hc, hfront⟩, hback⟩
      · rintro ⟨_, back, rfl, ⟨c, front, rfl, hc, hfront⟩, hback⟩
        exact ⟨c, front ++ back, rfl, hc, front, back, rfl, hfront, hback⟩

/-- Every text fits itself as a pattern. -/
theorem fits_self (cs : List Char) : fits cs cs = true := by
  induction cs with
  | nil => rfl
  | cons c cs ih =>
    by_cases hc : c = '%'
    · subst hc
      exact fits_percent.mpr ⟨['%'], cs, rfl, ih⟩
    · exact (fits_cons hc).mpr ⟨c, cs, rfl, .inr rfl, ih⟩

/-- A pattern in which every character stands for itself. -/
theorem fits_iff_eq {pattern : List Char} (h : ∀ p ∈ pattern, isWild p = false) {cs : List Char} :
    fits pattern cs = true ↔ cs = pattern := by
  constructor
  · intro hfits
    induction pattern generalizing cs with
    | nil => exact fits_nil.mp hfits
    | cons p pattern ih =>
      have hp : p ≠ '%' ∧ p ≠ '_' := by simpa [isWild] using h p List.mem_cons_self
      obtain ⟨c, back, rfl, hc, hback⟩ := (fits_cons hp.1).mp hfits
      rw [ih (fun p' hp' => h p' (List.mem_cons_of_mem p hp')) hback, hc.resolve_left hp.2]
  · rintro rfl
    exact fits_self cs

/-- A text fits a pattern between two per cent signs if some part of it fits the pattern. -/
theorem fits_around_iff {pattern cs : List Char} :
    fits ('%' :: (pattern ++ ['%'])) cs = true ↔
      ∃ part, part <:+: cs ∧ fits pattern part = true := by
  have hend (back : List Char) : fits ['%'] back = true :=
    fits_percent.mpr ⟨back, [], by simp, rfl⟩
  rw [fits_percent]
  simp only [fits_append]
  constructor
  · rintro ⟨front, _, rfl, part, back, rfl, hpart, -⟩
    exact ⟨part, ⟨front, back, by simp⟩, hpart⟩
  · rintro ⟨part, ⟨front, back, rfl⟩, hpart⟩
    exact ⟨front, part ++ back, by simp, part, back, rfl, hpart, hend back⟩

theorem fits_around_of_infix {part cs : List Char} (h : part <:+: cs) :
    fits ('%' :: (part ++ ['%'])) cs = true :=
  fits_around_iff.mpr ⟨part, h, fits_self part⟩

theorem fits_around_iff_infix {part : List Char} (h : ∀ p ∈ part, isWild p = false)
    {cs : List Char} : fits ('%' :: (part ++ ['%'])) cs = true ↔ part <:+: cs := by
  constructor
  · intro hfits
    obtain ⟨piece, hinfix, hpiece⟩ := fits_around_iff.mp hfits
    rwa [← (fits_iff_eq h).mp hpiece]
  · exact fits_around_of_infix

/-! ## What no pattern can say -/

/-- A per cent sign and a low line in a text can be replaced by any character: what stands for them
in a pattern stands for all. -/
theorem fits_map {replace : Char → Char} (hreplace : ∀ c, isWild c = false → replace c = c)
    {pattern cs : List Char} (h : fits pattern cs = true) :
    fits pattern (cs.map replace) = true := by
  induction pattern generalizing cs with
  | nil =>
    rw [fits_nil.mp h]
    rfl
  | cons p pattern ih =>
    by_cases hp : p = '%'
    · subst hp
      obtain ⟨front, back, rfl, hback⟩ := fits_percent.mp h
      exact fits_percent.mpr ⟨front.map replace, back.map replace, by simp, ih hback⟩
    · obtain ⟨c, back, rfl, hc, hback⟩ := (fits_cons hp).mp h
      refine (fits_cons hp).mpr ⟨replace c, back.map replace, rfl, ?_, ih hback⟩
      rcases hc with hline | rfl
      · exact .inl hline
      · by_cases hline : p = '_'
        · exact .inl hline
        · exact .inr (hreplace p (by simp [isWild, hp, hline])).symm

/-- No pattern stands for the texts that have a given part, if a per cent sign or a low line is in
the part. -/
theorem not_fits_iff_infix {part : List Char} {w : Char} (hw : w ∈ part) (hwild : isWild w = true)
    (pattern : List Char) : ¬∀ cs, fits pattern cs = true ↔ part <:+: cs := by
  intro hall
  let replace (c : Char) : Char := if isWild c then 'a' else c
  have hreplace (c : Char) : isWild (replace c) = false := by
    by_cases hc : isWild c = true
    · simp only [replace, if_pos hc]
      decide
    · simp [replace, hc]
  have hplain (c : Char) (hc : isWild c = false) : replace c = c := by
    simp [replace, hc]
  have hinfix := (hall _).mp (fits_map hplain ((hall part).mpr List.infix_rfl))
  -- a part of a text that is no shorter is all of it
  have heq : part = part.map replace := hinfix.eq_of_length (List.length_map replace).symm
  rw [heq] at hw
  obtain ⟨c, -, rfl⟩ := List.mem_map.mp hw
  rw [hreplace c] at hwild
  cases hwild

end Like

/-! ## What a search for a part finds -/

theorem Backend.childCondition_contains (b : Backend) (types : TypeCatalogue)
    (column part : String) :
    childCondition (b.dialect types) (Predicate.leaf (column ++ "__contains", .text part)) =
      .ok (some ⟨(b.dialect types).quote column ++ " LIKE ?", [.text ("%" ++ part ++ "%")]⟩) := by
  have hread : LookupKey.read (column ++ "__contains") = ⟨column, .contains⟩ := by
    have hkey : column ++ "__contains" = column ++ "__" ++ Lookup.contains.name := by
      rw [String.append_assoc]
      rfl
    rw [hkey]
    exact LookupKey.read_text ⟨column, .contains⟩
  rw [childCondition_lookup, hread, comparison_eq]
  rfl

/-- A search for a part binds one pattern, which a text fits exactly if some part of it fits the
given one as a pattern. Every text that has the given part in it fits. All other texts fail to fit
exactly if neither a per cent sign nor a low line is in the given part. -/
theorem contains_means_substring_iff (b : Backend) (types : TypeCatalogue) (column part : String) :
    ∃ pattern : String,
      childCondition (b.dialect types) (Predicate.leaf (column ++ "__contains", .text part)) =
        .ok (some ⟨(b.dialect types).quote column ++ " LIKE ?", [.text pattern]⟩) ∧
      (∀ s : String, Like.fits pattern.toList s.toList = true ↔
        ∃ piece, piece <:+: s.toList ∧ Like.fits part.toList piece = true) ∧
      (∀ s : String, part.toList <:+: s.toList → Like.fits pattern.toList s.toList = true) ∧
      ((∀ s : String, Like.fits pattern.toList s.toList = true ↔ part.toList <:+: s.toList) ↔
        ∀ c ∈ part.toList, Like.isWild c = false) := by
  have hpattern : ("%" ++ part ++ "%").toList = '%' :: (part.toList ++ ['%']) := by
    simp [String.toList_append]
  refine ⟨"%" ++ part ++ "%", b.childCondition_contains types column part, ?_, ?_, ?_⟩
  · intro s
    rw [hpattern]
    exact Like.fits_around_iff
  · intro s hinfix
    rw [hpattern]
    exact Like.fits_around_of_infix hinfix
  · constructor
    · intro hall w hw
      by_contra hwild
      refine Like.not_fits_iff_infix hw (by simpa using hwild) ("%" ++ part ++ "%").toList ?_
      intro cs
      simpa using hall (String.ofList cs)
    · intro hplain s
      rw [hpattern]
      exact Like.fits_around_iff_infix hplain

/-- A part with a sign of its own is found where it stands, and a plain one nowhere else. -/
theorem discount_found :
    (∀ c ∈ "off".toList, Like.isWild c = false) ∧
      "50%".toList <:+: "now 50% off".toList ∧
      (∃ pattern : String,
        childCondition (Backend.sqlite.dialect .standard)
            (Predicate.leaf ("items.title__contains", .text "50%")) =
          .ok (some ⟨(Backend.sqlite.dialect .standard).quote "items.title" ++ " LIKE ?",
            [.text pattern]⟩) ∧
        Like.fits pattern.toList "now 50% off".toList = true) ∧
      ∃ pattern : String,
        childCondition (Backend.mysql.dialect .standard)
            (Predicate.leaf ("title__contains", .text "off")) =
          .ok (some ⟨(Backend.mysql.dialect .standard).quote "title" ++ " LIKE ?",
            [.text pattern]⟩) ∧
        Like.fits pattern.toList "of f".toList = false := by
  have hplain : ∀ c ∈ "off".toList, Like.isWild c = false := by
    simpa using List.any_eq_false.mp (show "off".toList.any Like.isWild = false by decide +kernel)
  have hinfix : "50%".toList <:+: "now 50% off".toList := by decide +kernel
  obtain ⟨percent, hpercent, -, hfound, -⟩ :=
    contains_means_substring_iff .sqlite .standard "items.title" "50%"
  obtain ⟨word, hword, -, -, hexact⟩ := contains_means_substring_iff .mysql .standard "title" "off"
  refine ⟨hplain, hinfix, ⟨percent, hpercent, hfound _ hinfix⟩, word, hword, ?_⟩
  have hnot := (hexact.mpr hplain "of f").not
  simpa using hnot.mpr (by decide +kernel)

/-- Rows with a per cent sign behind a number in a column. -/
def percentQuery : Query :=
  .single { Statement.select (.text "t") with
    filter := .predicate [.tuple [.text "a__contains", .text "50%"]] .and false }

/-- A search for a per cent sign finds texts that have none in them. -/
theorem percentSign_found_elsewhere :
    (∃ f, (percentQuery.compile (Backend.ansi.dialect .standard)).result = .ok f ∧
        f.sql = "SELECT * FROM \"t\" WHERE \"a\" LIKE ?" ∧ f.params = [.text "%50%%"]) ∧
      Like.fits "%50%%".toList "500".toList = true ∧ ¬"50%".toList <:+: "500".toList :=
  ⟨Backend.compiled_of_sql (by decide +kernel), by decide +kernel, by decide +kernel⟩

end SqlRender
