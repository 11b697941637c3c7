import SqlRender.Proofs.Steady

/-!
# Quoted names can be read back

A name is written segment by segment between marks, with the marks in it written twice, and a list
of names with a comma and a space between them. Whatever the names contain (marks, points, commas,
stars, blanks, nothing at all), the text is read back as these names, and where one identifier ends
is seen from the next character alone.

Texts are read by their grammar and not cut into characters and identifiers first, as the lexemes of
SQL are: the mark may even be a blank, and then the space behind a comma looks like a mark.

* `Text.quotation?`: reads what stands between marks, up to the mark that ends it.
* `Text.separated?_join`: items that can be read one by one can be read with separators between
  them.
* `Dialect.quoted_names_read_back`: identifiers, dotted names and lists of names are read back.
-/

namespace SqlRender

/-- Where what was written can be read back, different things are written differently. -/
theorem injective_of_read {α β γ : Type} {write : α → β} (read : β → Option (α × γ)) {rest : γ}
    (h : ∀ a, read (write a) = some (a, rest)) : Function.Injective write := by
  intro a a' heq
  have hread := h a
  rw [heq, h a'] at hread
  exact (Prod.mk.inj (Option.some.inj hread)).1.symm

namespace Text

/-! ## Reading -/

/-- Reads up to the mark that ends a quotation, and gives what stands in front of it and what
follows. `marked` says that a mark has just been read: it ends the quotation unless another one
follows, which makes the two of them one character. -/
def enclosed? (mark : Char) : Bool → List Char → Option (List Char × List Char)
  | false, [] => none
  | true, [] => some ([], [])
  | false, c :: cs =>
    if c = mark then enclosed? mark true cs
    else (enclosed? mark false cs).map fun read => (c :: read.1, read.2)
  | true, c :: cs =>
    if c = mark then (enclosed? mark false cs).map fun read => (mark :: read.1, read.2)
    else some ([], c :: cs)

/-- Reads what stands between marks, and gives it with what follows. -/
def quotation? (mark : Char) : List Char → Option (List Char × List Char)
  | [] => none
  | c :: cs => if c = mark then enclosed? mark false cs else none

/-- Reads an identifier. -/
def identifier? (mark : Char) (cs : List Char) : Option (String × List Char) :=
  (quotation? mark cs).map fun read => (String.ofList read.1, read.2)

/-- Reads items with separators between them, up to an item that no separator follows. -/
def separated? {α : Type} (item? : List Char → Option (α × List Char)) (sep cs : List Char) :
    Option (List α × List Char) :=
  match item? cs with
  | none => none
  | some (item, rest) =>
    match dropFront? sep rest with
    | none => some ([item], rest)
    | some next =>
      -- an item and the separator behind it take up some of the text
      if _h : next.length < cs.length then
        (separated? item? sep next).map fun read => (item :: read.1, read.2)
      else none
termination_by cs.length

/-- Reads a segment of a dotted name: a star that stands for itself, or a quotation. -/
def segment? (mark : Char) : List Char → Option (List Char × List Char)
  | [] => none
  | c :: cs => if c = '*' then some (['*'], cs) else quotation? mark (c :: cs)

/-- Reads the segments of a dotted name. -/
def segments? (mark : Char) : List Char → Option (List (List Char) × List Char) :=
  separated? (segment? mark) ['.']

/-- Reads a dotted name. -/
def name? (mark : Char) (cs : List Char) : Option (String × List Char) :=
  (segments? mark cs).map fun read => (String.ofList (join ['.'] read.1), read.2)

/-- Reads a list of names. The empty text is the empty list. -/
def names? (mark : Char) (cs : List Char) : Option (List String × List Char) :=
  if cs = [] then some ([], []) else separated? (name? mark) [',', ' '] cs

example : quotation? '"' ['"', 'a', '"', '"', '.', '"', ' ', '"'] =
    some (['a', '"', '.'], [' ', '"']) := by decide

/-! ## What is written and read -/

variable {mark : Char}

theorem dropFront?_append (front cs : List Char) : dropFront? front (front ++ cs) = some cs := by
  induction front with
  | nil => rfl
  | cons f front ih =>
    rw [List.cons_append, dropFront?, if_pos rfl]
    exact ih

theorem dropFront?_of_head?_ne {c : Char} {front cs : List Char} (h : cs.head? ≠ some c) :
    dropFront? (c :: front) cs = none := by
  cases cs with
  | nil => rfl
  | cons d cs =>
    have hne : c ≠ d := by
      rintro rfl
      exact h rfl
    rw [dropFront?, if_neg hne]

/-- A mark ends a quotation where no other one follows. -/
theorem enclosed?_true {rest : List Char} (h : rest.head? ≠ some mark) :
    enclosed? mark true rest = some ([], rest) := by
  cases rest with
  | nil => rfl
  | cons c rest =>
    have hc : c ≠ mark := by
      rintro rfl
      exact h rfl
    rw [enclosed?, if_neg hc]

/-- A text in which marks are doubled is read up to the mark behind it. -/
theorem enclosed?_double (body : List Char) {rest : List Char} (h : rest.head? ≠ some mark) :
    enclosed? mark false (double [mark] body ++ mark :: rest) = some (body, rest) := by
  induction body with
  | nil =>
    show enclosed? mark false (mark :: rest) = _
    rw [enclosed?, if_pos rfl, enclosed?_true h]
  | cons c body ih =>
    rw [double_cons]
    by_cases hc : c = mark
    · rw [if_pos hc, List.cons_append, List.cons_append, enclosed?, if_pos rfl, enclosed?,
        if_pos rfl, ih, hc]
      rfl
    · rw [if_neg hc, List.cons_append, enclosed?, if_neg hc, ih]
      rfl

theorem quoteChars_append (body rest : List Char) :
    Dialect.quoteChars [mark] body ++ rest = mark :: (double [mark] body ++ mark :: rest) := by
  simp [Dialect.quoteChars]

/-- A quoted text ends where no mark follows. -/
theorem quotation?_quoteChars (body : List Char) {rest : List Char} (h : rest.head? ≠ some mark) :
    quotation? mark (Dialect.quoteChars [mark] body ++ rest) = some (body, rest) := by
  rw [quoteChars_append, quotation?, if_pos rfl, enclosed?_double body h]

theorem identifier?_quoteIdentifier {d : Dialect} (hmark : d.mark.toList = [mark]) (name : String)
    {rest : List Char} (h : rest.head? ≠ some mark) :
    identifier? mark ((d.quoteIdentifier name).toList ++ rest) = some (name, rest) := by
  rw [Dialect.quoteIdentifier, String.toList_ofList, hmark, identifier?, quotation?_quoteChars _ h,
    Option.map_some, String.ofList_toList]

/-- Items that can be read one by one can be read with separators between them. `P` says what may
stand behind an item; a separator may. -/
theorem separated?_join {α : Type} {item? : List Char → Option (α × List Char)} {sep : List Char}
    {write : α → List Char} {P : List Char → Prop} (hsep : sep ≠ [])
    (hfollows : ∀ cs, P (sep ++ cs)) {items : List α} (hne : items ≠ [])
    (hitems : ∀ item ∈ items, ∀ rest, P rest → item? (write item ++ rest) = some (item, rest))
    {rest : List Char} (hrest : P rest) (hend : dropFront? sep rest = none) :
    separated? item? sep (join sep (items.map write) ++ rest) = some (items, rest) := by
  induction items with
  | nil => exact absurd rfl hne
  | cons item items ih =>
    have hitem := hitems item List.mem_cons_self
    cases items with
    | nil =>
      show separated? item? sep (write item ++ rest) = _
      rw [separated?, hitem rest hrest]
      simp only [hend]
    | cons next items =>
      have hread := ih (by simp) fun item' hmem => hitems item' (List.mem_cons_of_mem item hmem)
      have hjoin : join sep ((item :: next :: items).map write) ++ rest =
          write item ++ (sep ++ (join sep ((next :: items).map write) ++ rest)) := by
        simp only [List.map_cons, join, List.append_assoc]
      rw [hjoin, separated?, hitem _ (hfollows _)]
      simp only [dropFront?_append, hread, Option.map_some]
      refine dif_pos ?_
      have hlength := List.length_pos_of_ne_nil hsep
      simp only [List.length_append]
      omega

/-! ## Names -/

theorem segment?_quoteSegment (hmark : mark ≠ '*') (segment : List Char) {rest : List Char}
    (h : rest.head? ≠ some mark) :
    segment? mark (Dialect.quoteSegment [mark] segment ++ rest) = some (segment, rest) := by
  unfold Dialect.quoteSegment
  split
  · next hstar =>
    subst hstar
    rfl
  · have hquotation := quotation?_quoteChars segment h
    rw [quoteChars_append] at hquotation ⊢
    rw [segment?, if_neg hmark, hquotation]

/-- The pieces of a text with the separator between them are the text. -/
theorem join_split (sep : Char) (cs : List Char) : join [sep] (split sep cs) = cs := by
  induction cs with
  | nil => rfl
  | cons c cs ih =>
    unfold split at ih ⊢
    rw [splitFirst]
    generalize splitFirst sep cs = pieces at ih ⊢
    obtain ⟨piece, pieces⟩ := pieces
    by_cases hc : c = sep
    · simp only [if_pos hc, join, ih]
      rw [hc]
      rfl
    · simp only [if_neg hc]
      cases pieces with
      | nil => exact congrArg (c :: ·) ih
      | cons next pieces => exact congrArg (c :: ·) ih

theorem toList_joined (sep : String) (texts : List String) :
    (joined sep texts).toList = join sep.toList (texts.map String.toList) := by
  fun_induction joined sep texts with
  | case1 => rfl
  | case2 text => rfl
  | case3 text texts hne ih =>
    cases texts with
    | nil => exact absurd rfl hne
    | cons next texts => simp [join, ih]

/-- What may stand behind a name: neither a mark nor a point. -/
def EndsName (mark : Char) (rest : List Char) : Prop :=
  rest.head? ≠ some mark ∧ rest.head? ≠ some '.'

theorem name?_nil : name? mark [] = none := by
  rw [name?, segments?, separated?]
  rfl

variable (hpoint : mark ≠ '.') (hstar : mark ≠ '*')
include hpoint hstar

theorem name?_quoted (name : String) {rest : List Char} (h : EndsName mark rest) :
    name? mark (join ['.'] ((split '.' name.toList).map (Dialect.quoteSegment [mark])) ++ rest) =
      some (name, rest) := by
  have hsegments : segments? mark
      (join ['.'] ((split '.' name.toList).map (Dialect.quoteSegment [mark])) ++ rest) =
        some (split '.' name.toList, rest) := by
    refine separated?_join (P := fun rest => rest.head? ≠ some mark) (by simp) ?_
      (by simp [split]) (fun segment _ rest hrest => segment?_quoteSegment hstar segment hrest)
      h.1 (dropFront?_of_head?_ne h.2)
    intro cs hhead
    exact hpoint (Option.some.inj hhead).symm
  rw [name?, hsegments, Option.map_some, join_split, String.ofList_toList]

theorem name?_quote {d : Dialect} (hmark : d.mark.toList = [mark]) (name : String)
    {rest : List Char} (h : EndsName mark rest) :
    name? mark ((d.quote name).toList ++ rest) = some (name, rest) := by
  rw [Dialect.quote, String.toList_ofList, hmark]
  exact name?_quoted hpoint hstar name h

theorem names?_joined (hcomma : mark ≠ ',') {d : Dialect} (hmark : d.mark.toList = [mark])
    (names : List String) :
    names? mark (joined ", " (names.map d.quote)).toList = some (names, []) := by
  cases names with
  | nil => rfl
  | cons name names =>
    have hjoined : (joined ", " ((name :: names).map d.quote)).toList =
        join [',', ' '] ((name :: names).map fun name => (d.quote name).toList) ++ [] := by
      rw [List.append_nil, toList_joined, List.map_map]
      rfl
    have hread : separated? (name? mark) [',', ' ']
        (join [',', ' '] ((name :: names).map fun name => (d.quote name).toList) ++ []) =
          some (name :: names, []) := by
      refine separated?_join (P := EndsName mark) (by simp) ?_ (by simp)
        (fun name _ rest hrest => name?_quote hpoint hstar hmark name hrest) ⟨by simp, by simp⟩ rfl
      intro cs
      refine ⟨fun hhead => hcomma (Option.some.inj hhead).symm, ?_⟩
      simp
    have hne : (joined ", " ((name :: names).map d.quote)).toList ≠ [] := by
      rw [hjoined]
      intro hnil
      rw [hnil, separated?, name?_nil] at hread
      cases hread
    rw [names?, if_neg hne, hjoined, hread]

end Text

namespace Dialect

theorem quoteList_texts (d : Dialect) (names : List String) :
    d.quoteList (.list (names.map .text)) = .ok (Text.joined ", " (names.map d.quote)) := by
  have hnames : (names.map Value.text).mapM d.quoteName = .ok (names.map d.quote) := by
    rw [mapM_eq_ok, List.forall₂_map_left_iff, List.forall₂_map_right_iff]
    exact List.forall₂_same.mpr fun name _ => rfl
  show (do return Text.joined ", " (← (names.map Value.text).mapM d.quoteName)) = _
  rw [hnames]
  rfl

/-- Quoting loses nothing: the text of a list of names is read back as the list, to its end. So
identifiers, names and lists of names that differ are written differently, and an identifier ends
where no mark follows it. -/
theorem quoted_names_read_back (d : Dialect) {mark : Char} (hmark : d.mark.toList = [mark])
    (hpoint : mark ≠ '.') (hstar : mark ≠ '*') (hcomma : mark ≠ ',') :
    (∀ names : List String, ∃ text, d.quoteList (.list (names.map .text)) = .ok text ∧
        Text.names? mark text.toList = some (names, [])) ∧
      Function.Injective d.quoteIdentifier ∧ Function.Injective d.quote ∧
      Function.Injective (fun names : List String => d.quoteList (.list (names.map .text))) ∧
      ∀ (name : String) (rest : List Char), rest.head? ≠ some mark →
        Text.identifier? mark ((d.quoteIdentifier name).toList ++ rest) = some (name, rest) := by
  have hnames := Text.names?_joined hpoint hstar hcomma hmark
  have hinjective : Function.Injective fun names : List String =>
      Text.joined ", " (names.map d.quote) :=
    injective_of_read (fun text => Text.names? mark text.toList) hnames
  refine ⟨fun names => ⟨_, d.quoteList_texts names, hnames names⟩, ?_, ?_, ?_, ?_⟩
  · exact injective_of_read (fun text => Text.identifier? mark (text.toList ++ []))
      fun name => Text.identifier?_quoteIdentifier hmark name nofun
  · exact injective_of_read (fun text => Text.name? mark (text.toList ++ []))
      fun name => Text.name?_quote hpoint hstar hmark name ⟨nofun, nofun⟩
  · intro names names' heq
    simp only [quoteList_texts, Except.ok.injEq] at heq
    exact hinjective heq
  · exact fun name rest hrest => Text.identifier?_quoteIdentifier hmark name hrest

/-- A dialect whose mark is a space. -/
def spaceMarked : Dialect := blank "spaced" " " .standard

/-- Names with spaces, points, commas and stars in them, and one that is empty. -/
def awkwardNames : List String := ["a b.*", "", ", ", "x.*y.", "*"]

theorem awkwardNames_read_back :
    spaceMarked.mark.toList = [' '] ∧ ' ' ≠ '.' ∧ ' ' ≠ '*' ∧ ' ' ≠ ',' ∧
      ∃ text, spaceMarked.quoteList (.list (awkwardNames.map .text)) = .ok text ∧
        text = " a  b .*,   ,  ,   ,  x . *y .  , *" ∧
        Text.names? ' ' text.toList = some (awkwardNames, []) := by
  have hmark : spaceMarked.mark.toList = [' '] := rfl
  obtain ⟨hnames, -⟩ :=
    quoted_names_read_back spaceMarked hmark (by decide) (by decide) (by decide)
  obtain ⟨text, htext, hread⟩ := hnames awkwardNames
  refine ⟨hmark, by decide, by decide, by decide, text, htext, ?_, hread⟩
  rw [quoteList_texts] at htext
  rw [← Except.ok.inj htext]
  decide +kernel

end Dialect

end SqlRender
