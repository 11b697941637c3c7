import SqlRender.Proofs.Comparison
import SqlRender.Proofs.QuotedName

/-!
# Lookup keys

A key that is written as a column, two low lines and the name of a lookup is read as that column and
that lookup, whatever the column contains: other pairs of low lines, low lines at its end, the name
of another lookup. Names of lookups have no low line in them, so the pair in front of the name is
the last one. Every other key is a column that is compared for equality.

* `Text.cutLast?_append`, `Text.eq_append_of_cutLast?`: what a cut at the last separator gives, and
  that it loses nothing.
* `LookupKey.read_text`, `LookupKey.read_of_ne_text`: the two ways in which a key is read.
* `lookup_keys_unambiguous`: how lookups with such keys are compared.
-/

namespace SqlRender

namespace Text

/-! ## Cutting at the last separator -/

theorem eq_append_of_dropFront? {front cs rest : List Char}
    (h : dropFront? front cs = some rest) : cs = front ++ rest := by
  fun_induction dropFront? front cs with
  | case1 cs =>
    cases h
    rfl
  | case2 => cases h
  | case3 f front cs ih => rw [ih h, List.cons_append]
  | case4 => cases h

/-- Nothing is lost where a text is cut. -/
theorem eq_append_of_cutLast? {sep cs before after : List Char}
    (h : cutLast? sep cs = some (before, after)) : cs = before ++ sep ++ after := by
  induction cs generalizing before with
  | nil =>
    rw [cutLast?] at h
    obtain ⟨rest, hrest, hpair⟩ := Option.map_eq_some_iff.mp h
    cases hpair
    exact eq_append_of_dropFront? hrest
  | cons c cs ih =>
    rw [cutLast?] at h
    split at h
    · next front back hcut =>
      cases h
      rw [ih hcut]
      rfl
    · obtain ⟨rest, hrest, hpair⟩ := Option.map_eq_some_iff.mp h
      cases hpair
      exact eq_append_of_dropFront? hrest

/-- A separator that is found in the back of a text is the last one of the whole text. -/
theorem cutLast?_append {sep cs before after : List Char}
    (h : cutLast? sep cs = some (before, after)) (front : List Char) :
    cutLast? sep (front ++ cs) = some (front ++ before, after) := by
  induction front with
  | nil => exact h
  | cons c front ih =>
    rw [List.cons_append, cutLast?, ih]
    rfl

theorem cutLast?_eq_none {c : Char} {sep cs : List Char} (h : c ∉ cs) :
    cutLast? (c :: sep) cs = none := by
  induction cs with
  | nil => rfl
  | cons d cs ih =>
    have hhead : (d :: cs).head? ≠ some c := by
      intro heq
      cases heq
      exact h List.mem_cons_self
    rw [cutLast?, ih (fun hmem => h (List.mem_cons_of_mem d hmem)), dropFront?_of_head?_ne hhead]
    rfl

/-- A pair of characters in front of a text without them is cut off, and not the second character
with one of the text. -/
theorem cutLast?_pair {c : Char} {back : List Char} (h : c ∉ back) :
    cutLast? [c, c] (c :: c :: back) = some ([], back) := by
  have hhead : back.head? ≠ some c := fun heq => h (List.mem_of_mem_head? heq)
  have hsecond : cutLast? [c, c] (c :: back) = none := by
    rw [cutLast?, cutLast?_eq_none h, dropFront?, if_pos rfl, dropFront?_of_head?_ne hhead]
    rfl
  have hfirst : dropFront? [c, c] (c :: c :: back) = some back := dropFront?_append [c, c] back
  rw [cutLast?, hsecond, hfirst]
  rfl

end Text

/-! ## Keys -/

theorem Lookup.ofName?_name (lookup : Lookup) : ofName? lookup.name = some lookup := by
  cases lookup <;> decide

theorem Lookup.name_of_ofName? {name : String} {lookup : Lookup}
    (h : ofName? name = some lookup) : lookup.name = name := by
  simpa using List.find?_some h

theorem Lookup.lowLine_notMem_name (lookup : Lookup) : '_' ∉ lookup.name.toList := by
  cases lookup <;> decide

namespace LookupKey

/-- A key that names both its column and its lookup. -/
def text (key : LookupKey) : String := key.column ++ "__" ++ key.lookup.name

theorem cutLast?_text (key : LookupKey) :
    Text.cutLast? ['_', '_'] key.text.toList =
      some (key.column.toList, key.lookup.name.toList) := by
  have hchars : key.text.toList =
      key.column.toList ++ '_' :: '_' :: key.lookup.name.toList := by
    simp [text, String.toList_append]
  have hcut := Text.cutLast?_append (Text.cutLast?_pair key.lookup.lowLine_notMem_name)
    key.column.toList
  rw [hchars, hcut, List.append_nil]

theorem read_text (key : LookupKey) : read key.text = key := by
  unfold read
  rw [cutLast?_text]
  simp only [String.ofList_toList, Lookup.ofName?_name]

theorem text_injective : Function.Injective text :=
  Function.LeftInverse.injective read_text

theorem read_of_ne_text {key : String} (h : ∀ k : LookupKey, key ≠ k.text) :
    read key = ⟨key, .exact⟩ := by
  unfold read
  split
  · rfl
  · next column name hcut =>
    split
    · next lookup hlookup =>
      -- a cut with a lookup behind it would be a way to write the key
      refine absurd ?_ (h ⟨String.ofList column, lookup⟩)
      apply String.toList_inj.mp
      rw [Text.eq_append_of_cutLast? hcut, text, Lookup.name_of_ofName? hlookup]
      simp [String.toList_append]
    · rfl

end LookupKey

theorem childCondition_lookup (d : Dialect) (key : String) (v : Value) :
    childCondition d (Predicate.leaf (key, v)) =
      some <$>
        comparison d (LookupKey.read key).lookup (d.quote (LookupKey.read key).column) v := by
  rw [Predicate.leaf, childCondition]
  rfl

theorem Backend.comparison_exact_null (b : Backend) (types : TypeCatalogue) (column : String) :
    comparison (b.dialect types) .exact column .null = .ok (.ofSql (column ++ " IS NULL")) := by
  rw [comparison_eq]
  rfl

theorem Backend.comparison_exact (b : Backend) (types : TypeCatalogue) (column : String)
    {v : Value} (hv : v ≠ .null) :
    comparison (b.dialect types) .exact column v =
      .ok ⟨column ++ " = " ++ (Fragment.ofValue v).sql, (Fragment.ofValue v).params⟩ := by
  rw [comparison_eq, tail_single rfl hv]
  show Except.ok (Tail.fragment column (.single " = " v)) = _
  simp [Tail.fragment, Tail.map, Tail.text, Tail.operands, String.append_assoc]

/-- A lookup whose key is written with a column and a lookup compares that column by that lookup. A
lookup with any other key compares the column that the whole key names for equality. No key is
written in two ways, and so a column of any name can be compared by a key that says so. -/
theorem lookup_keys_unambiguous :
    (∀ (d : Dialect) (column : String) (lookup : Lookup) (v : Value),
      childCondition d (Predicate.leaf (column ++ "__" ++ lookup.name, v)) =
        some <$> comparison d lookup (d.quote column) v) ∧
    (∀ (d : Dialect) (key : String) (v : Value),
      (∀ (column : String) (lookup : Lookup), key ≠ column ++ "__" ++ lookup.name) →
        childCondition d (Predicate.leaf (key, v)) =
          some <$> comparison d .exact (d.quote key) v) ∧
    (∀ (column column' : String) (lookup lookup' : Lookup),
      column ++ "__" ++ lookup.name = column' ++ "__" ++ lookup'.name →
        column = column' ∧ lookup = lookup') ∧
    (∀ (b : Backend) (types : TypeCatalogue) (column : String),
      childCondition (b.dialect types) (Predicate.leaf (column ++ "__exact", .null)) =
        .ok (some (.ofSql ((b.dialect types).quote column ++ " IS NULL"))) ∧
      ∀ v, v ≠ .null →
        childCondition (b.dialect types) (Predicate.leaf (column ++ "__exact", v)) =
          .ok (some ⟨(b.dialect types).quote column ++ " = " ++ (Fragment.ofValue v).sql,
            (Fragment.ofValue v).params⟩)) := by
  have hnamed (d : Dialect) (column : String) (lookup : Lookup) (v : Value) :
      childCondition d (Predicate.leaf (column ++ "__" ++ lookup.name, v)) =
        some <$> comparison d lookup (d.quote column) v := by
    have hread : LookupKey.read (column ++ "__" ++ lookup.name) = ⟨column, lookup⟩ :=
      LookupKey.read_text ⟨column, lookup⟩
    rw [childCondition_lookup, hread]
  refine ⟨hnamed, ?_, ?_, ?_⟩
  · intro d key v hkey
    rw [childCondition_lookup, LookupKey.read_of_ne_text fun k => hkey k.column k.lookup]
  · intro column column' lookup lookup' heq
    have hkey : (⟨column, lookup⟩ : LookupKey) = ⟨column', lookup'⟩ :=
      LookupKey.text_injective heq
    cases hkey
    exact ⟨rfl, rfl⟩
  · intro b types column
    have hkey : column ++ "__exact" = column ++ "__" ++ Lookup.exact.name := by
      rw [String.append_assoc]
      rfl
    rw [hkey]
    constructor
    · rw [hnamed, b.comparison_exact_null types]
      rfl
    · intro v hv
      rw [hnamed, b.comparison_exact types _ hv]
      rfl

/-- A column with the names of lookups, pairs of low lines and a low line at its end. -/
def nestedColumn : String := "__in__gt__exact_"

theorem nestedColumn_compared :
    (∀ (column : String) (lookup : Lookup), nestedColumn ≠ column ++ "__" ++ lookup.name) ∧
    Value.int 1 ≠ .null ∧
    childCondition (Backend.ansi.dialect .standard)
        (Predicate.leaf (nestedColumn ++ "__isnull", .bool true)) =
      .ok (some ⟨"\"__in__gt__exact_\" IS NULL", []⟩) ∧
    childCondition (Backend.ansi.dialect .standard) (Predicate.leaf (nestedColumn, .int 1)) =
      .ok (some ⟨"\"__in__gt__exact_\" = ?", [.int 1]⟩) ∧
    childCondition (Backend.ansi.dialect .standard)
        (Predicate.leaf (nestedColumn ++ "__exact", .int 1)) =
      .ok (some ⟨"\"__in__gt__exact_\" = ?", [.int 1]⟩) := by
  obtain ⟨hnamed, hplain, -, hexact⟩ := lookup_keys_unambiguous
  have hkey (column : String) (lookup : Lookup) :
      nestedColumn ≠ column ++ "__" ++ lookup.name := by
    intro heq
    -- no lookup has a name that ends in a low line
    have hlast := congrArg (fun s => s.toList.getLast?) heq
    revert hlast
    cases lookup <;> simp [nestedColumn, Lookup.name]
  have hnull : Value.int 1 ≠ .null := nofun
  have hquote : (Backend.ansi.dialect .standard).quote nestedColumn = "\"__in__gt__exact_\"" := by
    decide +kernel
  refine ⟨hkey, hnull, ?_, ?_, ?_⟩
  · have hname : nestedColumn ++ "__isnull" = nestedColumn ++ "__" ++ Lookup.isNull.name := rfl
    rw [hname, hnamed, hquote, Backend.comparison_eq]
    rfl
  · rw [hplain _ _ _ hkey, hquote, Backend.comparison_exact _ _ _ hnull]
    rfl
  · rw [(hexact _ _ _).2 _ hnull, hquote]
    rfl

end SqlRender
