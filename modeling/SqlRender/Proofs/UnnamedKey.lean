import Mathlib.Data.Finset.Card
import SqlRender.Proofs.TableStatement

/-!
# Unique keys and indexes without a name

A unique key without a name stands under its columns joined by `_`, an index without one under a
name made of the table and the joined columns. Different columns may have the same join: a unique
key then takes the place of the earlier one, and an index takes its columns in.

* `Unnamed.schema`: what a run of such declarations leaves, table by table.
* `Assoc.all_kept_iff`: each declaration keeps an entry with its own columns exactly if the names
  tell the declarations apart.
* `Unnamed.unnamed_kept_iff`: this for the keys and the indexes of a schema, and what is written
  for each of them.
-/

namespace SqlRender

/-! ## Tables of groups -/

namespace Assoc

variable {ν : Type}

/-- The members of a group: the column tuples that have its name. -/
def group (nameOf : List String → String) (name : String) (tuples : List (List String)) :
    List (List String) :=
  tuples.filter (nameOf · = name)

/-- A table with one entry for each name that column tuples have, made of the tuples that have
it. -/
def grouped (nameOf : List String → String) (make : String → List (List String) → ν)
    (tuples : List (List String)) : List (Value × ν) :=
  (tuples.map nameOf).eraseDups.map fun name => (.text name, make name (group nameOf name tuples))

section Grouped

variable (nameOf : List String → String) (make : String → List (List String) → ν)
variable (tuples : List (List String))

/-- One more tuple changes the entry under its name, and no other. -/
theorem put_grouped (columns : List String) :
    put (.text (nameOf columns))
        (make (nameOf columns) (group nameOf (nameOf columns) tuples ++ [columns]))
        (grouped nameOf make tuples) =
      grouped nameOf make (tuples ++ [columns]) := by
  have hgroup : group nameOf (nameOf columns) (tuples ++ [columns]) =
      group nameOf (nameOf columns) tuples ++ [columns] := by
    simp [group]
  have hother : ∀ name ∈ (tuples.map nameOf).eraseDups, name ≠ nameOf columns →
      make name (group nameOf name (tuples ++ [columns])) =
        make name (group nameOf name tuples) := by
    intro name _ hne
    simp [group, Ne.symm hne]
  rw [grouped, ← hgroup, put_map_text (Schema.nodup_eraseDups _) hother, grouped, List.map_append,
    List.map_cons, List.map_nil, eraseDups_concat]

theorem get?_grouped (name : String) :
    get? (.text name) (grouped nameOf make tuples) =
      if name ∈ tuples.map nameOf then some (make name (group nameOf name tuples)) else none := by
  simp only [grouped, get?_map_text, List.mem_eraseDups]

end Grouped

variable {nameOf : List String → String} {make : String → List (List String) → ν}
variable {tuples : List (List String)}

theorem mem_grouped {entry : Value × ν} : entry ∈ grouped nameOf make tuples ↔
    ∃ columns ∈ tuples,
      entry = (.text (nameOf columns),
        make (nameOf columns) (group nameOf (nameOf columns) tuples)) := by
  simp only [grouped, List.mem_map, List.mem_eraseDups]
  constructor
  · rintro ⟨_, ⟨columns, hcolumns, rfl⟩, rfl⟩
    exact ⟨columns, hcolumns, rfl⟩
  · rintro ⟨columns, hcolumns, rfl⟩
    exact ⟨_, ⟨columns, hcolumns, rfl⟩, rfl⟩

/-- If each tuple has an entry with exactly its columns, the names tell the tuples apart. The entry
of a tuple need not be the one under its own name, so this is a matter of counting: there are no
more entries than names. -/
theorem eq_of_kept {columnsOf : ν → List Value}
    (hkept : ∀ columns ∈ tuples, ∃ entry ∈ grouped nameOf make tuples,
      columnsOf entry.2 = columns.map .text)
    {columns columns' : List String} (hcolumns : columns ∈ tuples) (hcolumns' : columns' ∈ tuples)
    (hname : nameOf columns = nameOf columns') : columns = columns' := by
  have hkeeper : ∀ columns ∈ tuples, ∃ name ∈ tuples.map nameOf,
      columnsOf (make name (group nameOf name tuples)) = columns.map .text := by
    intro columns hcolumns
    obtain ⟨entry, hentry, heq⟩ := hkept columns hcolumns
    obtain ⟨keeper, hkeeper, rfl⟩ := mem_grouped.mp hentry
    exact ⟨_, List.mem_map_of_mem hkeeper, heq⟩
  choose! keeper hmem hkeeps using hkeeper
  have hinj : Set.InjOn keeper tuples.toFinset := by
    intro columns hcolumns columns' hcolumns' heq
    have hsame := hkeeps columns (by simpa using hcolumns)
    rw [heq, hkeeps columns' (by simpa using hcolumns')] at hsame
    exact (List.map_injective_iff.mpr fun _ _ => Value.text.inj) hsame.symm
  have hcard : tuples.toFinset.card ≤ (tuples.toFinset.image nameOf).card := by
    refine Finset.card_le_card_of_injOn keeper (fun columns hcolumns => ?_) hinj
    simpa using hmem columns (by simpa using hcolumns)
  have hnames := Finset.card_image_iff.mp (le_antisymm Finset.card_image_le hcard)
  exact hnames (by simpa using hcolumns) (by simpa using hcolumns') hname

/-- The group of a tuple that shares its name with no other holds that tuple only. -/
theorem group_eq_replicate {columns : List String} (hcolumns : columns ∈ tuples)
    (hapart : ∀ columns' ∈ tuples, nameOf columns' = nameOf columns → columns' = columns) :
    ∃ n, group nameOf (nameOf columns) tuples = List.replicate (n + 1) columns := by
  have hgroup : ∀ columns' ∈ group nameOf (nameOf columns) tuples, columns' = columns := by
    intro columns' hcolumns'
    obtain ⟨hmem, hname⟩ := List.mem_filter.mp hcolumns'
    exact hapart columns' hmem (by simpa using hname)
  have hpos : columns ∈ group nameOf (nameOf columns) tuples :=
    List.mem_filter.mpr ⟨hcolumns, by simp⟩
  obtain ⟨n, hn⟩ := Nat.exists_eq_add_one.mpr (List.length_pos_of_mem hpos)
  exact ⟨n, hn ▸ List.eq_replicate_of_mem hgroup⟩

/-- Each tuple has an entry with exactly its columns if and only if no two tuples have one name. -/
theorem all_kept_iff (columnsOf : ν → List Value)
    (hmake : ∀ columns ∈ tuples, ∀ name n,
      columnsOf (make name (List.replicate (n + 1) columns)) = columns.map .text) :
    (∀ columns ∈ tuples, ∃ entry ∈ grouped nameOf make tuples,
        columnsOf entry.2 = columns.map .text) ↔
      ∀ columns ∈ tuples, ∀ columns' ∈ tuples, nameOf columns = nameOf columns' →
        columns = columns' := by
  constructor
  · intro hkept columns hcolumns columns' hcolumns'
    exact eq_of_kept hkept hcolumns hcolumns'
  · intro hapart columns hcolumns
    obtain ⟨n, hgroup⟩ := group_eq_replicate hcolumns fun columns' hcolumns' =>
      hapart columns' hcolumns' columns hcolumns
    refine ⟨_, mem_grouped.mpr ⟨columns, hcolumns, rfl⟩, ?_⟩
    rw [hgroup]
    exact hmake columns hcolumns _ n

end Assoc

/-! ## Runs of declarations -/

/-- A unique key or an index over columns, declared without a name. -/
inductive Unnamed where
  | unique (columns : List String)
  | index (columns : List String)

namespace Unnamed

def columns : Unnamed → List String
  | unique columns => columns
  | index columns => columns

def toCall : Unnamed → Schema.Call
  | unique columns => .addUnique (.tuple columns) none
  | index columns => .addIndex (.tuple columns) none (.bool false)

/-- The columns of the unique keys, in order. -/
def uniques (ds : List Unnamed) : List (List String) :=
  ds.filterMap fun
    | unique columns => some columns
    | index _ => none

/-- The columns of the indexes, in order. -/
def indexes (ds : List Unnamed) : List (List String) :=
  ds.filterMap fun
    | unique _ => none
    | index columns => some columns

/-- The name that a table gives an index over columns. -/
def indexName (table : String) (columns : List String) : String :=
  Schema.indexNameOf table ⟨columns, none, .bool false⟩

/-- The unique key that declarations of one name leave: the last of them. -/
def lastKey (_ : String) (declared : List (List String)) : Key :=
  ⟨(declared.getLastD []).map .text, .null⟩

/-- The index that declarations of one name leave: all of them together. -/
def mergedIndex (name : String) (declared : List (List String)) : Index :=
  ⟨.text name, Schema.mergedColumns declared, .bool false⟩

/-- The schema that declarations leave. -/
def schema (table : String) (options : Mapping) (ds : List Unnamed) : Schema :=
  { table, options
    uniqueKeys := Assoc.grouped Schema.joinedColumns lastKey (uniques ds)
    indexes := Assoc.grouped (indexName table) mergedIndex (indexes ds) }

variable {table : String} {options : Mapping}

theorem run_unique (ds : List Unnamed) (columns : List String) :
    (unique columns).toCall.run.run (schema table options ds) =
      .ok () (schema table options (ds ++ [unique columns])) := by
  have hput := Assoc.put_grouped Schema.joinedColumns lastKey (uniques ds) columns
  have hkey : lastKey (Schema.joinedColumns columns)
      (Assoc.group Schema.joinedColumns (Schema.joinedColumns columns) (uniques ds) ++ [columns]) =
      ⟨columns.map .text, .null⟩ := by
    simp [lastKey]
  have huniques : uniques (ds ++ [unique columns]) = uniques ds ++ [columns] := by
    simp [uniques]
  have hindexes : indexes (ds ++ [unique columns]) = indexes ds := by
    simp [indexes]
  rw [hkey] at hput
  refine (Schema.addUnique_run_unnamed (Schema.columnsOf_toValue (.tuple columns))).trans ?_
  simp only [Schema.withUnique, schema, huniques, hindexes, ← hput]
  rfl

/-- What stands under a name before an index is declared under it. -/
theorem indexes_before {ds : List Unnamed} {name : String} {existing : Option Index}
    (h : Assoc.get? (.text name) (schema table options ds).indexes = existing) :
    existing.elim [] Index.columns =
        Schema.mergedColumns (Assoc.group (indexName table) name (indexes ds)) ∧
      existing.elim false (·.unique.isTrue) = false := by
  rw [schema, Assoc.get?_grouped] at h
  subst h
  by_cases hname : name ∈ (indexes ds).map (indexName table)
  · rw [if_pos hname]
    exact ⟨rfl, rfl⟩
  · have hgroup : Assoc.group (indexName table) name (indexes ds) = [] := by
      rw [Assoc.group, List.filter_eq_nil_iff]
      intro columns hcolumns heq
      exact hname (List.mem_map.mpr ⟨columns, hcolumns, by simpa using heq⟩)
    rw [if_neg hname, hgroup]
    exact ⟨rfl, rfl⟩

theorem run_index (ds : List Unnamed) (columns : List String) :
    (index columns).toCall.run.run (schema table options ds) =
      .ok () (schema table options (ds ++ [index columns])) := by
  have hput := Assoc.put_grouped (indexName table) mergedIndex (indexes ds) columns
  have huniques : uniques (ds ++ [index columns]) = uniques ds := by
    simp [uniques]
  have hindexes : indexes (ds ++ [index columns]) = indexes ds ++ [columns] := by
    simp [indexes]
  obtain ⟨existing, hexisting⟩ :
      ∃ existing, Assoc.get? (.text (indexName table columns)) (schema table options ds).indexes =
        existing := ⟨_, rfl⟩
  obtain ⟨hcolumns, hunique⟩ := indexes_before hexisting
  have hmerge := Schema.merge_mergedColumns
    (Assoc.group (indexName table) (indexName table columns) (indexes ds)) columns
  rw [← hcolumns] at hmerge
  have hrun := Schema.addIndex_run (s := schema table options ds)
    (d := ⟨columns, none, .bool false⟩) (Schema.columnsOf_toValue (.tuple columns)) hexisting hmerge
  rw [hunique] at hrun
  refine hrun.trans ?_
  simp only [Schema.withIndex, schema, huniques, hindexes, ← hput]
  rfl

/-- One declaration never fails, and the schema is then the one of all declarations so far. -/
theorem run_toCall (ds : List Unnamed) (d : Unnamed) :
    d.toCall.run.run (schema table options ds) = .ok () (schema table options (ds ++ [d])) := by
  cases d with
  | unique columns => exact run_unique ds columns
  | index columns => exact run_index ds columns

theorem run_toCalls (done ds : List Unnamed) :
    ((ds.map toCall).forM Schema.Call.run).run (schema table options done) =
      .ok () (schema table options (done ++ ds)) := by
  induction ds generalizing done with
  | nil => rw [List.append_nil]; rfl
  | cons d ds ih =>
    have hrest := ih (done ++ [d])
    rw [List.append_assoc, List.singleton_append] at hrest
    exact (Schema.run_bind (run_toCall done d) _).trans hrest

/-- No two of the tuples have the same join. -/
def ToldApart (tuples : List (List String)) : Prop :=
  ∀ columns ∈ tuples, ∀ columns' ∈ tuples,
    Schema.joinedColumns columns = Schema.joinedColumns columns' → columns = columns'

instance (tuples : List (List String)) : Decidable (ToldApart tuples) :=
  inferInstanceAs (Decidable (∀ columns ∈ tuples, ∀ columns' ∈ tuples,
    Schema.joinedColumns columns = Schema.joinedColumns columns' → columns = columns'))

theorem indexName_inj (table : String) {columns columns' : List String} :
    indexName table columns = indexName table columns' ↔
      Schema.joinedColumns columns = Schema.joinedColumns columns' := by
  simp [indexName, Schema.indexNameOf]

/-- The columns of an index that is declared again and again are those of one declaration. -/
theorem mergedColumns_replicate {columns : List String} (h : columns.Nodup) (n : Nat) :
    Schema.mergedColumns (List.replicate (n + 1) columns) = columns.map .text := by
  have hrest : (List.replicate n columns).flatten.removeAll columns = [] := by
    rw [List.removeAll, List.filter_eq_nil_iff]
    intro name hname
    obtain ⟨columns', hcolumns', hmem⟩ := List.mem_flatten.mp hname
    rw [List.eq_of_mem_replicate hcolumns'] at hmem
    simpa using hmem
  rw [Schema.mergedColumns, List.replicate_succ, List.flatten_cons, List.eraseDups_append, hrest,
    Schema.eraseDups_eq_self h, List.eraseDups_nil, List.append_nil]

section Written

variable (b : Backend) (types : TypeCatalogue) (table : String) (options : Mapping)
variable (ds : List Unnamed)

theorem keyLines_schema :
    (b.dialect types).keyLines (schema table options ds) =
      .ok (Text.joined "" ((schema table options ds).uniqueKeys.map fun entry =>
        ",\n" ++ b.keyText types b.uniqueWord entry.2)) := by
  have hunique : ∀ entry ∈ (schema table options ds).uniqueKeys, entry.2.WellTyped := by
    intro entry hentry
    obtain ⟨columns, -, rfl⟩ := Assoc.mem_grouped.mp hentry
    exact ⟨by simp [lastKey, Value.isText], rfl⟩
  rw [Backend.keyLines_eq types (by simp [schema]) hunique (by simp [schema])]
  simp [Backend.keyTexts, schema, Function.comp_def]

theorem createIndexes_schema :
    ((schema table options ds).createIndexes (b.dialect types)).result =
      .ok ((schema table options ds).indexes.map fun entry =>
        b.indexText types table entry.2.name.display entry.2.columns) := by
  rw [Schema.createIndexes, Traced.result_mapM]
  refine mapM_eq_map fun entry hentry => ?_
  obtain ⟨columns, -, rfl⟩ := Assoc.mem_grouped.mp hentry
  refine Backend.createIndex_result types _ ?_ ?_
  · simp [indexName, Schema.indexNameOf]
  · intro column hcolumn
    obtain ⟨name, -, rfl⟩ := List.mem_map.mp hcolumn
    rfl

end Written

/-- Declarations of unique keys and indexes without a name always go through, and each of them
keeps a key or an index with exactly its columns if and only if the joins tell the declarations of
its kind apart. Each key and index that is left is written once. -/
theorem unnamed_kept_iff (table : String) (options : Mapping) (ds : List Unnamed)
    (hds : ∀ d ∈ ds, d.columns.Nodup) :
    ((ds.map toCall).forM Schema.Call.run).run { table, options } =
        .ok () (schema table options ds) ∧
      ((∀ columns ∈ uniques ds, ∃ entry ∈ (schema table options ds).uniqueKeys,
          entry.2.columns = columns.map .text) ↔ ToldApart (uniques ds)) ∧
      ((∀ columns ∈ indexes ds, ∃ entry ∈ (schema table options ds).indexes,
          entry.2.columns = columns.map .text) ↔ ToldApart (indexes ds)) ∧
      ∀ (b : Backend) (types : TypeCatalogue),
        (b.dialect types).keyLines (schema table options ds) =
            .ok (Text.joined "" ((schema table options ds).uniqueKeys.map fun entry =>
              ",\n" ++ b.keyText types b.uniqueWord entry.2)) ∧
          ((schema table options ds).createIndexes (b.dialect types)).result =
            .ok ((schema table options ds).indexes.map fun entry =>
              b.indexText types table entry.2.name.display entry.2.columns) := by
  refine ⟨?_, ?_, ?_, fun b types => ⟨keyLines_schema .., createIndexes_schema ..⟩⟩
  · exact run_toCalls [] ds
  · refine Assoc.all_kept_iff Key.columns fun columns _ _ n => ?_
    simp [lastKey, List.replicate_succ']
  · have hnodup : ∀ columns ∈ indexes ds, columns.Nodup := by
      intro columns hcolumns
      obtain ⟨d, hd, hof⟩ := List.mem_filterMap.mp hcolumns
      cases d with
      | unique _ => cases hof
      | index _ => cases hof; exact hds _ hd
    simp only [ToldApart, ← indexName_inj table]
    exact Assoc.all_kept_iff Index.columns fun columns hcolumns _ n =>
      mergedColumns_replicate (hnodup columns hcolumns) n

/-- A key and an index over columns with one join, and a key that is declared twice. -/
def accountKeys : List Unnamed :=
  [.unique ["owner", "name"], .index ["owner_name"], .index ["name", "owner"],
    .unique ["owner", "name"]]

theorem accountKeys_kept :
    (∀ d ∈ accountKeys, d.columns.Nodup) ∧
      ((accountKeys.map toCall).forM Schema.Call.run).run { table := "accounts" } =
        .ok () (schema "accounts" [] accountKeys) ∧
      (∀ columns ∈ uniques accountKeys, ∃ entry ∈ (schema "accounts" [] accountKeys).uniqueKeys,
        entry.2.columns = columns.map .text) ∧
      ∀ columns ∈ indexes accountKeys, ∃ entry ∈ (schema "accounts" [] accountKeys).indexes,
        entry.2.columns = columns.map .text := by
  have hds : ∀ d ∈ accountKeys, d.columns.Nodup := by decide
  obtain ⟨hrun, hunique, hindex, -⟩ := unnamed_kept_iff "accounts" [] accountKeys hds
  exact ⟨hds, hrun, hunique.mpr (by decide +kernel), hindex.mpr (by decide +kernel)⟩

/-- Keys and indexes over different columns with one join. -/
def clashingKeys : List Unnamed :=
  [.unique ["a_b"], .unique ["a", "b"], .index ["a_b"], .index ["a", "b"]]

/-- The second key takes the place of the first, and the two indexes become one. -/
theorem clashingKeys_lost :
    (∀ d ∈ clashingKeys, d.columns ≠ [] ∧ d.columns.Nodup) ∧
      ∃ s, ((clashingKeys.map toCall).forM Schema.Call.run).run { table := "t" } = .ok () s ∧
        (¬∃ entry ∈ s.uniqueKeys, entry.2.columns = [.text "a_b"]) ∧
        (¬∃ entry ∈ s.indexes, entry.2.columns = [.text "a_b"]) ∧
        (Backend.ansi.dialect .standard).keyLines s = .ok ",\nUNIQUE (\"a\", \"b\")" ∧
        (s.createIndexes (Backend.ansi.dialect .standard)).result =
          .ok ["CREATE INDEX \"t_a_b_idx\" ON \"t\" (\"a_b\", \"a\", \"b\")"] := by
  refine ⟨by decide, _, rfl, ?_, ?_, rfl, rfl⟩
  · rintro ⟨entry, hentry, hcolumns⟩
    cases List.eq_of_mem_singleton hentry
    exact absurd (congrArg List.length hcolumns) (by decide)
  · rintro ⟨entry, hentry, hcolumns⟩
    cases List.eq_of_mem_singleton hentry
    exact absurd (congrArg List.length hcolumns) (by decide)

end Unnamed

end SqlRender
