import SqlRender.Assoc.Text
import SqlRender.Schema

/-!
# What a schema holds after a run of declarations

A schema is filled by calls. A call declares columns, keys and indexes: a column with a primary,
unique or indexed option declares a key or an index besides itself. Each container of the schema
then follows a rule of its own, which speaks only of the declarations that concern it.

* `Schema.Call`, `Schema.Declared`: the calls, and what they declare.
* `Schema.Holds`: what the containers hold after declarations.
* `Schema.Holds.call`: one call never fails and keeps the rules.
* `Schema.holds_declared_of_run`: what a run of calls leaves behind.
-/

namespace SqlRender

/-! ## Calls and declarations -/

/-- Columns as a caller gives them: one name, or names in a list or a tuple. -/
inductive ColumnNames where
  | one (name : String)
  | list (names : List String)
  | tuple (names : List String)

namespace ColumnNames

def toValue : ColumnNames → Value
  | one name => .text name
  | list names => .list (names.map .text)
  | tuple names => .tuple (names.map .text)

def names : ColumnNames → List String
  | one name => [name]
  | list names => names
  | tuple names => names

end ColumnNames

/-- A key under a name, or without one. -/
structure KeyDeclaration where
  columns : List String
  name : Option String := none

structure IndexDeclaration where
  columns : List String
  name : Option String := none
  unique : Value := .bool false

namespace Schema

/-- A call that declares parts of a schema. -/
inductive Call where
  | addColumn (name : String) (options : Option Mapping) (extra : List (String × Value))
  | addColumns (columns : List (String × Option Mapping))
  | addPrimary (columns : ColumnNames) (constraint : Option String)
  | addUnique (columns : ColumnNames) (name : Option String)
  | addForeign (columns : ColumnNames) (references : String)
      (referenceColumns : Option ColumnNames) (rest : ForeignKey)
  | addIndex (columns : ColumnNames) (name : Option String) (unique : Value)

/-- A text that may be missing, as a value. -/
def textOrNull (name : Option String) : Value := name.elim .null .text

/-- Options that may be missing, as a value. -/
def mapOrNull (options : Option Mapping) : Value := options.elim .null .map

def Call.run : Call → Declaration Unit
  | .addColumn name options extra =>
    Schema.addColumn (.text name) (mapOrNull options)
      (extra.map fun entry => (.text entry.1, entry.2))
  | .addColumns columns =>
    Schema.addColumns (columns.map fun entry => (.text entry.1, mapOrNull entry.2))
  | .addPrimary columns constraint => Schema.addPrimary columns.toValue (textOrNull constraint)
  | .addUnique columns name => Schema.addUnique columns.toValue (textOrNull name)
  | .addForeign columns references referenceColumns rest =>
    Schema.addForeign columns.toValue (.text references)
      (referenceColumns.map ColumnNames.toValue) rest
  | .addIndex columns name unique => Schema.addIndex columns.toValue (textOrNull name) unique

/-- What calls say about each container of a schema, in order. -/
@[ext]
structure Declared where
  columns : List (String × Mapping) := []
  primary : List KeyDeclaration := []
  unique : List KeyDeclaration := []
  foreign : List ForeignKey := []
  indexes : List IndexDeclaration := []

instance : Append Declared where
  append d d' := ⟨d.columns ++ d'.columns, d.primary ++ d'.primary, d.unique ++ d'.unique,
    d.foreign ++ d'.foreign, d.indexes ++ d'.indexes⟩

namespace Declared

variable (d d' : Declared)

@[simp] theorem columns_append : (d ++ d').columns = d.columns ++ d'.columns := rfl

@[simp] theorem primary_append : (d ++ d').primary = d.primary ++ d'.primary := rfl

@[simp] theorem unique_append : (d ++ d').unique = d.unique ++ d'.unique := rfl

@[simp] theorem foreign_append : (d ++ d').foreign = d.foreign ++ d'.foreign := rfl

@[simp] theorem indexes_append : (d ++ d').indexes = d.indexes ++ d'.indexes := rfl

theorem append_assoc (d'' : Declared) : d ++ d' ++ d'' = d ++ (d' ++ d'') := by
  ext1 <;> simp

theorem append_nothing : d ++ ({} : Declared) = d := by
  ext1 <;> simp

theorem append_columns (columns : List (String × Mapping)) :
    d ++ { columns } = { d with columns := d.columns ++ columns } := by
  ext1 <;> simp

theorem append_primary (keys : List KeyDeclaration) :
    d ++ { primary := keys } = { d with primary := d.primary ++ keys } := by
  ext1 <;> simp

theorem append_unique (keys : List KeyDeclaration) :
    d ++ { unique := keys } = { d with unique := d.unique ++ keys } := by
  ext1 <;> simp

theorem append_foreign (keys : List ForeignKey) :
    d ++ { foreign := keys } = { d with foreign := d.foreign ++ keys } := by
  ext1 <;> simp

theorem append_indexes (indexes : List IndexDeclaration) :
    d ++ { indexes } = { d with indexes := d.indexes ++ indexes } := by
  ext1 <;> simp

end Declared

/-- The name of the group that an option puts a column into. -/
def group? : Value → Option String
  | .text s => some s
  | _ => none

/-- What an option of a column declares, if it counts as true. -/
def declaredBy (option : Value) (declared : Option String → Declared) : Declared :=
  if option.isTrue then declared (group? option) else {}

/-- A column with the keys and the index that its options ask for. -/
def columnDeclared (name : String) (options : Mapping) : Declared :=
  { columns := [(name, options)] } ++
    declaredBy (options.find "primary") (fun group => { primary := [⟨[name], group⟩] }) ++
    declaredBy (options.find "unique") (fun group => { unique := [⟨[name], group⟩] }) ++
    declaredBy (options.find "index") fun group => { indexes := [⟨[name], group, .bool false⟩] }

/-- The options of a column: those given by name stand over the others. -/
def givenOptions (options : Option Mapping) (extra : List (String × Value)) : Mapping :=
  Assoc.putAll (options.getD []) (extra.map fun entry => (.text entry.1, entry.2))

/-- Columns one after the other. -/
def columnsDeclared : List (String × Option Mapping) → Declared
  | [] => {}
  | (name, options) :: rest => columnDeclared name (givenOptions options []) ++ columnsDeclared rest

/-- A foreign key between columns, with the rest of what is said of it. Where the columns of the
other table are not named, it is the column `id`. -/
def foreignKeyOf (columns : ColumnNames) (references : String)
    (referenceColumns : Option ColumnNames) (rest : ForeignKey) : ForeignKey :=
  { rest with
    columns := columns.names.map .text
    references := .text references
    referenceColumns := (referenceColumns.getD (.one "id")).names.map .text }

namespace Call

def declared : Call → Declared
  | .addColumn name options extra => columnDeclared name (givenOptions options extra)
  | .addColumns columns => columnsDeclared columns
  | .addPrimary columns constraint => { primary := [⟨columns.names, constraint⟩] }
  | .addUnique columns name => { unique := [⟨columns.names, name⟩] }
  | .addForeign columns references referenceColumns rest =>
    { foreign := [foreignKeyOf columns references referenceColumns rest] }
  | .addIndex columns name unique => { indexes := [⟨columns.names, name, unique⟩] }

/-- What a run of calls declares. -/
def declaredAll : List Call → Declared
  | [] => {}
  | call :: rest => call.declared ++ declaredAll rest

end Call

/-! ## The rules of the containers -/

/-- Columns that are declared one after the other, each at its first place. -/
def mergedColumns (declared : List (List String)) : List Value :=
  declared.flatten.eraseDups.map .text

/-- The last name that is not empty. -/
def lastName? (keys : List KeyDeclaration) : Option String :=
  ((keys.filterMap KeyDeclaration.name).filter (· ≠ "")).getLast?

/-- The primary key of declarations: all of them together. -/
def primaryKeyOf (keys : List KeyDeclaration) : Option Key :=
  if keys.isEmpty then none
  else some ⟨mergedColumns (keys.map KeyDeclaration.columns), textOrNull (lastName? keys)⟩

/-- The unique key of the declarations under a name. -/
def uniqueKeyOf (name : String) (keys : List KeyDeclaration) : Option Key :=
  let named := keys.filter (·.name = some name)
  if named.isEmpty then none
  else some ⟨mergedColumns (named.map KeyDeclaration.columns), .text name⟩

/-- The name under which a unique key without one stands. -/
def joinedColumns (columns : List String) : String := Text.joined "_" columns

/-- The name under which an index stands: its own, or one made of the table and the columns if it
has none or an empty one. -/
def indexNameOf (table : String) (d : IndexDeclaration) : String :=
  let made := table ++ "_" ++ joinedColumns d.columns ++ "_idx"
  match d.name with
  | some name => if name = "" then made else name
  | none => made

/-- The declarations of the index with a name. -/
def indexDeclarations (table name : String) (ds : List IndexDeclaration) : List IndexDeclaration :=
  ds.filter (indexNameOf table · = name)

/-- The index that declarations make together: unique if one of them is. -/
structure IsIndexOf (name : String) (ds : List IndexDeclaration) (index : Index) : Prop where
  name : index.name = .text name
  columns : index.columns = mergedColumns (ds.map IndexDeclaration.columns)
  unique : index.unique.isTrue = ds.any fun d => d.unique.isTrue

/-- The options of the last declaration of a column. -/
def lastOptions? (name : String) (columns : List (String × Mapping)) : Option Mapping :=
  (columns.filter (·.1 = name)).getLast?.map Prod.snd

/-- What a schema for a table holds after declarations. The rule for unique keys says nothing of a
name that is also the joined columns of a declaration without one, since that one replaces what
stood there. -/
structure Holds (table : String) (d : Declared) (s : Schema) : Prop where
  tableName : s.table = table
  names : s.columns.map Prod.fst = (d.columns.map Prod.fst).eraseDups.map .text
  options : ∀ name, Assoc.get? (.text name) s.columns = lastOptions? name d.columns
  primary : s.primaryKey = primaryKeyOf d.primary
  unique : ∀ name, (∀ key ∈ d.unique, key.name = none → joinedColumns key.columns ≠ name) →
    Assoc.get? (.text name) s.uniqueKeys = uniqueKeyOf name d.unique
  uniqueColumns : ∀ name key, Assoc.get? (.text name) s.uniqueKeys = some key →
    ∃ columns : List String, key.columns = columns.map .text
  foreign : s.foreignKeys = d.foreign
  noIndex : ∀ name, Assoc.get? (.text name) s.indexes = none ↔
    indexDeclarations table name d.indexes = []
  index : ∀ name index, Assoc.get? (.text name) s.indexes = some index →
    IsIndexOf name (indexDeclarations table name d.indexes) index

/-! ## Merging -/

theorem eraseDups_append_of_eraseDups (xs ys : List String) :
    (xs.eraseDups ++ ys).eraseDups = (xs ++ ys).eraseDups := by
  induction hn : xs.length using Nat.strongRecOn generalizing xs ys with
  | ind n ih =>
    cases xs with
    | nil => simp
    | cons x xs =>
      have hlength : (xs.filter fun y => !y == x).length < n := by
        have := List.length_filter_le (fun y => !y == x) xs
        simp only [List.length_cons] at hn
        omega
      have hfilter : (xs.filter fun y => !y == x).eraseDups.filter (fun y => !y == x) =
          (xs.filter fun y => !y == x).eraseDups :=
        List.filter_eq_self.mpr fun y hy => (List.mem_filter.mp (List.mem_eraseDups.mp hy)).2
      rw [List.eraseDups_cons, List.cons_append, List.eraseDups_cons, List.filter_append, hfilter,
        ih _ hlength _ _ rfl, List.cons_append, List.eraseDups_cons, List.filter_append]

theorem nodup_eraseDups (xs : List String) : xs.eraseDups.Nodup := by
  induction hn : xs.length using Nat.strongRecOn generalizing xs with
  | ind n ih =>
    cases xs with
    | nil => simp
    | cons x xs =>
      have hlength : (xs.filter fun y => !y == x).length < n := by
        have := List.length_filter_le (fun y => !y == x) xs
        simp only [List.length_cons] at hn
        omega
      rw [List.eraseDups_cons, List.nodup_cons]
      exact ⟨by simp [List.mem_eraseDups], ih _ hlength _ rfl⟩

theorem eraseDups_eq_self {xs : List String} (h : xs.Nodup) : xs.eraseDups = xs := by
  induction xs with
  | nil => rfl
  | cons x xs ih =>
    obtain ⟨hx, hxs⟩ := List.nodup_cons.mp h
    have hfilter : (xs.filter fun y => !y == x) = xs := by
      refine List.filter_eq_self.mpr fun y hy => ?_
      have hne : y ≠ x := fun heq => hx (heq ▸ hy)
      simpa using hne
    rw [List.eraseDups_cons, hfilter, ih hxs]

/-- Items that have not come before are kept once each. -/
theorem newItems_texts (seen xs : List String) :
    newItems (seen.map .text) (xs.map .text) = (xs.removeAll seen).eraseDups.map .text := by
  induction xs generalizing seen with
  | nil => simp [newItems, List.removeAll]
  | cons x xs ih =>
    have hseen : (seen.map Value.text).any (· == Value.text x) = true ↔ x ∈ seen := by
      simp [Value.beq_text]
    rw [List.map_cons, newItems]
    by_cases hx : x ∈ seen
    · rw [if_pos (hseen.mpr hx), ih]
      simp [List.removeAll, hx]
    · have hlater : (xs.removeAll seen).filter (fun y => !y == x) = xs.removeAll (seen ++ [x]) := by
        simp only [List.removeAll, List.filter_filter]
        congr 1
        funext y
        by_cases hy : y = x <;> simp [hy]
      have hsnoc : seen.map Value.text ++ [.text x] = (seen ++ [x]).map .text := by simp
      rw [if_neg (fun h => hx (hseen.mp h)), hsnoc, ih, ← hlater]
      simp [List.removeAll, hx, List.eraseDups_cons]

theorem mapM_asKey (xs : List String) :
    (xs.map Value.text).mapM Value.asKey = .ok (xs.map Value.text) := by
  induction xs with
  | nil => rfl
  | cons x xs ih =>
    rw [List.map_cons, List.mapM_cons, ih]
    rfl

theorem merge_texts (xs ys : List String) :
    merge (xs.map .text) (ys.map .text) = .ok ((xs ++ ys).eraseDups.map .text) := by
  have hitems := newItems_texts [] (xs ++ ys)
  rw [List.removeAll_nil] at hitems
  rw [merge, ← List.map_append, mapM_asKey]
  exact congrArg Except.ok hitems

/-- Columns are merged with those that were merged before as if all came at once. -/
theorem merge_mergedColumns (declared : List (List String)) (columns : List String) :
    merge (mergedColumns declared) (columns.map .text) =
      .ok (mergedColumns (declared ++ [columns])) := by
  rw [mergedColumns, merge_texts, eraseDups_append_of_eraseDups, mergedColumns,
    List.flatten_append, List.flatten_singleton]

/-! ## Running declarations -/

section Run

variable {α β : Type} {s s' : Schema}

theorem run_bind {x : Declaration α} {a : α} (h : x.run s = .ok a s') (f : α → Declaration β) :
    (x >>= f).run s = (f a).run s' := by
  show EStateM.bind x f s = _
  rw [EStateM.bind]
  have hx : x s = .ok a s' := h
  rw [hx]
  rfl

theorem run_check {x : Except Error α} {a : α} (h : x = .ok a) (s : Schema) :
    (check x).run s = .ok a s := by
  rw [h]
  rfl

theorem run_get (s : Schema) : (get : Declaration Schema).run s = .ok s s := rfl

theorem run_modify (f : Schema → Schema) (s : Schema) :
    (modify f : Declaration Unit).run s = .ok () (f s) := rfl

theorem columnsOf_toValue (columns : ColumnNames) :
    columnsOf columns.toValue = .ok (columns.names.map .text) := by
  cases columns <;> rfl

theorem joinNames_texts (columns : List String) :
    joinNames (columns.map .text) = .ok (joinedColumns columns) := by
  have hparts : (columns.map Value.text).mapM Value.asPart = .ok columns := by
    induction columns with
    | nil => rfl
    | cons name columns ih =>
      rw [List.map_cons, List.mapM_cons, ih]
      rfl
  rw [joinNames, hparts]
  rfl

/-- The columns of the primary key so far. -/
theorem elim_columns_primaryKeyOf (keys : List KeyDeclaration) :
    (primaryKeyOf keys).elim [] Key.columns = mergedColumns (keys.map KeyDeclaration.columns) := by
  cases keys <;> rfl

theorem elim_constraint_primaryKeyOf (keys : List KeyDeclaration) :
    (primaryKeyOf keys).elim .null Key.constraint = textOrNull (lastName? keys) := by
  cases keys <;> rfl

theorem lastName?_append (keys : List KeyDeclaration) (columns : List String)
    (name : Option String) :
    textOrNull (lastName? (keys ++ [⟨columns, name⟩])) =
      if (textOrNull name).isTrue then textOrNull name else textOrNull (lastName? keys) := by
  cases name with
  | none => simp [lastName?, textOrNull, Value.isTrue]
  | some name =>
    by_cases hname : name = "" <;> simp [lastName?, textOrNull, Value.isTrue, hname]

theorem addPrimary_run {v : Value} {columns : List String}
    (hv : columnsOf v = .ok (columns.map .text)) (constraint : Option String)
    {keys : List KeyDeclaration} (hs : s.primaryKey = primaryKeyOf keys) :
    (Schema.addPrimary v (textOrNull constraint)).run s =
      .ok () { s with primaryKey := primaryKeyOf (keys ++ [⟨columns, constraint⟩]) } := by
  have hmerge : merge (s.primaryKey.elim [] Key.columns) (columns.map .text) =
      .ok (mergedColumns (keys.map KeyDeclaration.columns ++ [columns])) := by
    rw [hs, elim_columns_primaryKeyOf, merge_mergedColumns]
  have hname : s.primaryKey.elim .null Key.constraint = textOrNull (lastName? keys) := by
    rw [hs, elim_constraint_primaryKeyOf]
  have hkey : primaryKeyOf (keys ++ [⟨columns, constraint⟩]) =
      some ⟨mergedColumns (keys.map KeyDeclaration.columns ++ [columns]),
        textOrNull (lastName? (keys ++ [⟨columns, constraint⟩]))⟩ := by
    simp [primaryKeyOf]
  rw [Schema.addPrimary, run_bind (run_get s), run_bind (run_check hv s),
    run_bind (run_check hmerge s), hkey, lastName?_append, ← hname]
  rfl

/-- The schema with a unique key under a name. -/
def withUnique (s : Schema) (name : String) (key : Key) : Schema :=
  { s with uniqueKeys := Assoc.put (.text name) key s.uniqueKeys }

/-- The schema with an index under its name. -/
def withIndex (s : Schema) (name : String) (columns : List Value) (unique : Value) : Schema :=
  { s with indexes := Assoc.put (.text name) ⟨.text name, columns, unique⟩ s.indexes }

theorem addUnique_run_unnamed {v : Value} {columns : List String}
    (hv : columnsOf v = .ok (columns.map .text)) :
    (Schema.addUnique v .null).run s =
      .ok () (s.withUnique (joinedColumns columns) ⟨columns.map .text, .null⟩) := by
  rw [Schema.addUnique, run_bind (run_check hv s)]
  show (check (joinNames _) >>= _).run s = _
  rw [run_bind (run_check (joinNames_texts columns) s)]
  rfl

theorem addUnique_run_named {v : Value} {columns : List String}
    (hv : columnsOf v = .ok (columns.map .text)) (name : String) {merged : List Value}
    (hmerge : merge ((Assoc.get? (.text name) s.uniqueKeys).elim [] Key.columns)
      (columns.map .text) = .ok merged) :
    (Schema.addUnique v (.text name)).run s =
      .ok () (s.withUnique name ⟨merged, .text name⟩) := by
  have hkey : (Value.text name).asKey = .ok (.text name) := rfl
  rw [Schema.addUnique, run_bind (run_check hv s)]
  show (check (Value.text name).asKey >>= _).run s = _
  rw [run_bind (run_check hkey s), run_bind (run_get s), run_bind (run_check hmerge s)]
  rfl

theorem addForeign_run (columns : ColumnNames) (references : String)
    (referenceColumns : Option ColumnNames) (rest : ForeignKey) :
    (Schema.addForeign columns.toValue (.text references)
        (referenceColumns.map ColumnNames.toValue) rest).run s =
      .ok () { s with foreignKeys := s.foreignKeys ++
        [foreignKeyOf columns references referenceColumns rest] } := by
  have htarget : (referenceColumns.map ColumnNames.toValue).getD (.text "id") =
      (referenceColumns.getD (.one "id")).toValue := by
    cases referenceColumns <;> rfl
  rw [Schema.addForeign, run_bind (run_check (columnsOf_toValue columns) s), htarget,
    run_bind (run_check (columnsOf_toValue _) s)]
  rfl

/-- The value under which an index is kept. -/
theorem indexName_value (table : String) (d : IndexDeclaration) :
    (if (textOrNull d.name).isTrue then (textOrNull d.name).asKey
      else Value.text <$> indexName table (d.columns.map .text)) =
      .ok (.text (indexNameOf table d)) := by
  have hmade : Value.text <$> indexName table (d.columns.map .text) =
      .ok (.text (table ++ "_" ++ joinedColumns d.columns ++ "_idx")) := by
    rw [indexName, joinNames_texts]
    rfl
  rw [indexNameOf, hmade]
  cases hname : d.name with
  | none => simp [textOrNull, Value.isTrue]
  | some name =>
    by_cases hempty : name = "" <;>
      simp [textOrNull, Value.isTrue, hempty, Value.asKey, Value.isKey, Value.isSignalling]

theorem addIndex_run {v : Value} {d : IndexDeclaration}
    (hv : columnsOf v = .ok (d.columns.map .text)) {existing : Option Index}
    (hexisting : Assoc.get? (.text (indexNameOf s.table d)) s.indexes = existing)
    {merged : List Value}
    (hmerge : merge (existing.elim [] Index.columns) (d.columns.map .text) = .ok merged) :
    (Schema.addIndex v (textOrNull d.name) d.unique).run s =
      .ok () (s.withIndex (indexNameOf s.table d) merged
        (if d.unique.isTrue then d.unique else .bool (existing.elim false (·.unique.isTrue)))) := by
  subst hexisting
  rw [Schema.addIndex, run_bind (run_check hv s), run_bind (run_get s),
    run_bind (run_check (indexName_value s.table d) s), run_bind (run_get s),
    run_bind (run_check hmerge s)]
  rfl

/-- A key or an index that an option of a column asks for, if it counts as true. -/
def asked (option : Value) (declare : Value → Declaration Unit) : Declaration Unit :=
  if option.isTrue then declare (groupName option) else pure ()

theorem groupName_eq (v : Value) : groupName v = textOrNull (group? v) := by
  cases v <;> rfl

theorem addColumn_run (name : String) (options : Option Mapping) (extra : List (String × Value)) :
    (Call.addColumn name options extra).run.run s = (do
      asked ((givenOptions options extra).find "primary") (Schema.addPrimary (.text name))
      asked ((givenOptions options extra).find "unique") (Schema.addUnique (.text name))
      asked ((givenOptions options extra).find "index") fun group =>
        Schema.addIndex (.text name) group (.bool false)).run
      { s with columns := Assoc.put (.text name) (givenOptions options extra) s.columns } := by
  have hgiven :
      (if (mapOrNull options).isTrue then Mapping.ofValue (mapOrNull options) else .ok []) =
        .ok (options.getD []) := by
    rcases options with _ | _ | _ <;> rfl
  have hname : (Value.text name).asKey = .ok (.text name) := rfl
  have hoptions : Assoc.putAll (options.getD []) (extra.map fun entry => (.text entry.1, entry.2)) =
      givenOptions options extra := rfl
  rw [Call.run, Schema.addColumn, run_bind (run_check hgiven s), run_bind (run_check hname s),
    run_bind (run_modify _ s)]
  simp only [hoptions, asked]
  by_cases hprimary : ((givenOptions options extra).find "primary").isTrue = true <;>
    by_cases hunique : ((givenOptions options extra).find "unique").isTrue = true <;>
    simp [hprimary, hunique]

end Run

/-! ## One declaration -/

namespace Holds

variable {table : String} {d : Declared} {s : Schema}

theorem fresh (table : String) (options : Mapping) : Holds table {} { table, options } where
  tableName := rfl
  names := rfl
  options _ := rfl
  primary := rfl
  unique _ _ := rfl
  uniqueColumns _ _ h := by cases h
  foreign := rfl
  noIndex _ := ⟨fun _ => rfl, fun _ => rfl⟩
  index _ _ h := by cases h

theorem lastOptions?_append (name other : String) (options : Mapping)
    (columns : List (String × Mapping)) :
    lastOptions? other (columns ++ [(name, options)]) =
      if name = other then some options else lastOptions? other columns := by
  by_cases h : name = other <;> simp [lastOptions?, h]

theorem column (h : Holds table d s) (name : String) (options : Mapping) :
    Holds table (d ++ { columns := [(name, options)] })
      { s with columns := Assoc.put (.text name) options s.columns } := by
  rw [Declared.append_columns]
  refine { h with names := ?_, options := ?_ }
  · rw [Assoc.keys_put_text name options h.names, List.map_append]
    exact congrArg _ (Assoc.eraseDups_concat _ name).symm
  · intro other
    rw [Assoc.get?_put_text, h.options, lastOptions?_append]

theorem addPrimary (h : Holds table d s) {v : Value} {columns : List String}
    (hv : columnsOf v = .ok (columns.map .text)) (constraint : Option String) :
    ∃ s', (Schema.addPrimary v (textOrNull constraint)).run s = .ok () s' ∧
      Holds table (d ++ { primary := [⟨columns, constraint⟩] }) s' := by
  rw [Declared.append_primary]
  exact ⟨_, addPrimary_run hv constraint h.primary, { h with primary := rfl }⟩

theorem uniqueKeyOf_append (name : String) (keys : List KeyDeclaration) (key : KeyDeclaration)
    (hkey : key.name ≠ some name) : uniqueKeyOf name (keys ++ [key]) = uniqueKeyOf name keys := by
  simp [uniqueKeyOf, hkey]

theorem addUnique_unnamed (h : Holds table d s) {v : Value} {columns : List String}
    (hv : columnsOf v = .ok (columns.map .text)) :
    ∃ s', (Schema.addUnique v .null).run s = .ok () s' ∧
      Holds table (d ++ { unique := [⟨columns, none⟩] }) s' := by
  rw [Declared.append_unique]
  refine ⟨_, addUnique_run_unnamed hv, { h with unique := ?_, uniqueColumns := ?_ }⟩
  · intro name hname
    have hne : joinedColumns columns ≠ name := hname ⟨columns, none⟩ (by simp) rfl
    rw [withUnique, Assoc.get?_put_text, if_neg hne, uniqueKeyOf_append name _ _ (by simp)]
    exact h.unique name fun key hkey => hname key (by simp [hkey])
  · intro name key hkey
    rw [withUnique, Assoc.get?_put_text] at hkey
    split at hkey
    · cases hkey
      exact ⟨columns, rfl⟩
    · exact h.uniqueColumns name key hkey

theorem elim_uniqueKeyOf (name : String) (keys : List KeyDeclaration) :
    (uniqueKeyOf name keys).elim [] Key.columns =
      mergedColumns ((keys.filter (·.name = some name)).map KeyDeclaration.columns) := by
  rw [uniqueKeyOf]
  cases keys.filter (·.name = some name) <;> rfl

theorem addUnique_named (h : Holds table d s) {v : Value} {columns : List String}
    (hv : columnsOf v = .ok (columns.map .text)) (name : String) :
    ∃ s', (Schema.addUnique v (.text name)).run s = .ok () s' ∧
      Holds table (d ++ { unique := [⟨columns, some name⟩] }) s' := by
  rw [Declared.append_unique]
  obtain ⟨existing, hexisting⟩ : ∃ existing : List String,
      (Assoc.get? (.text name) s.uniqueKeys).elim [] Key.columns = existing.map .text := by
    cases hkey : Assoc.get? (.text name) s.uniqueKeys with
    | none => exact ⟨[], rfl⟩
    | some key => exact h.uniqueColumns name key hkey
  have hmerge := merge_texts existing columns
  rw [← hexisting] at hmerge
  refine ⟨_, addUnique_run_named hv name hmerge, { h with unique := ?_, uniqueColumns := ?_ }⟩
  · intro other hother
    have hbefore := h.unique other fun key hkey => hother key (by simp [hkey])
    rw [withUnique, Assoc.get?_put_text]
    by_cases heq : name = other
    · subst heq
      have hmerged := merge_mergedColumns
        ((d.unique.filter (·.name = some name)).map KeyDeclaration.columns) columns
      rw [← elim_uniqueKeyOf, ← hbefore, hmerge] at hmerged
      simp [uniqueKeyOf, Except.ok.inj hmerged]
    · rw [if_neg heq, uniqueKeyOf_append other _ _ (by simpa using heq)]
      exact hbefore
  · intro other key hkey
    rw [withUnique, Assoc.get?_put_text] at hkey
    split at hkey
    · cases hkey
      exact ⟨_, rfl⟩
    · exact h.uniqueColumns other key hkey

theorem addUnique (h : Holds table d s) {v : Value} {columns : List String}
    (hv : columnsOf v = .ok (columns.map .text)) (name : Option String) :
    ∃ s', (Schema.addUnique v (textOrNull name)).run s = .ok () s' ∧
      Holds table (d ++ { unique := [⟨columns, name⟩] }) s' := by
  cases name with
  | none => exact h.addUnique_unnamed hv
  | some name => exact h.addUnique_named hv name

theorem addForeign (h : Holds table d s) (columns : ColumnNames) (references : String)
    (referenceColumns : Option ColumnNames) (rest : ForeignKey) :
    Holds table (d ++ { foreign := [foreignKeyOf columns references referenceColumns rest] })
      { s with foreignKeys := s.foreignKeys ++
        [foreignKeyOf columns references referenceColumns rest] } := by
  rw [Declared.append_foreign]
  exact { h with foreign := congrArg (· ++ _) h.foreign }

theorem indexDeclarations_append (name : String) (ds : List IndexDeclaration)
    (new : IndexDeclaration) :
    indexDeclarations table name (ds ++ [new]) =
      if indexNameOf table new = name then indexDeclarations table name ds ++ [new]
      else indexDeclarations table name ds := by
  by_cases h : indexNameOf table new = name <;> simp [indexDeclarations, h]

/-- What the index of a declaration held before it. -/
theorem indexBefore (h : Holds table d s) (name : String) :
    (Assoc.get? (.text name) s.indexes).elim [] Index.columns =
        mergedColumns ((indexDeclarations table name d.indexes).map IndexDeclaration.columns) ∧
      (Assoc.get? (.text name) s.indexes).elim false (·.unique.isTrue) =
        (indexDeclarations table name d.indexes).any fun d => d.unique.isTrue := by
  cases hget : Assoc.get? (.text name) s.indexes with
  | none =>
    rw [(h.noIndex name).mp hget]
    exact ⟨rfl, rfl⟩
  | some index => exact ⟨(h.index name index hget).columns, (h.index name index hget).unique⟩

theorem addIndex (h : Holds table d s) {v : Value} {i : IndexDeclaration}
    (hv : columnsOf v = .ok (i.columns.map .text)) :
    ∃ s', (Schema.addIndex v (textOrNull i.name) i.unique).run s = .ok () s' ∧
      Holds table (d ++ { indexes := [i] }) s' := by
  rw [Declared.append_indexes]
  obtain ⟨hcolumns, hunique⟩ := h.indexBefore (indexNameOf table i)
  have hmerge := merge_mergedColumns
    ((indexDeclarations table (indexNameOf table i) d.indexes).map IndexDeclaration.columns)
    i.columns
  rw [← hcolumns] at hmerge
  have hrun := addIndex_run (s := s) hv rfl (h.tableName ▸ hmerge)
  rw [h.tableName, hunique] at hrun
  refine ⟨_, hrun, { h with noIndex := ?_, index := ?_ }⟩
  · intro name
    rw [withIndex, Assoc.get?_put_text, indexDeclarations_append]
    split
    · simp
    · exact h.noIndex name
  · intro name index hget
    rw [withIndex, Assoc.get?_put_text] at hget
    rw [indexDeclarations_append]
    split at hget
    · next heq =>
      cases hget
      subst heq
      rw [if_pos rfl]
      refine ⟨rfl, by simp, ?_⟩
      have hbool : ∀ b, (Value.bool b).isTrue = b := fun _ => rfl
      by_cases hi : i.unique.isTrue = true <;> simp [hi, hbool]
    · next hne =>
      rw [if_neg hne]
      exact h.index name index hget

/-! ## One call -/

/-- What an option of a column declares is declared. -/
theorem asked (h : Holds table d s) (option : Value) (declared : Option String → Declared)
    (declare : Value → Declaration Unit)
    (hdeclare : ∀ group, ∃ s', (declare (textOrNull group)).run s = .ok () s' ∧
      Holds table (d ++ declared group) s') :
    ∃ s', (Schema.asked option declare).run s = .ok () s' ∧
      Holds table (d ++ declaredBy option declared) s' := by
  rw [Schema.asked, declaredBy]
  split
  · rw [groupName_eq]
    exact hdeclare _
  · rw [Declared.append_nothing]
    exact ⟨s, rfl, h⟩

theorem addColumn (h : Holds table d s) (name : String) (options : Option Mapping)
    (extra : List (String × Value)) :
    ∃ s', (Call.addColumn name options extra).run.run s = .ok () s' ∧
      Holds table (d ++ columnDeclared name (givenOptions options extra)) s' := by
  have hv : columnsOf (.text name) = .ok ([name].map .text) := rfl
  have h₀ := h.column name (givenOptions options extra)
  obtain ⟨s₁, hrun₁, h₁⟩ := h₀.asked ((givenOptions options extra).find "primary") _ _
    (h₀.addPrimary hv)
  obtain ⟨s₂, hrun₂, h₂⟩ := h₁.asked ((givenOptions options extra).find "unique") _ _
    (h₁.addUnique hv)
  obtain ⟨s₃, hrun₃, h₃⟩ := h₂.asked ((givenOptions options extra).find "index")
    (fun group => { indexes := [⟨[name], group, .bool false⟩] })
    (fun group => Schema.addIndex (.text name) group (.bool false))
    fun group => h₂.addIndex (i := ⟨[name], group, .bool false⟩) hv
  refine ⟨s₃, ?_, ?_⟩
  · rw [addColumn_run, run_bind hrun₁, run_bind hrun₂, hrun₃]
  · simpa only [columnDeclared, Declared.append_assoc] using h₃

theorem addColumns (h : Holds table d s) (columns : List (String × Option Mapping)) :
    ∃ s', (Call.addColumns columns).run.run s = .ok () s' ∧
      Holds table (d ++ columnsDeclared columns) s' := by
  induction columns generalizing d s with
  | nil =>
    rw [columnsDeclared, Declared.append_nothing]
    exact ⟨s, rfl, h⟩
  | cons column columns ih =>
    obtain ⟨name, options⟩ := column
    obtain ⟨s₁, hrun₁, h₁⟩ := h.addColumn name options []
    obtain ⟨s₂, hrun₂, h₂⟩ := ih h₁
    refine ⟨s₂, ?_, ?_⟩
    · exact (run_bind hrun₁ _).trans hrun₂
    · rw [columnsDeclared, ← Declared.append_assoc]
      exact h₂

/-- One call never fails, and what it declares is added to what was declared before. -/
theorem call (h : Holds table d s) (call : Call) :
    ∃ s', call.run.run s = .ok () s' ∧ Holds table (d ++ call.declared) s' := by
  cases call with
  | addColumn name options extra => exact h.addColumn name options extra
  | addColumns columns => exact h.addColumns columns
  | addPrimary columns constraint => exact h.addPrimary (columnsOf_toValue columns) constraint
  | addUnique columns name => exact h.addUnique (columnsOf_toValue columns) name
  | addForeign columns references referenceColumns rest =>
    exact ⟨_, addForeign_run .., h.addForeign columns references referenceColumns rest⟩
  | addIndex columns name unique =>
    exact h.addIndex (i := ⟨columns.names, name, unique⟩) (columnsOf_toValue columns)

theorem calls (h : Holds table d s) (calls : List Call) :
    ∃ s', (calls.forM Call.run).run s = .ok () s' ∧
      Holds table (d ++ Call.declaredAll calls) s' := by
  induction calls generalizing d s with
  | nil =>
    rw [Call.declaredAll, Declared.append_nothing]
    exact ⟨s, rfl, h⟩
  | cons call calls ih =>
    obtain ⟨s₁, hrun₁, h₁⟩ := h.call call
    obtain ⟨s₂, hrun₂, h₂⟩ := ih h₁
    refine ⟨s₂, (run_bind hrun₁ _).trans hrun₂, ?_⟩
    rw [Call.declaredAll, ← Declared.append_assoc]
    exact h₂

end Holds

/-- A run of calls on a fresh schema succeeds, and the schema then holds what the calls declared. -/
theorem holds_declared_of_run (table : String) (options : Mapping) (calls : List Call) :
    ∃ s, (calls.forM Call.run).run { table, options } = .ok () s ∧
      s.Holds table (Call.declaredAll calls) :=
  (Holds.fresh table options).calls calls

end Schema

end SqlRender
