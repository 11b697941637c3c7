import SqlRender.Value.Access

/-!
# Schemas

The columns of one table with its keys, indexes and options. Declaring a column as primary, unique
or indexed also declares the key or the index; a text as that option is the name of a group, and
the columns of a group form one key.

A declaration that fails keeps what it did before it failed.
-/

namespace SqlRender

/-- A primary or unique key. The constraint is null where it has no name. -/
structure Key where
  columns : List Value
  constraint : Value := .null

structure ForeignKey where
  columns : List Value
  references : Value
  referenceColumns : List Value
  onDelete : Value := .null
  onUpdate : Value := .null
  matching : Value := .null
  constraint : Value := .null

structure Index where
  name : Value
  columns : List Value
  unique : Value := .bool false

structure Schema where
  table : String
  columns : List (Value × Mapping) := []
  primaryKey : Option Key := none
  uniqueKeys : List (Value × Key) := []
  foreignKeys : List ForeignKey := []
  indexes : List (Value × Index) := []
  options : Mapping := []

/-- A declaration on a schema. -/
abbrev Declaration := EStateM Error Schema

namespace Schema

/-- A computation that does not look at the schema. -/
def check {α : Type} : Except Error α → Declaration α
  | .ok a => pure a
  | .error e => throw e

/-- The columns that a value names: a text is one column. -/
def columnsOf : Value → Except Error (List Value)
  | .text s => .ok [.text s]
  | v => v.asItems

/-- Items without their later repetitions; `seen` has come before. -/
def newItems (seen : List Value) : List Value → List Value
  | [] => []
  | item :: rest =>
    if seen.any (· == item) then newItems seen rest else item :: newItems (seen ++ [item]) rest

/-- Columns declared before and now, each at its first place. -/
def merge (existing added : List Value) : Except Error (List Value) := do
  let all ← (existing ++ added).mapM Value.asKey
  return newItems [] all

/-- Column names with low lines between them. -/
def joinNames (columns : List Value) : Except Error String := do
  return Text.joined "_" (← columns.mapM Value.asPart)

/-- The text of a value, null if it is none. -/
def groupName : Value → Value
  | .text s => .text s
  | _ => .null

/-- Adds columns to the primary key. A name that counts as false leaves the old one. -/
def addPrimary (columns constraint : Value) : Declaration Unit := do
  let existing := (← get).primaryKey
  let added ← check (columnsOf columns)
  let merged ← check (merge (existing.elim [] Key.columns) added)
  let name := if constraint.isTrue then constraint else existing.elim .null Key.constraint
  modify fun s => { s with primaryKey := some ⟨merged, name⟩ }

/-- Declares a unique key. Without a name it stands under the joined names of its columns and
replaces what was there; under a name, columns are added to those declared before. -/
def addUnique (columns name : Value) : Declaration Unit := do
  let added ← check (columnsOf columns)
  match name with
  | .null =>
    let joined ← check (joinNames added)
    modify fun s => { s with uniqueKeys := Assoc.put (.text joined) ⟨added, .null⟩ s.uniqueKeys }
  | name =>
    let name ← check name.asKey
    let existing := Assoc.get? name (← get).uniqueKeys
    let merged ← check (merge (existing.elim [] Key.columns) added)
    modify fun s => { s with uniqueKeys := Assoc.put name ⟨merged, name⟩ s.uniqueKeys }

/-- Declares a foreign key. One that names no columns of the other table refers to `id`. -/
def addForeign (columns references : Value) (referenceColumns : Option Value)
    (rest : ForeignKey) : Declaration Unit := do
  let source ← check (columnsOf columns)
  let target ← check (columnsOf (referenceColumns.getD (.text "id")))
  let key := { rest with columns := source, references := references, referenceColumns := target }
  modify fun s => { s with foreignKeys := s.foreignKeys ++ [key] }

/-- The name of an index that was given none. -/
def indexName (table : String) (columns : List Value) : Except Error String := do
  return table ++ "_" ++ (← joinNames columns) ++ "_idx"

/-- Declares an index. Columns are added to those declared before under the same name; an index
that was unique stays so. -/
def addIndex (columns name unique : Value) : Declaration Unit := do
  let added ← check (columnsOf columns)
  let table := (← get).table
  let name ← check (if name.isTrue then name.asKey else Value.text <$> indexName table added)
  let existing := Assoc.get? name (← get).indexes
  let merged ← check (merge (existing.elim [] Index.columns) added)
  let unique := if unique.isTrue then unique else .bool (existing.elim false (·.unique.isTrue))
  modify fun s => { s with indexes := Assoc.put name ⟨name, merged, unique⟩ s.indexes }

/-- Declares a column with its options, and the keys and the index that they ask for. -/
def addColumn (name options : Value) (extra : Mapping) : Declaration Unit := do
  let given ← check (if options.isTrue then Mapping.ofValue options else .ok [])
  let options : Mapping := Assoc.putAll given extra
  let name ← check name.asKey
  modify fun s => { s with columns := Assoc.put name options s.columns }
  let primary := options.find "primary"
  if primary.isTrue then addPrimary name (groupName primary)
  let unique := options.find "unique"
  if unique.isTrue then addUnique name (groupName unique)
  let index := options.find "index"
  if index.isTrue then addIndex name (groupName index) (.bool false)

/-- Declares columns in order. -/
def addColumns (columns : Mapping) : Declaration Unit :=
  columns.forM fun (name, options) => addColumn name options []

/-- Sets an option of the table. -/
def setOption (key value : Value) : Declaration Unit := do
  let key ← check key.asKey
  modify fun s => { s with options := Assoc.put key value s.options }

/-- The options of a column. -/
def column (s : Schema) (name : Value) : Except Error Mapping := do
  match Assoc.get? (← name.asKey) s.columns with
  | some options => return options
  | none => throw (Error.unknownColumn name s.table).raised

def columnNames (s : Schema) : List Value := s.columns.map Prod.fst

/-- A schema with options and columns. -/
def make (table : String) (columns options : Mapping) : Except Error Schema :=
  match (addColumns columns).run { table := table, options := options } with
  | .ok _ s => .ok s
  | .error e _ => .error e

end Schema

end SqlRender
