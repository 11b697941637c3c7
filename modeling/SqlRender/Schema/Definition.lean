import SqlRender.Query.Compile

/-!
# Statements for schemas

The statements that create a table and its indexes and that drop the table.
-/

namespace SqlRender.Schema

/-- The names that attributes cannot have, because they stand for the schema and its builder. -/
def takenNames : List String := ["self", "schema"]

/-- Attributes are given by name, so each key is a text, and none of the taken ones. -/
def byName (attributes : Mapping) : Except Error Mapping :=
  let isName (entry : Value × Value) : Bool :=
    match entry.1 with
    | .text name => name ∉ takenNames
    | _ => false
  if attributes.all isName then .ok attributes else .error .wrongType

/-- The statement that creates the table. -/
def createTable (d : Dialect) (s : Schema) (attributes : Mapping) : Traced String := do
  (Query.single (.createTable s (← byName attributes))).render d

/-- The statement that creates an index. -/
def createIndex (d : Dialect) (s : Schema) (index : Index) : Traced String :=
  let attributes := if index.unique.isTrue then [(.text "type", .keyword .unique)] else []
  let columns := .tuple index.columns
  (Query.single (.createIndex (.text s.table) index.name columns attributes)).render d

/-- The statements that create the indexes, in the order of their declaration. -/
def createIndexes (d : Dialect) (s : Schema) : Traced (List String) :=
  s.indexes.mapM fun entry => s.createIndex d entry.2

/-- The statement that drops the table, with a warning. -/
def dropTable (d : Dialect) (s : Schema) (attributes : Mapping) : Traced String := do
  let sql ← (Query.single (.dropTable (.text s.table) (← byName attributes))).render d
  Traced.note (.tableDropped (d.quote s.table))
  return sql

end SqlRender.Schema
