import SqlRender.Text.Lower
import SqlRender.Value.Access

/-!
# Column types

A column type has a name, the word that SQL uses for it if that differs, and default options. A
catalogue finds types by name, in small letters or exactly as written.
-/

namespace SqlRender

structure ColumnType where
  name : String
  token : Option String := none
  defaults : Mapping := []

/-- The word for a type in SQL. -/
def ColumnType.sqlToken (t : ColumnType) : String :=
  match t.token with
  | none => t.name
  | some token => if token = "" then t.name else token

structure TypeCatalogue where
  /-- Names are compared in small letters. -/
  folded : Bool
  types : List (String × ColumnType) := []

namespace TypeCatalogue

/-- The form of a name under which the catalogue keeps a type. -/
def keyOf (c : TypeCatalogue) (name : String) : String :=
  if c.folded then Text.lower name else name

/-- Adds a type under a name. -/
def add (c : TypeCatalogue) (name : String) (type : ColumnType) : TypeCatalogue :=
  { c with types := Assoc.put (c.keyOf name) type c.types }

/-- The catalogue of types under their own names, in small letters. -/
def ofTypes (types : List ColumnType) : TypeCatalogue :=
  types.foldl (fun c type => c.add type.name type) { folded := true }

/-- The catalogue that knows exactly the given names. -/
def ofNames (types : List (String × ColumnType)) : TypeCatalogue :=
  types.foldl (fun c entry => c.add entry.1 entry.2) { folded := false }

/-- What is said of a name that is not in the catalogue. -/
def missing (c : TypeCatalogue) (name : Value) : Error :=
  if c.folded then (Error.invalidColumnType name .null).raised else .noEntry

/-- The type with a name. Where names are folded the empty name and what is no text are unknown;
where they are exact, a value that cannot be a key is a fault. -/
def resolve (c : TypeCatalogue) (name : Value) : Except Error ColumnType := do
  if !c.folded then
    let _ ← name.asKey
  match name with
  | .text s =>
    if c.folded ∧ s = "" then throw (c.missing name)
    match Assoc.get? (c.keyOf s) c.types with
    | some type => return type
    | none => throw (c.missing name)
  | _ => throw (c.missing name)

/-- A type with this name is known. -/
def contains (c : TypeCatalogue) : Value → Bool
  | .text s => (Assoc.get? (c.keyOf s) c.types).isSome
  | _ => false

/-- The types that the bundled dialects understand. -/
def standard : TypeCatalogue :=
  ofTypes
    [{ name := "bigint" }, { name := "binary" }, { name := "blob" }, { name := "boolean" },
     { name := "char", defaults := [(.text "length", .int 1)] },
     { name := "date" }, { name := "datetime" },
     { name := "decimal", defaults := [(.text "length", .text "8,2")] },
     { name := "double" }, { name := "float" }, { name := "int" }, { name := "integer" },
     { name := "serial", defaults := [(.text "primary", .bool true)] },
     { name := "smallint" }, { name := "text" }, { name := "time" }, { name := "timestamp" },
     { name := "varchar", defaults := [(.text "length", .int 255)] }]

end TypeCatalogue

end SqlRender
