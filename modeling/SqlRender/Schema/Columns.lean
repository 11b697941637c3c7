import SqlRender.Dialect
import SqlRender.Log.Trace
import SqlRender.Schema

/-!
# Columns, keys and options as SQL

The parts of a statement that creates a table.
-/

namespace SqlRender.Dialect

/-- A text as a literal of SQL: between single quotes, with every single quote written twice. -/
def textLiteral (s : String) : String :=
  String.ofList (quoteChars ['\''] s.toList)

/-- A value other than null as a literal of SQL. -/
def plainLiteral : Value → String
  | .raw sql => sql
  | .bool b => if b then "TRUE" else "FALSE"
  | .int n => (Value.int n).display
  | .real x => (Value.real x).display
  | .decimal x => (Value.decimal x).display
  | v => textLiteral v.display

/-- A value as a literal of SQL; for null that is the keyword. -/
def literal (d : Dialect) : Value → Except Error Value
  | .null => d.keyword .null
  | v => .text <$> v.shown plainLiteral

/-- The value of a default. One that is computed is asked for now. -/
def defaultValue (d : Dialect) : Value → Value
  | .computed result => result
  | .computedName name => .raw (d.quote name)
  | v => v

/-- The clause for a default. -/
def defaultClause (d : Dialect) (v : Value) : Except Error String := do
  d.clauseOf (.clause .defaultValue) [← d.literal (d.defaultValue v)]

/-- The type of a column. A failure to find it names the column. -/
def columnType (d : Dialect) (name typeName : Value) : Except Error ColumnType :=
  match d.types.resolve typeName with
  | .error (.invalidColumnType ..) => .error (Error.invalidColumnType typeName name).raised
  | .error .noEntry => .error (Error.invalidColumnType typeName name).raised
  | other => other

/-- The length behind the word for a type. -/
def lengthText (length : Value) : Except Error String := do
  return "(" ++ (← length.shown Value.display) ++ ")"

/-- A word with a text behind it. A list takes in the characters. -/
def extend (word : Value) (text : String) : Except Error Value :=
  match word with
  | .text s => .ok (.text (s ++ text))
  | .list items => .ok (.list (items ++ text.toList.map fun c => .text (String.ofList [c])))
  | _ => .error .wrongType

/-- The word for the type of a column, with its length. -/
def typeText (d : Dialect) (typeName : Value) (type : ColumnType) (options : Mapping) :
    Except Error Value := do
  let word := d.typeWord (← typeName.asText) type
  let length := options.find "length"
  if length.isTrue then extend word (← lengthText length) else return word

/-- Primary and unique columns cannot be null; others only if they say so. -/
def nullability (options : Mapping) : Keyword :=
  if (options.find "primary").isTrue || (options.find "unique").isTrue then .notNull
  else if (options.find "nullable").isTrue then .null
  else .notNull

/-- A part that is written only if its option counts as true. -/
def optionalPart (options : Mapping) (key : String) (write : Value → Except Error String) :
    Except Error (List String) :=
  let value := options.find key
  if value.isTrue then do return [← write value] else .ok []

/-- The type of a column and its options. Those of the type stand behind its own. -/
def columnOptions (d : Dialect) (name options : Value) : Except Error (ColumnType × Mapping) := do
  let own ← options.asMapping
  let type ← d.columnType name (own.find "type")
  return (type, Assoc.putAll type.defaults own)

/-- The line of a column. -/
def columnLine (d : Dialect) (name options : Value) : Except Error String := do
  let (type, merged) ← d.columnOptions name options
  let typeName := merged.find "type"
  let word ← d.typeText typeName type merged
  let head ← d.quoteIdentifierOf name
  let collation ← optionalPart merged "collate" fun v => d.clauseOf (.clause .collate) [v]
  let constraint ← optionalPart merged "constraint" fun v => do
    d.clause .constraint [← d.quoteIdentifierOf v]
  let nullable ← d.keyword (nullability merged)
  let default ← match Assoc.get? (.text "default") merged with
    | some v => do pure [← d.defaultClause v]
    | none => pure []
  let word ← word.asPart
  let line := Text.joined " "
    ([head, word] ++ collation ++ constraint ++ [← nullable.asPart] ++ default)
  return String.ofList (Text.strip line.toList)

/-- The lines of all columns. -/
def columnLines (d : Dialect) (s : Schema) : Except Error String := do
  let lines ← s.columns.mapM fun (name, options) => d.columnLine name (.map options)
  return Text.joined ",\n" lines

/-- What a word for a type takes in when the line of a column is written. Only a list does, and it
stays longer afterwards. Every registration has a list of its own. -/
def columnGrowth? (d : Dialect) (name options : Value) : Option WordGrowth :=
  match d.columnOptions name options with
  | .ok (type, merged) =>
    match merged.find "type", (merged.find "length").isTrue with
    | .text typeName, true =>
      match d.typeWord typeName type, lengthText (merged.find "length") with
      | .list _, .ok text => some ⟨Text.lower typeName, text⟩
      | _, _ => none
    | _, _ => none
  | .error _ => none

/-- What a word for a type takes in when the lines of columns are written. They are written in order
up to the first that fails, and the line of a word that is a list does. -/
def columnsGrowth? (d : Dialect) : List (Value × Mapping) → Option WordGrowth
  | [] => none
  | (name, options) :: rest =>
    match d.columnGrowth? name (.map options), d.columnLine name (.map options) with
    | some growth, _ => some growth
    | none, .ok _ => d.columnsGrowth? rest
    | none, .error _ => none

/-- The dialect after a word for a type has taken in a text. As the list is no other entry's, only
this entry changes. -/
def grow (d : Dialect) (g : WordGrowth) : Dialect :=
  match (d.typeAliases.item? g.typeName).map fun word => extend word g.text with
  | some (.ok word) => { d with typeAliases := d.typeAliases.put g.typeName word }
  | _ => d

/-- The dialect after events: nothing but the words for types can have changed. -/
def after (d : Dialect) (events : List Event) : Dialect :=
  events.foldl (fun d event => match event with | .grown g => d.grow g | _ => d) d

/-- The line of a column, with what it does to the word for its type. -/
def writeColumn (d : Dialect) (name options : Value) : Traced String := do
  Traced.growth (d.columnGrowth? name options)
  d.columnLine name options

/-- The lines of all columns, with what they do to the words for types. -/
def writeColumns (d : Dialect) (s : Schema) : Traced String := do
  Traced.growth (d.columnsGrowth? s.columns)
  d.columnLines s

/-- Puts the name of a constraint in front, if there is one. -/
def withConstraint (d : Dialect) (text : String) (constraint : Value) : Except Error String :=
  if constraint.isTrue then do
    return (← d.clause .constraint [← d.quoteIdentifierOf constraint]) ++ " " ++ text
  else .ok text

/-- The line of a primary or unique key. -/
def keyLine (d : Dialect) (clause : Clause) (key : Key) : Except Error String := do
  d.withConstraint (← d.clause clause [← d.quoteNames key.columns]) key.constraint

/-- An action of a foreign key. -/
def foreignAction (d : Dialect) (clause : Clause) (action : Value) : Except Error (List String) :=
  if action.isTrue then do return [← d.clauseOf (.clause clause) [← d.keywordOf action]] else .ok []

/-- The line of a foreign key. -/
def foreignLine (d : Dialect) (key : ForeignKey) : Except Error String := do
  let columns ← d.quoteNames key.columns
  let references ← d.quoteName key.references
  let referenceColumns ← d.quoteNames key.referenceColumns
  let head ← d.clause .foreignKey [columns, references, referenceColumns]
  let matching ← d.foreignAction .matchType key.matching
  let onDelete ← d.foreignAction .onDelete key.onDelete
  let onUpdate ← d.foreignAction .onUpdate key.onUpdate
  d.withConstraint (Text.joined " " ([head] ++ matching ++ onDelete ++ onUpdate)) key.constraint

/-- The lines of all keys, each behind a comma and a line end. -/
def keyLines (d : Dialect) (s : Schema) : Except Error String := do
  let primary ← s.primaryKey.toList.mapM (d.keyLine .primaryKey)
  let unique ← s.uniqueKeys.mapM fun (_, key) => d.keyLine .uniqueKey key
  let foreign ← s.foreignKeys.mapM d.foreignLine
  return Text.joined "" ((primary ++ unique ++ foreign).map (",\n" ++ ·))

/-- An option of the table. A keyword alone stands as it was registered. -/
def tableOption (d : Dialect) (key value : Value) : Except Error (List Value) :=
  match key, value with
  | _, .null => .ok []
  | _, .bool false => .ok []
  | .clause c, value => do return [.text (← d.clauseOf (.clause c) [value])]
  | key, value => do
    let word ← d.keywordOf key
    match key, value with
    | _, .bool true => return [word]
    | .keyword .inherits, .text s => do
      return [.text ((← word.shown Value.display) ++ " (" ++ d.quote s ++ ")")]
    | .keyword .inherits, value => do
      return [.text ((← word.shown Value.display) ++ " (" ++ (← d.quoteList value) ++ ")")]
    | _, .keyword k => do
      return [.text ((← word.shown Value.display) ++ " " ++ (← d.keywordText k))]
    | _, value => do
      return [.text ((← word.shown Value.display) ++ " " ++ (← value.shown Value.display))]

/-- The options of the table. -/
def tableOptions (d : Dialect) (s : Schema) : Except Error String := do
  let parts ← s.options.mapM fun (key, value) => d.tableOption key value
  return Text.joined " " (← parts.flatten.mapM Value.asPart)

end SqlRender.Dialect
