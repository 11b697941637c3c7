import SqlRender.Log.Trace
import SqlRender.Predicate.Condition
import SqlRender.Query
import SqlRender.Schema.Columns

/-!
# Slots

What a statement puts into the slots of a template. A slot that has no rule of its own is written
as the keyword that the attributes of the statement give it.
-/

namespace SqlRender

/-- The slots that a template can have. -/
inductive Slot where
  | table | index | fields | values | distinct | joins | filter | having | groupBy | orderBy
  | limit | lock | compounds | returning | columns | keys | options
  | attribute (name : String)
deriving DecidableEq, Repr

/-- The slot with a name. -/
def Slot.ofName : String → Slot
  | "table" => .table
  | "index" => .index
  | "fields" => .fields
  | "values" => .values
  | "distinct" => .distinct
  | "joins" => .joins
  | "where" => .filter
  | "having" => .having
  | "group_by" => .groupBy
  | "order_by" => .orderBy
  | "limit" => .limit
  | "lock" => .lock
  | "compounds" => .compounds
  | "returning" => .returning
  | "columns" => .columns
  | "keys" => .keys
  | "options" => .options
  | name => .attribute name

namespace Statement

/-- A name that is written if it is not empty. -/
def nameFragment (d : Dialect) (name : Value) : Except Error Fragment :=
  if name.isTrue then do return .ofSql (← d.quoteName name) else .ok .empty

/-- A column, or raw SQL. -/
def columnText (d : Dialect) : Value → Except Error String
  | .raw sql => .ok sql
  | name => d.quoteName name

/-- A column, raw SQL, or one of them with an alias. -/
def fieldText (d : Dialect) : Value → Except Error String
  | .tuple items => do
    let (column, label) ← (Value.tuple items).asPair
    let column ← columnText d column
    d.clause .asAlias [column, ← d.quoteIdentifierOf label]
  | item => columnText d item

/-- The rows of an insert. One map is one row; there has to be a row, and no row may be empty. -/
def insertRows (data : Value) : Except Error (List Value) := do
  let rows ← match data with
    | .map entries => pure [.map entries]
    | data => if data.isTrue then data.asItems else pure []
  if rows.isEmpty || !rows.all Value.isTrue then throw .noRow
  return rows

/-- The columns of an insert are those of its first row. -/
def insertFields (d : Dialect) (data : Value) : Except Error Fragment := do
  let first := (← insertRows data).headD .null
  let columns := (← first.asMapping).map Prod.fst
  return .ofSql ("(" ++ (← d.quoteNames columns) ++ ")")

/-- The values of one row. -/
def rowFragment (row : Mapping) : Fragment :=
  let places := row.map fun entry => Fragment.ofValue entry.2
  ⟨"(" ++ Text.joined ", " (places.map Fragment.sql) ++ ")", places.flatMap Fragment.params⟩

/-- A row that has to have the given columns, in the same order. -/
def matchingRow (columns : List Value) (row : Value) : Except Error Fragment := do
  let entries ← row.asMapping
  if Value.sameAll (entries.map Prod.fst) columns then return rowFragment entries
  throw .rowsDiffer

/-- The values of an insert, row by row. -/
def valuesFragment (data : Value) : Except Error Fragment := do
  match ← insertRows data with
  | [] => throw .noRow
  | first :: rest =>
    let entries ← first.asMapping
    let rows ← rest.mapM (matchingRow (entries.map Prod.fst))
    let rows := rowFragment entries :: rows
    return ⟨Text.joined ", " (rows.map Fragment.sql), rows.flatMap Fragment.params⟩

/-- One assignment of an update. -/
def assignment (d : Dialect) (entry : Value × Value) : Except Error Fragment := do
  let place := Fragment.ofValue entry.2
  return ⟨(← d.quoteName entry.1) ++ " = " ++ place.sql, place.params⟩

/-- The assignments of an update; there has to be one. -/
def assignments (d : Dialect) (data : Value) : Except Error Fragment := do
  if !data.isTrue then throw .noAssignment
  let parts ← (← data.asMapping).mapM (assignment d)
  return ⟨Text.joined ", " (parts.map Fragment.sql), parts.flatMap Fragment.params⟩

/-- Fields with a comma and a space between them. -/
def fieldList (d : Dialect) (fields : Value) : Except Error String := do
  return Text.joined ", " (← (← fields.asItems).mapM (fieldText d))

def fieldsFragment (d : Dialect) (s : Statement) : Except Error Fragment :=
  match s.kind with
  | .kind .insert => insertFields d s.fields
  | .kind .update => assignments d s.fields
  | _ => do return .ofSql (← fieldList d s.fields)

/-- The names that distinct rows are told apart by: a text is one name. -/
def distinctNames (d : Dialect) (v : Value) : Except Error Fragment :=
  match v with
  | .text name => do return .ofSql (← d.clause .distinctOn [d.quote name])
  | v => do return .ofSql (← d.clause .distinctOn [← d.quoteList v])

/-- Distinct rows: in all columns, or by names. -/
def distinctFilling (d : Dialect) (v : Value) : Except Error Filling :=
  match v with
  | .bool true => do return { item := ← d.formatOf (.clause .distinct) }
  | v => if v.isTrue then Fragment.toFilling <$> distinctNames d v else .ok Fragment.empty.toFilling

/-- One join. -/
def joinText (d : Dialect) (j : Join) : Except Error String := do
  let separator := " " ++ (← d.keywordText .and) ++ " "
  let conditions := j.on.map fun (left, right) => d.quote left ++ " = " ++ d.quote right
  d.clause j.kind [d.quote j.table, Text.joined separator conditions]

def joinsFragment (d : Dialect) (joins : List Join) : Except Error Fragment := do
  return .ofSql (Text.joined " " (← joins.mapM (joinText d)))

def groupFragment (d : Dialect) (columns : Value) : Except Error Fragment :=
  if columns.isTrue then do
    let texts ← (← columns.asItems).mapM (columnText d)
    return .ofSql (← d.clause .groupBy [Text.joined ", " texts])
  else .ok .empty

/-- One item of an ordering: raw SQL, or a column with a minus in front if it descends. -/
def orderText (d : Dialect) : Value → Except Error String
  | .raw sql => .ok sql
  | .text s =>
    match s.toList with
    | '-' :: name => do return d.quote (String.ofList name) ++ " " ++ (← d.keywordText .desc)
    | _ => .ok (d.quote s)
  | _ => .error .noMember

def orderFragment (d : Dialect) (items : Value) : Except Error Fragment :=
  if items.isTrue then do
    let texts ← (← items.asItems).mapM (orderText d)
    return .ofSql (← d.clause .orderBy [Text.joined ", " texts])
  else .ok .empty

/-- How many rows, and after how many. An offset that counts as false is none. -/
def limitFragment (d : Dialect) (limit offset : Value) : Except Error Fragment :=
  match limit, offset.isTrue with
  | .null, false => .ok .empty
  | .null, true => do
    return .ofSql (← d.clauseOf (.clause .offset) [.int (← offset.asInt)])
  | limit, false => do
    return .ofSql (← d.clauseOf (.clause .limit) [.int (← limit.asInt)])
  | limit, true => do
    let count ← limit.asInt
    return .ofSql (← d.clauseOf (.clause .limitOffset) [.int count, .int (← offset.asInt)])

def returningFragment (d : Dialect) (fields : Value) : Except Error Fragment :=
  if fields.isTrue then do
    return .ofSql (← d.clause .returning [← fieldList d fields])
  else .ok .empty

/-- A part of a schema, nothing without one. -/
def schemaFragment (schema : Option Schema) (write : Schema → Traced String) : Traced Fragment :=
  match schema with
  | none => pure .empty
  | some schema => do return .ofSql (← write schema)

/-- The keyword that a value names, in a slot. A dialect without it leaves the slot empty and says
so. -/
def slotKeyword (d : Dialect) (slot : String) (key : Value) : Traced Filling := do
  match ← d.keywords.find? key with
  | none | some .null =>
    Traced.note (.keywordMissing key slot d.name)
    return { item := .text "" }
  | some item => return { item }

/-- The lock of a select, if one was asked for. -/
def lockFilling (d : Dialect) (lock : Value) : Traced Filling :=
  match lock with
  | .null => pure { item := .text "" }
  | lock => slotKeyword d "lock" lock

/-- A slot that is filled from the attributes: with a keyword, with the keyword of the same name,
or with raw SQL. -/
def attributeFilling (d : Dialect) (slot : String) (value : Value) : Traced Filling :=
  match value with
  | .keyword k => slotKeyword d slot (.keyword k)
  | .bool true =>
    match Keyword.ofTag? slot with
    | some k => slotKeyword d slot (.keyword k)
    | none => do
      Traced.note (.slotWithoutKeyword slot)
      return { item := .text "" }
  | .raw sql => pure { item := .text sql }
  | value =>
    if value.isTrue then Traced.ofExcept (.error (Error.attributeValue value slot).raised)
    else pure { item := .text "" }

/-- A fragment as the filling of a slot. -/
def asFilling (x : Except Error Fragment) : Traced Filling :=
  Traced.ofExcept (Fragment.toFilling <$> x)

/-- What a statement puts into a slot. `operands` is what it puts into the slot for the queries
that set operations join to it. -/
def filling (d : Dialect) (operands : Traced Fragment) (s : Statement) : Slot → Traced Filling
  | .table => asFilling (nameFragment d s.table)
  | .index => asFilling (nameFragment d s.index)
  | .fields => asFilling (fieldsFragment d s)
  | .values => asFilling (valuesFragment s.fields)
  | .distinct => distinctFilling d s.distinct
  | .joins => asFilling (joinsFragment d s.joins)
  | .filter => asFilling (conditionClause d .filter s.filter)
  | .having => asFilling (conditionClause d .having s.having)
  | .groupBy => asFilling (groupFragment d s.groupBy)
  | .orderBy => asFilling (orderFragment d s.orderBy)
  | .limit => asFilling (limitFragment d s.limit s.offset)
  | .lock => lockFilling d s.lock
  | .compounds => Fragment.toFilling <$> operands
  | .returning => asFilling (returningFragment d s.returning)
  | .columns => Fragment.toFilling <$> schemaFragment s.schema d.writeColumns
  | .keys => Fragment.toFilling <$> schemaFragment s.schema fun schema => d.keyLines schema
  | .options => Fragment.toFilling <$> schemaFragment s.schema fun schema => d.tableOptions schema
  | .attribute name => attributeFilling d name (s.attributes.find name)

end Statement

end SqlRender
