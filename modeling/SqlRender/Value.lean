import SqlRender.Number.Binary64
import SqlRender.Number.Decimal
import SqlRender.Symbol

/-!
# Values

What callers hand to a query or a schema: bound parameters, column options, names, lists of names,
predicates. A query is checked only while it is rendered, so one type holds all of them.

A predicate is a value too: its children are raw SQL, pairs of a lookup key and a value, or further
predicates, and nothing keeps a caller from putting other values there.
-/

namespace SqlRender

inductive Value where
  | null
  | bool (b : Bool)
  | int (n : Int)
  | real (x : Binary64)
  | decimal (d : Decimal)
  | text (s : String)
  /-- SQL that is written as it stands. -/
  | raw (sql : String)
  | keyword (k : Keyword)
  | clause (c : Clause)
  | kind (k : StatementKind)
  | list (items : List Value)
  | tuple (items : List Value)
  /-- Keys and values in the order in which the keys first came. -/
  | map (entries : List (Value × Value))
  | predicate (children : List Value) (connector : Keyword) (negated : Bool)
  /-- A default that is asked for when a column is rendered, whatever the dialect. -/
  | computed (result : Value)
  /-- A default that is asked for when a column is rendered: a name in the quotes of the dialect. -/
  | computedName (name : String)
deriving Repr

namespace Value

instance : Inhabited Value := ⟨.null⟩

/-- What counts as true in a condition: all but null, false, zeros and empty texts and
collections. -/
def isTrue : Value → Bool
  | .null => false
  | .bool b => b
  | .int n => n != 0
  | .real x => !x.isZero
  | .decimal d => !d.isZero
  | .text s => s != ""
  | .list items => !items.isEmpty
  | .tuple items => !items.isEmpty
  | .map entries => !entries.isEmpty
  | _ => true

/-- The items that a value gives when it is gone through: a text gives its characters and a map its
keys. -/
def items? : Value → Option (List Value)
  | .list items => some items
  | .tuple items => some items
  | .map entries => some (entries.map Prod.fst)
  | .text s => some (s.toList.map fun c => .text (String.ofList [c]))
  | _ => none

/-- The word for the type of a value in messages. -/
def typeName : Value → String
  | .null => "NoneType"
  | .bool _ => "bool"
  | .int _ => "int"
  | .real _ => "float"
  | .decimal _ => "Decimal"
  | .text _ => "str"
  | .raw _ => "Raw"
  | .keyword _ => "Keyword"
  | .clause _ => "Clause"
  | .kind _ => "QueryKind"
  | .list _ => "list"
  | .tuple _ => "tuple"
  | .map _ => "dict"
  | .predicate .. => "Q"
  | .computed _ => "function"
  | .computedName _ => "function"

end Value

end SqlRender
