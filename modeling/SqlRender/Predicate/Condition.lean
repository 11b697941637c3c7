import SqlRender.Dialect
import SqlRender.Fragment
import SqlRender.Predicate
import SqlRender.Predicate.Lookup

/-!
# Conditions

The SQL of a predicate. Children without SQL are left out, and so is the whole condition if nothing
is left; a child that is a predicate stands in parentheses.
-/

namespace SqlRender

/-- What is compared with null: only equality and its opposite have a meaning. -/
def nullCondition (d : Dialect) (lookup : Lookup) (column : String) : Except Error Fragment :=
  match lookup with
  | .exact => do return .ofSql (← d.clause .isNull [column])
  | .ne => do return .ofSql (← d.clause .isNotNull [column])
  | _ => .error .nullComparison

/-- The pattern for a text that contains a value. Raw SQL is a pattern as it is. -/
def containsPattern : Value → Value
  | .raw sql => .raw sql
  | v => .text ("%" ++ v.display ++ "%")

/-- A comparison of a quoted column with a value. -/
def comparison (d : Dialect) (lookup : Lookup) (column : String) (value : Value) :
    Except Error Fragment :=
  match lookup, value with
  | .isNull, value => do
    return .ofSql (← d.clause (if value.isTrue then .isNull else .isNotNull) [column])
  | lookup, .null => nullCondition d lookup column
  | .inList, value | .notInList, value => do
    let items ← value.asItems
    if items.isEmpty then throw (.emptyLookup lookup.name)
    let places := items.map Fragment.ofValue
    return ⟨← d.clause lookup.clause [column, Text.joined ", " (places.map Fragment.sql)],
      places.flatMap Fragment.params⟩
  | .between, value | .notBetween, value => do
    let (low, high) ← value.asPair
    return .bind (← d.clause lookup.clause [column]) [low, high]
  | .contains, value => do
    let pattern ← value.shown containsPattern
    return .bind (← d.clause lookup.clause [column]) [pattern]
  | lookup, value => do
    return .bind (← d.clause lookup.clause [column]) [value]

/-- The lookup key that a value is. Collections have no such operation as cutting. -/
def lookupKey : Value → Except Error LookupKey
  | .text key => .ok (.read key)
  | .list _ | .tuple _ | .map _ => .error .noMember
  | _ => .error .wrongType

/-- A lookup: a key and what the column is compared with. -/
def lookupCondition (d : Dialect) (key value : Value) : Except Error Fragment := do
  let key ← lookupKey key
  comparison d key.lookup (d.quote key.column) value

/-- The conditions of the children of a node as one condition. -/
def connect (d : Dialect) (connector : Keyword) (negated : Bool) (parts : List Fragment) :
    Except Error Fragment :=
  if parts.isEmpty then .ok .empty
  else do
    let sql := Text.joined (" " ++ (← d.keywordText connector) ++ " ") (parts.map Fragment.sql)
    let params := parts.flatMap Fragment.params
    if negated then return ⟨← d.clause .negation [sql], params⟩ else return ⟨sql, params⟩

mutual

/-- The condition of one child, none if it has no SQL. -/
def childCondition (d : Dialect) : Value → Except Error (Option Fragment)
  | .predicate children connector negated => do
    let inner ← connect d connector negated (← childConditions d children)
    return if inner.sql = "" then none else some ⟨"(" ++ inner.sql ++ ")", inner.params⟩
  | .raw sql => .ok (some (.ofSql sql))
  | .tuple [key, value] => do return some (← lookupCondition d key value)
  | .tuple _ => .error .badValue
  | child => .error (Error.predicateLeaf child).raised

def childConditions (d : Dialect) : List Value → Except Error (List Fragment)
  | [] => .ok []
  | child :: rest => do
    let part ← childCondition d child
    return part.toList ++ (← childConditions d rest)

end

/-- The condition of a predicate, empty if nothing of it has SQL. -/
def Predicate.condition (d : Dialect) (p : Predicate) : Except Error Fragment := do
  connect d p.connector p.negated (← childConditions d p.children)

/-- A clause that holds a condition, nothing if there is none. -/
def conditionClause (d : Dialect) (clause : Clause) (v : Value) : Except Error Fragment :=
  match v with
  | .null => .ok .empty
  | .predicate children connector negated => do
    let p : Predicate := ⟨children, connector, negated⟩
    if p.isEmpty then return .empty
    let inner ← p.condition d
    if inner.sql = "" then return .empty
    return ⟨← d.clause clause [inner.sql], inner.params⟩
  | _ => .error .noMember

end SqlRender
