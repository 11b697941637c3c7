import SqlRender.Symbol
import SqlRender.Text.Pieces

/-!
# Lookups

A lookup key is the name of a column, or such a name, two low lines and the name of a comparison.
The last pair of low lines decides, and only if a comparison is named behind it.
-/

namespace SqlRender

/-- How a column is compared. -/
inductive Lookup where
  | exact | ne | gt | gte | lt | lte | like | notLike | contains | regexp | notRegexp
  | inList | notInList | between | notBetween | isNull
deriving DecidableEq, Repr

namespace Lookup

def values : List Lookup :=
  [.exact, .ne, .gt, .gte, .lt, .lte, .like, .notLike, .contains, .regexp, .notRegexp,
   .inList, .notInList, .between, .notBetween, .isNull]

def name : Lookup → String
  | .exact => "exact"
  | .ne => "ne"
  | .gt => "gt"
  | .gte => "gte"
  | .lt => "lt"
  | .lte => "lte"
  | .like => "like"
  | .notLike => "notlike"
  | .contains => "contains"
  | .regexp => "regexp"
  | .notRegexp => "notregexp"
  | .inList => "in"
  | .notInList => "notin"
  | .between => "between"
  | .notBetween => "notbetween"
  | .isNull => "isnull"

def ofName? (name : String) : Option Lookup := values.find? (·.name = name)

/-- The clause of a comparison. -/
def clause : Lookup → Clause
  | .exact => .equals
  | .ne => .notEquals
  | .gt => .greater
  | .gte => .greaterEqual
  | .lt => .less
  | .lte => .lessEqual
  | .like => .like
  | .notLike => .notLike
  | .contains => .like
  | .regexp => .regexp
  | .notRegexp => .notRegexp
  | .inList => .inList
  | .notInList => .notInList
  | .between => .between
  | .notBetween => .notBetween
  | .isNull => .isNull

end Lookup

/-- What a lookup key says. -/
structure LookupKey where
  column : String
  lookup : Lookup
deriving DecidableEq, Repr

/-- Reads a lookup key. -/
def LookupKey.read (key : String) : LookupKey :=
  match Text.cutLast? ['_', '_'] key.toList with
  | none => ⟨key, .exact⟩
  | some (column, name) =>
    match Lookup.ofName? (String.ofList name) with
    | some lookup => ⟨String.ofList column, lookup⟩
    | none => ⟨key, .exact⟩

end SqlRender
