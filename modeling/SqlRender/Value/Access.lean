import SqlRender.Assoc
import SqlRender.Error
import SqlRender.Value.Equality

/-!
# Reading values

What a rendering needs from a value (a text, items, a pair, a whole number, a map), with the fault
that arises when the value cannot give it.
-/

namespace SqlRender

/-- Entries of a map, in the order in which their keys first came. -/
abbrev Mapping := List (Value × Value)

namespace Value

/-- The text that a name has to be. -/
def asText : Value → Except Error String
  | .text s => .ok s
  | _ => .error .noMember

/-- The text that a part of a longer text has to be. -/
def asPart : Value → Except Error String
  | .text s => .ok s
  | _ => .error .wrongType

/-- What is made of the text of a value, unless a whole number in it is too long to be written. -/
def shown {α : Type} (v : Value) (text : Value → α) : Except Error α :=
  if v.isWritable then .ok (text v) else .error .badValue

theorem shown_eq_ok {α : Type} {v : Value} {text : Value → α} {a : α} :
    v.shown text = .ok a ↔ v.isWritable = true ∧ text v = a := by
  cases h : v.isWritable <;> simp [shown, h]

/-- The items of a value that is gone through. -/
def asItems (v : Value) : Except Error (List Value) :=
  match v.items? with
  | some items => .ok items
  | none => .error .wrongType

/-- The two items of a value. -/
def asPair (v : Value) : Except Error (Value × Value) :=
  match v.items? with
  | some [a, b] => .ok (a, b)
  | some _ => .error .badValue
  | none => .error .wrongType

/-- The entries of a map. -/
def asMapping : Value → Except Error Mapping
  | .map entries => .ok entries
  | _ => .error .noMember

/-- The key of a map. -/
def asKey (v : Value) : Except Error Value :=
  if v.isKey then .ok v else .error .wrongType

/-- The whole number that a value stands for: fractions are cut off, a text is read. -/
def asInt : Value → Except Error Int
  | .bool b => .ok (if b then 1 else 0)
  | .int n => .ok n
  | .real x =>
    match x with
    | .nan => .error .badValue
    | .infinite _ => .error .outOfRange
    | .finite .. => (x.truncate?).elim (.error .badValue) .ok
  | .decimal d =>
    match d with
    | .nan .. => .error .badValue
    | .infinite _ => .error .outOfRange
    | .finite .. => (d.truncate?).elim (.error .badValue) .ok
  | .text s =>
    match Text.readInt? s.toList with
    | some n => .ok n
    | none => .error .badValue
  | _ => .error .wrongType

end Value

namespace Mapping

/-- An entry whose key is fit for one. -/
def entry (pair : Value × Value) : Except Error (Value × Value) := do
  return (← pair.1.asKey, pair.2)

/-- The map that pairs give. Every key has to be fit for one. -/
def ofPairs (pairs : List (Value × Value)) : Except Error Mapping :=
  Assoc.ofPairs <$> pairs.mapM entry

/-- The value under a text, null if there is none. -/
def find (key : String) (m : Mapping) : Value :=
  (Assoc.get? (.text key) m).getD .null

/-- A copy of a map, or the map that a collection of pairs stands for. -/
def ofValue : Value → Except Error Mapping
  | .map entries => .ok entries
  | v => do return Assoc.ofPairs (← (← v.asItems).mapM fun item => do entry (← item.asPair))

end Mapping

end SqlRender
