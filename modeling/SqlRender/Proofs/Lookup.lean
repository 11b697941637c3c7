import SqlRender.Predicate.Condition

/-!
# Lookups and their operands

A lookup compares a column with a value. Which of the values in it become operands is decided by the
lookup and by whether the value is null; `Lookup.cases_value` is the case distinction.
-/

namespace SqlRender

theorem Value.asItems_eq_ok {v : Value} {items : List Value} :
    v.asItems = .ok items ↔ v.items? = some items := by
  rw [asItems]
  cases v.items? <;> simp

theorem Value.asPair_eq_ok {v low high : Value} :
    v.asPair = .ok (low, high) ↔ v.items? = some [low, high] := by
  unfold asPair
  split
  · next items a b h => simp [h]
  · next items hne h =>
    constructor
    · intro hpair
      cases hpair
    · intro hitems
      rw [h] at hitems
      cases hitems
      exact absurd rfl (hne low high)
  · next h => simp [h]

namespace Lookup

/-- The lookup compares a column with its value as it is. -/
def isSingle : Lookup → Bool
  | isNull | inList | notInList | between | notBetween | contains => false
  | _ => true

/-- What a lookup and its value can be: a test, a comparison with null, or a comparison with items,
with a pattern or with the value itself. -/
@[elab_as_elim]
theorem cases_value {motive : Lookup → Value → Prop} (isNull : ∀ v, motive .isNull v)
    (null : ∀ l, l ≠ .isNull → motive l .null)
    (inList : ∀ v, v ≠ .null → motive .inList v)
    (notInList : ∀ v, v ≠ .null → motive .notInList v)
    (between : ∀ v, v ≠ .null → motive .between v)
    (notBetween : ∀ v, v ≠ .null → motive .notBetween v)
    (contains : ∀ v, v ≠ .null → motive .contains v)
    (single : ∀ l v, l.isSingle = true → v ≠ .null → motive l v) (l : Lookup) (v : Value) :
    motive l v := by
  by_cases hl : l = .isNull
  · rw [hl]
    exact isNull v
  by_cases hv : v = .null
  · rw [hv]
    exact null l hl
  cases l with
  | isNull => exact absurd rfl hl
  | inList => exact inList v hv
  | notInList => exact notInList v hv
  | between => exact between v hv
  | notBetween => exact notBetween v hv
  | contains => exact contains v hv
  | _ => exact single _ v rfl hv

/-- The values that a comparison puts behind its column: none where it only asks for null, the items
of a list or of a pair, otherwise one. -/
def operands : Lookup → Value → List Value
  | .isNull, _ => []
  | _, .null => []
  | .inList, v | .notInList, v | .between, v | .notBetween, v => v.items?.getD []
  | .contains, v => [containsPattern v]
  | _, v => [v]

theorem operands_single {l : Lookup} {v : Value} (hl : l.isSingle = true) (hv : v ≠ .null) :
    l.operands v = [v] := by
  cases l <;> first
    | exact absurd hl (by decide)
    | rw [operands] <;> first | exact hv | nofun

end Lookup

end SqlRender
