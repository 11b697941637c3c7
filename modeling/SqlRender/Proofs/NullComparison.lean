import SqlRender.Proofs.Failure
import SqlRender.Proofs.LookupKey
import SqlRender.Proofs.Parameter

/-!
# Null in conditions

A column that is compared with null as a whole is asked whether it is null, or the comparison is
refused. The items of a list or of a pair are not looked at, so null among them is bound like any
other value.

* `Lookup.null_mem_boundValues_iff`: when a comparison binds null.
* `childCondition_of_mem_leaves`: a tree has a condition only if each of its leaves has one.
* `Backend.childCondition_null`: what becomes of a leaf that is compared with null.
* `Backend.conditionClause_of_comparesNull`: a comparison with null that refuses a clause.
* `null_bound_iff_null_item`: when a clause binds null.
* `nullItems_bound`: the items of a list and of a range can be null.
-/

namespace SqlRender

/-! ## Null among the values of a leaf -/

namespace Lookup

/-- The lookup compares a column with the items of its value. -/
def takesItems : Lookup → Bool
  | .inList | .notInList | .between | .notBetween => true
  | _ => false

/-- What a column is asked instead of being compared with null, none if the comparison is
refused. -/
def nullTest? : Lookup → Option String
  | .exact => some " IS NULL"
  | .ne | .isNull => some " IS NOT NULL"
  | _ => none

end Lookup

namespace Value

def isNull : Value → Bool
  | .null => true
  | _ => false

/-- Null is one of the items of the value. -/
def hasNullItem (v : Value) : Bool := (v.items?.getD []).any isNull

/-- A leaf that compares a column with items of which one is null. -/
def comparesNullItem : Value → Bool
  | .tuple [.text key, v] => (LookupKey.read key).lookup.takesItems && v.hasNullItem
  | _ => false

/-- A leaf that compares a column with null and asks for more than equality. -/
def comparesNull : Value → Bool
  | .tuple [.text key, .null] => (LookupKey.read key).lookup.nullTest?.isNone
  | _ => false

theorem any_isNull {vs : List Value} : vs.any isNull = true ↔ .null ∈ vs := by
  rw [List.any_eq_true]
  constructor
  · rintro ⟨v, hv, hnull⟩
    cases v with
    | null => exact hv
    | _ => cases hnull
  · intro h
    exact ⟨.null, h, rfl⟩

end Value

/-- A comparison binds null exactly if null is one of the items that it takes. -/
theorem Lookup.null_mem_boundValues_iff (l : Lookup) (v : Value) :
    .null ∈ l.boundValues v ↔ l.takesItems = true ∧ v.hasNullItem = true := by
  have hfilter (vs : List Value) : Value.null ∈ vs.filter Value.isBound ↔ .null ∈ vs := by
    rw [List.mem_filter]
    exact and_iff_left rfl
  rw [boundValues_eq, hfilter, Value.hasNullItem, Value.any_isNull]
  induction l, v using Lookup.cases_value with
  | isNull v => simp [operands, takesItems]
  | null l hl => cases l <;> simp [operands, Value.items?]
  | inList v hv | notInList v hv | between v hv | notBetween v hv =>
    rw [operands]
    · simp [takesItems]
    · exact hv
  | contains v hv =>
    rw [operands]
    · cases v <;> simp [containsPattern, takesItems]
    · exact hv
  | single l v hl hv =>
    have hitems : l.takesItems = false := by
      cases l <;> first | exact absurd hl (by decide) | rfl
    rw [operands_single hl hv, hitems]
    simp [Ne.symm hv]

theorem Value.null_mem_leafValues_iff (leaf : Value) :
    .null ∈ leaf.leafValues ↔ leaf.comparesNullItem = true := by
  unfold leafValues comparesNullItem
  split
  · rw [Lookup.null_mem_boundValues_iff, Bool.and_eq_true]
  · simp

theorem Value.null_mem_treeValues_iff (v : Value) :
    .null ∈ v.treeValues ↔ ∃ leaf ∈ v.leaves, leaf.comparesNullItem = true := by
  simp only [treeValues, List.mem_flatMap, null_mem_leafValues_iff]

/-! ## Null as the value of a leaf -/

mutual

/-- A tree has a condition only if each of its leaves has one. -/
theorem childCondition_of_mem_leaves {d : Dialect} (v : Value) {part : Option Fragment}
    (h : childCondition d v = .ok part) :
    ∀ leaf ∈ v.leaves, ∃ part, childCondition d leaf = .ok part := by
  cases v with
  | predicate children k negated =>
    obtain ⟨parts, hparts, -⟩ := bind_eq_ok.mp h
    exact childConditions_of_mem_leaves children hparts
  | _ =>
    intro leaf hleaf
    cases List.mem_singleton.mp hleaf
    exact ⟨part, h⟩

theorem childConditions_of_mem_leaves {d : Dialect} (vs : List Value) {parts : List Fragment}
    (h : childConditions d vs = .ok parts) :
    ∀ leaf ∈ Value.leavesAll vs, ∃ part, childCondition d leaf = .ok part := by
  cases vs with
  | nil =>
    intro leaf hleaf
    cases hleaf
  | cons v vs =>
    obtain ⟨part, hpart, h⟩ := bind_eq_ok.mp h
    obtain ⟨rest, hrest, -⟩ := bind_eq_ok.mp h
    intro leaf hleaf
    rcases List.mem_append.mp hleaf with hleaf | hleaf
    · exact childCondition_of_mem_leaves v hpart leaf hleaf
    · exact childConditions_of_mem_leaves vs hrest leaf hleaf

end

namespace Backend

variable (b : Backend) (types : TypeCatalogue)

/-- A column that is compared with null is asked whether it is null, or the comparison is
refused. -/
theorem childCondition_null (key : String) :
    childCondition (b.dialect types) (Predicate.leaf (key, .null)) =
      (LookupKey.read key).lookup.nullTest?.elim (.error .nullComparison) fun test =>
        .ok (some (.ofSql ((b.dialect types).quote (LookupKey.read key).column ++ test))) := by
  rw [childCondition_lookup, comparison_eq]
  cases (LookupKey.read key).lookup <;> rfl

variable {b types}

/-- No leaf of a tree with a condition asks for more than equality with null. -/
theorem comparesNull_eq_false {leaf : Value} {part : Option Fragment}
    (h : childCondition (b.dialect types) leaf = .ok part) : leaf.comparesNull = false := by
  unfold Value.comparesNull
  split
  · next key =>
    have hnull := b.childCondition_null types key
    cases htest : (LookupKey.read key).lookup.nullTest? with
    | some test => rfl
    | none =>
      rw [htest] at hnull
      cases hnull.symm.trans h
  · rfl

theorem isRefused_of_comparesNull {leaf : Value} (h : leaf.comparesNull = true) :
    leaf.isRefused = true := by
  unfold Value.comparesNull at h
  split at h
  · next key =>
    rw [Value.isRefused]
    cases hl : (LookupKey.read key).lookup <;> rw [hl] at h <;> first | rfl | cases h
  · cases h

/-- A clause that is written compares no column with null by more than equality. -/
theorem comparesNull_of_conditionClause {c : Clause} {v : Value} {f : Fragment}
    (h : conditionClause (b.dialect types) c v = .ok f) :
    ∀ leaf ∈ v.leaves, leaf.comparesNull = false := by
  cases v with
  | predicate children k negated =>
    cases children with
    | nil =>
      intro leaf hleaf
      cases hleaf
    | cons child children =>
      obtain ⟨inner, hinner, -⟩ := bind_eq_ok.mp h
      obtain ⟨parts, hparts, -⟩ := bind_eq_ok.mp hinner
      intro leaf hleaf
      obtain ⟨part, hpart⟩ := childConditions_of_mem_leaves _ hparts leaf hleaf
      exact comparesNull_eq_false hpart
  | null =>
    intro leaf hleaf
    cases List.mem_singleton.mp hleaf
    rfl
  | _ => cases h

/-- One comparison with null by more than equality is enough to refuse a clause. -/
theorem conditionClause_of_comparesNull {c : Clause} (hc : c = .filter ∨ c = .having) {v : Value}
    (hv : v.IsTestTree) (hnull : ∃ leaf ∈ v.tests, leaf.comparesNull = true) :
    ∃ e, conditionClause (b.dialect types) c v = .error e ∧ e.family = .value := by
  have hplaces : b.places? c = some 1 := by
    rcases hc with rfl | rfl <;> cases b <;> decide
  obtain ⟨leaf, hmem, hleaf⟩ := hnull
  have hfails := failsWith_conditionClause types hplaces hv
  generalize conditionClause (b.dialect types) c v = result at hfails ⊢
  cases hfails with
  | ok f hnone => exact absurd ⟨rfl, leaf, hmem, isRefused_of_comparesNull hleaf⟩ (hnone .value)
  | error e hfault => exact ⟨e, rfl, hfault.1⟩

end Backend

/-- A clause binds null exactly if some leaf compares a column with a list or a range that has null
in it. Null as the whole value of a leaf is never bound: the column is asked whether it is null, or,
where more than equality is asked for, the comparison is refused, and with it the condition. -/
theorem null_bound_iff_null_item (b : Backend) (types : TypeCatalogue) (c : Clause) (v : Value) :
    (∀ f, conditionClause (b.dialect types) c v = .ok f →
      (.null ∈ f.params ↔ ∃ leaf ∈ v.leaves, leaf.comparesNullItem = true) ∧
        ∀ leaf ∈ v.leaves, leaf.comparesNull = false) ∧
    (∀ key, childCondition (b.dialect types) (Predicate.leaf (key, .null)) =
      (LookupKey.read key).lookup.nullTest?.elim (.error .nullComparison) fun test =>
        .ok (some (.ofSql ((b.dialect types).quote (LookupKey.read key).column ++ test)))) ∧
    (c = .filter ∨ c = .having → v.IsTestTree → (∃ leaf ∈ v.tests, leaf.comparesNull = true) →
      ∃ e, conditionClause (b.dialect types) c v = .error e ∧ e.family = .value) := by
  refine ⟨fun f hf => ⟨?_, Backend.comparesNull_of_conditionClause hf⟩,
    b.childCondition_null types, fun hc hv => Backend.conditionClause_of_comparesNull hc hv⟩
  rw [Backend.conditionClause_params hf]
  exact v.null_mem_treeValues_iff

/-- Accounts that are not deleted, unless their number is in a list or their year out of a range. -/
def accountFilter : Value :=
  .predicate [.tuple [.text "deleted_at", .null],
    .predicate [.tuple [.text "id__in", .list [.int 1, .int 2]],
      .tuple [.text "year__notbetween", .tuple [.raw "first", .int 1990]]] .or true] .and false

/-- A node of a condition on groups in which one of two columns is compared with null by order. -/
def orderFilter : Value :=
  .predicate [.predicate [.tuple [.text "total", .int 1], .tuple [.text "year__gt", .null]]
    .or false] .and false

theorem accountFilter_binds_no_null :
    ∃ f, conditionClause (Backend.mysql.dialect .standard) .filter accountFilter = .ok f ∧
      (∀ leaf ∈ accountFilter.leaves, leaf.comparesNullItem = false) ∧ .null ∉ f.params ∧
      (∃ leaf ∈ orderFilter.tests, leaf.comparesNull = true) ∧
      ∃ e, conditionClause (Backend.mysql.dialect .standard) .having orderFilter = .error e ∧
        e.family = .value := by
  obtain ⟨hbound, -, -⟩ := null_bound_iff_null_item .mysql .standard .filter accountFilter
  obtain ⟨-, -, hrefused⟩ := null_bound_iff_null_item .mysql .standard .having orderFilter
  have hsome : (conditionClause (Backend.mysql.dialect .standard) .filter
      accountFilter).toOption.isSome = true := by decide +kernel
  obtain ⟨f, hf⟩ := Option.isSome_iff_exists.mp hsome
  have hresult := toOption_eq_some.mp hf
  have hitems : ∀ leaf ∈ accountFilter.leaves, leaf.comparesNullItem = false := by decide +kernel
  have hnull : ∃ leaf ∈ orderFilter.tests, leaf.comparesNull = true := by decide +kernel
  refine ⟨f, hresult, hitems, ?_, hnull, ?_⟩
  · rw [(hbound f hresult).1]
    rintro ⟨leaf, hleaf, hitem⟩
    rw [hitems leaf hleaf] at hitem
    cases hitem
  · exact hrefused (.inr rfl) ⟨.inr rfl, by decide, by decide +kernel⟩ hnull

/-- Rows whose column is compared with the items of a list. -/
def itemsQuery (lookup : Lookup) (items : List Value) : Query :=
  .single { Statement.select (.text "t") with
    filter := .predicate [.tuple [.text ("a__" ++ lookup.name), .list items]] .and false }

/-- Null is bound where it is an item of a list or an end of a range. -/
theorem nullItems_bound :
    (∃ f, ((itemsQuery .notInList [.int 1, .null]).compile
          (Backend.ansi.dialect .standard)).result = .ok f ∧
        f.sql = "SELECT * FROM \"t\" WHERE \"a\" NOT IN (?, ?)" ∧ f.params = [.int 1, .null]) ∧
      ∃ f, ((itemsQuery .between [.null, .int 5]).compile
          (Backend.ansi.dialect .standard)).result = .ok f ∧
        f.sql = "SELECT * FROM \"t\" WHERE \"a\" BETWEEN ? AND ?" ∧ f.params = [.null, .int 5] :=
  ⟨Backend.compiled_of_sql (by decide +kernel), Backend.compiled_of_sql (by decide +kernel)⟩

end SqlRender
