import SqlRender.Proofs.Bundled
import SqlRender.Proofs.Correspondence

/-!
# Conditions as trees

The nodes of a condition are predicates; all else in it is a leaf. In the bundled dialects the text
of a node is made of the texts of its children with AND or OR between them and NOT in front.

* `childCondition_leaf`: the leaves that have a condition are raw SQL and lookups.
* `Backend.connect_eq`: the condition of a node with children that have one.
-/

namespace SqlRender

/-! ## Nodes and leaves -/

namespace Value

mutual

/-- The connectors of the nodes of a tree. -/
def connectors : Value → List Keyword
  | .predicate children connector _ => connector :: connectorsAll children
  | _ => []

def connectorsAll : List Value → List Keyword
  | [] => []
  | child :: rest => connectors child ++ connectorsAll rest

end

theorem connectorsAll_eq (vs : List Value) : connectorsAll vs = vs.flatMap connectors := by
  induction vs with
  | nil => rfl
  | cons v vs ih => rw [connectorsAll, ih, List.flatMap_cons]

/-- Every node has AND or OR between its children. -/
def Connected (v : Value) : Prop := ∀ k ∈ v.connectors, k = .and ∨ k = .or

instance (v : Value) : Decidable v.Connected :=
  inferInstanceAs (Decidable (∀ k ∈ v.connectors, k = .and ∨ k = .or))

theorem connected_predicate {children : List Value} {k : Keyword} {negated : Bool} :
    (predicate children k negated).Connected ↔
      (k = .and ∨ k = .or) ∧ ∀ v ∈ children, v.Connected := by
  constructor
  · intro h
    refine ⟨h k (by simp [connectors]), fun v hv k' hk' => h k' (List.mem_cons_of_mem k ?_)⟩
    rw [connectorsAll_eq]
    exact List.mem_flatMap.mpr ⟨v, hv, hk'⟩
  · rintro ⟨hk, hchildren⟩ k' hk'
    rw [connectors, connectorsAll_eq] at hk'
    rcases List.mem_cons.mp hk' with rfl | hk'
    · exact hk
    · obtain ⟨v, hv, hk'⟩ := List.mem_flatMap.mp hk'
      exact hchildren v hv k' hk'

mutual

/-- The leaves of a tree, from the left. -/
def leaves : Value → List Value
  | .predicate children _ _ => leavesAll children
  | leaf => [leaf]

def leavesAll : List Value → List Value
  | [] => []
  | child :: rest => leaves child ++ leavesAll rest

end

end Value

/-- A leaf that has a condition is raw SQL or a lookup. -/
theorem childCondition_leaf {d : Dialect} {leaf : Value}
    (hleaf : ∀ children k n, leaf ≠ .predicate children k n) {part : Option Fragment}
    (h : childCondition d leaf = .ok part) :
    (∃ sql, leaf = .raw sql ∧ part = some (.ofSql sql)) ∨
      ∃ key value f, leaf = .tuple [key, value] ∧ lookupCondition d key value = .ok f ∧
        part = some f := by
  unfold childCondition at h
  split at h
  · next children k n => exact absurd rfl (hleaf children k n)
  · next sql =>
    cases h
    exact .inl ⟨sql, rfl, rfl⟩
  · next key value =>
    obtain ⟨f, hf, h⟩ := bind_eq_ok.mp h
    cases h
    exact .inr ⟨key, value, f, rfl, hf, rfl⟩
  · cases h
  · cases h

/-! ## Nodes of bundled dialects -/

/-- The word of a connector. -/
def Keyword.word : Keyword → String
  | .or => "OR"
  | _ => "AND"

/-- The fragment of a node whose children have these fragments. -/
def nodeFragment (k : Keyword) (negated : Bool) (parts : List Fragment) : Fragment :=
  let inner := Fragment.joined (" " ++ k.word ++ " ") parts
  if negated then ⟨"NOT (" ++ inner.sql ++ ")", inner.params⟩ else inner

namespace Backend

variable {b : Backend} (types : TypeCatalogue)

theorem keywordText_connector {k : Keyword} (hk : k = .and ∨ k = .or) :
    (b.dialect types).keywordText k = .ok k.word := by
  have h : b.keywordText? k = some k.word := by
    rcases hk with rfl | rfl <;> cases b <;> decide
  rw [keywordText_eq, h]
  rfl

theorem clause_negation (sql : String) :
    (b.dialect types).clause .negation [sql] = .ok ("NOT (" ++ sql ++ ")") := by
  have h : b.formatTexts? .negation = some ("NOT (".toList, [")".toList]) := by
    cases b <;> decide
  exact clause_one types h sql

theorem connect_eq {k : Keyword} (hk : k = .and ∨ k = .or) (negated : Bool) (part : Fragment)
    (parts : List Fragment) :
    connect (b.dialect types) k negated (part :: parts) =
      .ok (nodeFragment k negated (part :: parts)) := by
  rw [connect_cons, keywordText_connector types hk]
  cases negated with
  | false => rfl
  | true =>
    show Fragment.enclosed _ _ _ = _
    rw [Fragment.enclosed, clause_negation]
    rfl

end Backend

end SqlRender
