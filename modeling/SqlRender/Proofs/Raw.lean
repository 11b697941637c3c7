import SqlRender.Proofs.Comparison

/-!
# Raw SQL in values

The texts that a value puts into a statement as they are. What a statement takes out of a value, as
an item, a child or an operand of a comparison, has no other raw SQL than the value.
-/

namespace SqlRender

namespace Value

mutual

/-- The raw SQL in a value, at any depth. -/
def raws : Value → List String
  | .raw sql => [sql]
  | .list items => rawsAll items
  | .tuple items => rawsAll items
  | .map entries => rawsEntries entries
  | .predicate children _ _ => rawsAll children
  | _ => []

def rawsAll : List Value → List String
  | [] => []
  | item :: rest => raws item ++ rawsAll rest

def rawsEntries : List (Value × Value) → List String
  | [] => []
  | entry :: rest => rawsEntry entry ++ rawsEntries rest

def rawsEntry : Value × Value → List String
  | (key, value) => raws key ++ raws value

end

theorem rawsAll_eq (items : List Value) : rawsAll items = items.flatMap raws := by
  induction items with
  | nil => rfl
  | cons item items ih => rw [rawsAll, ih, List.flatMap_cons]

theorem rawsEntries_eq (entries : List (Value × Value)) :
    rawsEntries entries = entries.flatMap fun entry => raws entry.1 ++ raws entry.2 := by
  induction entries with
  | nil => rfl
  | cons entry entries ih => rw [rawsEntries, ih, List.flatMap_cons, rawsEntry]

theorem mem_rawsAll {v : Value} {vs : List Value} (hv : v ∈ vs) : v.raws ⊆ rawsAll vs := by
  intro sql hsql
  rw [rawsAll_eq]
  exact List.mem_flatMap.mpr ⟨v, hv, hsql⟩

theorem raws_item {v : Value} {items : List Value} (hitems : v.items? = some items) {item : Value}
    (hitem : item ∈ items) : item.raws ⊆ v.raws := by
  cases v with
  | list vs | tuple vs =>
    cases hitems
    rw [raws]
    exact mem_rawsAll hitem
  | map entries =>
    cases hitems
    obtain ⟨entry, hentry, rfl⟩ := List.mem_map.mp hitem
    intro sql hsql
    rw [raws, rawsEntries_eq]
    exact List.mem_flatMap.mpr ⟨entry, hentry, List.mem_append_left _ hsql⟩
  | text s =>
    cases hitems
    obtain ⟨c, -, rfl⟩ := List.mem_map.mp hitem
    intro sql hsql
    cases hsql
  | _ => cases hitems

theorem raws_entry {entries : Mapping} {e : Value × Value} (he : e ∈ entries) :
    e.2.raws ⊆ (Value.map entries).raws := by
  intro sql hsql
  rw [raws, rawsEntries_eq]
  exact List.mem_flatMap.mpr ⟨e, he, List.mem_append_right _ hsql⟩

theorem raws_child {children : List Value} {k : Keyword} {negated : Bool} {child : Value}
    (hchild : child ∈ children) : child.raws ⊆ (Value.predicate children k negated).raws := by
  rw [raws]
  exact mem_rawsAll hchild

theorem raws_containsPattern (v : Value) : (containsPattern v).raws ⊆ v.raws := by
  unfold containsPattern
  split
  · exact List.Subset.refl _
  · simp [raws]

end Value

theorem Lookup.raws_operand {l : Lookup} {v w : Value} (hw : w ∈ l.operands v) :
    w.raws ⊆ v.raws := by
  have hitem : w ∈ v.items?.getD [] → w.raws ⊆ v.raws := by
    intro hw
    cases hitems : v.items? with
    | none =>
      rw [hitems] at hw
      cases hw
    | some items =>
      rw [hitems] at hw
      exact Value.raws_item hitems hw
  unfold operands at hw
  split at hw
  · cases hw
  · cases hw
  · exact hitem hw
  · exact hitem hw
  · exact hitem hw
  · exact hitem hw
  · cases List.mem_singleton.mp hw
    exact Value.raws_containsPattern v
  · cases List.mem_singleton.mp hw
    exact List.Subset.refl _

end SqlRender
