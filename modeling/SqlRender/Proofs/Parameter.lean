import SqlRender.Proofs.Layout
import SqlRender.Proofs.Phrase
import SqlRender.Proofs.Tree

/-!
# The parameters of a query

Which values a query binds, and in which order, is said by the query alone. A select binds the
values of its filter, of its condition on groups and of the queries joined to it; an insert those of
its rows; an update those that it assigns and those of its filter; a delete those of its filter.
A backend adds slots to its templates, but none of them binds anything, and those that do stand
in the same order on every backend.

* `Query.boundValues`: the values that a query binds.
* `Backend.comparison_params`, `Backend.children_params`: comparisons and the trees above them.
* `Backend.filling_params`: what is bound in a slot.
* `Backend.bindingSlots_eq`: the order of the slots that bind values.
-/

namespace SqlRender

/-! ## The values that are bound -/

/-- Raw SQL is written where another value is bound. -/
def Value.isBound : Value → Bool
  | .raw _ => false
  | _ => true

/-- What stands where a value is put: raw SQL as it is, a marker for any other value. -/
def Value.place : Value → String
  | .raw sql => sql
  | _ => "?"

/-- The values that a lookup binds: none for a test or for null, the items of a list or of a pair, a
pattern around the value, or the value itself. -/
def Lookup.boundValues : Lookup → Value → List Value
  | .isNull, _ => []
  | _, .null => []
  | .inList, v | .notInList, v | .between, v | .notBetween, v =>
    (v.items?.getD []).filter Value.isBound
  | .contains, .raw _ => []
  | .contains, v => [.text ("%" ++ v.display ++ "%")]
  | _, v => [v].filter Value.isBound

namespace Value

/-- The values that a leaf of a condition binds. -/
def leafValues : Value → List Value
  | .tuple [.text key, v] => (LookupKey.read key).lookup.boundValues v
  | _ => []

/-- The values that a condition binds, leaf by leaf. -/
def treeValues (v : Value) : List Value := v.leaves.flatMap leafValues

/-- The values of a row that are bound, in the order of its columns. -/
def rowValues : Value → List Value
  | .map entries => (entries.map Prod.snd).filter isBound
  | _ => []

/-- The values of rows that are bound, row by row; one map is one row. -/
def rowsValues : Value → List Value
  | .list rows | .tuple rows => rows.flatMap rowValues
  | v => v.rowValues

end Value

/-- The values that a statement binds, where the queries that are joined to it bind `operands`. -/
def Statement.boundValues (s : Statement) (operands : List Value) : List Value :=
  match s.kind with
  | .kind .select => s.filter.treeValues ++ s.having.treeValues ++ operands
  | .kind .insert => s.fields.rowsValues
  | .kind .update => s.fields.rowValues ++ s.filter.treeValues
  | .kind .delete => s.filter.treeValues
  | _ => []

namespace Query

mutual

/-- The values that a query binds. -/
def boundValues : Query → List Value
  | .mk s compounds => s.boundValues (operandsValues compounds)

def operandsValues : List (Value × Query) → List Value
  | [] => []
  | operand :: rest => operandValues operand ++ operandsValues rest

def operandValues : Value × Query → List Value
  | (_, q) => boundValues q

end

end Query

/-! ## Places -/

/-- The results of a list of computations, each with what is told of its item. -/
theorem flatMap_eq_of_mapM_eq_ok {α β γ : Type} {write : α → Except Error β} {as : List α}
    {bs : List β} {get : β → List γ} {told : α → List γ} (h : as.mapM write = .ok bs)
    (hwrite : ∀ a ∈ as, ∀ b, write a = .ok b → get b = told a) :
    bs.flatMap get = as.flatMap told := by
  have hall := mapM_eq_ok.mp h
  clear h
  induction hall with
  | nil => rfl
  | @cons a b as bs hab _ ih =>
    rw [List.flatMap_cons, List.flatMap_cons, hwrite a (by simp) b hab,
      ih fun a' ha' => hwrite a' (List.mem_cons_of_mem a ha')]

theorem Fragment.params_ofValue (v : Value) : (ofValue v).params = [v].filter Value.isBound := by
  cases v <;> rfl

theorem Fragment.sql_ofValue (v : Value) : (ofValue v).sql = v.place := by
  cases v <;> rfl

theorem Fragment.params_ofValues (vs : List Value) :
    (vs.flatMap fun v => (ofValue v).params) = vs.filter Value.isBound := by
  induction vs with
  | nil => rfl
  | cons v vs ih =>
    rw [List.flatMap_cons, ih, params_ofValue, ← List.filter_append]
    rfl

theorem Lookup.boundValues_eq (l : Lookup) (v : Value) :
    l.boundValues v = (l.operands v).filter Value.isBound := by
  induction l, v using Lookup.cases_value with
  | isNull v => rfl
  | null l hl => cases l <;> rfl
  | inList v hv | notInList v hv | between v hv | notBetween v hv =>
    rw [boundValues, operands] <;> exact hv
  | contains v hv => cases v <;> first | exact absurd rfl hv | rfl
  | single l v hl hv =>
    rw [operands_single hl hv]
    cases l <;> first
      | exact absurd hl (by decide)
      | rw [boundValues] <;> first | exact hv | (intros; contradiction)

/-! ## Conditions -/

/-- A fragment without text binds nothing. -/
def Fragment.Grounded (f : Fragment) : Prop := f.sql = "" → f.params = []

theorem Fragment.grounded_ofSql (sql : String) : (ofSql sql).Grounded := fun _ => rfl

theorem Fragment.grounded_joined {sep : String} (hsep : sep ≠ "") {fs : List Fragment}
    (h : ∀ f ∈ fs, f.Grounded) : (joined sep fs).Grounded := by
  unfold joined
  split
  · exact fun _ => rfl
  · exact h _ (by simp)
  -- the separator of two fragments is text
  · intro hsql
    simp [append, ofSql, hsep] at hsql

namespace Backend

variable {b : Backend} {types : TypeCatalogue}

theorem comparison_params {l : Lookup} {column : String} {v : Value} {f : Fragment}
    (h : comparison (b.dialect types) l column v = .ok f) : f.params = l.boundValues v := by
  rw [comparison_eq] at h
  obtain ⟨t, ht, rfl⟩ := map_eq_ok.mp h
  rw [Lookup.boundValues_eq, ← (tail_spec ht).1]
  exact Fragment.params_ofValues t.operands

theorem grounded_comparison {l : Lookup} {column : String} {v : Value} {f : Fragment}
    (h : comparison (b.dialect types) l column v = .ok f) : f.Grounded := by
  obtain ⟨t, hsql, hsign, -⟩ := comparison_text types h
  have hstart := startsApart_tail hsign
  intro hempty
  rw [hsql, String.append_eq_empty_iff] at hempty
  rw [hempty.2] at hstart
  cases hstart

/-- The fragment of a node binds what its children bind. -/
theorem connect_params {k : Keyword} {negated : Bool} {parts : List Fragment} {f : Fragment}
    (hparts : ∀ part ∈ parts, part.Grounded)
    (h : connect (b.dialect types) k negated parts = .ok f) :
    f.params = parts.flatMap Fragment.params ∧ f.Grounded := by
  cases parts with
  | nil =>
    cases h
    exact ⟨rfl, fun _ => rfl⟩
  | cons part parts =>
    rw [connect_cons] at h
    obtain ⟨word, -, h⟩ := bind_eq_ok.mp h
    have hsep : " " ++ word ++ " " ≠ "" := by simp
    have hjoined := Fragment.grounded_joined hsep hparts
    have hparams := congrArg Fragment.params
      (Fragment.joined_eq (" " ++ word ++ " ") (part :: parts))
    cases negated with
    | false =>
      cases h
      exact ⟨hparams, hjoined⟩
    | true =>
      obtain ⟨sql, hsql, h⟩ := bind_eq_ok.mp h
      rw [clause_negation] at hsql
      cases hsql
      cases h
      refine ⟨hparams, fun hempty => ?_⟩
      simp at hempty

theorem leaf_params {leaf : Value} (hleaf : ∀ children k n, leaf ≠ .predicate children k n)
    {part : Option Fragment} (h : childCondition (b.dialect types) leaf = .ok part) :
    part.toList.flatMap Fragment.params = leaf.treeValues ∧ ∀ f ∈ part.toList, f.Grounded := by
  rcases childCondition_leaf hleaf h with ⟨sql, rfl, rfl⟩ | ⟨key, v, f, rfl, hf, rfl⟩
  · refine ⟨rfl, fun f hf => ?_⟩
    cases List.mem_singleton.mp hf
    exact Fragment.grounded_ofSql sql
  · obtain ⟨k, hkey, hf⟩ := bind_eq_ok.mp hf
    cases key with
    | text key =>
      cases hkey
      refine ⟨?_, fun g hg => ?_⟩
      · simp [Value.treeValues, Value.leaves, Value.leafValues, comparison_params hf]
      · cases List.mem_singleton.mp hg
        exact grounded_comparison hf
    | _ => cases hkey

mutual

/-- A tree binds what its leaves bind. What is left out because it has no text binds nothing. -/
theorem child_params (v : Value) {part : Option Fragment}
    (h : childCondition (b.dialect types) v = .ok part) :
    part.toList.flatMap Fragment.params = v.treeValues ∧ ∀ f ∈ part.toList, f.Grounded := by
  cases v with
  | predicate children k negated =>
    obtain ⟨parts, hparts, h⟩ := bind_eq_ok.mp h
    obtain ⟨inner, hinner, h⟩ := bind_eq_ok.mp h
    cases h
    obtain ⟨hparams, hgrounded⟩ := children_params children hparts
    obtain ⟨hinner, hempty⟩ := connect_params hgrounded hinner
    have htree : inner.params = (Value.predicate children k negated).treeValues :=
      hinner.trans hparams
    by_cases hsql : inner.sql = ""
    · rw [if_pos hsql, ← htree, hempty hsql]
      exact ⟨rfl, by simp⟩
    · rw [if_neg hsql, ← htree]
      refine ⟨by simp, fun f hf => ?_⟩
      cases List.mem_singleton.mp hf
      intro hnone
      simp at hnone
  | _ => exact leaf_params (by simp) h

theorem children_params (vs : List Value) {parts : List Fragment}
    (h : childConditions (b.dialect types) vs = .ok parts) :
    parts.flatMap Fragment.params = (Value.leavesAll vs).flatMap Value.leafValues ∧
      ∀ f ∈ parts, f.Grounded := by
  cases vs with
  | nil =>
    cases h
    exact ⟨rfl, by simp⟩
  | cons v vs =>
    obtain ⟨part, hpart, h⟩ := bind_eq_ok.mp h
    obtain ⟨rest, hrest, h⟩ := bind_eq_ok.mp h
    cases h
    obtain ⟨hfirst, hgrounded⟩ := child_params v hpart
    obtain ⟨hothers, hgrounded'⟩ := children_params vs hrest
    refine ⟨?_, fun f hf => ?_⟩
    · rw [List.flatMap_append, hfirst, hothers, Value.leavesAll, List.flatMap_append,
        Value.treeValues]
    · rcases List.mem_append.mp hf with hf | hf
      · exact hgrounded f hf
      · exact hgrounded' f hf

end

/-- A clause binds what its condition binds. -/
theorem conditionClause_params {c : Clause} {v : Value} {f : Fragment}
    (h : conditionClause (b.dialect types) c v = .ok f) : f.params = v.treeValues := by
  cases v with
  | null =>
    cases h
    rfl
  | predicate children k negated =>
    cases children with
    | nil =>
      cases h
      rfl
    | cons child children =>
      obtain ⟨inner, hinner, h⟩ := bind_eq_ok.mp h
      obtain ⟨parts, hparts, hinner⟩ := bind_eq_ok.mp hinner
      obtain ⟨hparams, hgrounded⟩ := children_params _ hparts
      obtain ⟨hinner, hempty⟩ := connect_params hgrounded hinner
      have htree : inner.params = (Value.predicate (child :: children) k negated).treeValues :=
        hinner.trans hparams
      by_cases hsql : inner.sql = ""
      · rw [if_pos hsql] at h
        cases h
        rw [← htree, hempty hsql]
        rfl
      · rw [if_neg hsql] at h
        obtain ⟨sql, -, h⟩ := bind_eq_ok.mp h
        cases h
        exact htree
  | _ => cases h

end Backend

/-! ## Rows -/

namespace Statement

theorem rowFragment_params (entries : Mapping) :
    (rowFragment entries).params = (Value.map entries).rowValues := by
  rw [rowFragment, Value.rowValues, ← Fragment.params_ofValues, List.flatMap_map, List.flatMap_map]

theorem matchingRow_params {columns : List Value} {row : Value} {f : Fragment}
    (h : matchingRow columns row = .ok f) : f.params = row.rowValues := by
  obtain ⟨entries, hentries, hrow⟩ := bind_eq_ok.mp h
  cases row with
  | map _ =>
    cases hentries
    split at hrow
    · cases hrow
      exact rowFragment_params entries
    · cases hrow
  | _ => cases hentries

theorem givenRows_values {data : Value} {rows : List Value} (h : givenRows data = .ok rows) :
    rows.flatMap Value.rowValues = data.rowsValues := by
  cases data with
  | map entries =>
    cases h
    simp [Value.rowsValues]
  | list items | tuple items => cases items <;> cases h <;> rfl
  | text s =>
    -- the items of a text are texts, which are no rows
    have hrows : ∀ row ∈ rows, row.rowValues = [] := by
      intro row hrow
      simp only [givenRows, Value.asItems, Value.items?] at h
      split at h
      · cases h
        obtain ⟨c, -, rfl⟩ := List.mem_map.mp hrow
        rfl
      · cases h
        cases hrow
    exact List.flatMap_eq_nil_iff.mpr hrows
  | _ =>
    simp only [givenRows, Value.asItems, Value.items?] at h
    split at h <;> cases h
    rfl

theorem insertRows_values {data : Value} {rows : List Value} (h : insertRows data = .ok rows) :
    rows.flatMap Value.rowValues = data.rowsValues := by
  rw [insertRows_eq] at h
  obtain ⟨given, hgiven, h⟩ := bind_eq_ok.mp h
  split at h
  · cases h
  · cases h
    exact givenRows_values hgiven

theorem valuesFragment_params {data : Value} {f : Fragment} (h : valuesFragment data = .ok f) :
    f.params = data.rowsValues := by
  obtain ⟨rows, hrows, h⟩ := bind_eq_ok.mp h
  rw [← insertRows_values hrows]
  cases rows with
  | nil => cases h
  | cons first rest =>
    obtain ⟨entries, hentries, h⟩ := bind_eq_ok.mp h
    obtain ⟨parts, hparts, h⟩ := bind_eq_ok.mp h
    cases h
    have hfirst : (rowFragment entries).params = first.rowValues := by
      cases first <;> cases hentries
      exact rowFragment_params entries
    have hrest : parts.flatMap Fragment.params = rest.flatMap Value.rowValues :=
      flatMap_eq_of_mapM_eq_ok hparts fun row _ part hpart => matchingRow_params hpart
    rw [List.flatMap_cons, List.flatMap_cons, hfirst, hrest]

theorem assignments_params {d : Dialect} {data : Value} {f : Fragment}
    (h : assignments d data = .ok f) : f.params = data.rowValues := by
  unfold assignments at h
  split at h
  · cases h
  · obtain ⟨entries, hentries, h⟩ := bind_eq_ok.mp h
    obtain ⟨parts, hparts, h⟩ := bind_eq_ok.mp h
    cases h
    cases data <;> cases hentries
    have hplaces : parts.flatMap Fragment.params =
        entries.flatMap fun entry => (Fragment.ofValue entry.2).params :=
      flatMap_eq_of_mapM_eq_ok hparts fun entry _ part hpart => by
        obtain ⟨column, -, hpart⟩ := bind_eq_ok.mp hpart
        cases hpart
        rfl
    rw [Value.rowValues, ← Fragment.params_ofValues, List.flatMap_map]
    exact hplaces

end Statement

/-! ## Slots that bind nothing -/

namespace Statement

/-- Whatever the computation gives binds nothing. -/
def BindsNothing {α : Type} (params : α → List Value) (x : Except Error α) : Prop :=
  ∀ a, x = .ok a → params a = []

section BindsNothing

variable {α β : Type} {params : α → List Value}

theorem bindsNothing_ok {a : α} (h : params a = []) : BindsNothing params (.ok a) := by
  intro a' ha'
  cases ha'
  exact h

theorem bindsNothing_error (e : Error) : BindsNothing params (.error e) := by
  intro a ha
  cases ha

theorem bindsNothing_bind {x : Except Error β} {f : β → Except Error α}
    (h : ∀ b, BindsNothing params (f b)) : BindsNothing params (x >>= f) := by
  intro a ha
  obtain ⟨b, -, hb⟩ := bind_eq_ok.mp ha
  exact h b a hb

theorem bindsNothing_sql (x : Except Error String) :
    BindsNothing Fragment.params (do return .ofSql (← x)) :=
  bindsNothing_bind fun _ => bindsNothing_ok rfl

theorem bindsNothing_asFilling {x : Except Error Fragment} (h : BindsNothing Fragment.params x) :
    BindsNothing Filling.params (asFilling x).result := by
  intro filling hfilling
  obtain ⟨f, hf, rfl⟩ := map_eq_ok.mp hfilling
  exact h f hf

end BindsNothing

variable (d : Dialect)

theorem bindsNothing_nameFragment (v : Value) :
    BindsNothing Fragment.params (nameFragment d v) := by
  unfold nameFragment
  split
  · exact bindsNothing_sql _
  · exact bindsNothing_ok rfl

theorem bindsNothing_distinctFilling (v : Value) :
    BindsNothing Filling.params (distinctFilling d v) := by
  have hnames : BindsNothing Fragment.params (distinctNames d v) := by
    unfold distinctNames
    split
    · exact bindsNothing_sql _
    · exact bindsNothing_bind fun _ => bindsNothing_sql _
  unfold distinctFilling
  split
  · exact bindsNothing_bind fun _ => bindsNothing_ok rfl
  · split
    · exact bindsNothing_asFilling hnames
    · exact bindsNothing_ok rfl

theorem bindsNothing_joinsFragment (joins : List Join) :
    BindsNothing Fragment.params (joinsFragment d joins) :=
  bindsNothing_bind fun _ => bindsNothing_ok rfl

theorem bindsNothing_groupFragment (v : Value) :
    BindsNothing Fragment.params (groupFragment d v) := by
  unfold groupFragment
  split
  · exact bindsNothing_bind fun _ => bindsNothing_bind fun _ => bindsNothing_sql _
  · exact bindsNothing_ok rfl

theorem bindsNothing_orderFragment (v : Value) :
    BindsNothing Fragment.params (orderFragment d v) := by
  unfold orderFragment
  split
  · exact bindsNothing_bind fun _ => bindsNothing_bind fun _ => bindsNothing_sql _
  · exact bindsNothing_ok rfl

theorem bindsNothing_limitFragment (limit offset : Value) :
    BindsNothing Fragment.params (limitFragment d limit offset) := by
  unfold limitFragment
  split
  · exact bindsNothing_ok rfl
  · exact bindsNothing_bind fun _ => bindsNothing_sql _
  · exact bindsNothing_bind fun _ => bindsNothing_sql _
  · exact bindsNothing_bind fun _ => bindsNothing_bind fun _ => bindsNothing_sql _

theorem bindsNothing_returningFragment (v : Value) :
    BindsNothing Fragment.params (returningFragment d v) := by
  unfold returningFragment
  split
  · exact bindsNothing_bind fun _ => bindsNothing_sql _
  · exact bindsNothing_ok rfl

theorem bindsNothing_slotKeyword (slot : String) (key : Value) :
    BindsNothing Filling.params (slotKeyword d slot key).result := by
  rw [slotKeyword, Traced.result_bind]
  refine bindsNothing_bind fun item => ?_
  split <;> exact bindsNothing_ok rfl

theorem bindsNothing_lockFilling (v : Value) :
    BindsNothing Filling.params (lockFilling d v).result := by
  unfold lockFilling
  split
  · exact bindsNothing_ok rfl
  · exact bindsNothing_slotKeyword d "lock" _

theorem bindsNothing_attributeFilling (slot : String) (v : Value) :
    BindsNothing Filling.params (attributeFilling d slot v).result := by
  unfold attributeFilling
  split
  · exact bindsNothing_slotKeyword d slot _
  · split
    · exact bindsNothing_slotKeyword d slot _
    · exact bindsNothing_ok rfl
  · exact bindsNothing_ok rfl
  · split
    · exact bindsNothing_error _
    · exact bindsNothing_ok rfl

theorem bindsNothing_schemaFragment (schema : Option Schema) (write : Schema → Traced String) :
    BindsNothing Filling.params (Fragment.toFilling <$> schemaFragment schema write).result := by
  rw [Traced.result_map]
  refine bindsNothing_asFilling ?_
  unfold schemaFragment
  split
  · exact bindsNothing_ok rfl
  · rw [Traced.result_bind]
    exact bindsNothing_bind fun _ => bindsNothing_ok rfl

end Statement

/-! ## Slots -/

/-- Values can be bound in the slot. -/
def Slot.binds : Slot → Bool
  | .fields | .values | .filter | .having | .compounds => true
  | _ => false

namespace Statement

/-- The values that a statement binds in the slot for its fields. -/
def fieldsValues (s : Statement) : List Value :=
  match s.kind with
  | .kind .update => s.fields.rowValues
  | _ => []

/-- The values that a statement binds in a slot. -/
def slotValues (s : Statement) (operands : List Value) : Slot → List Value
  | .fields => s.fieldsValues
  | .values => s.fields.rowsValues
  | .filter => s.filter.treeValues
  | .having => s.having.treeValues
  | .compounds => operands
  | _ => []

theorem fieldsFragment_params {d : Dialect} {s : Statement} {f : Fragment}
    (h : fieldsFragment d s = .ok f) : f.params = s.fieldsValues := by
  unfold fieldsFragment at h
  unfold fieldsValues
  split at h
  · next hkind =>
    rw [hkind]
    refine (bindsNothing_bind fun _ => bindsNothing_bind fun _ => bindsNothing_bind fun _ => ?_) f h
    exact bindsNothing_ok rfl
  · next hkind =>
    rw [hkind]
    exact assignments_params h
  · next hupdate =>
    split
    · next hkind => exact absurd hkind hupdate
    · exact bindsNothing_sql _ f h

theorem asFilling_params {x : Except Error Fragment} {filling : Filling} {vs : List Value}
    (h : (asFilling x).result = .ok filling) (hx : ∀ f, x = .ok f → f.params = vs) :
    filling.params = vs := by
  obtain ⟨f, hf, rfl⟩ := map_eq_ok.mp h
  exact hx f hf

end Statement

/-- What a statement binds in a slot. -/
theorem Backend.filling_params {b : Backend} {types : TypeCatalogue} {s : Statement}
    {operands : Traced Fragment} {vs : List Value}
    (hoperands : ∀ f, operands.result = .ok f → f.params = vs) {slot : Slot} {x : Filling}
    (h : (s.filling (b.dialect types) operands slot).result = .ok x) :
    x.params = s.slotValues vs slot := by
  cases slot with
  | fields => exact Statement.asFilling_params h fun _ => Statement.fieldsFragment_params
  | values => exact Statement.asFilling_params h fun _ => Statement.valuesFragment_params
  | filter | having => exact Statement.asFilling_params h fun _ => conditionClause_params
  | compounds =>
    rw [Statement.filling, Traced.result_map] at h
    obtain ⟨f, hf, rfl⟩ := map_eq_ok.mp h
    exact hoperands f hf
  | table | index =>
    exact Statement.asFilling_params h (Statement.bindsNothing_nameFragment _ _)
  | distinct => exact Statement.bindsNothing_distinctFilling _ _ x h
  | joins => exact Statement.asFilling_params h (Statement.bindsNothing_joinsFragment _ _)
  | groupBy => exact Statement.asFilling_params h (Statement.bindsNothing_groupFragment _ _)
  | orderBy => exact Statement.asFilling_params h (Statement.bindsNothing_orderFragment _ _)
  | limit => exact Statement.asFilling_params h (Statement.bindsNothing_limitFragment _ _ _)
  | lock => exact Statement.bindsNothing_lockFilling _ _ x h
  | returning => exact Statement.asFilling_params h (Statement.bindsNothing_returningFragment _ _)
  | columns | keys | options => exact Statement.bindsNothing_schemaFragment _ _ x h
  | «attribute» name => exact Statement.bindsNothing_attributeFilling _ _ _ x h

/-! ## Statements and queries -/

/-- The slots of a kind of statement in which values can be bound, in order. -/
def StatementKind.bindingSlots : StatementKind → List Slot
  | .select => [.fields, .filter, .having, .compounds]
  | .insert => [.fields, .values]
  | .update => [.fields, .filter]
  | .delete => [.filter]
  | .createIndex => [.fields]
  | _ => []

theorem Statement.flatMap_slotValues (s : Statement) (vs : List Value) (slots : List Slot) :
    slots.flatMap (s.slotValues vs) = (slots.filter Slot.binds).flatMap (s.slotValues vs) := by
  induction slots with
  | nil => rfl
  | cons slot slots ih =>
    rw [List.flatMap_cons, ih]
    cases slot <;> rfl

namespace Backend

/-- Every backend has the slots that bind values in the same order. -/
theorem bindingSlots_eq {b : Backend} {k : StatementKind}
    (h : (b.templateText? k).isSome = true) :
    ((b.template k).names.map Slot.ofName).filter Slot.binds = k.bindingSlots := by
  cases k with
  | select | insert | update | delete =>
    rw [template_eq b rfl]
    cases b <;> decide
  | _ =>
    cases b
    all_goals
      first
        | exact absurd h (by decide)
        | rw [template_of_text rfl (Template.ofText_ofList _)]
          decide
        | rw [template_of_text rfl (Template.ofText_append _ _)]
          decide

variable {b : Backend} {types : TypeCatalogue}

/-- Only a kind of statement has a template. -/
theorem kind_of_templateOf {v registered : Value}
    (h : (b.dialect types).templateOf v = .ok registered) : ∃ k, v = .kind k := by
  obtain ⟨k, hk⟩ := Registry.key_of_lookup h
  cases v <;> cases hk
  exact ⟨k, rfl⟩

/-- A statement that compiles has a template, whose slots were filled one by one. -/
theorem compile_eq_ok {s : Statement} {operands : Traced Fragment} {f : Fragment}
    (h : (s.compile (b.dialect types) operands).result = .ok f) :
    ∃ k fillings, s.kind = .kind k ∧ (b.templateText? k).isSome = true ∧
      (b.template k).names.mapM (s.slotFilling (b.dialect types) operands) = .ok fillings ∧
      Statement.assemble (b.template k) ((b.template k).names.zip fillings) = .ok f := by
  rw [Statement.result_compile] at h
  obtain ⟨registered, hregistered, h⟩ := bind_eq_ok.mp h
  obtain ⟨k, hkind⟩ := kind_of_templateOf hregistered
  rw [hkind, templateOf_eq] at hregistered
  cases htext : b.templateText? k with
  | none =>
    rw [htext] at hregistered
    cases hregistered
  | some text =>
    rw [htext] at hregistered
    cases hregistered
    obtain ⟨template, htemplate, h⟩ := bind_eq_ok.mp h
    obtain ⟨fillings, hfillings, h⟩ := bind_eq_ok.mp h
    cases htemplate
    have heq : b.template k = .ofText text := by
      rw [template, htext]
      rfl
    refine ⟨k, fillings, hkind, by rw [htext]; rfl, ?_⟩
    rw [heq]
    exact ⟨hfillings, h⟩

theorem statement_params {s : Statement} {operands : Traced Fragment} {vs : List Value}
    (hoperands : ∀ f, operands.result = .ok f → f.params = vs) {f : Fragment}
    (h : (s.compile (b.dialect types) operands).result = .ok f) :
    f.params = s.boundValues vs := by
  obtain ⟨k, fillings, hkind, htext, hfillings, h⟩ := compile_eq_ok h
  obtain ⟨sql, -, h⟩ := bind_eq_ok.mp h
  cases h
  have hlength := (mapM_eq_ok.mp hfillings).length_eq
  calc ((b.template k).names.zip fillings).flatMap (fun entry => entry.2.params)
      = fillings.flatMap Filling.params := by
        rw [← List.flatMap_map (f := Prod.snd) (g := Filling.params),
          List.map_snd_zip (Nat.le_of_eq hlength.symm)]
    _ = (b.template k).names.flatMap fun name => s.slotValues vs (.ofName name) :=
        flatMap_eq_of_mapM_eq_ok hfillings fun name _ x hx => filling_params hoperands hx
    _ = ((b.template k).names.map Slot.ofName).flatMap (s.slotValues vs) := by
        rw [List.flatMap_map]
    _ = k.bindingSlots.flatMap (s.slotValues vs) := by
        rw [Statement.flatMap_slotValues, bindingSlots_eq htext]
    _ = s.boundValues vs := by
        unfold Statement.boundValues
        rw [hkind]
        cases k <;> simp [StatementKind.bindingSlots, Statement.slotValues,
          Statement.fieldsValues, hkind]

mutual

/-- A query binds the same values on every backend. -/
theorem query_params (q : Query) {f : Fragment}
    (h : (q.compile (b.dialect types)).result = .ok f) : f.params = q.boundValues := by
  cases q with
  | mk s compounds =>
    rw [Query.compile] at h
    exact statement_params (fun g hg => operands_params compounds hg) h

theorem operands_params (operands : List (Value × Query)) {f : Fragment}
    (h : (Query.compileOperands (b.dialect types) operands).result = .ok f) :
    f.params = Query.operandsValues operands := by
  cases operands with
  | nil =>
    cases h
    rfl
  | cons operand rest =>
    obtain ⟨clause, q⟩ := operand
    rw [Query.result_compileOperands, Query.result_compileOperand] at h
    obtain ⟨first, hfirst, h⟩ := bind_eq_ok.mp h
    obtain ⟨others, hothers, h⟩ := bind_eq_ok.mp h
    obtain ⟨inner, hinner, hfirst⟩ := bind_eq_ok.mp hfirst
    obtain ⟨sql, -, hfirst⟩ := bind_eq_ok.mp hfirst
    cases h
    cases hfirst
    rw [query_params q hinner, operands_params rest hothers]
    rfl

end

/-- Of a compiled query only the text is left to be worked out. -/
theorem compiled_of_sql {q : Query} {sql : String}
    (h : (q.compile (b.dialect types)).result.toOption.map Fragment.sql = some sql) :
    ∃ f, (q.compile (b.dialect types)).result = .ok f ∧ f.sql = sql ∧
      f.params = q.boundValues := by
  obtain ⟨f, hf, rfl⟩ := Option.map_eq_some_iff.mp h
  have hresult := toOption_eq_some.mp hf
  exact ⟨f, hresult, rfl, query_params q hresult⟩

end Backend

/-- The parameters of a compiled query are the values that the query binds, in the order that the
query gives them, so two backends on which it compiles bind the same. -/
theorem params_eq_boundValues (b : Backend) (types : TypeCatalogue) {q : Query} {f : Fragment}
    (h : (q.compile (b.dialect types)).result = .ok f) :
    f.params = q.boundValues ∧
      ∀ (b' : Backend) (types' : TypeCatalogue) (f' : Fragment),
        (q.compile (b'.dialect types')).result = .ok f' → f'.params = f.params := by
  have hf := Backend.query_params q h
  refine ⟨hf, fun b' types' f' h' => ?_⟩
  rw [hf, Backend.query_params q h']

/-- A select with raw SQL among its values, a node without text, and a query joined to it. -/
def auditQuery : Query :=
  .mk { Statement.select (.text "log") with
        filter := .predicate
          [.tuple [.text "a__in", .list [.int 1, .raw "now()", .text "?"]],
           .predicate [.raw ""] .or false,
           .predicate [.tuple [.text "b__contains", .int 5], .tuple [.text "c__isnull", .bool true]]
             .or true] .and false
        having := .predicate [.tuple [.text "n__between", .tuple [.raw "0", .int 9]]] .and false
        lock := .keyword .forShareLock }
    [(.clause .unionAll, .single { Statement.select (.text "old") with
        filter := .predicate [.tuple [.text "d", .null], .tuple [.text "e__lt", .int 3]] .and
          false })]

theorem auditQuery_params :
    ∃ f g, (auditQuery.compile (Backend.mysql.dialect .standard)).result = .ok f ∧
      (auditQuery.compile (Backend.postgresql.dialect .standard)).result = .ok g ∧
      f.params = [.int 1, .text "?", .text "%5%", .int 9, .int 3] ∧ g.params = f.params := by
  have hf : (auditQuery.compile (Backend.mysql.dialect .standard)).result.toOption.isSome = true :=
    by decide +kernel
  have hg : (auditQuery.compile
      (Backend.postgresql.dialect .standard)).result.toOption.isSome = true := by decide +kernel
  obtain ⟨f, hf⟩ := Option.isSome_iff_exists.mp hf
  obtain ⟨g, hg⟩ := Option.isSome_iff_exists.mp hg
  have hresult := toOption_eq_some.mp hf
  have hresult' := toOption_eq_some.mp hg
  obtain ⟨hparams, hsame⟩ := params_eq_boundValues .mysql .standard hresult
  exact ⟨f, g, hresult, hresult', hparams, hsame _ _ g hresult'⟩

end SqlRender
