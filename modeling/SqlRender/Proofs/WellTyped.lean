import SqlRender.Proofs.Alignment
import SqlRender.Proofs.Filling

/-!
# Statements whose parts have the shapes that they are meant to have

Nothing checks a statement before it is compiled. Where names are texts, lists are lists of names
and counts are whole numbers, most slots can always be filled on the bundled backends: every symbol
that is asked for is registered, and every format has as many places as it is given arguments.

* `Statement.WellTyped`, `Query.WellTyped`: the shapes of the parts of a statement and of a query.
* `FailsWith`: a computation that fails exactly if there is a fault.
* `Backend.exists_ok_clause`: a format with as many places as arguments gives a text.
* `Backend.exists_ok_fieldList` and its like: the slots that can always be filled.
-/

namespace SqlRender

/-! ## Shapes -/

namespace Value

def isText : Value → Bool
  | .text _ => true
  | _ => false

theorem exists_text {v : Value} (h : v.isText = true) : ∃ s, v = .text s := by
  cases v with
  | text s => exact ⟨s, rfl⟩
  | _ => cases h

/-- The name of a column, or raw SQL. -/
def isColumn : Value → Bool
  | .text _ | .raw _ => true
  | _ => false

/-- A column, or a column with the name that it is given. -/
def isField : Value → Bool
  | .tuple [column, label] => column.isColumn && label.isText
  | v => v.isColumn

/-- A list or tuple of such items. -/
def isListOf (p : Value → Bool) : Value → Bool
  | .list items | .tuple items => items.all p
  | _ => false

/-- What rows are told apart by: all columns or none, or names. -/
def isDistinct : Value → Bool
  | .null | .bool _ | .text _ => true
  | v => v.isListOf isText

/-- A number of rows, or none given. -/
def isCount : Value → Bool
  | .null | .int _ | .bool _ => true
  | _ => false

def isLock : Value → Bool
  | .null | .keyword _ => true
  | _ => false

/-- Values under the names of columns. -/
def isRow : Value → Bool
  | .map entries => entries.all fun entry => entry.1.isText
  | _ => false

/-- One row, or a list of rows. -/
def isRows (v : Value) : Bool := v.isRow || v.isListOf isRow

/-- What the fields of a statement of a kind are. -/
def isFields : StatementKind → Value → Bool
  | .select, v => v.isListOf isField
  | .insert, v => v.isRows
  | .update, v => v.isRow
  | _, _ => true

/-- A value that a slot without a rule of its own may be given. -/
def isAttribute : Value → Bool
  | .keyword _ | .raw _ | .bool true => true
  | v => !v.isTrue

end Value

/-- The value that a comparison is meant for: a list for membership, a pair for a range. -/
def Lookup.takes : Lookup → Value → Bool
  | .inList, v | .notInList, v =>
    match v with
    | .null | .list _ | .tuple _ => true
    | _ => false
  | .between, v | .notBetween, v =>
    match v with
    | .null | .list [_, _] | .tuple [_, _] => true
    | _ => false
  | _, _ => true

namespace Value

/-- A leaf of a condition: raw SQL, or a lookup with a value that its comparison is meant for. -/
def isTest : Value → Bool
  | .raw _ => true
  | .tuple [.text key, v] => (LookupKey.read key).lookup.takes v
  | _ => false

/-- The leaves of a condition. -/
def tests : Value → List Value
  | .predicate children connector negated => leaves (.predicate children connector negated)
  | _ => []

/-- No condition, or a tree of raw SQL and lookups with AND and OR between them. -/
structure IsTestTree (v : Value) : Prop where
  isTree : v = .null ∨ (Predicate.ofValue? v).isSome = true
  connected : v.Connected
  tests : ∀ leaf ∈ v.tests, leaf.isTest = true

end Value

def Clause.isJoin (c : Clause) : Bool :=
  c ∈ [.innerJoin, .leftJoin, .rightJoin, .outerJoin, .straightJoin]

/-- A statement that reads or changes rows and whose parts have the shapes that they are meant to
have. -/
structure Statement.WellTyped (k : StatementKind) (s : Statement) : Prop where
  kind : s.kind = .kind k
  isData : k.isData = true
  table : s.table.isText = true
  fields : s.fields.isFields k = true
  distinct : s.distinct.isDistinct = true
  joins : ∀ j ∈ s.joins, j.kind.isJoin = true
  filter : s.filter.IsTestTree
  having : s.having.IsTestTree
  groupBy : s.groupBy.isListOf Value.isColumn = true
  orderBy : s.orderBy.isListOf Value.isColumn = true
  limit : s.limit.isCount = true
  offset : s.offset.isCount = true
  lock : s.lock.isLock = true
  returning : s.returning.isListOf Value.isField = true
  attributes : ∀ entry ∈ s.attributes, entry.2.isAttribute = true

/-- A query of such statements, to which set operations join selects. -/
inductive Query.WellTyped : Query → Prop
  | mk {k : StatementKind} {s : Statement} {compounds : List (Value × Query)} : s.WellTyped k →
      (∀ operand ∈ compounds, operand.1.isSetOperation = true ∧
        operand.2.statement.kind = .kind .select) →
      (∀ operand ∈ compounds, WellTyped operand.2) → WellTyped (.mk s compounds)

/-! ## Computations that fail exactly if there is a fault -/

/-- A computation that fails exactly if there is a fault: `F` says which families of errors the
faults that there are lead to. -/
inductive FailsWith {α : Type} (F : Error.Family → Prop) : Except Error α → Prop
  | ok (a : α) : (∀ family, ¬F family) → FailsWith F (.ok a)
  | error (e : Error) : F e.family → FailsWith F (.error e)

namespace FailsWith

variable {α β : Type} {F G : Error.Family → Prop} {x : Except Error α}

theorem of_exists_ok (h : ∃ a, x = .ok a) (hF : ∀ family, ¬F family) : FailsWith F x := by
  obtain ⟨a, rfl⟩ := h
  exact .ok a hF

theorem congr (h : FailsWith F x) (hFG : ∀ family, F family ↔ G family) : FailsWith G x := by
  cases h with
  | ok a hF => exact .ok a fun family hG => hF family ((hFG family).mpr hG)
  | error e hF => exact .error e ((hFG e.family).mp hF)

/-- One computation after the other fails with the faults of both. -/
theorem bind (h : FailsWith F x) {f : α → Except Error β}
    (hf : ∀ a, x = .ok a → FailsWith G (f a)) :
    FailsWith (fun family => F family ∨ G family) (x >>= f) := by
  cases h with
  | ok a hF => exact (hf a rfl).congr fun family => (or_iff_right (hF family)).symm
  | error e hF => exact .error e (.inl hF)

/-- What goes on without faults adds none. -/
theorem bind_ok (h : FailsWith F x) {f : α → Except Error β}
    (hf : ∀ a, x = .ok a → ∃ b, f a = .ok b) : FailsWith F (x >>= f) := by
  have hboth := h.bind (G := fun _ => False) fun a ha => of_exists_ok (hf a ha) fun _ => id
  exact hboth.congr fun family => or_iff_left id

theorem map (h : FailsWith F x) (f : α → β) : FailsWith F (f <$> x) := by
  rw [map_eq_pure_bind]
  exact h.bind_ok fun a _ => ⟨f a, rfl⟩

theorem mapM {F : β → Error.Family → Prop} {f : β → Except Error α} {bs : List β}
    (h : ∀ b ∈ bs, FailsWith (F b) (f b)) :
    FailsWith (fun family => ∃ b ∈ bs, F b family) (bs.mapM f) := by
  induction bs with
  | nil => exact .ok [] (by simp)
  | cons b bs ih =>
    have hrest := ih fun b' hb' => h b' (List.mem_cons_of_mem b hb')
    rw [List.mapM_cons]
    refine ((h b List.mem_cons_self).bind fun a _ => hrest.bind_ok fun as _ => ?_).congr ?_
    · exact ⟨a :: as, rfl⟩
    · simp

end FailsWith

theorem exists_ok_bind {α β : Type} {x : Except Error α} {f : α → Except Error β}
    (h : ∃ a, x = .ok a) (hf : ∀ a, x = .ok a → ∃ b, f a = .ok b) : ∃ b, (x >>= f) = .ok b := by
  obtain ⟨a, rfl⟩ := h
  exact hf a rfl

theorem exists_ok_mapM {α β : Type} {f : α → Except Error β} {as : List α}
    (h : ∀ a ∈ as, ∃ b, f a = .ok b) : ∃ bs, as.mapM f = .ok bs := by
  have hall := FailsWith.mapM (F := fun _ _ => False) fun a ha =>
    FailsWith.of_exists_ok (h a ha) fun _ => id
  generalize as.mapM f = y at hall
  cases hall with
  | ok bs _ => exact ⟨bs, rfl⟩
  | error e he => simp at he

/-- A list of items of a shape is written item by item. -/
theorem Value.exists_ok_items {p : Value → Bool} {v : Value} (h : v.isListOf p = true)
    {write : Value → Except Error String}
    (hwrite : ∀ item, p item = true → ∃ t, write item = .ok t) :
    ∃ ts, (v.asItems >>= fun items => items.mapM write) = .ok ts := by
  have hitems : ∀ items : List Value, items.all p = true → ∃ ts, items.mapM write = .ok ts := by
    intro items hall
    exact exists_ok_mapM fun item hitem => hwrite item (List.all_eq_true.mp hall item hitem)
  cases v with
  | list items => exact hitems items h
  | tuple items => exact hitems items h
  | _ => cases h

/-! ## Formats and their places -/

namespace Backend

variable {b : Backend} (types : TypeCatalogue)

/-- The number of places of the format of a clause. -/
def places? (b : Backend) (c : Clause) : Option Nat := (b.formatTexts? c).map fun f => f.2.length

/-- A format with as many places as arguments gives a text. -/
theorem exists_ok_clause {c : Clause} (args : List String) (h : b.places? c = some args.length) :
    ∃ t, (b.dialect types).clause c args = .ok t := by
  obtain ⟨⟨text, texts⟩, htexts, hlength⟩ := Option.map_eq_some_iff.mp h
  rw [clause_eq types htexts, if_pos hlength.symm]
  exact ⟨_, rfl⟩

theorem places?_join {c : Clause} (h : c.isJoin = true) : b.places? c = some 2 := by
  cases c with
  | innerJoin | leftJoin | rightJoin | outerJoin | straightJoin => cases b <;> decide
  | _ => exact absurd h (by decide)

/-! ## Slots that can always be filled -/

theorem exists_ok_quoteName {v : Value} (h : v.isText = true) :
    ∃ t, (b.dialect types).quoteName v = .ok t := by
  cases v with
  | text s => exact ⟨_, rfl⟩
  | _ => cases h

theorem exists_ok_quoteNames {vs : List Value} (h : ∀ v ∈ vs, v.isText = true) :
    ∃ t, (b.dialect types).quoteNames vs = .ok t :=
  exists_ok_bind (exists_ok_mapM fun v hv => exists_ok_quoteName types (h v hv)) fun _ _ => ⟨_, rfl⟩

theorem exists_ok_nameFragment {v : Value} (h : v.isText = true) :
    ∃ f, Statement.nameFragment (b.dialect types) v = .ok f := by
  obtain ⟨t, ht⟩ := exists_ok_quoteName types h
  rw [Statement.nameFragment, ht]
  split
  · exact ⟨_, rfl⟩
  · exact ⟨_, rfl⟩

theorem exists_ok_columnText {v : Value} (h : v.isColumn = true) :
    ∃ t, Statement.columnText (b.dialect types) v = .ok t := by
  cases v with
  | text s => exact ⟨_, rfl⟩
  | raw sql => exact ⟨_, rfl⟩
  | _ => cases h

theorem exists_ok_fieldText {v : Value} (h : v.isField = true) :
    ∃ t, Statement.fieldText (b.dialect types) v = .ok t := by
  have hplaces : b.places? .asAlias = some 2 := by
    cases b <;> decide
  unfold Value.isField at h
  split at h
  · next column label =>
    obtain ⟨hcolumn, hlabel⟩ := Bool.and_eq_true_iff.mp h
    obtain ⟨t, ht⟩ := exists_ok_columnText types hcolumn
    cases label with
    | text s =>
      obtain ⟨sql, hsql⟩ := exists_ok_clause types [t, _] hplaces
      refine ⟨sql, ?_⟩
      show (Statement.columnText (b.dialect types) column >>= _) = _
      rw [ht]
      exact hsql
    | _ => cases hlabel
  · next hv =>
    cases v with
    | text s => exact ⟨_, rfl⟩
    | raw sql => exact ⟨_, rfl⟩
    | _ => cases h

theorem exists_ok_fieldList {v : Value} (h : v.isListOf Value.isField = true) :
    ∃ t, Statement.fieldList (b.dialect types) v = .ok t := by
  have hitems := Value.exists_ok_items h fun _ => exists_ok_fieldText (b := b) types
  rw [Statement.fieldList, ← bind_assoc]
  exact exists_ok_bind hitems fun _ _ => ⟨_, rfl⟩

theorem exists_ok_joinText {j : Join} (h : j.kind.isJoin = true) :
    ∃ t, Statement.joinText (b.dialect types) j = .ok t := by
  have hand := keywordText_connector (b := b) types (k := .and) (.inl rfl)
  rw [Statement.joinText, hand]
  exact exists_ok_clause types [_, _] (places?_join h)

theorem exists_ok_joinsFragment {joins : List Join} (h : ∀ j ∈ joins, j.kind.isJoin = true) :
    ∃ f, Statement.joinsFragment (b.dialect types) joins = .ok f :=
  exists_ok_bind (exists_ok_mapM fun j hj => exists_ok_joinText types (h j hj)) fun _ _ => ⟨_, rfl⟩

theorem exists_ok_clauseFragment {c : Clause} (h : b.places? c = some 1) (t : String) :
    ∃ f, (do return Fragment.ofSql (← (b.dialect types).clause c [t])) = Except.ok f :=
  exists_ok_bind (exists_ok_clause types [t] h) fun _ _ => ⟨_, rfl⟩

theorem exists_ok_groupFragment {v : Value} (h : v.isListOf Value.isColumn = true) :
    ∃ f, Statement.groupFragment (b.dialect types) v = .ok f := by
  have hplaces : b.places? .groupBy = some 1 := by
    cases b <;> decide
  have hitems := Value.exists_ok_items h fun _ => exists_ok_columnText (b := b) types
  unfold Statement.groupFragment
  split
  · rw [← bind_assoc]
    exact exists_ok_bind hitems fun ts _ => exists_ok_clauseFragment types hplaces _
  · exact ⟨_, rfl⟩

theorem exists_ok_orderText {v : Value} (h : v.isColumn = true) :
    ∃ t, Statement.orderText (b.dialect types) v = .ok t := by
  have hdesc : b.keywordText? .desc = some "DESC" := by
    cases b <;> decide
  cases v with
  | raw sql => exact ⟨sql, rfl⟩
  | text s =>
    rw [Statement.orderText]
    split
    · rw [keywordText_eq, hdesc]
      exact ⟨_, rfl⟩
    · exact ⟨_, rfl⟩
  | _ => cases h

theorem exists_ok_orderFragment {v : Value} (h : v.isListOf Value.isColumn = true) :
    ∃ f, Statement.orderFragment (b.dialect types) v = .ok f := by
  have hplaces : b.places? .orderBy = some 1 := by
    cases b <;> decide
  have hitems := Value.exists_ok_items h fun _ => exists_ok_orderText (b := b) types
  unfold Statement.orderFragment
  split
  · rw [← bind_assoc]
    exact exists_ok_bind hitems fun ts _ => exists_ok_clauseFragment types hplaces _
  · exact ⟨_, rfl⟩

/-- Only one backend has a clause for what a change returns. -/
theorem exists_ok_returningFragment {v : Value} (h : v.isListOf Value.isField = true) :
    ∃ f, Statement.returningFragment (Backend.postgresql.dialect types) v = .ok f := by
  unfold Statement.returningFragment
  split
  · exact exists_ok_bind (exists_ok_fieldList types h) fun _ _ =>
      exists_ok_clauseFragment types (by decide) _
  · exact ⟨_, rfl⟩

theorem exists_ok_slotKeyword (slot : String) (k : Keyword) :
    ∃ x, (Statement.slotKeyword (b.dialect types) slot (.keyword k)).result = .ok x := by
  rw [result_slotKeyword]
  exact ⟨_, rfl⟩

theorem exists_ok_lockFilling {v : Value} (h : v.isLock = true) :
    ∃ x, (Statement.lockFilling (b.dialect types) v).result = .ok x := by
  cases v with
  | null => exact ⟨_, rfl⟩
  | keyword k => exact exists_ok_slotKeyword types "lock" k
  | _ => cases h

theorem exists_ok_attributeFilling (slot : String) {v : Value} (h : v.isAttribute = true) :
    ∃ x, (Statement.attributeFilling (b.dialect types) slot v).result = .ok x := by
  unfold Statement.attributeFilling
  split
  · next k => exact exists_ok_slotKeyword types slot k
  · split
    · next k _ => exact exists_ok_slotKeyword types slot k
    · exact ⟨_, rfl⟩
  · exact ⟨_, rfl⟩
  · next hkeyword htrue hraw =>
    have hfalse : v.isTrue = false := by
      unfold Value.isAttribute at h
      split at h
      · next k => exact absurd rfl (hkeyword k)
      · next sql => exact absurd rfl (hraw sql)
      · exact absurd rfl htrue
      · simpa using h
    rw [hfalse]
    exact ⟨_, rfl⟩

end Backend

end SqlRender
