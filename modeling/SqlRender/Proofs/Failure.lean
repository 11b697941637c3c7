import SqlRender.Proofs.WellTyped

/-!
# When a compilation fails

A well-typed query compiles on a bundled backend unless it has one of a few faults, and if it has
one, its compilation fails: names that distinct rows are told apart by, where the backend has no
clause for them; a comparison with null, with no value at all, or with one to be contained that has
no text; a change without assignments; rows that are missing, empty or of different columns; a
number of rows with too many digits.

* `Statement.Fault`, `Query.Fault`: the faults, each with the family of its errors.
* `Backend.failsWith_slot`: a slot cannot be filled exactly if it has a fault.
* `compile_fails_iff_fault`: a compilation fails exactly if the query has a fault.
* `longLimit_fails`: a limit can have too many digits.
-/

namespace SqlRender

/-! ## Faults -/

/-- A comparison that is refused: with null, where more than equality is asked for, with an empty
list, and with a value to be contained that has no text. -/
def Lookup.refuses : Lookup → Value → Bool
  | .exact, _ | .ne, _ | .isNull, _ => false
  | _, .null => true
  | .inList, .list [] | .inList, .tuple [] | .notInList, .list [] | .notInList, .tuple [] => true
  | .contains, v => !v.isWritable
  | _, _ => false

theorem Lookup.refuses_single {l : Lookup} {v : Value} (hl : l.isSingle = true) (hv : v ≠ .null) :
    l.refuses v = false := by
  unfold refuses
  split <;> simp_all [isSingle]

theorem Lookup.refuses_contains {v : Value} (hv : v ≠ .null) :
    Lookup.contains.refuses v = !v.isWritable := by
  cases v <;> first | exact absurd rfl hv | rfl

namespace Value

/-- A leaf whose comparison is refused. -/
def isRefused : Value → Bool
  | .tuple [.text key, v] => (LookupKey.read key).lookup.refuses v
  | _ => false

/-- Distinct rows are told apart by names. -/
def givesNames : Value → Bool
  | .bool _ => false
  | v => v.isTrue

/-- The rows that an insert is given. -/
def rows : Value → List Value
  | .map entries => [.map entries]
  | .list items | .tuple items => items
  | _ => []

/-- The columns of a row. -/
def columns : Value → List Value
  | .map entries => entries.map Prod.fst
  | _ => []

/-- There is no row, or an empty one. -/
def LacksRow (v : Value) : Prop := v.rows = [] ∨ ∃ row ∈ v.rows, row.columns = []

/-- There are rows of different columns. -/
def RowsDiffer (v : Value) : Prop :=
  ∃ row ∈ v.rows, ∃ row' ∈ v.rows, row.columns ≠ row'.columns

/-- The number of rows that is asked for, zero if none is. -/
def count : Value → Int
  | .int n => n
  | .bool true => 1
  | _ => 0

theorem asInt_eq_count {v : Value} (h : v.isCount = true) (hnull : v ≠ .null) :
    v.asInt = .ok v.count := by
  cases v with
  | null => exact absurd rfl hnull
  | int n => rfl
  | bool flag => cases flag <;> rfl
  | _ => cases h

theorem count_null : count .null = 0 := rfl

theorem count_of_isTrue_eq_false {v : Value} (h : v.isTrue = false) : v.count = 0 := by
  cases v with
  | int n => simpa [isTrue, count] using h
  | bool flag =>
    cases flag with
    | false => rfl
    | true => cases h
  | _ => rfl

end Value

theorem Text.isWritable_zero : isWritable 0 = true := by
  decide +kernel

/-- The statements that take a number of rows. -/
def Backend.limits (b : Backend) : StatementKind → Bool
  | .select => true
  | .update | .delete => b = .mysql
  | _ => false

/-- The faults of a statement of a kind on a backend, each with the family of its errors. -/
inductive Statement.Fault (b : Backend) (s : Statement) : StatementKind → Error.Family → Prop
  | distinctNames : b ≠ .postgresql → s.distinct.givesNames = true →
      Fault b s .select .unknownSymbol
  | filter {k : StatementKind} {leaf : Value} : k ≠ .insert → leaf ∈ s.filter.tests →
      leaf.isRefused = true → Fault b s k .value
  | having {leaf : Value} : leaf ∈ s.having.tests → leaf.isRefused = true →
      Fault b s .select .value
  | noAssignment : s.fields.columns = [] → Fault b s .update .value
  | noRow : s.fields.rows = [] → Fault b s .insert .value
  | emptyRow {row : Value} : row ∈ s.fields.rows → row.columns = [] → Fault b s .insert .value
  | rowsDiffer {row row' : Value} : row ∈ s.fields.rows → row' ∈ s.fields.rows →
      row.columns ≠ row'.columns → Fault b s .insert .value
  | longCount {k : StatementKind} {n : Value} : b.limits k = true → n ∈ [s.limit, s.offset] →
      Text.isWritable n.count = false → Fault b s k .value

theorem Statement.Fault.of_lacksRow {b : Backend} {s : Statement} (h : s.fields.LacksRow) :
    s.Fault b .insert .value := by
  rcases h with hrows | ⟨row, hrow, hcolumns⟩
  · exact .noRow hrows
  · exact .emptyRow hrow hcolumns

/-- The faults of a query: those of its statement, and for a select those of its operands. -/
inductive Query.Fault (b : Backend) : Query → Error.Family → Prop
  | own {k : StatementKind} {s : Statement} {compounds : List (Value × Query)}
      {family : Error.Family} : s.kind = .kind k → s.Fault b k family →
      Fault b (.mk s compounds) family
  | operand {s : Statement} {compounds : List (Value × Query)} {operand : Value × Query}
      {family : Error.Family} : s.kind = .kind .select → operand ∈ compounds →
      Fault b operand.2 family → Fault b (.mk s compounds) family

/-! ## Conditions -/

namespace Backend

variable {b : Backend} (types : TypeCatalogue)

/-- A comparison with a value that it is meant for fails exactly if it is refused. -/
theorem failsWith_tail {l : Lookup} {v : Value} (h : l.takes v = true) :
    FailsWith (fun family => family = .value ∧ l.refuses v = true) (b.tail l v) := by
  induction l, v using Lookup.cases_value with
  | isNull v => exact .ok _ (by simp [Lookup.refuses])
  | null l hl =>
    cases l with
    | exact | ne => exact .ok _ (by simp [Lookup.refuses])
    | isNull => exact absurd rfl hl
    | _ => exact .error .nullComparison ⟨rfl, rfl⟩
  | inList v hv | notInList v hv =>
    cases v with
    | null => exact absurd rfl hv
    | list items | tuple items =>
      cases items with
      | nil => exact .error (.emptyLookup _) ⟨rfl, rfl⟩
      | cons item items => exact .ok _ (by simp [Lookup.refuses])
    | _ => cases h
  | between v hv | notBetween v hv =>
    cases v with
    | null => exact absurd rfl hv
    | list items | tuple items =>
      match items, h with
      | [low, high], _ => exact .ok _ (by simp [Lookup.refuses])
    | _ => cases h
  | contains v hv =>
    rw [tail, Lookup.refuses_contains hv, Value.shown]
    · cases v.isWritable with
      | true => exact .ok _ (by simp)
      | false => exact .error .badValue ⟨rfl, rfl⟩
    · exact hv
  | single l v hl hv =>
    rw [tail_single hl hv]
    exact .ok _ (by simp [Lookup.refuses_single hl hv])

theorem failsWith_leaf {leaf : Value} (h : leaf.isTest = true) :
    FailsWith (fun family => family = .value ∧ leaf.isRefused = true)
      (childCondition (b.dialect types) leaf) := by
  unfold Value.isTest at h
  split at h
  · exact .ok _ (by simp [Value.isRefused])
  · next key v =>
    rw [childCondition, lookupCondition]
    show FailsWith _ (comparison (b.dialect types) _ _ v >>= _)
    rw [comparison_eq]
    exact ((failsWith_tail h).map _).bind_ok fun _ _ => ⟨_, rfl⟩
  · cases h

theorem exists_ok_connect {k : Keyword} (hk : k = .and ∨ k = .or) (negated : Bool)
    (parts : List Fragment) : ∃ f, connect (b.dialect types) k negated parts = .ok f := by
  cases parts with
  | nil => exact ⟨_, rfl⟩
  | cons part parts => exact ⟨_, connect_eq types hk negated part parts⟩

mutual

/-- A tree fails exactly if one of its leaves is refused. -/
theorem failsWith_child (v : Value) (hk : v.Connected) (h : ∀ leaf ∈ v.leaves, leaf.isTest = true) :
    FailsWith (fun family => family = .value ∧ ∃ leaf ∈ v.leaves, leaf.isRefused = true)
      (childCondition (b.dialect types) v) := by
  cases v with
  | predicate children k negated =>
    obtain ⟨hk, hchildren⟩ := Value.connected_predicate.mp hk
    refine (failsWith_children children hchildren h).bind_ok fun parts _ => ?_
    exact exists_ok_bind (exists_ok_connect types hk negated parts) fun _ _ => ⟨_, rfl⟩
  | _ =>
    have hleaf := failsWith_leaf (b := b) types (h _ List.mem_cons_self)
    exact hleaf.congr fun family => by simp [Value.leaves]

theorem failsWith_children (vs : List Value) (hk : ∀ v ∈ vs, v.Connected)
    (h : ∀ leaf ∈ Value.leavesAll vs, leaf.isTest = true) :
    FailsWith (fun family => family = .value ∧ ∃ leaf ∈ Value.leavesAll vs, leaf.isRefused = true)
      (childConditions (b.dialect types) vs) := by
  cases vs with
  | nil => exact .ok [] (by simp [Value.leavesAll])
  | cons v vs =>
    have hfirst := failsWith_child v (hk v List.mem_cons_self) fun leaf hleaf =>
      h leaf (List.mem_append_left _ hleaf)
    have hrest := failsWith_children vs (fun v' hv' => hk v' (List.mem_cons_of_mem v hv'))
      fun leaf hleaf => h leaf (List.mem_append_right _ hleaf)
    refine (hfirst.bind fun part _ => hrest.bind_ok fun parts _ => ⟨_, rfl⟩).congr fun family => ?_
    rw [← and_or_left, Value.leavesAll]
    simp only [List.mem_append, or_and_right, exists_or]

end

theorem failsWith_conditionClause {c : Clause} (hc : b.places? c = some 1) {v : Value}
    (hv : v.IsTestTree) :
    FailsWith (fun family => family = .value ∧ ∃ leaf ∈ v.tests, leaf.isRefused = true)
      (conditionClause (b.dialect types) c v) := by
  cases v with
  | null => exact .ok _ (by simp [Value.tests])
  | predicate children k negated =>
    obtain ⟨hk, hchildren⟩ := Value.connected_predicate.mp hv.connected
    cases children with
    | nil => exact .ok _ (by simp [Value.tests, Value.leaves, Value.leavesAll])
    | cons child children =>
      have hinner := (failsWith_children (b := b) types _ hchildren hv.tests).bind_ok
        fun parts _ => exists_ok_connect (b := b) types hk negated parts
      refine hinner.bind_ok fun inner _ => ?_
      split
      · exact ⟨_, rfl⟩
      · exact exists_ok_bind (exists_ok_clause types [inner.sql] hc) fun _ _ => ⟨_, rfl⟩
  | _ => exact absurd hv.isTree (by simp [Predicate.ofValue?])

/-! ## Distinct rows -/

/-- Only one backend has a clause for names that distinct rows are told apart by. -/
theorem failsWith_distinctOn (t : String) :
    FailsWith (fun family => family = .unknownSymbol ∧ b ≠ .postgresql)
      ((b.dialect types).clause .distinctOn [t]) := by
  by_cases hb : b = .postgresql
  · have hplaces : b.places? .distinctOn = some 1 := by
      subst hb
      decide
    exact .of_exists_ok (exists_ok_clause types [t] hplaces) (by simp [hb])
  · have hnone : b.clauseText? .distinctOn = none := by
      cases b <;> first | exact absurd rfl hb | decide
    rw [Dialect.clause, Dialect.clauseOf, formatOf_eq, hnone]
    exact .error _ ⟨rfl, hb⟩

theorem failsWith_distinctNames {v : Value} (h : v.isText = true ∨ v.isListOf Value.isText = true) :
    FailsWith (fun family => family = .unknownSymbol ∧ b ≠ .postgresql)
      (Statement.distinctNames (b.dialect types) v) := by
  unfold Statement.distinctNames
  split
  · exact (failsWith_distinctOn types _).bind_ok fun _ _ => ⟨_, rfl⟩
  · next hv =>
    have hlist : v.isListOf Value.isText = true := by
      cases v with
      | text s => exact absurd rfl (hv s)
      | _ => simpa [Value.isText] using h
    obtain ⟨t, ht⟩ : ∃ t, (b.dialect types).quoteList v = .ok t := by
      have hitems := Value.exists_ok_items hlist fun _ => exists_ok_quoteName (b := b) types
      unfold Dialect.quoteList Dialect.quoteNames
      rw [← bind_assoc]
      exact exists_ok_bind hitems fun _ _ => ⟨_, rfl⟩
    rw [ht]
    exact (failsWith_distinctOn types t).bind_ok fun _ _ => ⟨_, rfl⟩

theorem failsWith_distinctFilling {v : Value} (h : v.isDistinct = true) :
    FailsWith (fun family => family = .unknownSymbol ∧ b ≠ .postgresql ∧ v.givesNames = true)
      (Statement.distinctFilling (b.dialect types) v) := by
  unfold Statement.distinctFilling
  split
  · rw [formatOf_distinct]
    exact .ok _ (by simp [Value.givesNames])
  · next hv =>
    by_cases htrue : v.isTrue = true
    · have hnames : (v.isText = true ∨ v.isListOf Value.isText = true) ∧ v.givesNames = true := by
        cases v with
        | null => cases htrue
        | bool flag => cases flag <;> simp_all [Value.isTrue]
        | _ => simp_all [Value.isDistinct, Value.givesNames, Value.isText, Value.isListOf]
      rw [if_pos htrue]
      refine ((failsWith_distinctNames types hnames.1).map _).congr fun family => ?_
      simp [hnames.2]
    · have hnone : v.givesNames = false := by
        cases v <;> simp_all [Value.givesNames]
      rw [if_neg htrue]
      exact .ok _ (by simp [hnone])

/-! ## Numbers of rows -/

theorem failsWith_write (text : List Char) {texts : List (List Char)} {ns : List Int}
    (h : texts.length = ns.length) :
    FailsWith (fun family => family = .value ∧ ∃ n ∈ ns, Text.isWritable n = false)
      (Format.write text texts (ns.map .int)) := by
  induction ns generalizing text texts with
  | nil =>
    cases texts with
    | nil => exact .ok _ (by simp)
    | cons next texts => cases h
  | cons n ns ih =>
    cases texts with
    | nil => cases h
    | cons next texts =>
      have hrest := ih next (Nat.succ.inj h)
      cases hn : Text.isWritable n with
      | false =>
        have hshown : (Value.int n).shown Value.display = .error .badValue := by
          simp [Value.shown, Value.isWritable, hn]
        rw [List.map_cons, Format.write, hshown]
        exact .error _ ⟨rfl, n, List.mem_cons_self, hn⟩
      | true =>
        have hshown : (Value.int n).shown Value.display =
            .ok (Value.display (.int n)) := by
          simp [Value.shown, Value.isWritable, hn]
        rw [List.map_cons, Format.write, hshown]
        refine FailsWith.congr (hrest.bind_ok fun _ _ => ⟨_, rfl⟩) fun family => ?_
        simp [hn]

/-- A clause with a number in each of its places. -/
theorem failsWith_numbers {c : Clause} (ns : List Int) (h : b.places? c = some ns.length) :
    FailsWith (fun family => family = .value ∧ ∃ n ∈ ns, Text.isWritable n = false)
      ((b.dialect types).clauseOf (.clause c) (ns.map .int)) := by
  obtain ⟨⟨text, texts⟩, htexts, hlength⟩ := Option.map_eq_some_iff.mp h
  obtain ⟨format, hformat, htexts⟩ := Option.bind_eq_some_iff.mp htexts
  rw [Dialect.clauseOf, formatOf_eq, hformat]
  show FailsWith _ (Format.apply format (.ofList (ns.map .int)))
  rw [Format.apply, Format.fill_eq_write htexts]
  exact (failsWith_write text hlength).bind_ok fun _ _ => ⟨_, rfl⟩

theorem failsWith_limitFragment {limit offset : Value} (hlimit : limit.isCount = true)
    (hoffset : offset.isCount = true) :
    FailsWith (fun family => family = .value ∧
        ∃ n ∈ [limit, offset], Text.isWritable n.count = false)
      (Statement.limitFragment (b.dialect types) limit offset) := by
  have hoffsetPlaces : b.places? .offset = some 1 := by
    cases b <;> decide
  have hlimitPlaces : b.places? .limit = some 1 := by
    cases b <;> decide
  have hbothPlaces : b.places? .limitOffset = some 2 := by
    cases b <;> decide
  unfold Statement.limitFragment
  split
  · next hfalse =>
    have hzero := Value.count_of_isTrue_eq_false hfalse
    exact .ok _ (by simp [hzero, Value.count_null, Text.isWritable_zero])
  · next htrue =>
    have hnull : offset ≠ .null := by
      rintro rfl
      cases htrue
    rw [Value.asInt_eq_count hoffset hnull]
    refine ((failsWith_numbers types [offset.count] hoffsetPlaces).bind_ok
      fun _ _ => ⟨_, rfl⟩).congr fun family => ?_
    simp [Value.count_null, Text.isWritable_zero]
  · next limit _ _ hnull hfalse =>
    rw [Value.asInt_eq_count hlimit hnull]
    refine ((failsWith_numbers types [limit.count] hlimitPlaces).bind_ok
      fun _ _ => ⟨_, rfl⟩).congr fun family => ?_
    simp [Value.count_of_isTrue_eq_false hfalse, Text.isWritable_zero]
  · next limit _ _ hnull htrue =>
    have hoffsetNull : offset ≠ .null := by
      rintro rfl
      cases htrue
    rw [Value.asInt_eq_count hlimit hnull, Value.asInt_eq_count hoffset hoffsetNull]
    refine ((failsWith_numbers types [limit.count, offset.count] hbothPlaces).bind_ok
      fun _ _ => ⟨_, rfl⟩).congr fun family => ?_
    simp

/-! ## Rows -/

end Backend

namespace Value

theorem isText_of_isRow {v : Value} (h : v.isRow = true) :
    ∀ name ∈ v.columns, name.isText = true := by
  cases v with
  | map entries =>
    intro name hname
    obtain ⟨entry, hentry, rfl⟩ := List.mem_map.mp hname
    exact List.all_eq_true.mp h entry hentry
  | _ => cases h

theorem exists_map_of_isRow {v : Value} (h : v.isRow = true) : ∃ entries, v = .map entries := by
  cases v with
  | map entries => exact ⟨entries, rfl⟩
  | _ => cases h

theorem isTrue_eq_false_iff_of_isRow {v : Value} (h : v.isRow = true) :
    v.isTrue = false ↔ v.columns = [] := by
  obtain ⟨entries, rfl⟩ := exists_map_of_isRow h
  simp [isTrue, columns]

/-- Rows differ exactly if one of them differs from the first. -/
theorem rowsDiffer_iff {v first : Value} {rest : List Value} (h : v.rows = first :: rest) :
    v.RowsDiffer ↔ ∃ row ∈ rest, row.columns ≠ first.columns := by
  rw [RowsDiffer, h]
  constructor
  · rintro ⟨row, hrow, row', hrow', hne⟩
    by_contra hnone
    have hsame : ∀ row ∈ first :: rest, row.columns = first.columns := by
      intro row hrow
      rcases List.mem_cons.mp hrow with rfl | hrow
      · rfl
      · by_contra hne
        exact hnone ⟨row, hrow, hne⟩
    exact hne ((hsame row hrow).trans (hsame row' hrow').symm)
  · rintro ⟨row, hrow, hne⟩
    exact ⟨row, List.mem_cons_of_mem first hrow, first, List.mem_cons_self, hne⟩

/-- Names are equal as values exactly if they are the same. -/
theorem sameAll_iff_eq {vs ws : List Value} (hvs : ∀ v ∈ vs, v.isText = true)
    (hws : ∀ w ∈ ws, w.isText = true) : sameAll vs ws = true ↔ vs = ws := by
  have hall : sameAll? vs ws = some true ↔ vs = ws := by
    induction vs generalizing ws with
    | nil => cases ws <;> simp [sameAll?]
    | cons v vs ih =>
      cases ws with
      | nil => simp [sameAll?]
      | cons w ws =>
        obtain ⟨s, rfl⟩ := exists_text (hvs v List.mem_cons_self)
        obtain ⟨t, rfl⟩ := exists_text (hws w List.mem_cons_self)
        have hrest := ih (fun v hv => hvs v (List.mem_cons_of_mem _ hv))
          fun w hw => hws w (List.mem_cons_of_mem _ hw)
        by_cases hst : s = t
        · simp [sameAll?, same?, hst, hrest]
        · simp [sameAll?, same?, hst]
  simpa [sameAll] using hall

end Value

namespace Statement

/-- The rows that an insert is given are its rows. -/
theorem givenRows_eq {v : Value} (h : v.isRows = true) : givenRows v = .ok v.rows := by
  cases v with
  | map entries => rfl
  | list items | tuple items => cases items <;> rfl
  | _ => cases h

theorem isRow_of_mem_rows {v row : Value} (h : v.isRows = true) (hrow : row ∈ v.rows) :
    row.isRow = true := by
  cases v with
  | map entries =>
    cases List.mem_singleton.mp hrow
    simpa [Value.isRows, Value.isListOf] using h
  | list items | tuple items => exact List.all_eq_true.mp h row hrow
  | _ => cases h

theorem insertRows_cases {v : Value} (h : v.isRows = true) :
    insertRows v = .ok v.rows ∧ ¬v.LacksRow ∨ insertRows v = .error .noRow ∧ v.LacksRow := by
  have hlacks : (v.rows.isEmpty || !v.rows.all Value.isTrue) = true ↔ v.LacksRow := by
    have hempty : ∀ row ∈ v.rows, row.isTrue = false ↔ row.columns = [] := fun row hrow =>
      Value.isTrue_eq_false_iff_of_isRow (isRow_of_mem_rows h hrow)
    simp only [Value.LacksRow, Bool.or_eq_true, List.isEmpty_iff, Bool.not_eq_true',
      List.all_eq_false, Bool.not_eq_true]
    exact or_congr_right (exists_congr fun row => and_congr_right (hempty row))
  rw [insertRows_eq, givenRows_eq h, ← hlacks]
  by_cases hcheck : (v.rows.isEmpty || !v.rows.all Value.isTrue) = true
  · refine .inr ⟨?_, hcheck⟩
    show (if _ then _ else _) = _
    rw [if_pos hcheck]
    rfl
  · refine .inl ⟨?_, hcheck⟩
    show (if _ then _ else _) = _
    rw [if_neg hcheck]
    rfl

theorem failsWith_insertRows {v : Value} (h : v.isRows = true) :
    FailsWith (fun family => family = .value ∧ v.LacksRow) (insertRows v) := by
  rcases insertRows_cases h with ⟨heq, hlacks⟩ | ⟨heq, hlacks⟩
  · rw [heq]
    exact .ok _ (by simp [hlacks])
  · rw [heq]
    exact .error _ ⟨rfl, hlacks⟩

/-- The rows of an insert that has rows: a first one and the others. -/
theorem exists_rows {v : Value} (h : v.isRows = true) {rows : List Value}
    (hrows : insertRows v = .ok rows) :
    ∃ entries rest, rows = .map entries :: rest ∧ v.rows = .map entries :: rest := by
  rcases insertRows_cases h with ⟨heq, hlacks⟩ | ⟨heq, -⟩
  · cases hrows.symm.trans heq
    cases hv : v.rows with
    | nil => exact absurd (.inl hv) hlacks
    | cons first rest =>
      have hfirst := isRow_of_mem_rows h (hv ▸ List.mem_cons_self)
      obtain ⟨entries, rfl⟩ := Value.exists_map_of_isRow hfirst
      exact ⟨entries, rest, rfl, rfl⟩
  · cases hrows.symm.trans heq

theorem failsWith_insertFields {b : Backend} (types : TypeCatalogue) {v : Value}
    (h : v.isRows = true) :
    FailsWith (fun family => family = .value ∧ v.LacksRow) (insertFields (b.dialect types) v) := by
  refine (failsWith_insertRows h).bind_ok fun rows hrows => ?_
  obtain ⟨entries, rest, rfl, hv⟩ := exists_rows h hrows
  have hfirst := isRow_of_mem_rows h (hv ▸ List.mem_cons_self)
  have hnames := Backend.exists_ok_quoteNames (b := b) types (Value.isText_of_isRow hfirst)
  show ∃ f, ((b.dialect types).quoteNames _ >>= _) = .ok f
  exact exists_ok_bind hnames fun _ _ => ⟨_, rfl⟩

theorem failsWith_matchingRow {row : Value} (h : row.isRow = true) {columns : List Value}
    (hcolumns : ∀ name ∈ columns, name.isText = true) :
    FailsWith (fun family => family = .value ∧ row.columns ≠ columns)
      (matchingRow columns row) := by
  obtain ⟨entries, rfl⟩ := Value.exists_map_of_isRow h
  have hsame := Value.sameAll_iff_eq (Value.isText_of_isRow h) hcolumns
  show FailsWith _ (if _ then _ else _)
  split
  · next hyes => exact .ok _ (by simp [hsame.mp hyes])
  · next hno => exact .error _ ⟨rfl, mt hsame.mpr hno⟩

theorem failsWith_valuesFragment {v : Value} (h : v.isRows = true) :
    FailsWith (fun family => family = .value ∧ (v.LacksRow ∨ v.RowsDiffer))
      (valuesFragment v) := by
  refine ((failsWith_insertRows h).bind (G := fun family => family = .value ∧ v.RowsDiffer)
    fun rows hrows => ?_).congr fun family => and_or_left.symm
  obtain ⟨entries, rest, rfl, hv⟩ := exists_rows h hrows
  have hmem : ∀ row ∈ Value.map entries :: rest, row.isRow = true := fun row hrow =>
    isRow_of_mem_rows h (hv ▸ hrow)
  have hnames := Value.isText_of_isRow (hmem _ List.mem_cons_self)
  have hrest := FailsWith.mapM fun row hrow =>
    failsWith_matchingRow (hmem row (List.mem_cons_of_mem _ hrow)) hnames
  show FailsWith _ (rest.mapM _ >>= _)
  refine (hrest.bind_ok fun _ _ => ⟨_, rfl⟩).congr fun family => ?_
  rw [Value.rowsDiffer_iff hv]
  constructor
  · rintro ⟨row, hrow, hfamily, hne⟩
    exact ⟨hfamily, row, hrow, hne⟩
  · rintro ⟨hfamily, row, hrow, hne⟩
    exact ⟨row, hrow, hfamily, hne⟩

theorem failsWith_assignments {b : Backend} (types : TypeCatalogue) {v : Value}
    (h : v.isRow = true) :
    FailsWith (fun family => family = .value ∧ v.columns = [])
      (assignments (b.dialect types) v) := by
  have hnames := Value.isText_of_isRow h
  obtain ⟨entries, rfl⟩ := Value.exists_map_of_isRow h
  cases entries with
  | nil => exact .error _ ⟨rfl, rfl⟩
  | cons entry entries =>
    refine .of_exists_ok ?_ (by simp [Value.columns])
    show ∃ f, ((entry :: entries).mapM (assignment (b.dialect types)) >>= _) = .ok f
    refine exists_ok_bind (exists_ok_mapM fun entry hentry => ?_) fun _ _ => ⟨_, rfl⟩
    have hname := hnames entry.1 (List.mem_map_of_mem hentry)
    exact exists_ok_bind (Backend.exists_ok_quoteName types hname) fun _ _ => ⟨_, rfl⟩

end Statement

/-! ## Slots -/

/-- The faults that keep a slot from being filled, where `operand` gives those of the queries that
set operations join to the statement. -/
def Statement.slotFault (b : Backend) (k : StatementKind) (s : Statement)
    (operand : Error.Family → Prop) : Slot → Error.Family → Prop
  | .distinct, family =>
    family = .unknownSymbol ∧ b ≠ .postgresql ∧ s.distinct.givesNames = true
  | .fields, family =>
    family = .value ∧ (k = .insert ∧ s.fields.LacksRow ∨ k = .update ∧ s.fields.columns = [])
  | .values, family => family = .value ∧ (s.fields.LacksRow ∨ s.fields.RowsDiffer)
  | .filter, family => family = .value ∧ ∃ leaf ∈ s.filter.tests, leaf.isRefused = true
  | .having, family => family = .value ∧ ∃ leaf ∈ s.having.tests, leaf.isRefused = true
  | .limit, family =>
    family = .value ∧ ∃ n ∈ [s.limit, s.offset], Text.isWritable n.count = false
  | .compounds, family => operand family
  | _, _ => False

/-- Where a slot stands: only in templates for some kinds of statements, or of some backends. -/
def Slot.standsIn (b : Backend) (k : StatementKind) : Slot → Bool
  | .index | .columns | .keys | .options => false
  | .distinct | .having | .compounds => k = .select
  | .fields => k ≠ .delete
  | .values => k = .insert
  | .filter => k ≠ .insert
  | .limit => b.limits k
  | .returning => b = .postgresql
  | _ => true

namespace Backend

variable {b : Backend} {k : StatementKind} {s : Statement} {operands : Traced Fragment}
  {operand : Error.Family → Prop}

theorem standsIn_of_mem_names (hk : k.isData = true) :
    ∀ name ∈ (b.template k).names, (Slot.ofName name).standsIn b k = true := by
  rw [b.template_eq hk, Template.names_ofPlan]
  cases k with
  | select | insert | update | delete => cases b <;> decide
  | _ => cases hk

theorem failsWith_fieldsFragment (types : TypeCatalogue) (hs : s.WellTyped k)
    (hk : k ≠ .delete) :
    FailsWith (s.slotFault b k operand .fields) (s.fieldsFragment (b.dialect types)) := by
  have hfields := hs.fields
  rw [Statement.fieldsFragment, hs.kind]
  cases k with
  | select =>
    refine .of_exists_ok ?_ (by simp [Statement.slotFault])
    exact exists_ok_bind (exists_ok_fieldList types hfields) fun _ _ => ⟨_, rfl⟩
  | insert =>
    exact (Statement.failsWith_insertFields types hfields).congr fun family => by
      simp [Statement.slotFault]
  | update =>
    exact (Statement.failsWith_assignments types hfields).congr fun family => by
      simp [Statement.slotFault]
  | delete => exact absurd rfl hk
  | _ => cases hs.isData

theorem isAttribute_find (hs : s.WellTyped k) (name : String) :
    (s.attributes.find name).isAttribute = true := by
  rw [Mapping.find]
  cases hget : Assoc.get? (.text name) s.attributes with
  | none => rfl
  | some v =>
    obtain ⟨key, -, hmem⟩ := Assoc.mem_of_get? hget
    exact hs.attributes (key, v) hmem

/-- A slot of a well-typed statement cannot be filled exactly if it has a fault. -/
theorem failsWith_slot (types : TypeCatalogue) (hs : s.WellTyped k)
    (hoperands : FailsWith operand operands.result) {slot : Slot}
    (hslot : slot.standsIn b k = true) :
    FailsWith (s.slotFault b k operand slot)
      (s.filling (b.dialect types) operands slot).result := by
  have hfilter : b.places? .filter = some 1 := by
    cases b <;> decide
  have hhaving : b.places? .having = some 1 := by
    cases b <;> decide
  -- a slot without faults: `x` is what it is filled from
  have hnever : ∀ {slot : Slot} {x : Except Error Fragment}, (∃ f, x = .ok f) →
      (∀ family, ¬s.slotFault b k operand slot family) →
      FailsWith (s.slotFault b k operand slot) (Statement.asFilling x).result :=
    fun hx hslot => (FailsWith.of_exists_ok hx hslot).map _
  cases slot with
  | table => exact hnever (exists_ok_nameFragment types hs.table) fun _ => id
  | fields => exact (failsWith_fieldsFragment types hs (of_decide_eq_true hslot)).map _
  | values =>
    have hfields := hs.fields
    rw [of_decide_eq_true hslot] at hfields
    exact (Statement.failsWith_valuesFragment hfields).map _
  | distinct => exact failsWith_distinctFilling types hs.distinct
  | joins => exact hnever (exists_ok_joinsFragment types hs.joins) fun _ => id
  | filter => exact (failsWith_conditionClause types hfilter hs.filter).map _
  | having => exact (failsWith_conditionClause types hhaving hs.having).map _
  | groupBy => exact hnever (exists_ok_groupFragment types hs.groupBy) fun _ => id
  | orderBy => exact hnever (exists_ok_orderFragment types hs.orderBy) fun _ => id
  | limit => exact (failsWith_limitFragment types hs.limit hs.offset).map _
  | lock => exact .of_exists_ok (exists_ok_lockFilling types hs.lock) fun _ => id
  | compounds =>
    rw [Statement.filling, Traced.result_map]
    exact hoperands.map _
  | returning =>
    cases of_decide_eq_true hslot
    exact hnever (exists_ok_returningFragment types hs.returning) fun _ => id
  | «attribute» name =>
    exact .of_exists_ok (exists_ok_attributeFilling types name (isAttribute_find hs name))
      fun _ => id
  | index | columns | keys | options => cases hslot

/-- The faults of the slots of a template are those of the statement, and for a select those of its
operands. -/
theorem exists_slotFault_iff (hk : k.isData = true) {family : Error.Family} :
    (∃ name ∈ (b.template k).names, s.slotFault b k operand (.ofName name) family) ↔
      s.Fault b k family ∨ k = .select ∧ operand family := by
  constructor
  · rintro ⟨name, hname, hfault⟩
    have hslot := standsIn_of_mem_names hk name hname
    generalize Slot.ofName name = slot at hslot hfault
    cases slot with
    | distinct =>
      obtain ⟨rfl, hb, hnames⟩ := hfault
      cases of_decide_eq_true hslot
      exact .inl (.distinctNames hb hnames)
    | fields =>
      obtain ⟨rfl, ⟨rfl, hlacks⟩ | ⟨rfl, hcolumns⟩⟩ := hfault
      · exact .inl (.of_lacksRow hlacks)
      · exact .inl (.noAssignment hcolumns)
    | values =>
      cases of_decide_eq_true hslot
      obtain ⟨rfl, hlacks | ⟨row, hrow, row', hrow', hne⟩⟩ := hfault
      · exact .inl (.of_lacksRow hlacks)
      · exact .inl (.rowsDiffer hrow hrow' hne)
    | filter =>
      obtain ⟨rfl, leaf, hleaf, hrefused⟩ := hfault
      exact .inl (.filter (of_decide_eq_true hslot) hleaf hrefused)
    | having =>
      obtain ⟨rfl, leaf, hleaf, hrefused⟩ := hfault
      cases of_decide_eq_true hslot
      exact .inl (.having hleaf hrefused)
    | limit =>
      obtain ⟨rfl, n, hn, hlong⟩ := hfault
      exact .inl (.longCount hslot hn hlong)
    | compounds => exact .inr ⟨of_decide_eq_true hslot, hfault⟩
    | _ => cases hfault
  · have hmem : ∀ {name : String}, name ∈ (b.plan k).2.map Prod.fst →
        name ∈ (b.template k).names := by
      intro name hname
      rwa [b.template_eq hk, Template.names_ofPlan]
    rintro (hfault | ⟨rfl, hfault⟩)
    · cases hfault with
      | distinctNames hb hnames =>
        exact ⟨"distinct", hmem (by cases b <;> decide), rfl, hb, hnames⟩
      | filter hinsert hleaf hrefused =>
        exact ⟨"where", (b.template_regular hk).filter hinsert, rfl, _, hleaf, hrefused⟩
      | having hleaf hrefused =>
        exact ⟨"having", hmem (by cases b <;> decide), rfl, _, hleaf, hrefused⟩
      | noAssignment hcolumns =>
        exact ⟨"fields", hmem (by cases b <;> decide), rfl, .inr ⟨rfl, hcolumns⟩⟩
      | noRow hrows =>
        exact ⟨"fields", hmem (by cases b <;> decide), rfl, .inl ⟨rfl, .inl hrows⟩⟩
      | emptyRow hrow hcolumns =>
        exact ⟨"fields", hmem (by cases b <;> decide), rfl, .inl ⟨rfl, .inr ⟨_, hrow, hcolumns⟩⟩⟩
      | rowsDiffer hrow hrow' hne =>
        exact ⟨"values", hmem (by cases b <;> decide), rfl, .inr ⟨_, hrow, _, hrow', hne⟩⟩
      | longCount hlimits hn hlong =>
        refine ⟨"limit", hmem ?_, rfl, _, hn, hlong⟩
        cases k with
        | select => cases b <;> decide
        | update | delete =>
          cases of_decide_eq_true hlimits
          decide
        | _ => cases hlimits
    · exact ⟨"compounds", hmem (by cases b <;> decide), hfault⟩

/-! ## Statements and queries -/

/-- A well-typed statement fails exactly if it has a fault, or is a select and its operands have
one. -/
theorem failsWith_statement (types : TypeCatalogue) (hs : s.WellTyped k)
    (hoperands : FailsWith operand operands.result) :
    FailsWith (fun family => s.Fault b k family ∨ k = .select ∧ operand family)
      (s.compile (b.dialect types) operands).result := by
  have hslots := FailsWith.mapM fun name hname =>
    failsWith_slot types hs hoperands (standsIn_of_mem_names (b := b) hs.isData name hname)
  rw [result_compile types hs.kind hs.isData]
  refine (hslots.bind_ok fun fillings hfillings => ?_).congr fun family =>
    exists_slotFault_iff hs.isData
  obtain ⟨parts, rfl⟩ := exists_fragments hfillings
  have hlength := (mapM_eq_ok.mp hfillings).length_eq
  have hnodup := (template_regular b hs.isData).nodup
  exact ⟨_, Statement.assemble_eq hnodup (by simpa using hlength.symm)⟩

theorem exists_ok_operand (types : TypeCatalogue) {clause : Value}
    (h : clause.isSetOperation = true) (f : Fragment) :
    ∃ g, f.operand (b.dialect types) clause = .ok g := by
  cases clause with
  | clause c =>
    have hplaces : b.places? c = some 1 := by
      cases c with
      | union | unionAll | intersect | intersectAll | except | exceptAll => cases b <;> decide
      | _ => exact absurd h (by decide)
    exact exists_ok_bind (exists_ok_clause types [f.sql] hplaces) fun _ _ => ⟨_, rfl⟩
  | _ => cases h

mutual

/-- A well-typed query fails exactly if it has a fault. -/
theorem failsWith_compile (types : TypeCatalogue) (q : Query) (h : q.WellTyped) :
    FailsWith (q.Fault b) (q.compile (b.dialect types)).result := by
  cases h with
  | @mk k s compounds hs hoperations hoperands =>
    have hall := failsWith_operands types compounds (fun operand ho => (hoperations operand ho).1)
      hoperands
    rw [Query.compile]
    refine (failsWith_statement types hs hall).congr fun family => ?_
    constructor
    · rintro (hfault | ⟨rfl, operand, hmem, hfault⟩)
      · exact .own hs.kind hfault
      · exact .operand hs.kind hmem hfault
    · intro hfault
      cases hfault with
      | own hkind hfault =>
        cases hkind.symm.trans hs.kind
        exact .inl hfault
      | operand hkind hmem hfault =>
        cases hkind.symm.trans hs.kind
        exact .inr ⟨rfl, _, hmem, hfault⟩

theorem failsWith_operands (types : TypeCatalogue) (compounds : List (Value × Query))
    (hoperations : ∀ operand ∈ compounds, operand.1.isSetOperation = true)
    (h : ∀ operand ∈ compounds, operand.2.WellTyped) :
    FailsWith (fun family => ∃ operand ∈ compounds, operand.2.Fault b family)
      (Query.compileOperands (b.dialect types) compounds).result := by
  cases compounds with
  | nil => exact .ok _ (by simp)
  | cons operand rest =>
    obtain ⟨clause, q⟩ := operand
    have hclause := hoperations _ List.mem_cons_self
    have hfirst := (failsWith_compile types q (h _ List.mem_cons_self)).bind_ok fun f _ =>
      exists_ok_operand (b := b) types hclause f
    have hrest := failsWith_operands types rest
      (fun operand ho => hoperations operand (List.mem_cons_of_mem _ ho))
      fun operand ho => h operand (List.mem_cons_of_mem _ ho)
    rw [Query.result_compileOperands, Query.result_compileOperand]
    refine (hfirst.bind fun _ _ => hrest.bind_ok fun _ _ => ⟨_, rfl⟩).congr fun family => ?_
    simp

end

end Backend

/-- The compilation of a well-typed query on a bundled backend fails exactly if the query has a
fault, and the error is of the family of one of its faults. -/
theorem compile_fails_iff_fault (b : Backend) (types : TypeCatalogue) {q : Query}
    (h : q.WellTyped) :
    ((∃ e, (q.compile (b.dialect types)).result = .error e) ↔ ∃ family, q.Fault b family) ∧
      ∀ e, (q.compile (b.dialect types)).result = .error e → q.Fault b e.family := by
  have hfails := Backend.failsWith_compile (b := b) types q h
  generalize (q.compile (b.dialect types)).result = result at hfails
  cases hfails with
  | ok f hnone => simp [hnone]
  | error e hfault =>
    refine ⟨⟨fun _ => ⟨_, hfault⟩, fun _ => ⟨e, rfl⟩⟩, ?_⟩
    rintro e' h'
    cases h'
    exact hfault

/-- Distinct rows by name, joined with a select whose condition has a comparison with an empty list
two levels down. -/
def censusQuery : Query :=
  .mk { Statement.select (.text "people") (.list [.tuple [.raw "count(*)", .text "n"]]) with
        distinct := .list [.text "region"]
        joins := [{ table := "towns", on := [("people.town", "towns.id")], kind := .leftJoin }]
        orderBy := .list [.text "-n"]
        limit := .int 10 }
    [(.clause .unionAll, .single { Statement.select (.text "visitors") with
        filter := .predicate [.raw "1 = 1", .predicate [.tuple [.text "age__between",
            .tuple [.int 1, .null]], .tuple [.text "town__notin", .list []]] .or true] .and false
        attributes := [(.text "only", .bool true)] })]

/-- On the backend that takes the names, the empty list alone makes the query fail. -/
theorem censusQuery_fails :
    censusQuery.WellTyped ∧ censusQuery.statement.distinct.givesNames = true ∧
      ∃ e, (censusQuery.compile (Backend.postgresql.dialect .standard)).result = .error e := by
  have hnull : Value.IsTestTree .null := ⟨.inl rfl, by decide, by decide⟩
  have htyped : censusQuery.WellTyped := by
    refine .mk (k := .select) ⟨rfl, rfl, rfl, rfl, rfl, by decide, hnull, hnull, rfl, rfl, rfl, rfl,
      rfl, rfl, by decide⟩ ?_ ?_
    · exact List.forall_mem_singleton.mpr ⟨rfl, rfl⟩
    · refine List.forall_mem_singleton.mpr (.mk (k := .select) ⟨rfl, rfl, rfl, rfl, rfl, by decide,
        ⟨.inr rfl, by decide, by decide +kernel⟩, hnull, rfl, rfl, rfl, rfl, rfl, rfl, by decide⟩
        (List.forall_mem_nil _) (List.forall_mem_nil _))
  have hrefused : (Value.tuple [.text "town__notin", .list []]).isRefused = true := by
    decide +kernel
  have hfault : censusQuery.Fault .postgresql .value := by
    refine .operand rfl List.mem_cons_self (.own (k := .select) rfl ?_)
    refine .filter nofun ?_ hrefused
    simp [Value.tests, Value.leaves, Value.leavesAll]
  exact ⟨htyped, rfl, (compile_fails_iff_fault .postgresql .standard htyped).1.mpr ⟨_, hfault⟩⟩

/-- A select without conditions, names and operands whose limit has one digit too many. -/
def longLimit : Query :=
  .single { Statement.select (.text "t") with limit := .int (Nat.pow 10 Text.maxDigits) }

/-- A limit can have too many digits to be written. -/
theorem longLimit_fails :
    longLimit.WellTyped ∧ longLimit.statement.filter = .null ∧ longLimit.statement.having = .null ∧
      longLimit.statement.distinct = .bool false ∧ longLimit.compounds = [] ∧
      ∃ e, (longLimit.compile (Backend.ansi.dialect .standard)).result = .error e ∧
        e.family = .value := by
  have hnull : Value.IsTestTree .null := ⟨.inl rfl, by decide, by decide⟩
  refine ⟨?_, rfl, rfl, rfl, rfl, ?_⟩
  · exact .mk (k := .select) ⟨rfl, rfl, rfl, rfl, rfl, by decide, hnull, hnull, rfl, rfl, rfl, rfl,
      rfl, rfl, by decide⟩ (List.forall_mem_nil _) (List.forall_mem_nil _)
  · have hfamily : (match (longLimit.compile (Backend.ansi.dialect .standard)).result with
        | .error e => some e.family
        | .ok _ => none) = some .value := by decide +kernel
    split at hfamily
    · next e he => exact ⟨e, he, Option.some.inj hfamily⟩
    · cases hfamily

end SqlRender
