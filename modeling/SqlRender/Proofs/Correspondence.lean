import SqlRender.Proofs.Compilation
import SqlRender.Proofs.Lookup

/-!
# Corresponding queries

Two queries correspond when they differ only in the values that stand in the places of markers, and
a given relation `P` holds between the values in one place. What two such queries are compiled to
is compared by a relation `R` between fragments. If `R` is kept by the ways in which the text of
a statement is put together (`Congruence`), it holds between the two compiled queries.

* `Congruence.children`, `Congruence.conditionClause`: predicates that correspond.
* `Congruence.assignments`, `Congruence.valuesFragment`: rows that correspond.
* `Congruence.filling`: what two corresponding statements put into a slot.
* `QueryMatch.compile`: queries that correspond, with all that set operations join to them.
-/

namespace SqlRender

/-! ## Values in the places of markers -/

/-- Two values that one lookup compares a column with. Null is met by null only; a list or a pair is
compared item by item, and of two values that a text is to contain both have a text or neither. -/
def Lookup.Match (P : Value → Value → Prop) (l : Lookup) (v w : Value) : Prop :=
  (v = .null ↔ w = .null) ∧
    match l with
    | .isNull => v = w
    | .inList | .notInList | .between | .notBetween =>
      Option.Rel (List.Forall₂ P) v.items? w.items?
    | .contains => v ≠ .null → v.isWritable = w.isWritable ∧
      (v.isWritable = true → P (containsPattern v) (containsPattern w))
    | _ => v ≠ .null → P v w

theorem Lookup.match_single {P : Value → Value → Prop} {l : Lookup} {v w : Value}
    (hl : l.isSingle = true) :
    l.Match P v w ↔ (v = .null ↔ w = .null) ∧ (v ≠ .null → P v w) := by
  cases l <;> first
    | exact absurd hl (by decide)
    | exact Iff.rfl

theorem Value.asItems_sameOutcome {P : Value → Value → Prop} {v w : Value}
    (h : Option.Rel (List.Forall₂ P) v.items? w.items?) :
    SameOutcome (List.Forall₂ P) v.asItems w.asItems := by
  unfold asItems
  generalize v.items? = x, w.items? = y at h
  cases h with
  | none => exact SameOutcome.error .wrongType
  | some hitems => exact hitems

theorem Value.asPair_sameOutcome {P : Value → Value → Prop} {v w : Value}
    (h : Option.Rel (List.Forall₂ P) v.items? w.items?) :
    SameOutcome (fun p q => List.Forall₂ P [p.1, p.2] [q.1, q.2]) v.asPair w.asPair := by
  unfold asPair
  generalize v.items? = x, w.items? = y at h
  cases h with
  | none => exact SameOutcome.error .wrongType
  | some hitems =>
    -- both have two items, or neither has
    cases hitems with
    | nil => exact SameOutcome.error .badValue
    | cons hfirst hrest =>
      cases hrest with
      | nil => exact SameOutcome.error .badValue
      | cons hsecond hrest =>
        cases hrest with
        | nil => exact .cons hfirst (.cons hsecond .nil)
        | cons _ _ => exact SameOutcome.error .badValue

theorem Value.shown_sameOutcome {α : Type} {P : α → α → Prop} {text : Value → α} {v w : Value}
    (hwritable : v.isWritable = w.isWritable) (h : v.isWritable = true → P (text v) (text w)) :
    SameOutcome P (v.shown text) (w.shown text) := by
  rw [shown, shown, ← hwritable]
  split
  · next hv => exact SameOutcome.ok (h hv)
  · exact SameOutcome.error .badValue

/-- The value has the form of a child that a predicate can be rendered with. -/
def Value.isCondition : Value → Bool
  | .predicate .. => true
  | .raw _ => true
  | .tuple [_, _] => true
  | _ => false

mutual

/-- Two predicates that have the same shape, columns and raw SQL. -/
inductive TreeMatch (P : Value → Value → Prop) : Value → Value → Prop
  | node {cs ds : List Value} {k : Keyword} {negated : Bool} :
      TreesMatch P cs ds → TreeMatch P (.predicate cs k negated) (.predicate ds k negated)
  | raw {sql : String} : P (.raw sql) (.raw sql) → TreeMatch P (.raw sql) (.raw sql)
  | lookup {key v w : Value} : (∀ k, lookupKey key = .ok k → k.lookup.Match P v w) →
      TreeMatch P (.tuple [key, v]) (.tuple [key, w])
  | other {v : Value} : v.isCondition = false → TreeMatch P v v

inductive TreesMatch (P : Value → Value → Prop) : List Value → List Value → Prop
  | nil : TreesMatch P [] []
  | cons {v w : Value} {vs ws : List Value} :
      TreeMatch P v w → TreesMatch P vs ws → TreesMatch P (v :: vs) (w :: ws)

end

/-- Two rows with the same columns. -/
inductive RowMatch (P : Value → Value → Prop) : Value → Value → Prop
  | map {es fs : Mapping} : List.Forall₂ (fun e f => e.1 = f.1 ∧ P e.2 f.2) es fs →
      RowMatch P (.map es) (.map fs)
  | other {v : Value} : (∀ es, v ≠ .map es) → RowMatch P v v

/-- The data of two inserts or updates: as many rows, with the same columns. -/
inductive DataMatch (P : Value → Value → Prop) : Value → Value → Prop
  | row {es fs : Mapping} : List.Forall₂ (fun e f => e.1 = f.1 ∧ P e.2 f.2) es fs →
      DataMatch P (.map es) (.map fs)
  | list {vs ws : List Value} : List.Forall₂ (RowMatch P) vs ws → DataMatch P (.list vs) (.list ws)
  | tuple {vs ws : List Value} : List.Forall₂ (RowMatch P) vs ws →
      DataMatch P (.tuple vs) (.tuple ws)
  | other {v : Value} : (∀ es, v ≠ .map es) → (∀ vs, v ≠ .list vs) → (∀ vs, v ≠ .tuple vs) →
      DataMatch P v v

/-- The fields of the statement are columns with values. -/
def Statement.hasData (s : Statement) : Bool :=
  match s.kind with
  | .kind .insert | .kind .update => true
  | _ => false

/-- Two statements that differ in the values in places of markers at most. -/
structure StatementMatch (P : Value → Value → Prop) (s t : Statement) : Prop where
  same : t = { s with fields := t.fields, filter := t.filter, having := t.having }
  fields : if s.hasData then DataMatch P s.fields t.fields else t.fields = s.fields
  filter : TreeMatch P s.filter t.filter
  having : TreeMatch P s.having t.having

mutual

/-- Two queries whose statements `S` relates one by one and whose set operations are the same, all
of them with the property `O`. -/
inductive QueryMatch (S : Statement → Statement → Prop) (O : Value → Prop) : Query → Query → Prop
  | mk {s t : Statement} {cs ds : List (Value × Query)} :
      S s t → OperandsMatch S O cs ds → QueryMatch S O (.mk s cs) (.mk t ds)

inductive OperandsMatch (S : Statement → Statement → Prop) (O : Value → Prop) :
    List (Value × Query) → List (Value × Query) → Prop
  | nil : OperandsMatch S O [] []
  | cons {clause : Value} {q r : Query} {cs ds : List (Value × Query)} :
      O clause → QueryMatch S O q r → OperandsMatch S O cs ds →
      OperandsMatch S O ((clause, q) :: cs) ((clause, r) :: ds)

end

/-! ## Fragments put together -/

namespace Fragment

/-- A fragment behind another. -/
def append (f g : Fragment) : Fragment := ⟨f.sql ++ g.sql, f.params ++ g.params⟩

/-- Fragments with a text between neighbours. -/
def joined (sep : String) : List Fragment → Fragment
  | [] => .empty
  | [f] => f
  | f :: fs => (f.append (.ofSql sep)).append (joined sep fs)

theorem joined_eq (sep : String) (fs : List Fragment) :
    joined sep fs = ⟨Text.joined sep (fs.map sql), fs.flatMap params⟩ := by
  fun_induction joined sep fs with
  | case1 => rfl
  | case2 f => simp [Text.joined]
  | case3 f fs hne ih =>
    rw [ih]
    cases fs with
    | nil => exact absurd rfl hne
    | cons g fs => simp [append, ofSql, Text.joined]

/-- A relation that is kept when fragments are put one behind the other. -/
theorem joined_related {R : Fragment → Fragment → Prop} (hempty : R .empty .empty)
    (happend : ∀ {f f' g g'}, R f g → R f' g' → R (f.append f') (g.append g')) {sep : String}
    (hsep : R (.ofSql sep) (.ofSql sep)) {fs gs : List Fragment} (h : List.Forall₂ R fs gs) :
    R (joined sep fs) (joined sep gs) := by
  induction h with
  | nil => exact hempty
  | cons hfg hrest ih =>
    cases hrest with
    | nil => exact hfg
    | cons _ _ => exact happend (happend hfg hsep) ih

/-- A fragment inside a clause. -/
def enclosed (d : Dialect) (c : Clause) (f : Fragment) : Except Error Fragment := do
  return ⟨← d.clause c [f.sql], f.params⟩

end Fragment

/-- The relation `R` between fragments is kept when texts are put together by the rules of the
dialect from places that `P` relates. -/
structure Congruence (d : Dialect) (P : Value → Value → Prop) (R : Fragment → Fragment → Prop) :
    Prop where
  append {f f' g g' : Fragment} : R f g → R f' g' → R (f.append f') (g.append g')
  isEmpty {f g : Fragment} : R f g → (f.sql = "" ↔ g.sql = "")
  sign : ∀ t ∈ ["", "(", ")", ", ", " = ", " "], R (.ofSql t) (.ofSql t)
  place {v w : Value} : P v w → R (.ofValue v) (.ofValue w)
  keyword {k : Keyword} {t : String} : d.keywordText k = .ok t → R (.ofSql t) (.ofSql t)
  column {v : Value} {t : String} : d.quoteName v = .ok t → R (.ofSql t) (.ofSql t)
  enclosed {c : Clause} {f g : Fragment} : c ∈ [.negation, .filter, .having] → R f g →
    SameOutcome R (f.enclosed d c) (g.enclosed d c)
  comparison {l : Lookup} {column : String} {v w : Value} : l.Match P v w →
    SameOutcome R (comparison d l (d.quote column) v) (comparison d l (d.quote column) w)

/-! ## Conditions -/

/-- The conditions of the children with the connector between them, negated if it is asked for. -/
theorem connect_cons (d : Dialect) (k : Keyword) (negated : Bool) (part : Fragment)
    (parts : List Fragment) :
    connect d k negated (part :: parts) = (do
      let word ← d.keywordText k
      let inner := Fragment.joined (" " ++ word ++ " ") (part :: parts)
      if negated then inner.enclosed d .negation else .ok inner) := by
  rw [connect, if_neg (by simp)]
  simp only [Fragment.joined_eq]
  cases negated <;> rfl

/-- Other children than predicates, raw SQL and lookups have no condition. -/
theorem childCondition_other {v : Value} (h : v.isCondition = false) (d : Dialect) :
    ∃ e, childCondition d v = .error e := by
  unfold childCondition
  split
  · cases h
  · cases h
  · cases h
  · exact ⟨_, rfl⟩
  · exact ⟨_, rfl⟩

namespace Congruence

variable {d : Dialect} {P : Value → Value → Prop} {R : Fragment → Fragment → Prop}

theorem text (hR : Congruence d P R) {a b : String} (ha : R (.ofSql a) (.ofSql a))
    (hb : R (.ofSql b) (.ofSql b)) : R (.ofSql (a ++ b)) (.ofSql (a ++ b)) :=
  hR.append ha hb

theorem joined (hR : Congruence d P R) {sep : String} (hsep : R (.ofSql sep) (.ofSql sep))
    {fs gs : List Fragment} (h : List.Forall₂ R fs gs) :
    R (Fragment.joined sep fs) (Fragment.joined sep gs) :=
  Fragment.joined_related (hR.sign "" (by simp)) hR.append hsep h

theorem connective (hR : Congruence d P R) {k : Keyword} {word : String}
    (h : d.keywordText k = .ok word) :
    R (.ofSql (" " ++ word ++ " ")) (.ofSql (" " ++ word ++ " ")) :=
  hR.text (hR.text (hR.sign " " (by simp)) (hR.keyword h)) (hR.sign " " (by simp))

theorem connect (hR : Congruence d P R) (k : Keyword) (negated : Bool) {fs gs : List Fragment}
    (h : List.Forall₂ R fs gs) :
    SameOutcome R (connect d k negated fs) (connect d k negated gs) := by
  cases h with
  | nil => exact hR.sign "" (by simp)
  | cons hfg hrest =>
    rw [connect_cons, connect_cons]
    refine SameOutcome.bind_same fun word hword => ?_
    have hjoined := hR.joined (hR.connective hword) (.cons hfg hrest)
    cases negated with
    | false => exact hjoined
    | true => exact hR.enclosed (by simp) hjoined

/-- A condition stands in parentheses, unless it is empty. -/
theorem inParentheses (hR : Congruence d P R) {f g : Fragment} (h : R f g) :
    Option.Rel R (if f.sql = "" then none else some ⟨"(" ++ f.sql ++ ")", f.params⟩)
      (if g.sql = "" then none else some ⟨"(" ++ g.sql ++ ")", g.params⟩) := by
  by_cases hf : f.sql = ""
  · rw [if_pos hf, if_pos ((hR.isEmpty h).mp hf)]
    exact .none
  · rw [if_neg hf, if_neg (mt (hR.isEmpty h).mpr hf)]
    have hopen := hR.append (hR.sign "(" (by simp)) h
    have hclosed := hR.append hopen (hR.sign ")" (by simp))
    simp only [Fragment.append, Fragment.ofSql, List.nil_append, List.append_nil] at hclosed
    exact .some hclosed

mutual

theorem child (hR : Congruence d P R) {v w : Value} : TreeMatch P v w →
    SameOutcome (Option.Rel R) (childCondition d v) (childCondition d w)
  | .node hcs => by
    rw [childCondition, childCondition]
    refine (hR.children hcs).bind fun fs gs hfs => ?_
    refine (hR.connect _ _ hfs).bind fun f g hfg => ?_
    exact SameOutcome.pure (hR.inParentheses hfg)
  | .raw hsql => by
    rw [childCondition]
    exact SameOutcome.ok (.some (hR.place hsql))
  | .lookup hvw => by
    rw [childCondition, childCondition]
    have hlookup : SameOutcome R (lookupCondition d _ _) (lookupCondition d _ _) :=
      SameOutcome.bind_same fun k hk => hR.comparison (hvw k hk)
    exact hlookup.bind fun f g hfg => SameOutcome.pure (.some hfg)
  | .other hv => by
    obtain ⟨e, he⟩ := childCondition_other hv d
    rw [he]
    exact SameOutcome.error e

theorem children (hR : Congruence d P R) {vs ws : List Value} : TreesMatch P vs ws →
    SameOutcome (List.Forall₂ R) (childConditions d vs) (childConditions d ws)
  | .nil => .nil
  | .cons hvw hrest => by
    rw [childConditions, childConditions]
    refine (hR.child hvw).bind fun part part' hpart => ?_
    refine (hR.children hrest).bind fun parts parts' hparts => ?_
    refine SameOutcome.pure ?_
    cases hpart with
    | none => exact hparts
    | some hpart => exact .cons hpart hparts

end

theorem condition (hR : Congruence d P R) {cs ds : List Value} (h : TreesMatch P cs ds)
    (k : Keyword) (negated : Bool) :
    SameOutcome R (Predicate.condition d ⟨cs, k, negated⟩)
      (Predicate.condition d ⟨ds, k, negated⟩) :=
  (hR.children h).bind fun _ _ hfs => hR.connect k negated hfs

/-- Two predicates inside a clause. -/
theorem conditionClause (hR : Congruence d P R) {c : Clause} (hc : c = .filter ∨ c = .having)
    {v w : Value} (h : TreeMatch P v w) :
    SameOutcome R (conditionClause d c v) (conditionClause d c w) := by
  have hempty : R .empty .empty := hR.sign "" (by simp)
  cases h with
  | raw _ | lookup _ => exact SameOutcome.error .noMember
  | other hv =>
    cases v with
    | null => exact hempty
    | predicate => cases hv
    | _ => exact SameOutcome.error .noMember
  | @node cs ds k negated hcs =>
    have hne : cs.isEmpty = ds.isEmpty := by
      cases hcs <;> rfl
    -- a condition without text leaves no clause, and `R` sees whether there is text
    have hlast : ∀ f g, R f g → SameOutcome R
        (if f.sql = "" then (pure .empty : Except Error Fragment) else f.enclosed d c)
        (if g.sql = "" then (pure .empty : Except Error Fragment) else g.enclosed d c) := by
      intro f g hfg
      by_cases hf : f.sql = ""
      · rw [if_pos hf, if_pos ((hR.isEmpty hfg).mp hf)]
        exact hempty
      · rw [if_neg hf, if_neg (mt (hR.isEmpty hfg).mpr hf)]
        exact hR.enclosed (by rcases hc with rfl | rfl <;> simp) hfg
    show SameOutcome R
      (if cs.isEmpty then pure .empty else do
        let f ← Predicate.condition d ⟨cs, k, negated⟩
        if f.sql = "" then pure .empty else f.enclosed d c)
      (if ds.isEmpty then pure .empty else do
        let g ← Predicate.condition d ⟨ds, k, negated⟩
        if g.sql = "" then pure .empty else g.enclosed d c)
    rw [hne]
    split
    · exact hempty
    · exact (hR.condition hcs k negated).bind hlast

end Congruence

/-! ## Rows -/

section Rows

variable {P : Value → Value → Prop}

theorem RowMatch.isTrue_eq {v w : Value} (h : RowMatch P v w) : v.isTrue = w.isTrue := by
  cases h with
  | map hes => cases hes <;> rfl
  | other _ => rfl

theorem RowMatch.asMapping {v w : Value} (h : RowMatch P v w) :
    SameOutcome (List.Forall₂ fun e f => e.1 = f.1 ∧ P e.2 f.2) v.asMapping w.asMapping := by
  cases h with
  | map hes => exact hes
  | other hv =>
    cases v with
    | map es => exact absurd rfl (hv es)
    | _ => exact SameOutcome.error .noMember

theorem all_isTrue_eq {vs ws : List Value} (h : List.Forall₂ (RowMatch P) vs ws) :
    (vs.isEmpty || !vs.all Value.isTrue) = (ws.isEmpty || !ws.all Value.isTrue) := by
  have hall : vs.all Value.isTrue = ws.all Value.isTrue := by
    induction h with
    | nil => rfl
    | cons hvw _ ih => rw [List.all_cons, List.all_cons, hvw.isTrue_eq, ih]
  have hempty : vs.isEmpty = ws.isEmpty := by
    cases h <;> rfl
  rw [hall, hempty]

/-- The rows before it is checked that none of them is empty. -/
def Statement.givenRows (data : Value) : Except Error (List Value) :=
  match data with
  | .map entries => pure [.map entries]
  | data => if data.isTrue then data.asItems else pure []

theorem Statement.insertRows_eq (data : Value) :
    insertRows data = (do
      let rows ← givenRows data
      if rows.isEmpty || !rows.all Value.isTrue then throw .noRow else return rows) := by
  unfold insertRows givenRows
  cases data with
  | map entries => rfl
  | _ =>
    dsimp only
    split <;> rfl

theorem DataMatch.givenRows {v w : Value} (h : DataMatch P v w) :
    SameOutcome (List.Forall₂ (RowMatch P)) (Statement.givenRows v) (Statement.givenRows w) := by
  cases h with
  | row hes => exact .cons (.map hes) .nil
  | list hrows | tuple hrows =>
    cases hrows with
    | nil => exact .nil
    | cons hrow hrest => exact .cons hrow hrest
  | other hmap hlist htuple =>
    refine SameOutcome.refl fun rows hrows => List.forall₂_same.mpr fun row hrow => .other ?_
    cases v with
    | map es => exact absurd rfl (hmap es)
    | list vs => exact absurd rfl (hlist vs)
    | tuple vs => exact absurd rfl (htuple vs)
    | text s =>
      -- the items of a text are texts
      have hitems : rows = [] ∨ rows = s.toList.map fun c => .text (String.ofList [c]) := by
        simp only [Statement.givenRows, Value.asItems, Value.items?] at hrows
        split at hrows
        · cases hrows
          exact .inr rfl
        · cases hrows
          exact .inl rfl
      rcases hitems with rfl | rfl
      · cases hrow
      · obtain ⟨c, _, rfl⟩ := List.mem_map.mp hrow
        simp
    | _ =>
      simp only [Statement.givenRows, Value.asItems, Value.items?] at hrows
      split at hrows
      · cases hrows
      · cases hrows
        cases hrow

theorem DataMatch.insertRows {v w : Value} (h : DataMatch P v w) :
    SameOutcome (List.Forall₂ (RowMatch P)) (Statement.insertRows v) (Statement.insertRows w) := by
  rw [Statement.insertRows_eq, Statement.insertRows_eq]
  refine h.givenRows.bind fun vs ws hrows => ?_
  rw [all_isTrue_eq hrows]
  split
  · exact SameOutcome.error .noRow
  · exact hrows

theorem keys_eq {es fs : Mapping} (h : List.Forall₂ (fun e f => e.1 = f.1 ∧ P e.2 f.2) es fs) :
    es.map Prod.fst = fs.map Prod.fst := by
  induction h with
  | nil => rfl
  | cons hef _ ih => rw [List.map_cons, List.map_cons, hef.1, ih]

end Rows

namespace Congruence

variable {d : Dialect} {P : Value → Value → Prop} {R : Fragment → Fragment → Prop}

/-- Fragments with a comma between them. -/
theorem list (hR : Congruence d P R) {fs gs : List Fragment} (h : List.Forall₂ R fs gs) :
    R ⟨Text.joined ", " (fs.map Fragment.sql), fs.flatMap Fragment.params⟩
      ⟨Text.joined ", " (gs.map Fragment.sql), gs.flatMap Fragment.params⟩ := by
  rw [← Fragment.joined_eq, ← Fragment.joined_eq]
  exact hR.joined (hR.sign ", " (by simp)) h

theorem parenthesized (hR : Congruence d P R) {f g : Fragment} (h : R f g) :
    R ⟨"(" ++ f.sql ++ ")", f.params⟩ ⟨"(" ++ g.sql ++ ")", g.params⟩ := by
  have hclosed := hR.append (hR.append (hR.sign "(" (by simp)) h) (hR.sign ")" (by simp))
  simp only [Fragment.append, Fragment.ofSql, List.nil_append, List.append_nil] at hclosed
  exact hclosed

theorem rowFragment (hR : Congruence d P R) {es fs : Mapping}
    (h : List.Forall₂ (fun e f => e.1 = f.1 ∧ P e.2 f.2) es fs) :
    R (Statement.rowFragment es) (Statement.rowFragment fs) := by
  have hplaces : List.Forall₂ R (es.map fun e => .ofValue e.2) (fs.map fun f => .ofValue f.2) := by
    rw [List.forall₂_map_left_iff, List.forall₂_map_right_iff]
    exact h.imp fun e f hef => hR.place hef.2
  exact hR.parenthesized (hR.list hplaces)

theorem matchingRow (hR : Congruence d P R) (columns : List Value) {v w : Value}
    (h : RowMatch P v w) :
    SameOutcome R (Statement.matchingRow columns v) (Statement.matchingRow columns w) := by
  refine h.asMapping.bind fun es fs hes => ?_
  rw [keys_eq hes]
  split
  · exact hR.rowFragment hes
  · exact SameOutcome.error .rowsDiffer

/-- The values of two inserts. -/
theorem valuesFragment (hR : Congruence d P R) {v w : Value} (h : DataMatch P v w) :
    SameOutcome R (Statement.valuesFragment v) (Statement.valuesFragment w) := by
  refine h.insertRows.bind fun rows rows' hrows => ?_
  cases hrows with
  | nil => exact SameOutcome.error .noRow
  | cons hfirst hrest =>
    refine hfirst.asMapping.bind fun es fs hes => ?_
    rw [keys_eq hes]
    have hothers := SameOutcome.mapM (hrest.imp fun v w hvw => hR.matchingRow (fs.map Prod.fst) hvw)
    refine hothers.bind fun parts parts' hparts => SameOutcome.pure ?_
    exact hR.list (.cons (hR.rowFragment hes) hparts)

theorem assignment (hR : Congruence d P R) {e f : Value × Value} (hkey : e.1 = f.1)
    (hvalue : P e.2 f.2) :
    SameOutcome R (Statement.assignment d e) (Statement.assignment d f) := by
  unfold Statement.assignment
  rw [hkey]
  refine SameOutcome.bind_same fun column hcolumn => SameOutcome.pure ?_
  have hfront := hR.text (hR.column hcolumn) (hR.sign " = " (by simp))
  have hwhole := hR.append hfront (hR.place hvalue)
  simp only [Fragment.append, Fragment.ofSql, List.nil_append] at hwhole
  exact hwhole

/-- The assignments of two updates. -/
theorem assignments (hR : Congruence d P R) {v w : Value} (h : DataMatch P v w) :
    SameOutcome R (Statement.assignments d v) (Statement.assignments d w) := by
  have hsome : ∀ v : Value, v.isTrue = true → Statement.assignments d v = (do
      let parts ← (← v.asMapping).mapM (Statement.assignment d)
      return ⟨Text.joined ", " (parts.map Fragment.sql), parts.flatMap Fragment.params⟩) := by
    intro v hv
    rw [Statement.assignments, hv]
    rfl
  have hnone : ∀ v : Value, v.isTrue = false →
      Statement.assignments d v = .error .noAssignment := by
    intro v hv
    rw [Statement.assignments, hv]
    rfl
  have htrue : v.isTrue = w.isTrue := by
    cases h with
    | row hes => cases hes <;> rfl
    | list hrows | tuple hrows => cases hrows <;> rfl
    | other => rfl
  have hmapping : SameOutcome (List.Forall₂ fun e f => e.1 = f.1 ∧ P e.2 f.2) v.asMapping
      w.asMapping := by
    cases h with
    | row hes => exact hes
    | list | tuple => exact SameOutcome.error .noMember
    | other hmap _ _ => exact (RowMatch.other hmap).asMapping
  cases hv : v.isTrue with
  | false =>
    rw [hnone v hv, hnone w (htrue ▸ hv)]
    exact SameOutcome.error .noAssignment
  | true =>
    rw [hsome v hv, hsome w (htrue ▸ hv)]
    refine hmapping.bind fun es fs hes => ?_
    have hparts : SameOutcome (List.Forall₂ R) (es.mapM (Statement.assignment d))
        (fs.mapM (Statement.assignment d)) :=
      SameOutcome.mapM (hes.imp fun e f hef => hR.assignment hef.1 hef.2)
    exact hparts.bind fun parts parts' hparts => SameOutcome.pure (hR.list hparts)

/-- Texts that stand in both runs, with a text between neighbours. -/
theorem joinedTexts (hR : Congruence d P R) {sep : String} (hsep : R (.ofSql sep) (.ofSql sep))
    {texts : List String} (h : ∀ t ∈ texts, R (.ofSql t) (.ofSql t)) :
    R (.ofSql (Text.joined sep texts)) (.ofSql (Text.joined sep texts)) := by
  have hsame : List.Forall₂ R (texts.map Fragment.ofSql) (texts.map Fragment.ofSql) := by
    rw [List.forall₂_map_left_iff, List.forall₂_map_right_iff]
    exact List.forall₂_same.mpr h
  have hsql : (texts.map Fragment.ofSql).map Fragment.sql = texts := by
    rw [List.map_map]
    exact List.map_id texts
  have hparams : (texts.map Fragment.ofSql).flatMap Fragment.params = [] := by
    simp [Fragment.ofSql]
  have hjoined := hR.joined hsep hsame
  rw [Fragment.joined_eq, hsql, hparams] at hjoined
  exact hjoined

theorem columns (hR : Congruence d P R) {names : List Value} {t : String}
    (h : d.quoteNames names = .ok t) : R (.ofSql t) (.ofSql t) := by
  obtain ⟨texts, htexts, ht⟩ := bind_eq_ok.mp h
  cases ht
  refine hR.joinedTexts (hR.sign ", " (by simp)) ?_
  exact forall_of_mapM_eq_ok htexts fun name _ text hname => hR.column hname

/-- The columns of two inserts. -/
theorem insertFields (hR : Congruence d P R) {v w : Value} (h : DataMatch P v w) :
    SameOutcome R (Statement.insertFields d v) (Statement.insertFields d w) := by
  refine h.insertRows.bind fun rows rows' hrows => ?_
  have hfirst : RowMatch P (rows.headD .null) (rows'.headD .null) := by
    cases hrows with
    | nil => exact .other (by simp)
    | cons hrow _ => exact hrow
  refine hfirst.asMapping.bind fun es fs hes => ?_
  rw [keys_eq hes]
  refine SameOutcome.bind_same fun names hnames => SameOutcome.pure ?_
  exact hR.parenthesized (hR.columns hnames)

theorem fieldsFragment (hR : Congruence d P R) {s t : Statement} (hkind : t.kind = s.kind)
    (hs : s.hasData = true) (h : DataMatch P s.fields t.fields) :
    SameOutcome R (Statement.fieldsFragment d s) (Statement.fieldsFragment d t) := by
  have hwrites : s.kind = .kind .insert ∨ s.kind = .kind .update := by
    unfold Statement.hasData at hs
    split at hs
    · exact .inl (by assumption)
    · exact .inr (by assumption)
    · cases hs
  unfold Statement.fieldsFragment
  rw [hkind]
  rcases hwrites with hinsert | hupdate
  · rw [hinsert]
    exact hR.insertFields h
  · rw [hupdate]
    exact hR.assignments h

end Congruence

/-! ## Statements -/

/-- The statement may put values in places of markers into the slot. -/
def Statement.binds (s : Statement) : Slot → Bool
  | .filter | .having | .compounds => true
  | .fields | .values => s.hasData
  | _ => false

/-- Two corresponding statements put the same into the other slots. -/
theorem StatementMatch.filling_eq {P : Value → Value → Prop} {s t : Statement}
    (h : StatementMatch P s t) {slot : Slot} (hslot : s.binds slot = false) (d : Dialect)
    (operands operands' : Traced Fragment) :
    t.filling d operands' slot = s.filling d operands slot := by
  obtain ⟨hsame, hfields, -, -⟩ := h
  generalize t.fields = fields, t.filter = filter, t.having = having at hsame hfields
  subst hsame
  cases slot with
  | filter | having | compounds => cases hslot
  | fields | values =>
    have hdata : s.hasData = false := hslot
    rw [hdata] at hfields
    simp only [Bool.false_eq_true, if_false] at hfields
    subst hfields
    rfl
  | _ => rfl

theorem StatementMatch.kind_eq {P : Value → Value → Prop} {s t : Statement}
    (h : StatementMatch P s t) : t.kind = s.kind := by
  rw [h.same]

namespace Congruence

variable {d : Dialect} {P : Value → Value → Prop} {R : Fragment → Fragment → Prop}

/-- What two corresponding statements put into a slot. `Q` compares fillings; what a slot holds that
binds nothing has to be related to itself. -/
theorem filling (hR : Congruence d P R) {Q : Filling → Filling → Prop}
    (hQ : ∀ f g, R f g → Q f.toFilling g.toFilling) {s t : Statement} (h : StatementMatch P s t)
    {operands operands' : Traced Fragment}
    (hoperands : SameOutcome R operands.result operands'.result) {slot : Slot}
    (hself : s.binds slot = false →
      ∀ x, (s.filling d operands slot).result = .ok x → Q x x) :
    SameOutcome Q (s.filling d operands slot).result (t.filling d operands' slot).result := by
  cases hslot : s.binds slot with
  | false =>
    rw [h.filling_eq hslot d operands operands']
    exact SameOutcome.refl (hself hslot)
  | true =>
    have hasFilling : ∀ x y : Except Error Fragment, SameOutcome R x y →
        SameOutcome Q (Statement.asFilling x).result (Statement.asFilling y).result :=
      fun x y hxy => hxy.map hQ
    have hdata : s.hasData = true → DataMatch P s.fields t.fields := by
      intro hs
      have hfields := h.fields
      rwa [if_pos hs] at hfields
    cases slot with
    | filter => exact hasFilling _ _ (hR.conditionClause (.inl rfl) h.filter)
    | having => exact hasFilling _ _ (hR.conditionClause (.inr rfl) h.having)
    | compounds =>
      -- the operands were compiled before the statement, so they are given and not rendered here
      rw [Statement.filling, Statement.filling, Traced.result_map, Traced.result_map]
      exact hoperands.map hQ
    | fields => exact hasFilling _ _ (hR.fieldsFragment h.kind_eq hslot (hdata hslot))
    | values => exact hasFilling _ _ (hR.valuesFragment (hdata hslot))
    | _ => cases hslot

/-- What two corresponding statements put into the slots of a template. -/
theorem fillings (hR : Congruence d P R) {Q : Filling → Filling → Prop}
    (hQ : ∀ f g, R f g → Q f.toFilling g.toFilling) {s t : Statement} (h : StatementMatch P s t)
    {operands operands' : Traced Fragment}
    (hoperands : SameOutcome R operands.result operands'.result) (names : List String)
    (hself : ∀ name ∈ names, s.binds (.ofName name) = false →
      ∀ x, s.slotFilling d operands name = .ok x → Q x x) :
    SameOutcome (List.Forall₂ Q) (names.mapM (s.slotFilling d operands))
      (names.mapM (t.slotFilling d operands')) := by
  refine SameOutcome.mapM (List.forall₂_same.mpr fun name hname => ?_)
  exact hR.filling hQ h hoperands (hself name hname)

end Congruence

/-! ## Queries -/

section Queries

variable {d d' : Dialect} {R : Fragment → Fragment → Prop} {S : Statement → Statement → Prop}
  {O : Value → Prop}

/-- Related fragments stay related when the operands of set operations are put together, each by
its own dialect. -/
structure OperandCongruence (d d' : Dialect) (O : Value → Prop) (R : Fragment → Fragment → Prop) :
    Prop where
  empty : R .empty .empty
  operand {clause : Value} {f g : Fragment} : O clause → R f g →
    SameOutcome R (f.operand d clause) (g.operand d' clause)
  next {f f' g g' : Fragment} : R f g → R f' g' →
    R ⟨f.sql ++ " " ++ f'.sql, f.params ++ f'.params⟩
      ⟨g.sql ++ " " ++ g'.sql, g.params ++ g'.params⟩

mutual

/-- Queries whose statements correspond have related results. -/
theorem QueryMatch.compile (hR : OperandCongruence d d' O R)
    (hS : ∀ s t (operands operands' : Traced Fragment), S s t →
      SameOutcome R operands.result operands'.result →
      SameOutcome R (s.compile d operands).result (t.compile d' operands').result)
    {q r : Query} : QueryMatch S O q r → SameOutcome R (q.compile d).result (r.compile d').result
  | .mk hst hcs => by
    rw [Query.compile, Query.compile]
    exact hS _ _ _ _ hst (OperandsMatch.compile hR hS hcs)

theorem OperandsMatch.compile (hR : OperandCongruence d d' O R)
    (hS : ∀ s t (operands operands' : Traced Fragment), S s t →
      SameOutcome R operands.result operands'.result →
      SameOutcome R (s.compile d operands).result (t.compile d' operands').result)
    {cs ds : List (Value × Query)} : OperandsMatch S O cs ds →
    SameOutcome R (Query.compileOperands d cs).result (Query.compileOperands d' ds).result
  | .nil => hR.empty
  | .cons hclause hq hrest => by
    have hfirst := (QueryMatch.compile hR hS hq).bind fun f g hfg => hR.operand hclause hfg
    have hothers := OperandsMatch.compile hR hS hrest
    rw [Query.result_compileOperands, Query.result_compileOperands, Query.result_compileOperand,
      Query.result_compileOperand]
    cases hrest with
    | nil =>
      refine hfirst.bind fun f g hfg => ?_
      simp only [Query.compileOperands, Traced.result_pure, bind, Except.bind, List.isEmpty_nil,
        if_true, Fragment.empty, List.append_nil]
      exact SameOutcome.pure hfg
    | cons _ _ _ =>
      refine hfirst.bind fun f g hfg => hothers.bind fun f' g' hfg' => ?_
      exact SameOutcome.pure (hR.next hfg hfg')

end

end Queries

end SqlRender
