import SqlRender.Proofs.SlotText

/-!
# Parameters stand in the order of their markers

For the bundled backends and statements that read or change rows: the SQL of a query has as many
markers outside quotes as the query has parameters, and the parameter in a position belongs to the
marker in that position. The second half is said by running the query again with a literal in the
place of every bound value: the SQL is the first one with these literals in the places of the
markers, and nothing is left to bind.

The proof is an instance of `QueryMatch.compile`, with `Fragment.AlignedWith` between the fragments.
-/

namespace SqlRender

/-! ## Literals in the places of bound values -/

section Literals

variable (lit : Value → String)

/-- A literal in the place of a bound value. -/
def Value.literal : Value → Value
  | .raw sql => .raw sql
  | v => .raw (lit v)

/-- The value that a lookup compares with, with literals for what it binds. What a text is to
contain is bound as a pattern, if it has one. -/
def Lookup.withLiterals (l : Lookup) (v : Value) : Value :=
  match l, v with
  | .isNull, v => v
  | _, .null => .null
  | .inList, v | .notInList, v | .between, v | .notBetween, v =>
    v.items?.elim v fun items => .list (items.map (Value.literal lit))
  | .contains, v => if v.isWritable then (containsPattern v).literal lit else v
  | _, v => v.literal lit

theorem Lookup.withLiterals_single {l : Lookup} {v : Value} (hl : l.isSingle = true)
    (hv : v ≠ .null) : l.withLiterals lit v = v.literal lit := by
  cases l <;> first
    | exact absurd hl (by decide)
    | rw [withLiterals] <;> first | exact hv | nofun

mutual

/-- A predicate with literals for what it binds. -/
def Value.treeWithLiterals : Value → Value
  | .predicate children k negated => .predicate (treesWithLiterals children) k negated
  | .tuple [.text key, v] =>
    .tuple [.text key, (LookupKey.read key).lookup.withLiterals lit v]
  | v => v

def Value.treesWithLiterals : List Value → List Value
  | [] => []
  | v :: vs => treeWithLiterals v :: treesWithLiterals vs

end

/-- A row with literals for its values. -/
def Value.rowWithLiterals : Value → Value
  | .map entries => .map (entries.map fun entry => (entry.1, entry.2.literal lit))
  | v => v

/-- Rows with literals for their values. -/
def Value.dataWithLiterals : Value → Value
  | .list rows => .list (rows.map (rowWithLiterals lit))
  | .tuple rows => .tuple (rows.map (rowWithLiterals lit))
  | v => v.rowWithLiterals lit

def Statement.withLiterals (s : Statement) : Statement :=
  { s with
    fields := if s.hasData then s.fields.dataWithLiterals lit else s.fields
    filter := s.filter.treeWithLiterals lit
    having := s.having.treeWithLiterals lit }

mutual

/-- The query with a literal in the place of every value that it binds. -/
def Query.withLiterals : Query → Query
  | .mk s compounds => .mk (s.withLiterals lit) (operandsWithLiterals compounds)

def Query.operandsWithLiterals : List (Value × Query) → List (Value × Query)
  | [] => []
  | operand :: rest => operandWithLiterals operand :: operandsWithLiterals rest

def Query.operandWithLiterals : Value × Query → Value × Query
  | (clause, q) => (clause, withLiterals q)

end

end Literals

/-- The place of a bound value, and of its literal. -/
def Literal (b : Backend) (lit : Value → String) (v w : Value) : Prop :=
  v.Plain b ∧ w = v.literal lit

section Match

variable {b : Backend} {lit : Value → String}

theorem literal_items {v : Value} (hv : v.Plain b) {items : List Value}
    (hitems : v.items? = some items) :
    List.Forall₂ (Literal b lit) items (items.map (Value.literal lit)) := by
  rw [List.forall₂_map_right_iff]
  exact List.forall₂_same.mpr fun item hitem => ⟨hv.item hitems hitem, rfl⟩

theorem containsPattern_plain {v : Value} (hv : v.Plain b) : (containsPattern v).Plain b :=
  fun sql hsql => hv sql (Value.raws_containsPattern v hsql)

theorem literal_ne_null (v : Value) : v.literal lit ≠ .null := by
  cases v <;> simp [Value.literal]

theorem containsPattern_literal (v : Value) :
    containsPattern (v.literal lit) = v.literal lit := by
  cases v <;> rfl

theorem literal_isWritable (v : Value) : (v.literal lit).isWritable = true := by
  cases v <;> simp [Value.literal, Value.isWritable]

/-- The items of a list or of a pair, each with its literal. -/
theorem match_items {v : Value} (hv : v.Plain b) (hnull : v ≠ .null) :
    (v = .null ↔ v.items?.elim v (fun items => .list (items.map (Value.literal lit))) = .null) ∧
      Option.Rel (List.Forall₂ (Literal b lit)) v.items?
        (v.items?.elim v fun items => .list (items.map (Value.literal lit))).items? := by
  cases hitems : v.items? with
  | none =>
    refine ⟨Iff.rfl, ?_⟩
    rw [Option.elim_none, hitems]
    exact .none
  | some items =>
    refine ⟨?_, .some (literal_items hv hitems)⟩
    simp [hnull]

theorem Lookup.match_withLiterals (l : Lookup) {v : Value} (hv : v.Plain b) :
    l.Match (Literal b lit) v (l.withLiterals lit v) := by
  induction l, v using Lookup.cases_value with
  | isNull v => exact ⟨Iff.rfl, rfl⟩
  | null l hl =>
    rw [Lookup.withLiterals]
    · refine ⟨Iff.rfl, ?_⟩
      cases l with
      | isNull => rfl
      | inList | notInList | between | notBetween => exact .none
      | _ => exact fun hnull => absurd rfl hnull
    · exact hl
  | inList v hnull | notInList v hnull | between v hnull | notBetween v hnull =>
    rw [Lookup.withLiterals]
    · exact match_items hv hnull
    · exact hnull
  | contains v hnull =>
    rw [Lookup.withLiterals]
    · split
      · next hwritable =>
        refine ⟨⟨fun h => absurd h hnull, fun h => absurd h (literal_ne_null _)⟩, fun _ => ?_⟩
        rw [containsPattern_literal, literal_isWritable]
        exact ⟨hwritable, fun _ => ⟨containsPattern_plain hv, rfl⟩⟩
      · next hlong => exact ⟨Iff.rfl, fun _ => ⟨rfl, fun hwritable => absurd hwritable hlong⟩⟩
    · exact hnull
  | single l v hl hnull =>
    rw [Lookup.withLiterals_single lit hl hnull, Lookup.match_single hl]
    exact ⟨⟨fun h => absurd h hnull, fun h => absurd h (literal_ne_null _)⟩, fun _ => ⟨hv, rfl⟩⟩

/-- Raw SQL, and what has no condition, stays as it is. -/
theorem treeMatch_self {v : Value} (hv : v.Plain b)
    (hnode : ∀ children k negated, v ≠ .predicate children k negated)
    (hlookup : ∀ key w, v ≠ .tuple [.text key, w]) : TreeMatch (Literal b lit) v v := by
  by_cases hcondition : v.isCondition = false
  · exact .other hcondition
  · unfold Value.isCondition at hcondition
    split at hcondition
    · next children k negated => exact absurd rfl (hnode children k negated)
    · exact .raw ⟨hv, rfl⟩
    · next key w =>
      refine .lookup fun k hk => ?_
      cases key with
      | text key => exact absurd rfl (hlookup key w)
      | _ => cases hk
    · exact absurd rfl hcondition

mutual

theorem treeMatch_withLiterals : ∀ {v : Value}, v.Plain b →
    TreeMatch (Literal b lit) v (v.treeWithLiterals lit)
  | v, h => by
    unfold Value.treeWithLiterals
    split
    · exact .node (treesMatch_withLiterals fun child hchild => h.child hchild)
    · next key v =>
      have hv : v.Plain b := h.item rfl (by simp)
      refine .lookup fun k hk => ?_
      cases hk
      exact Lookup.match_withLiterals _ hv
    · next hnode hlookup => exact treeMatch_self h hnode hlookup

theorem treesMatch_withLiterals : ∀ {vs : List Value}, (∀ v ∈ vs, v.Plain b) →
    TreesMatch (Literal b lit) vs (Value.treesWithLiterals lit vs)
  | [], _ => .nil
  | v :: vs, h => by
    rw [Value.treesWithLiterals]
    exact .cons (treeMatch_withLiterals (h v (by simp)))
      (treesMatch_withLiterals fun v' hv' => h v' (List.mem_cons_of_mem v hv'))

end

theorem entriesMatch_withLiterals {entries : Mapping} (h : (Value.map entries).Plain b) :
    List.Forall₂ (fun e f => e.1 = f.1 ∧ Literal b lit e.2 f.2) entries
      (entries.map fun entry => (entry.1, entry.2.literal lit)) := by
  rw [List.forall₂_map_right_iff]
  exact List.forall₂_same.mpr fun entry hentry => ⟨rfl, h.entry hentry, rfl⟩

theorem rowMatch_withLiterals {v : Value} (hv : v.Plain b) :
    RowMatch (Literal b lit) v (v.rowWithLiterals lit) := by
  cases v with
  | map entries => exact .map (entriesMatch_withLiterals hv)
  | _ => exact .other (by simp)

theorem dataMatch_withLiterals {v : Value} (hv : v.Plain b) :
    DataMatch (Literal b lit) v (v.dataWithLiterals lit) := by
  have hrows : ∀ rows : List Value, (∀ row ∈ rows, row.Plain b) →
      List.Forall₂ (RowMatch (Literal b lit)) rows (rows.map (Value.rowWithLiterals lit)) := by
    intro rows h
    rw [List.forall₂_map_right_iff]
    exact List.forall₂_same.mpr fun row hrow => rowMatch_withLiterals (h row hrow)
  cases v with
  | map entries => exact .row (entriesMatch_withLiterals hv)
  | list rows => exact .list (hrows rows fun row hrow => hv.item rfl hrow)
  | tuple rows => exact .tuple (hrows rows fun row hrow => hv.item rfl hrow)
  | _ => refine .other ?_ ?_ ?_ <;> simp

theorem statementMatch_withLiterals {s : Statement} (hs : ∀ v ∈ s.rawPlaces, v.Plain b) :
    StatementMatch (Literal b lit) s (s.withLiterals lit) where
  same := rfl
  fields := by
    have hfields : s.fields.Plain b := hs _ (by simp [Statement.rawPlaces])
    unfold Statement.withLiterals
    cases hdata : s.hasData with
    | true => exact dataMatch_withLiterals hfields
    | false => rfl
  filter := treeMatch_withLiterals (hs _ (by simp [Statement.rawPlaces]))
  having := treeMatch_withLiterals (hs _ (by simp [Statement.rawPlaces]))

end Match

/-! ## The queries that this is about -/

namespace Query

mutual

/-- The statements of a query, its own first. -/
def statements : Query → List Statement
  | .mk s compounds => s :: operandsStatements compounds

def operandsStatements : List (Value × Query) → List Statement
  | [] => []
  | operand :: rest => operandStatements operand ++ operandsStatements rest

def operandStatements : Value × Query → List Statement
  | (_, q) => statements q

end

mutual

/-- The set operations in a query. -/
def operations : Query → List Value
  | .mk _ compounds => operandsOperations compounds

def operandsOperations : List (Value × Query) → List Value
  | [] => []
  | operand :: rest => operandOperations operand ++ operandsOperations rest

def operandOperations : Value × Query → List Value
  | (clause, q) => clause :: operations q

end

end Query

/-- The value is a set operation. -/
def Value.isSetOperation : Value → Bool
  | .clause c => c ∈ [Clause.union, .unionAll, .intersect, .intersectAll, .except, .exceptAll]
  | _ => false

section Queries

variable {S : Statement → Statement → Prop} {O : Value → Prop} {lit : Value → String}

mutual

/-- A query corresponds to itself with literals if each of its statements does. -/
theorem queryMatch_withLiterals : ∀ {q : Query}, (∀ s ∈ q.statements, S s (s.withLiterals lit)) →
    (∀ clause ∈ q.operations, O clause) → QueryMatch S O q (q.withLiterals lit)
  | .mk s compounds, hS, hO => by
    rw [Query.withLiterals]
    rw [Query.statements] at hS
    rw [Query.operations] at hO
    exact .mk (hS s (by simp))
      (operandsMatch_withLiterals (fun t ht => hS t (List.mem_cons_of_mem s ht)) hO)

theorem operandsMatch_withLiterals : ∀ {cs : List (Value × Query)},
    (∀ s ∈ Query.operandsStatements cs, S s (s.withLiterals lit)) →
    (∀ clause ∈ Query.operandsOperations cs, O clause) →
    OperandsMatch S O cs (Query.operandsWithLiterals lit cs)
  | [], _, _ => by
    rw [Query.operandsWithLiterals]
    exact .nil
  | (clause, q) :: rest, hS, hO => by
    rw [Query.operandsWithLiterals, Query.operandWithLiterals]
    rw [Query.operandsStatements, Query.operandStatements] at hS
    rw [Query.operandsOperations, Query.operandOperations] at hO
    refine .cons (hO clause (by simp)) (queryMatch_withLiterals ?_ ?_)
      (operandsMatch_withLiterals ?_ ?_)
    · exact fun s hs => hS s (List.mem_append_left _ hs)
    · exact fun c hc => hO c (List.mem_append_left _ (List.mem_cons_of_mem clause hc))
    · exact fun s hs => hS s (List.mem_append_right _ hs)
    · exact fun c hc => hO c (List.mem_append_right _ hc)

end

end Queries

/-! ## Comparisons -/

/-- Two tails of one form, with related operands. -/
inductive Tail.Rel (P : Value → Value → Prop) : Tail Value → Tail Value → Prop
  | test {sign : String} : Rel P (.test sign) (.test sign)
  | single {sign : String} {v w : Value} : P v w → Rel P (.single sign v) (.single sign w)
  | range {sign : String} {low high low' high' : Value} : P low low' → P high high' →
      Rel P (.range sign low high) (.range sign low' high')
  | list {sign : String} {vs ws : List Value} : List.Forall₂ P vs ws →
      Rel P (.list sign vs) (.list sign ws)

theorem Backend.tail_sameOutcome (b : Backend) {P : Value → Value → Prop} {l : Lookup}
    {v w : Value} (h : l.Match P v w) : SameOutcome (Tail.Rel P) (b.tail l v) (b.tail l w) := by
  obtain ⟨hnull, hvalues⟩ := h
  induction l, v using Lookup.cases_value with
  -- the value of a test is a flag, which both runs share
  | isNull v =>
    cases hvalues
    exact SameOutcome.ok .test
  | null l hl =>
    cases hnull.mp rfl
    rw [Backend.tail]
    · refine SameOutcome.refl fun t ht => ?_
      unfold Backend.nullTail at ht
      split at ht <;> cases ht <;> exact .test
    · exact hl
  | inList v hv | notInList v hv =>
    rw [Backend.tail, Backend.tail]
    · refine (Value.asItems_sameOutcome hvalues).bind fun items items' hitems => ?_
      cases hitems with
      | nil => exact SameOutcome.error _
      | cons hitem hrest => exact SameOutcome.pure (.list (.cons hitem hrest))
    · exact fun hw => hv (hnull.mpr hw)
    · exact hv
  | between v hv | notBetween v hv =>
    rw [Backend.tail, Backend.tail]
    · refine (Value.asPair_sameOutcome hvalues).bind fun p q hpair => ?_
      cases hpair with
      | cons hlow hrest =>
        cases hrest with
        | cons hhigh _ => exact SameOutcome.pure (.range hlow hhigh)
    · exact fun hw => hv (hnull.mpr hw)
    · exact hv
  | contains v hv =>
    obtain ⟨hwritable, hpatterns⟩ := hvalues hv
    rw [Backend.tail, Backend.tail]
    · refine (Value.shown_sameOutcome hwritable hpatterns).bind fun pattern pattern' hpattern => ?_
      exact SameOutcome.pure (.single hpattern)
    · exact fun hw => hv (hnull.mpr hw)
    · exact hv
  | single l v hl hv =>
    have hsame := ((Lookup.match_single hl).mp ⟨hnull, hvalues⟩).2 hv
    rw [Backend.tail_single hl hv, Backend.tail_single hl fun hw => hv (hnull.mpr hw)]
    exact SameOutcome.ok (.single hsame)

section Comparisons

variable {b : Backend} {lit : Value → String}

/-- A bound value and its literal, in the place of a marker. -/
theorem alignedWith_ofValue {v w : Value} (h : Literal b lit v w) :
    (Fragment.ofValue v).AlignedWith b.markChar lit (.ofValue w) := by
  obtain ⟨hv, rfl⟩ := h
  have hmarker : ∀ v : Value, Aligned b.markChar lit "?".toList [v] (lit v).toList := by
    intro v
    have h : Aligned b.markChar lit ['?'] [v] ((lit v).toList ++ []) := .marker .nil
    rwa [List.append_nil] at h
  cases v with
  | raw sql => exact Backend.steady_of_isPlain hv.raw
  | _ => exact ⟨hmarker _, rfl⟩

/-- Places with a comma between them. -/
theorem alignedWith_items {vs ws : List Value} (h : List.Forall₂ (Literal b lit) vs ws) :
    Fragment.AlignedWith b.markChar lit (Fragment.joined ", " (vs.map Fragment.ofValue))
      (Fragment.joined ", " (ws.map Fragment.ofValue)) := by
  refine Fragment.joined_related ⟨.nil, rfl⟩ Fragment.AlignedWith.append
    (Backend.steady_sign (by simp)) ?_
  rw [List.forall₂_map_left_iff, List.forall₂_map_right_iff]
  exact h.imp fun v w hvw => alignedWith_ofValue hvw

theorem steady_of_mem_signs {t : Tail Value} {sign : String} (h : sign ∈ b.signs t) :
    Steady b.markChar lit sign := by
  have hall : (b.signs t).all (fun sign => Text.isPlain sign.toList) = true := by
    cases t <;> cases b <;> simp only [Backend.signs] <;> decide
  exact Backend.steady_of_isPlain (Backend.isPlain_of_plain (List.all_eq_true.mp hall sign h) b)

/-- Two comparisons of one column. -/
theorem alignedWith_fragment {column : String} (hcolumn : Steady b.markChar lit column)
    {t t' : Tail Value} (h : Tail.Rel (Literal b lit) t t') (hsign : t.sign ∈ b.signs t) :
    (t.fragment column).AlignedWith b.markChar lit (t'.fragment column) := by
  have hfront : Steady b.markChar lit (column ++ t.sign) :=
    hcolumn.append (steady_of_mem_signs hsign)
  have hand : Steady b.markChar lit " AND " := Backend.steady_sign (by simp)
  have hclose : Steady b.markChar lit ")" := Backend.steady_sign (by simp)
  cases h with
  | test => exact hfront
  | single hvw =>
    have hwhole := Fragment.AlignedWith.append hfront (alignedWith_ofValue hvw)
    simpa [Fragment.append, Fragment.ofSql, Tail.fragment, Tail.map, Tail.text, Tail.operands,
      Tail.sign, String.append_assoc] using hwhole
  | range hlow hhigh =>
    have hlower := Fragment.AlignedWith.append hfront (alignedWith_ofValue hlow)
    have hwhole := (hlower.append hand).append (alignedWith_ofValue hhigh)
    simpa [Fragment.append, Fragment.ofSql, Tail.fragment, Tail.map, Tail.text, Tail.operands,
      Tail.sign, String.append_assoc] using hwhole
  | list hitems =>
    have hwhole := (Fragment.AlignedWith.append hfront (alignedWith_items hitems)).append hclose
    rw [Fragment.joined_eq, Fragment.joined_eq] at hwhole
    simpa [Fragment.append, Fragment.ofSql, Tail.fragment, Tail.map, Tail.text, Tail.operands,
      Tail.sign, String.append_assoc, List.flatMap_map, Function.comp_def] using hwhole

end Comparisons

/-! ## Statements and queries -/

section Alignment

variable {b : Backend} {lit : Value → String} (types : TypeCatalogue)
  (hlit : ∀ v, IsLiteral (lit v))
include hlit

theorem alignedWith_congruence :
    Congruence (b.dialect types) (Literal b lit) (Fragment.AlignedWith b.markChar lit) where
  append := Fragment.AlignedWith.append
  isEmpty {f g} h := by
    rw [← String.toList_eq_nil_iff, ← String.toList_eq_nil_iff]
    exact h.1.eq_nil_iff hlit
  sign t ht := Backend.steady_sign (by simp at ht ⊢; tauto)
  place := alignedWith_ofValue
  keyword := Backend.steady_keywordText types
  column := Backend.steady_quoteName types
  enclosed {c f g} hc h := by
    refine Backend.alignedWith_enclosed types ?_ h
    simp only [List.mem_cons, List.not_mem_nil, or_false] at hc
    rcases hc with rfl | rfl | rfl <;> rfl
  comparison {l column v w} h := by
    rw [Backend.comparison_eq, Backend.comparison_eq]
    have htails := (b.tail_sameOutcome h).and_left fun t ht => (Backend.tail_spec ht).2
    exact htails.map fun t t' ht =>
      alignedWith_fragment (Backend.steady_quote types column) ht.1 ht.2

omit hlit in
theorem alignedWith_operandCongruence :
    OperandCongruence (b.dialect types) (b.dialect types)
      (fun clause => clause.isSetOperation = true) (Fragment.AlignedWith b.markChar lit) where
  empty := ⟨.nil, rfl⟩
  operand {clause f g} hclause h := by
    unfold Value.isSetOperation at hclause
    split at hclause
    · next c =>
      have hmarkers : c.hasMarkers = false := by
        revert hclause
        cases c <;> decide
      exact Backend.alignedWith_enclosed types hmarkers h
    · cases hclause
  next {f f' g g'} h h' := by
    have hspace : Steady b.markChar lit " " := Backend.steady_sign (by simp)
    have hwhole := (h.append hspace).append h'
    simpa [Fragment.append, Fragment.ofSql] using hwhole

theorem alignedWith_template {k : StatementKind} (hk : k.isData = true) {fs gs : List Fragment}
    (h : List.Forall₂ (Fragment.AlignedWith b.markChar lit) fs gs)
    (hlength : fs.length = (b.template k).names.length) :
    ((b.template k).fragment fs).AlignedWith b.markChar lit ((b.template k).fragment gs) := by
  have hregular := b.template_regular hk
  have hhead := Backend.isPlain_of_plain hregular.head b
  have hslots := fun slot hslot => Backend.isPlain_of_plain (hregular.slots slot hslot) b
  have hlaid := Aligned.lay hlit b.markChar_not_blank
    (fun slot hslot => Backend.ne_of_isPlain (hslots slot hslot)) (h.imp fun f g hfg => hfg.1)
    (by rw [hlength, Template.names, List.length_map]) (Backend.aligned_of_isPlain hhead)
  refine ⟨?_, ?_⟩
  · rw [Template.fragment, Template.fragment, String.toList_ofList, String.toList_ofList]
    exact hlaid.strip hlit b.markChar_not_blank
  · clear hlaid hlength
    induction h with
    | nil => rfl
    | cons hfg _ ih =>
      simp only [Template.fragment, List.flatMap_cons, hfg.2, List.nil_append] at ih ⊢
      exact ih

/-- Two fillings that are fragments, the second with literals for the parameters of the first. -/
def AlignedFillings (b : Backend) (lit : Value → String) (x y : Filling) : Prop :=
  ∃ f g, Fragment.AlignedWith b.markChar lit f g ∧ x = f.toFilling ∧ y = g.toFilling

omit hlit in
theorem exists_fragments {xs ys : List Filling} (h : List.Forall₂ (AlignedFillings b lit) xs ys) :
    ∃ fs gs, List.Forall₂ (Fragment.AlignedWith b.markChar lit) fs gs ∧
      xs = fs.map Fragment.toFilling ∧ ys = gs.map Fragment.toFilling := by
  induction h with
  | nil => exact ⟨[], [], .nil, rfl, rfl⟩
  | cons hxy _ ih =>
    obtain ⟨f, g, hfg, rfl, rfl⟩ := hxy
    obtain ⟨fs, gs, hfs, rfl, rfl⟩ := ih
    exact ⟨f :: fs, g :: gs, .cons hfg hfs, rfl, rfl⟩

theorem statement_alignedWith {s : Statement} {k : StatementKind} (hs : s.kind = .kind k)
    (hk : k.isData = true) (hplain : ∀ v ∈ s.rawPlaces, v.Plain b)
    {operands operands' : Traced Fragment}
    (hoperands : SameOutcome (Fragment.AlignedWith b.markChar lit) operands.result
      operands'.result) :
    SameOutcome (Fragment.AlignedWith b.markChar lit)
      (s.compile (b.dialect types) operands).result
      ((s.withLiterals lit).compile (b.dialect types) operands').result := by
  rw [Backend.result_compile types hs hk,
    Backend.result_compile types (s := s.withLiterals lit) hs hk]
  have hfillings := (alignedWith_congruence types hlit).fillings (Q := AlignedFillings b lit)
    (fun f g hfg => ⟨f, g, hfg, rfl, rfl⟩) (statementMatch_withLiterals hplain) hoperands
    (b.template k).names (fun name hname hbinds x hx => by
      obtain ⟨f, hf, rfl⟩ := Backend.steady_filling types hs hplain
        ((b.template_regular hk).suits name hname) hbinds hx
      exact ⟨f, f, hf, rfl, rfl⟩)
  refine (hfillings.and_left fun xs hxs => (mapM_eq_ok.mp hxs).length_eq).bind
    fun xs ys hxys => ?_
  obtain ⟨hxys, hlength⟩ := hxys
  obtain ⟨fs, gs, hfs, rfl, rfl⟩ := exists_fragments hxys
  rw [List.length_map] at hlength
  have hnodup := (b.template_regular hk).nodup
  rw [Statement.assemble_eq hnodup hlength.symm,
    Statement.assemble_eq hnodup (by rw [← hfs.length_eq, hlength])]
  exact SameOutcome.ok (alignedWith_template hlit hk hfs hlength.symm)

end Alignment

/-- The statement reads or changes rows. -/
def Statement.isData (s : Statement) : Bool :=
  match s.kind with
  | .kind k => k.isData
  | _ => false

theorem Statement.exists_kind {s : Statement} (h : s.isData = true) :
    ∃ k, s.kind = .kind k ∧ k.isData = true := by
  unfold isData at h
  split at h
  · next k hkind => exact ⟨k, hkind, h⟩
  · cases h

/-- A query of statements that read or change rows, joined by set operations, whose raw SQL has
neither question marks nor the mark of the backend. -/
structure Query.IsPlain (b : Backend) (q : Query) : Prop where
  kinds : ∀ s ∈ q.statements, s.isData = true
  operations : ∀ clause ∈ q.operations, clause.isSetOperation = true
  raws : ∀ s ∈ q.statements, ∀ sql ∈ s.raws, b.isPlain sql.toList = true

/-- A query and the query with literals in the places of its bound values. -/
theorem query_alignedWith {b : Backend} {lit : Value → String} (types : TypeCatalogue)
    (hlit : ∀ v, IsLiteral (lit v)) {q : Query} (hq : q.IsPlain b) :
    SameOutcome (Fragment.AlignedWith b.markChar lit) (q.compile (b.dialect types)).result
      ((q.withLiterals lit).compile (b.dialect types)).result := by
  have hmatch : QueryMatch (fun s t => t = s.withLiterals lit ∧ s.isData = true ∧
      ∀ sql ∈ s.raws, b.isPlain sql.toList = true) (fun clause => clause.isSetOperation = true)
      q (q.withLiterals lit) :=
    queryMatch_withLiterals (fun s hs => ⟨rfl, hq.kinds s hs, hq.raws s hs⟩) hq.operations
  refine hmatch.compile (alignedWith_operandCongruence types) ?_
  rintro s t operands operands' ⟨rfl, hs, hraws⟩ hoperands
  have hplain : ∀ v ∈ s.rawPlaces, v.Plain b := fun v hv sql hsql =>
    hraws sql (List.mem_flatMap.mpr ⟨v, hv, hsql⟩)
  unfold Statement.isData at hs
  split at hs
  · next k hkind => exact statement_alignedWith types hlit hkind hs hplain hoperands
  · cases hs

/-- The markers outside quotes and the parameters go together, one by one: there are as many of
them, and a query with literals in the places of its bound values binds nothing and has the same SQL
with these literals in the places of the markers, in the order of the parameters. -/
theorem markers_aligned_with_params (b : Backend) (types : TypeCatalogue) {q : Query}
    (hq : q.IsPlain b) {f : Fragment} (h : (q.compile (b.dialect types)).result = .ok f) :
    Text.markers b.markChar false f.sql.toList = f.params.length ∧
      ∀ lit : Value → String, (∀ v, IsLiteral (lit v)) →
        ((q.withLiterals lit).compile (b.dialect types)).result =
          .ok ⟨String.ofList (Text.fillMarkers b.markChar false
            (f.params.map fun v => (lit v).toList) f.sql.toList), []⟩ := by
  constructor
  · have hliteral : IsLiteral "x" := ⟨by simp, by simp; decide⟩
    obtain ⟨g, -, hfg⟩ := (query_alignedWith types (fun _ => hliteral) hq).exists_ok h
    exact hfg.1.markers_eq b.markChar_ne
  · intro lit hlit
    obtain ⟨g, hg, hfg⟩ := (query_alignedWith types hlit hq).exists_ok h
    obtain ⟨sql, params⟩ := g
    rw [hg, hfg.1.fillMarkers_eq b.markChar_ne, String.ofList_toList]
    cases hfg.2
    rfl

/-- A select with markers and marks in its names and with raw SQL among its values. -/
def ledgerQuery : Query :=
  .mk { Statement.select (.text "a?b") (.tuple [.raw "sum(x)"]) with
        filter := .predicate
          [.tuple [.text "c\"?", .int 3],
           .predicate [.tuple [.text "d__in", .list [.text "?", .raw "now()", .null]],
             .tuple [.text "e__contains", .int 5]] .or true] .and false }
    [(.clause .unionAll, .single { Statement.select (.text "t") with
        having := .predicate [.tuple [.text "n__between", .tuple [.int 1, .int 9]]] .and false })]

theorem ledgerQuery_markers_aligned :
    ledgerQuery.IsPlain .sqlite ∧
      ∃ f, (ledgerQuery.compile (Backend.sqlite.dialect .standard)).result = .ok f ∧
        f.params.length = 6 ∧ Text.markers '"' false f.sql.toList = 6 ∧
        ∀ lit : Value → String, (∀ v, IsLiteral (lit v)) →
          ((ledgerQuery.withLiterals lit).compile (Backend.sqlite.dialect .standard)).result =
            .ok ⟨String.ofList (Text.fillMarkers '"' false
              (f.params.map fun v => (lit v).toList) f.sql.toList), []⟩ := by
  have hplain : ledgerQuery.IsPlain .sqlite :=
    ⟨by decide +kernel, by decide +kernel, by decide +kernel⟩
  have hparams : ((ledgerQuery.compile (Backend.sqlite.dialect .standard)).result.toOption.map
      fun f => f.params.length) = some 6 := by decide +kernel
  obtain ⟨f, hf, hlength⟩ := Option.map_eq_some_iff.mp hparams
  have hresult := toOption_eq_some.mp hf
  have haligned := markers_aligned_with_params .sqlite .standard hplain hresult
  exact ⟨hplain, f, hresult, hlength, haligned.1.trans hlength, haligned.2⟩

end SqlRender
