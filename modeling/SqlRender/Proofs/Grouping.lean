import SqlRender.Proofs.Regrouping
import SqlRender.Proofs.Segment

/-!
# Grouping of set operations

A query is meant as its own select, combined from the left with its operands as units, and then
arranged. The SQL of an operand stands behind its operation without parentheses, so an operand that
is more than a select is read in pieces: its operations join those of the whole, and what arranges
it is taken to arrange the whole.

* `Query.meaning`: what a query is meant as.
* `Backend.exists_compound`: its SQL is this, written without parentheses.
* `read_as_meant_iff_isFlat`: the SQL is read as it is meant exactly if no operand would have to
  stand in parentheses.
* `operand_lost_in_sql`: a limit of an operand and a limit of the whole have one SQL.
-/

namespace SqlRender

/-! ## What a query is meant as -/

/-- The operation that a value names. -/
def Value.setOperator : Value → SetOperator
  | .clause .unionAll => ⟨.union, true⟩
  | .clause .intersect => ⟨.intersect, false⟩
  | .clause .intersectAll => ⟨.intersect, true⟩
  | .clause .except => ⟨.except, false⟩
  | .clause .exceptAll => ⟨.except, true⟩
  | _ => ⟨.union, false⟩

/-- The words of an operation, with a space behind them. -/
def SetOperator.text : SetOperator → String
  | ⟨.union, false⟩ => "UNION "
  | ⟨.union, true⟩ => "UNION ALL "
  | ⟨.intersect, false⟩ => "INTERSECT "
  | ⟨.intersect, true⟩ => "INTERSECT ALL "
  | ⟨.except, false⟩ => "EXCEPT "
  | ⟨.except, true⟩ => "EXCEPT ALL "

namespace Query

mutual

/-- The select of a query, combined from the left with the meaning of each operand, and then
arranged as the query says. -/
def meaning (b : Backend) : Query → Compound Statement Statement
  | .mk s compounds =>
    let whole := (Compound.select s).combineAll (operandMeanings b compounds)
    if s.arranges b then .arrange s whole else whole

def operandMeanings (b : Backend) :
    List (Value × Query) → List (SetOperator × Compound Statement Statement)
  | [] => []
  | operand :: rest => operandMeaning b operand :: operandMeanings b rest

def operandMeaning (b : Backend) : Value × Query → SetOperator × Compound Statement Statement
  | (clause, q) => (clause.setOperator, meaning b q)

end

/-- A query of selects that can be read, with set operations between them. -/
structure Readable (q : Query) : Prop where
  statements : ∀ s ∈ q.statements, s.Readable
  operations : ∀ v ∈ q.operations, v.isSetOperation = true

end Query

namespace Backend

open Text (Yields)

variable {b : Backend} {types : TypeCatalogue}

/-- What a select without operands is read as. -/
def tokensOf? (b : Backend) (types : TypeCatalogue) (s : Statement) : Option (List Token) :=
  ((Query.single s).compile (b.dialect types)).result.toOption.bind fun g =>
    Text.tokens? g.sql.toList

/-- The tokens of a select by itself. -/
def SelectReads (b : Backend) (types : TypeCatalogue) (s : Statement) (ts : List Token) : Prop :=
  b.tokensOf? types s.bare = some ts

/-- The tokens that a select has behind those of the select by itself. -/
def ArrangementReads (b : Backend) (types : TypeCatalogue) (s : Statement) (ts : List Token) :
    Prop :=
  ∃ core, b.tokensOf? types s.bare = some core ∧ b.tokensOf? types s = some (core ++ ts)

theorem tokensOf?_of_shows {s : Statement} {items : List Item} (h : b.Shows types s items) :
    b.tokensOf? types s = some (items.flatMap Item.tokens) := by
  obtain ⟨g, hg, ts, hts, hitems⟩ := h
  rw [tokensOf?, hg, hitems.flatMap_tokens]
  exact hts

/-! ## The SQL of a query, without parentheses -/

theorem yields_setOperator (op : SetOperator) : Yields op.text op.items := by
  obtain ⟨word, all⟩ := op
  have hword : Contributes [.word word.chars] [.token (.word word.chars)] :=
    .token (by simp) (by simp)
  have hall : Contributes [.word ['A', 'L', 'L']] [.token (.word ['A', 'L', 'L'])] :=
    .token (by simp) (by simp)
  cases all with
  | false => exact ⟨_, by cases word <;> decide, hword⟩
  | true => exact ⟨_, by cases word <;> decide, hword.append hall⟩

/-- An operand stands behind the words of its operation, without parentheses. -/
theorem clauseOf_setOperation {v : Value} (hv : v.isSetOperation = true) (sql : String) :
    (b.dialect types).clauseOf v [.text sql] = .ok (v.setOperator.text ++ sql) := by
  unfold Value.isSetOperation at hv
  split at hv
  · next c =>
    have hformat : b.formatTexts? c =
        some ((Value.clause c).setOperator.text.toList, ["".toList]) := by
      simp only [List.mem_cons, List.not_mem_nil, or_false, decide_eq_true_eq] at hv
      rcases hv with rfl | rfl | rfl | rfl | rfl | rfl <;> cases b <;> decide
    exact (clause_one types hformat sql).trans (by rw [String.append_empty])
  · cases hv

/-- The items of a select are those of the select by itself, and the items of an arrangement those
that a select has behind them. -/
abbrev Renders (b : Backend) (types : TypeCatalogue) :
    Compound Statement Statement → Compound (List Item) (List Item) → Prop :=
  Compound.Rel (fun s items => b.Shows types s.bare items)
    fun s items => ∃ core, b.Shows types s.bare core ∧ b.Shows types s (core ++ items)

mutual

/-- The SQL of a query is what it is meant as, written without parentheses. -/
theorem exists_compound (q : Query) (hs : ∀ s ∈ q.statements, s.Readable)
    (hops : ∀ v ∈ q.operations, v.isSetOperation = true) {f : Fragment}
    (h : (q.compile (b.dialect types)).result = .ok f) :
    ∃ c, Compound.Clear c ∧ Yields f.sql c.items ∧ b.Renders types (q.meaning b) c := by
  cases q with
  | mk s compounds =>
    rw [Query.statements] at hs
    rw [Query.operations] at hops
    rw [Query.compile] at h
    have hreadable := hs s List.mem_cons_self
    obtain ⟨c, core, tail, hc, hcore, htail, hbare, hwhole, hyields⟩ := exists_segments hreadable h
    obtain ⟨operands, hitems, hclear, hrel⟩ := exists_operands compounds
      (fun t ht => hs t (List.mem_cons_of_mem s ht)) hops hc
    have hall := hyields _ hitems
    have hfirst : b.Renders types (.select s) (.select core) := .select hbare
    have hcombined := hfirst.combineAll hrel
    have hcombinedClear : ((Compound.select core).combineAll operands).Clear :=
      Compound.Clear.combineAll (c := .select core) hcore hclear
    rw [Query.meaning]
    cases harranges : s.arranges b with
    | true =>
      rw [harranges] at htail
      refine ⟨.arrange tail ((Compound.select core).combineAll operands), ⟨htail, hcombinedClear⟩,
        ?_, .arrange ⟨core, hbare, hwhole⟩ hcombined⟩
      rw [Compound.items, Compound.items_combineAll]
      exact hall
    | false =>
      rw [harranges] at htail
      cases htail
      refine ⟨_, hcombinedClear, ?_, hcombined⟩
      rw [Compound.items_combineAll, Compound.items]
      simpa using hall

theorem exists_operands (compounds : List (Value × Query))
    (hs : ∀ s ∈ Query.operandsStatements compounds, s.Readable)
    (hops : ∀ v ∈ Query.operandsOperations compounds, v.isSetOperation = true) {f : Fragment}
    (h : (Query.compileOperands (b.dialect types) compounds).result = .ok f) :
    ∃ operands : List (SetOperator × Compound (List Item) (List Item)),
      Yields f.sql (operands.flatMap fun operand => operand.1.items ++ operand.2.items) ∧
      (∀ operand ∈ operands, operand.2.Clear) ∧
      List.Forall₂ (fun operand operand' => operand.1 = operand'.1 ∧
        b.Renders types operand.2 operand'.2) (Query.operandMeanings b compounds) operands := by
  cases compounds with
  | nil =>
    cases h
    exact ⟨[], Text.yields_empty, by simp, .nil⟩
  | cons operand rest =>
    obtain ⟨clause, q⟩ := operand
    rw [Query.operandsStatements, Query.operandStatements] at hs
    rw [Query.operandsOperations, Query.operandOperations] at hops
    rw [Query.result_compileOperands] at h
    obtain ⟨first, hfirst, h⟩ := bind_eq_ok.mp h
    obtain ⟨others, hothers, h⟩ := bind_eq_ok.mp h
    cases h
    rw [Query.result_compileOperand] at hfirst
    obtain ⟨inner, hinner, hfirst⟩ := bind_eq_ok.mp hfirst
    obtain ⟨sql, hsql, hfirst⟩ := bind_eq_ok.mp hfirst
    cases hfirst
    obtain ⟨c, hclear, hyields, hrel⟩ := exists_compound q
      (fun s hmem => hs s (List.mem_append_left _ hmem))
      (fun v hmem => hops v (List.mem_append_left _ (List.mem_cons_of_mem clause hmem))) hinner
    obtain ⟨operands, hitems, hothersClear, hothersRel⟩ := exists_operands rest
      (fun s hmem => hs s (List.mem_append_right _ hmem))
      (fun v hmem => hops v (List.mem_append_right _ hmem)) hothers
    rw [clauseOf_setOperation (hops clause (by simp))] at hsql
    cases hsql
    have hend : Text.endsApart clause.setOperator.text = true := by
      obtain ⟨word, all⟩ := clause.setOperator
      cases word <;> cases all <;> decide
    have hoperand := (yields_setOperator clause.setOperator).append hyields (.inl hend)
    refine ⟨(clause.setOperator, c) :: operands, ?_,
      List.forall_mem_cons.mpr ⟨hclear, hothersClear⟩, .cons ⟨rfl, hrel⟩ hothersRel⟩
    cases rest with
    | nil =>
      cases hothersRel
      simpa using hoperand
    | cons next rest =>
      have hspace : Yields " " [] := ⟨[], by decide, .nil⟩
      have hfront := hoperand.append hspace (.inr (by decide))
      have hboth := hfront.append hitems (.inl (Text.endsApart_append _ (by decide)))
      simpa using hboth

end

end Backend

/-! ## Operands that need no parentheses -/

namespace Query

variable {b : Backend}

theorem operandMeanings_eq (b : Backend) (compounds : List (Value × Query)) :
    operandMeanings b compounds =
      compounds.map fun operand => (operand.1.setOperator, operand.2.meaning b) := by
  induction compounds with
  | nil => rw [operandMeanings, List.map_nil]
  | cons operand rest ih => rw [operandMeanings, ih, List.map_cons, operandMeaning]

theorem body_meaning (b : Backend) (q : Query) :
    (q.meaning b).body =
      (Compound.select q.statement).combineAll (operandMeanings b q.compounds) := by
  cases q with
  | mk s compounds =>
    rw [meaning]
    split
    · rfl
    · exact Compound.body_combineAll s _

theorem isSelect_meaning (b : Backend) (q : Query) :
    (q.meaning b).isSelect = true ↔ q.compounds = [] ∧ q.statement.arranges b = false := by
  cases q with
  | mk s compounds =>
    rw [meaning, operandMeanings_eq]
    split
    · next harranges => simp [Compound.isSelect, statement, harranges]
    · next harranges =>
      rw [Compound.isSelect_combineAll]
      simp [Query.compounds, statement, harranges]

mutual

theorem ops_meaning : ∀ (q : Query), ∀ op ∈ (q.meaning b).ops,
    ∃ v ∈ q.operations, op = v.setOperator
  | .mk s compounds, op, hop => by
    have hbody : op ∈ ((Compound.select s).combineAll (operandMeanings b compounds)).ops := by
      rw [meaning] at hop
      split at hop <;> exact hop
    rw [operations]
    rcases Compound.mem_ops_combineAll.mp hbody with hop | ⟨operand, hoperand, hop⟩
    · cases hop
    · exact ops_operandMeanings compounds operand hoperand op hop

theorem ops_operandMeanings : ∀ (compounds : List (Value × Query)),
    ∀ operand ∈ operandMeanings b compounds, ∀ op, op = operand.1 ∨ op ∈ operand.2.ops →
      ∃ v ∈ operandsOperations compounds, op = v.setOperator
  | [], _, hoperand, _, _ => by
    rw [operandMeanings] at hoperand
    cases hoperand
  | (clause, q) :: rest, operand, hoperand, op, hop => by
    rw [operandMeanings, operandMeaning] at hoperand
    rw [operandsOperations, operandOperations]
    rcases List.mem_cons.mp hoperand with rfl | hoperand
    · rcases hop with rfl | hop
      · exact ⟨clause, by simp, rfl⟩
      · obtain ⟨v, hv, rfl⟩ := ops_meaning q op hop
        exact ⟨v, by simp [hv], rfl⟩
    · obtain ⟨v, hv, rfl⟩ := ops_operandMeanings rest operand hoperand op hop
      exact ⟨v, by simp [hv], rfl⟩

end

mutual

theorem arrangements_meaning : ∀ (q : Query), ∀ t ∈ (q.meaning b).arrangements,
    t ∈ q.statements ∧ t.arranges b = true
  | .mk s compounds, t, ht => by
    have hoperands :
        t ∈ ((Compound.select s).combineAll (operandMeanings b compounds)).arrangements →
        t ∈ operandsStatements compounds ∧ t.arranges b = true := by
      intro ht
      rcases Compound.mem_arrangements_combineAll.mp ht with ht | ⟨operand, hoperand, ht⟩
      · cases ht
      · exact arrangements_operandMeanings compounds operand hoperand t ht
    rw [meaning] at ht
    rw [statements, List.mem_cons]
    split at ht
    · next harranges =>
      rcases List.mem_cons.mp ht with rfl | ht
      · exact ⟨.inl rfl, harranges⟩
      · exact ⟨.inr (hoperands ht).1, (hoperands ht).2⟩
    · exact ⟨.inr (hoperands ht).1, (hoperands ht).2⟩

theorem arrangements_operandMeanings : ∀ (compounds : List (Value × Query)),
    ∀ operand ∈ operandMeanings b compounds, ∀ t ∈ operand.2.arrangements,
      t ∈ operandsStatements compounds ∧ t.arranges b = true
  | [], _, hoperand, _, _ => by
    rw [operandMeanings] at hoperand
    cases hoperand
  | (clause, q) :: rest, operand, hoperand, t, ht => by
    rw [operandMeanings, operandMeaning] at hoperand
    rw [operandsStatements, operandStatements, List.mem_append]
    rcases List.mem_cons.mp hoperand with rfl | hoperand
    · obtain ⟨hmem, harranges⟩ := arrangements_meaning q t ht
      exact ⟨.inl hmem, harranges⟩
    · obtain ⟨hmem, harranges⟩ := arrangements_operandMeanings rest operand hoperand t ht
      exact ⟨.inr hmem, harranges⟩

end

/-- Where all operations bind alike, an operand needs no parentheses exactly if it is a select by
itself. -/
theorem isFlat_meaning_iff {q : Query} {word : SetWord}
    (h : ∀ v ∈ q.operations, v.setOperator.word = word) (tight : SetWord → Bool) :
    (q.meaning b).isFlat tight = true ↔ ∀ operand ∈ q.compounds,
      operand.2.compounds = [] ∧ operand.2.statement.arranges b = false := by
  have hops : ∀ op ∈ (q.meaning b).body.ops, tight op.word = tight word := by
    intro op hop
    rw [Compound.ops_body] at hop
    obtain ⟨v, hv, rfl⟩ := ops_meaning q op hop
    rw [h v hv]
  rw [Compound.isFlat_eq_isChain_body]
  rw [body_meaning] at hops ⊢
  rw [Compound.isChain_combineAll hops, operandMeanings_eq]
  simp [Compound.isChain, isSelect_meaning]

theorem isUniform_meaning {q : Query} {op : SetOperator}
    (hops : ∀ v ∈ q.operations, v.setOperator = op)
    (harranges : ∀ s ∈ operandsStatements q.compounds, s.arranges b = false) :
    (q.meaning b).body.IsUniform op := by
  constructor
  · intro op' hop'
    rw [Compound.ops_body] at hop'
    obtain ⟨v, hv, rfl⟩ := ops_meaning q op' hop'
    exact hops v hv
  · rw [body_meaning, List.eq_nil_iff_forall_not_mem]
    intro t ht
    rcases Compound.mem_arrangements_combineAll.mp ht with ht | ⟨operand, hoperand, ht⟩
    · cases ht
    · obtain ⟨hmem, harranges'⟩ := arrangements_operandMeanings q.compounds operand hoperand t ht
      rw [harranges t hmem] at harranges'
      cases harranges'

end Query

/-! ## What is read -/

/-- The tokens of what a query is meant as. -/
theorem Backend.rel_tokens {b : Backend} {types : TypeCatalogue} {m : Compound Statement Statement}
    {c : Compound (List Item) (List Item)} (h : b.Renders types m c) :
    m.Rel (b.SelectReads types) (b.ArrangementReads types) c.tokens := by
  induction h with
  | select hshows => exact .select (tokensOf?_of_shows hshows)
  | combine _ _ ihl ihr => exact .combine ihl ihr
  | arrange hshows _ ih =>
    obtain ⟨core, hcore, hwhole⟩ := hshows
    have htokens := tokensOf?_of_shows hwhole
    rw [List.flatMap_append] at htokens
    exact .arrange ⟨_, tokensOf?_of_shows hcore, htokens⟩ ih

/-- The SQL of a query is read as it is meant exactly if no operand would have to stand in
parentheses. Where all operations are unions, that is if no operand has operands or an arrangement
of its own. Where one associative operation is the only one and no operand is arranged, the value is
the one that is meant, whatever the grouping. Queries without need of parentheses that differ in
their grouping or in what is arranged never have the same SQL. -/
theorem read_as_meant_iff_isFlat (b : Backend) (types : TypeCatalogue) {q : Query}
    (hq : q.Readable) {f : Fragment} (hf : (q.compile (b.dialect types)).result = .ok f) :
    ∃ c : CompoundReading,
      (q.meaning b).Rel (b.SelectReads types) (b.ArrangementReads types) c ∧
      (∀ tight, Text.compound? tight f.sql = some c ↔ (q.meaning b).isFlat tight = true) ∧
      ((∀ v ∈ q.operations, v.setOperator.word = .union) → ∀ tight,
        ((q.meaning b).isFlat tight = true ↔ ∀ operand ∈ q.compounds,
          operand.2.compounds = [] ∧ operand.2.statement.arranges b = false)) ∧
      (∀ op, (∀ v ∈ q.operations, v.setOperator = op) →
        (∀ s ∈ Query.operandsStatements q.compounds, s.arranges b = false) →
        ∀ tight, ∃ r, Text.compound? tight f.sql = some r ∧
          ∀ (R : Type) (I : Compound.Interpretation (List Token) (List Token) R),
            (∀ x y z, I.combine op (I.combine op x y) z = I.combine op x (I.combine op y z)) →
            r.value I = c.value I) ∧
      ∀ (q' : Query) (f' : Fragment), q'.Readable →
        (q'.compile (b.dialect types)).result = .ok f' → f'.sql = f.sql →
        ∀ tight, (q.meaning b).isFlat tight = true → (q'.meaning b).isFlat tight = true →
          (q'.meaning b).shape = (q.meaning b).shape := by
  obtain ⟨c, hclear, hyields, hrenders⟩ := Backend.exists_compound q hq.statements hq.operations hf
  have hread : ∀ tight, Text.compound? tight f.sql = some c.tokens ↔
      (q.meaning b).isFlat tight = true := by
    intro tight
    rw [Text.compound?_eq_some_iff hclear hyields, hrenders.isFlat_eq]
  refine ⟨c.tokens, Backend.rel_tokens hrenders, hread, fun hunion => ?_, ?_, ?_⟩
  · exact Query.isFlat_meaning_iff hunion
  · intro op hops harranges tight
    have huniform : c.body.IsUniform op :=
      hrenders.body.isUniform (Query.isUniform_meaning hops harranges)
    refine ⟨_, Text.compound?_of_isUniform tight hclear hyields huniform, fun R I hassoc => ?_⟩
    exact Compound.value_leftward_of_body hassoc (c.rel_tokens.body.isUniform huniform)
  · intro q' f' hq' hf' hsql tight hflat hflat'
    obtain ⟨c', hclear', hyields', hrenders'⟩ :=
      Backend.exists_compound q' hq'.statements hq'.operations hf'
    rw [hrenders'.isFlat_eq] at hflat'
    have hread' := Text.compound?_of_isFlat hclear' hyields' hflat'
    rw [hsql, (hread tight).mpr hflat] at hread'
    have htokens : c.tokens = c'.tokens := Option.some.inj hread'
    rw [(Backend.rel_tokens hrenders').shape_eq, (Backend.rel_tokens hrenders).shape_eq, htokens]

/-- A select with raw SQL, a join, a condition, an ordering, a limit, a lock and two operands. -/
def turnoverQuery : Query :=
  .mk { Statement.select (.text "sales")
          (.tuple [.text "city", .raw "sum(price) AS \"limit\""]) with
        joins := [{ table := "shops", on := [("sales.shop", "shops.id")] }]
        filter := .predicate [.raw "(SELECT 1 UNION SELECT 2) IS NOT NULL",
          .predicate [.tuple [.text "price__between", .tuple [.int 1, .int 9]]] .or true] .and false
        groupBy := .tuple [.text "city"]
        orderBy := .tuple [.text "-city"]
        limit := .int 10
        lock := .keyword .forUpdateLock }
    [(.clause .union, .single { Statement.select (.text "union") with distinct := .bool true }),
     (.clause .unionAll, .single (Statement.select (.text "returns")))]

theorem turnoverQuery_read_as_meant :
    turnoverQuery.Readable ∧
      ∃ f c, (turnoverQuery.compile (Backend.postgresql.dialect .standard)).result = .ok f ∧
        (turnoverQuery.meaning .postgresql).Rel (Backend.postgresql.SelectReads .standard)
          (Backend.postgresql.ArrangementReads .standard) c ∧
        ∀ tight, Text.compound? tight f.sql = some c := by
  have hreadable : turnoverQuery.Readable := by
    refine ⟨?_, by decide⟩
    show ∀ s ∈ ([_, _, _] : List Statement), s.Readable
    simp only [List.forall_mem_cons]
    refine ⟨?_, ?_, ?_, List.forall_mem_nil _⟩
    · exact ⟨rfl, by decide, by decide, by decide, rfl, by decide +kernel⟩
    · exact ⟨rfl, by decide, by decide, by decide, rfl, by decide⟩
    · exact ⟨rfl, by decide, by decide, by decide, rfl, by decide⟩
  have hsome : (turnoverQuery.compile
      (Backend.postgresql.dialect .standard)).result.toOption.isSome = true := by decide +kernel
  obtain ⟨f, hf⟩ := Option.isSome_iff_exists.mp hsome
  have hresult := toOption_eq_some.mp hf
  obtain ⟨c, hrel, hread, hunion, -⟩ :=
    read_as_meant_iff_isFlat .postgresql .standard hreadable hresult
  have hoperands : ∀ operand ∈ turnoverQuery.compounds, operand.2.compounds = [] ∧
      operand.2.statement.arranges .postgresql = false := by
    refine List.forall_mem_cons.mpr ⟨⟨rfl, by decide +kernel⟩, ?_⟩
    exact List.forall_mem_cons.mpr ⟨⟨rfl, by decide +kernel⟩, List.forall_mem_nil _⟩
  exact ⟨hreadable, f, c, hresult, hrel, fun tight => (hread tight).mpr
    ((hunion (by decide) tight).mpr hoperands)⟩

/-- A union whose operand is cut off. -/
def operandLimit : Query :=
  .mk (Statement.select (.text "a"))
    [(.clause .union, .single { Statement.select (.text "b") with limit := .int 5 })]

/-- A union that is cut off. -/
def wholeLimit : Query :=
  .mk { Statement.select (.text "a") with limit := .int 5 }
    [(.clause .union, .single (Statement.select (.text "b")))]

/-- A union with a union. -/
def operandGroup : Query :=
  .mk (Statement.select (.text "a"))
    [(.clause .unionAll, .mk (Statement.select (.text "b"))
      [(.clause .union, .single (Statement.select (.text "c")))])]

/-- A union of three from the left. -/
def wholeGroup : Query :=
  .mk (Statement.select (.text "a"))
    [(.clause .unionAll, .single (Statement.select (.text "b"))),
     (.clause .union, .single (Statement.select (.text "c")))]

/-- What is meant by a query is lost where an operand is cut off or has operands: there is another
query with the same SQL, and the SQL is read as that one. -/
theorem operand_lost_in_sql :
    ((operandLimit.render (Backend.ansi.dialect .standard)).result.toOption =
        some "SELECT * FROM \"a\" UNION SELECT * FROM \"b\" LIMIT 5" ∧
      (wholeLimit.render (Backend.ansi.dialect .standard)).result.toOption =
        some "SELECT * FROM \"a\" UNION SELECT * FROM \"b\" LIMIT 5" ∧
      (operandLimit.meaning .ansi).shape ≠ (wholeLimit.meaning .ansi).shape ∧
      (Text.compound? (fun _ => false) "SELECT * FROM \"a\" UNION SELECT * FROM \"b\" LIMIT 5").map
        Compound.shape = some (wholeLimit.meaning .ansi).shape) ∧
    (operandGroup.render (Backend.ansi.dialect .standard)).result.toOption =
      some "SELECT * FROM \"a\" UNION ALL SELECT * FROM \"b\" UNION SELECT * FROM \"c\"" ∧
    (wholeGroup.render (Backend.ansi.dialect .standard)).result.toOption =
      some "SELECT * FROM \"a\" UNION ALL SELECT * FROM \"b\" UNION SELECT * FROM \"c\"" ∧
    (operandGroup.meaning .ansi).shape ≠ (wholeGroup.meaning .ansi).shape := by
  decide +kernel

end SqlRender
