import SqlRender.Proofs.Comparison
import SqlRender.Proofs.Correspondence

/-!
# Bound values never reach the SQL

Whatever the tables of a dialect hold, the SQL of a query does not depend on the values that it
binds. Two queries that differ only in such values both fail, with errors of one family, or both
have a result, with the same SQL and as many parameters. Raw SQL is no bound value: it stands in the
SQL as it is, so it has to be the same in both. A value that a text is to contain is bound as a
pattern, so what matters of it is whether it has a text at all (`termQuery_not_independent`).

The proof is an instance of `QueryMatch.compile`: values in one place have the same raw SQL
(`Value.SameRaw`), fragments the same SQL (`Fragment.SameText`).
-/

namespace SqlRender

/-- The raw SQL that a value is. -/
def Value.raw? : Value → Option String
  | .raw sql => some sql
  | _ => none

/-- Two values that are bound, or the same raw SQL twice. -/
def Value.SameRaw (v w : Value) : Prop := v.raw? = w.raw?

/-- Two queries that differ in bound values at most. -/
def Query.SameButBound (q r : Query) : Prop :=
  QueryMatch (StatementMatch Value.SameRaw) (fun _ => True) q r

namespace Fragment

/-- Two fragments with the same SQL and as many parameters. -/
def SameText (f g : Fragment) : Prop := f.sql = g.sql ∧ f.params.length = g.params.length

theorem SameText.refl (f : Fragment) : f.SameText f := ⟨rfl, rfl⟩

theorem ofValue_sameText {v w : Value} (h : v.SameRaw w) : (ofValue v).SameText (ofValue w) := by
  have hof : ∀ v, ofValue v = v.raw?.elim ⟨"?", [v]⟩ ofSql := by
    intro v
    cases v <;> rfl
  rw [hof v, hof w, h]
  cases w.raw? with
  | none => exact ⟨rfl, rfl⟩
  | some sql => exact SameText.refl _

theorem bindFrom_sameText (skip : Nat) {vs ws : List Value}
    (h : List.Forall₂ Value.SameRaw vs ws) (cs : List Char) :
    (bindFrom skip vs cs).1 = (bindFrom skip ws cs).1 ∧
      (bindFrom skip vs cs).2.length = (bindFrom skip ws cs).2.length := by
  induction cs generalizing skip vs ws with
  | nil => exact ⟨by simp [bindFrom], by simp [bindFrom]⟩
  | cons c cs ih =>
    rw [bindFrom.eq_def, bindFrom.eq_def]
    by_cases hc : c = '?'
    · cases skip with
      | succ skip =>
        obtain ⟨htext, hparams⟩ := ih skip h
        simp only [hc, if_true]
        exact ⟨congrArg _ htext, hparams⟩
      | zero =>
        cases h with
        | nil => exact ⟨rfl, rfl⟩
        | cons hvw hrest =>
          obtain ⟨htext, hparams⟩ := ih 0 hrest
          obtain ⟨hsql, hlength⟩ := ofValue_sameText hvw
          simp only [hc, if_true, List.length_append]
          rw [hsql, htext, hlength, hparams]
          exact ⟨rfl, rfl⟩
    · obtain ⟨htext, hparams⟩ := ih skip h
      simp only [hc, if_false]
      exact ⟨congrArg _ htext, hparams⟩

theorem bind_sameText (sql : String) {vs ws : List Value} (h : List.Forall₂ Value.SameRaw vs ws) :
    (bind sql vs).SameText (bind sql ws) := by
  rw [bind, bind, h.length_eq]
  obtain ⟨htext, hparams⟩ := bindFrom_sameText (sql.toList.count '?' - ws.length) h sql.toList
  exact ⟨congrArg String.ofList htext, hparams⟩

theorem list_sameText {vs ws : List Value} (h : List.Forall₂ Value.SameRaw vs ws) :
    (vs.map ofValue).map sql = (ws.map ofValue).map sql ∧
      ((vs.map ofValue).flatMap params).length = ((ws.map ofValue).flatMap params).length := by
  induction h with
  | nil => exact ⟨rfl, rfl⟩
  | cons hvw _ ih =>
    obtain ⟨hsql, hlength⟩ := ofValue_sameText hvw
    simp only [List.map_cons, List.flatMap_cons, List.length_append]
    rw [hsql, hlength, ih.1, ih.2]
    exact ⟨rfl, rfl⟩

end Fragment

open Fragment (SameText)

/-! ## Comparisons -/

theorem comparison_sameOutcome (d : Dialect) {l : Lookup} (column : String) {v w : Value}
    (h : l.Match Value.SameRaw v w) :
    SameOutcome SameText (comparison d l column v) (comparison d l column w) := by
  obtain ⟨hnull, hvalues⟩ := h
  fun_cases comparison d l column v with
  | case1 v =>
    cases hvalues
    exact SameOutcome.refl fun f _ => SameText.refl f
  | case2 l hl =>
    cases hnull.mp rfl
    rw [comparison]
    · exact SameOutcome.refl fun f _ => SameText.refl f
    · exact hl
  | case3 v hv | case4 v hv =>
    rw [comparison]
    · refine (Value.asItems_sameOutcome hvalues).bind fun items items' hitems => ?_
      -- an empty list is an error, so the runs have to agree on emptiness as well
      have hempty : items.isEmpty = items'.isEmpty := by
        cases hitems <;> rfl
      obtain ⟨hsql, hparams⟩ := Fragment.list_sameText hitems
      simp only [hempty, hsql]
      split
      · exact SameOutcome.error _
      · exact SameOutcome.bind_same fun text _ => SameOutcome.pure ⟨rfl, hparams⟩
    · exact fun hw => hv (hnull.mpr hw)
  | case5 v hv | case6 v hv =>
    rw [comparison]
    · refine (Value.asPair_sameOutcome hvalues).bind fun p q hpair => ?_
      exact SameOutcome.bind_same fun text _ => SameOutcome.pure (Fragment.bind_sameText text hpair)
    · exact fun hw => hv (hnull.mpr hw)
  | case7 v hv =>
    obtain ⟨hwritable, hsame⟩ := hvalues hv
    rw [comparison]
    · refine (Value.shown_sameOutcome hwritable hsame).bind fun pattern pattern' hpattern => ?_
      refine SameOutcome.bind_same fun text _ => SameOutcome.pure ?_
      exact Fragment.bind_sameText text (.cons hpattern .nil)
    · exact fun hw => hv (hnull.mpr hw)
  | case8 l v =>
    have hv : v ≠ .null := by assumption
    have hsame : v.SameRaw w := by
      cases l <;> first | exact hvalues hv | contradiction
    rw [comparison]
    · refine SameOutcome.bind_same fun text _ => SameOutcome.pure ?_
      exact Fragment.bind_sameText text (.cons hsame .nil)
    all_goals first | assumption | exact fun hw => hv (hnull.mpr hw)

/-! ## Statements and queries -/

/-- The ways in which SQL is put together do not look at parameters. -/
theorem sameText_congruence (d : Dialect) : Congruence d Value.SameRaw SameText where
  append := by
    rintro f f' g g' ⟨hsql, hparams⟩ ⟨hsql', hparams'⟩
    refine ⟨congrArg₂ (· ++ ·) hsql hsql', ?_⟩
    simp only [Fragment.append, List.length_append, hparams, hparams']
  isEmpty := by
    rintro f g ⟨hsql, -⟩
    rw [hsql]
  sign t _ := SameText.refl _
  place := Fragment.ofValue_sameText
  keyword _ := SameText.refl _
  column _ := SameText.refl _
  enclosed := by
    rintro c f g - ⟨hsql, hparams⟩
    rw [Fragment.enclosed, Fragment.enclosed, hsql]
    exact SameOutcome.bind_same fun text _ => SameOutcome.pure ⟨rfl, hparams⟩
  comparison := comparison_sameOutcome d _

theorem sameText_operandCongruence (d : Dialect) :
    OperandCongruence d d (fun _ => True) SameText where
  empty := SameText.refl _
  operand := by
    rintro clause f g - ⟨hsql, hparams⟩
    rw [Fragment.operand, Fragment.operand, hsql]
    exact SameOutcome.bind_same fun text _ => SameOutcome.pure ⟨rfl, hparams⟩
  next := by
    rintro f f' g g' ⟨hsql, hparams⟩ ⟨hsql', hparams'⟩
    refine ⟨by rw [hsql, hsql'], ?_⟩
    rw [List.length_append, List.length_append, hparams, hparams']

/-- Fillings with the same item and as many parameters give the same SQL. -/
theorem assemble_sameOutcome (t : Template) (names : List String) {xs ys : List Filling}
    (h : List.Forall₂ (fun x y => x.item = y.item ∧ x.params.length = y.params.length) xs ys) :
    SameOutcome SameText (Statement.assemble t (names.zip xs))
      (Statement.assemble t (names.zip ys)) := by
  have hsame : (names.zip xs).map (fun e => (e.1, e.2.item)) =
        (names.zip ys).map (fun e => (e.1, e.2.item)) ∧
      ((names.zip xs).flatMap fun e => e.2.params).length =
        ((names.zip ys).flatMap fun e => e.2.params).length := by
    induction h generalizing names with
    | nil => exact ⟨by simp, by simp⟩
    | cons hxy _ ih =>
      cases names with
      | nil => exact ⟨rfl, rfl⟩
      | cons name names =>
        obtain ⟨hitem, hlength⟩ := hxy
        obtain ⟨hitems, hlengths⟩ := ih names
        simp only [List.zip_cons_cons, List.map_cons, List.flatMap_cons, List.length_append]
        rw [hitem, hlength, hitems, hlengths]
        exact ⟨rfl, rfl⟩
  rw [Statement.assemble, Statement.assemble, hsame.1]
  exact SameOutcome.bind_same fun sql _ => SameOutcome.pure ⟨rfl, hsame.2⟩

theorem statement_sameOutcome (d : Dialect) {s t : Statement}
    (h : StatementMatch Value.SameRaw s t) {operands operands' : Traced Fragment}
    (hoperands : SameOutcome SameText operands.result operands'.result) :
    SameOutcome SameText (s.compile d operands).result (t.compile d operands').result := by
  rw [Statement.result_compile, Statement.result_compile, h.kind_eq]
  refine SameOutcome.bind_same fun registered _ => SameOutcome.bind_same fun template _ => ?_
  have hfillings := (sameText_congruence d).fillings
    (Q := fun x y => x.item = y.item ∧ x.params.length = y.params.length)
    (fun f g hfg => ⟨congrArg Value.text hfg.1, hfg.2⟩) h hoperands
    template.names (fun name _ _ x _ => ⟨rfl, rfl⟩)
  exact hfillings.bind fun xs ys hxs => assemble_sameOutcome template template.names hxs

/-- Queries that differ in bound values at most are compiled alike. -/
theorem compile_independent_of_bound_values (d : Dialect) {q r : Query} (h : q.SameButBound r) :
    SameOutcome SameText (q.compile d).result (r.compile d).result :=
  h.compile (sameText_operandCongruence d) fun _ _ _ _ hst hoperands =>
    statement_sameOutcome d hst hoperands

/-- An update with a set operation, raw SQL and bound values at several depths. -/
def stockQuery (price term low : Value) : Query :=
  .mk { Statement.update (.text "stock") (.map [(.text "price", price), (.text "at", .raw "now()")])
        with
        filter := .predicate
          [.tuple [.text "name__contains", term],
           .predicate [.tuple [.text "qty__in", .list [low, .raw "f(?)"]], .raw "x > 1"] .or true]
          .and false }
    [(.clause .union, .single { Statement.select (.text "stock") with
        having := .predicate [.tuple [.text "qty__between", .tuple [low, .int 9]]] .and false })]

theorem lookupMatch_of_read {P : Value → Value → Prop} {key : String} {k : LookupKey}
    (hkey : LookupKey.read key = k) {v w : Value} (h : k.lookup.Match P v w) :
    TreeMatch P (.tuple [.text key, v]) (.tuple [.text key, w]) := by
  refine .lookup fun k' hk' => ?_
  cases hk'
  rw [hkey]
  exact h

theorem stockQuery_independent_of_bound_values :
    (stockQuery (.int 1) (.text "a") .null).SameButBound
        (stockQuery .null (.text "b' OR 1 = 1") (.text "?")) ∧
      ∀ d, SameOutcome SameText ((stockQuery (.int 1) (.text "a") .null).compile d).result
        ((stockQuery .null (.text "b' OR 1 = 1") (.text "?")).compile d).result := by
  have hmatch : (stockQuery (.int 1) (.text "a") .null).SameButBound
      (stockQuery .null (.text "b' OR 1 = 1") (.text "?")) := by
    refine .mk ⟨rfl, .row (.cons ⟨rfl, rfl⟩ (.cons ⟨rfl, rfl⟩ .nil)), .node ?_, .other rfl⟩
      (.cons trivial (.mk ⟨rfl, rfl, .other rfl, .node ?_⟩ .nil) .nil)
    · have hcontains : LookupKey.read "name__contains" = ⟨"name", .contains⟩ := by decide +kernel
      have hin : LookupKey.read "qty__in" = ⟨"qty", .inList⟩ := by decide +kernel
      refine .cons (lookupMatch_of_read hcontains ⟨by simp, fun _ => ⟨rfl, fun _ => rfl⟩⟩)
        (.cons (.node ?_) .nil)
      refine .cons (lookupMatch_of_read hin ⟨by simp, ?_⟩) (.cons (.raw rfl) .nil)
      exact .some (.cons rfl (.cons rfl .nil))
    · have hbetween : LookupKey.read "qty__between" = ⟨"qty", .between⟩ := by decide +kernel
      refine .cons (lookupMatch_of_read hbetween ⟨by simp, ?_⟩) .nil
      exact .some (.cons rfl (.cons rfl .nil))
  exact ⟨hmatch, fun d => compile_independent_of_bound_values d hmatch⟩

/-- A select of the rows whose text contains a term. -/
def termQuery (term : Value) : Query :=
  .single { Statement.select (.text "t") with
    filter := .predicate [.tuple [.text "a__contains", term]] .and false }

/-- Two terms of which one has no text: one select fails and the other does not. -/
theorem termQuery_not_independent :
    let term := Value.int (Nat.pow 10 Text.maxDigits)
    term ≠ .null ∧ term.SameRaw (.text "x") ∧
      ¬ SameOutcome SameText ((termQuery term).compile (Backend.ansi.dialect .standard)).result
        ((termQuery (.text "x")).compile (Backend.ansi.dialect .standard)).result := by
  have hfails : ((termQuery (.int (Nat.pow 10 Text.maxDigits))).compile
      (Backend.ansi.dialect .standard)).result.toOption.isSome = false := by decide +kernel
  have hcompiles : ((termQuery (.text "x")).compile
      (Backend.ansi.dialect .standard)).result.toOption.isSome = true := by decide +kernel
  refine ⟨nofun, rfl, mt SameOutcome.isSome_eq ?_⟩
  rw [hfails, hcompiles]
  exact Bool.false_ne_true

end SqlRender
