import SqlRender.Proofs.Alignment
import SqlRender.Proofs.EmptySlot
import SqlRender.Proofs.SlotLikeness

/-!
# Backends that agree

The standard backend, PostgreSQL and SQLite differ in a few words and in the slots of their
templates. A query that uses none of these is compiled to the same SQL with the same parameters by
all three, or fails in all three with errors of one family.

* `Query.Portable`: a query that stays clear of the differences.
* `likeness_eq`: the backends put texts together in the same way.
* `Backend.thin_template`: without the slots that stay empty, the templates are the same.
-/

namespace SqlRender

/-! ## What all three have in common -/

/-- The comparison of a leaf that is a lookup. -/
def Value.lookup? : Value → Option Lookup
  | .tuple [.text key, _] => some (LookupKey.read key).lookup
  | _ => none

/-- A condition without regular expressions, with connectors that PostgreSQL has no words of its own
for. -/
structure Value.Portable (v : Value) : Prop where
  lookups : ∀ leaf ∈ v.leaves, leaf.lookup? ∉ [some .regexp, some .notRegexp]
  connectors : ∀ k ∈ v.connectors, Backend.postgresql.SameKeyword .ansi k

/-- The joins that the backends write alike. -/
def portableJoins : List Clause := [.innerJoin, .leftJoin, .rightJoin, .outerJoin]

/-- A statement that reads or changes rows and asks for nothing that the backends differ in. -/
structure Statement.Portable (s : Statement) : Prop where
  isData : s.isData = true
  distinct : s.distinct.isTrue = true → s.distinct = .bool true ∨ s.distinct.items? = none
  joins : ∀ j ∈ s.joins, j.kind ∈ portableJoins
  filter : s.filter.Portable
  having : s.having.Portable
  offset : s.limit = .null → s.offset.isTrue = false
  lock : s.lock = .null
  returning : s.returning.isTrue = false
  only : (s.attributes.find "only").isTrue = false
  deleted : s.kind = .kind .delete → s.joins = []

/-- A query of such statements, joined by set operations. -/
structure Query.Portable (q : Query) : Prop where
  statements : ∀ s ∈ q.statements, s.Portable
  operations : ∀ clause ∈ q.operations, clause.isSetOperation = true

namespace Backend

variable {b b' : Backend} (hb : b ≠ .mysql) (hb' : b' ≠ .mysql)
include hb hb'

theorem markChar_eq : b.markChar = b'.markChar := by
  revert hb hb'
  cases b <;> cases b' <;> decide

theorem sameKeyword_of_portable {k : Keyword} (h : Backend.postgresql.SameKeyword .ansi k) :
    b.SameKeyword b' k := by
  have hansi : ∀ b : Backend, b ≠ .mysql → b.SameKeyword .ansi k := by
    intro b hb
    cases b with
    | ansi => rfl
    | mysql => exact absurd rfl hb
    | postgresql => exact h
    | sqlite => rfl
  exact (hansi b hb).trans (hansi b' hb').symm

/-- Joins and set operations that are written alike. -/
theorem sameClause_of_portable {c : Clause}
    (h : c ∈ portableJoins ∨ (Value.clause c).isSetOperation = true) : b.SameClause b' c := by
  have hansi : ∀ b : Backend, b ≠ .mysql → ∀ c ∈ portableJoins ++ [.union, .unionAll, .intersect,
      .intersectAll, .except, .exceptAll], b.SameClause .ansi c := by
    intro b hb
    cases b with
    | mysql => exact absurd rfl hb
    | ansi | postgresql | sqlite => decide
  have hc := List.mem_append.mpr (h.imp_right of_decide_eq_true)
  exact (hansi b hb c hc).trans (hansi b' hb' c hc).symm

omit hb hb' in
theorem sign_eq {l : Lookup} (h : some l ∉ [some Lookup.regexp, some .notRegexp]) :
    b.sign l = b'.sign l := by
  cases l with
  | regexp | notRegexp => simp at h
  | _ => rfl

/-- The same names have the same quoted texts. -/
theorem likeness_eq : Likeness ⟨Eq, fun _ => True⟩ b b' Eq where
  empty := rfl
  isEmpty h := by rw [h]
  between _ _ h h' := by rw [h, h']
  place _ := rfl
  emptyName h := by rw [h]
  sameName h h' := by rw [h, h']
  quote types types' h := by
    rw [Dialect.quote, Dialect.quote, mark_dialect, mark_dialect, markChar_eq hb hb', h]
  identifier types types' h := by
    rw [Dialect.quoteIdentifier, Dialect.quoteIdentifier, mark_dialect, mark_dialect,
      markChar_eq hb hb', h]

end Backend

/-! ## A statement is like itself -/

theorem ItemsLike.refl {E : Value → Value → Prop} (hE : ∀ v, E v v) (v : Value) :
    ItemsLike E v v := by
  refine ⟨rfl, ?_⟩
  cases v.items? with
  | none => exact .none
  | some items => exact .some (List.forall₂_same.mpr fun item _ => hE item)

namespace Lexicon

variable {L : Lexicon} {b b' : Backend}

section Values

variable (hname : ∀ s, L.name s s) (hraw : ∀ sql, L.raw sql)
include hname

theorem Name.refl (v : Value) : L.Name v v := by
  cases v with
  | text s => exact .text (hname s)
  | _ => exact .other (by simp)

include hraw

theorem Column.refl (v : Value) : L.Column v v := by
  cases v with
  | raw sql => exact .raw (hraw sql)
  | _ => exact .name (by simp) (Name.refl hname _)

theorem Field.refl (v : Value) : L.Field v v := by
  have hcolumn := Column.refl hname hraw
  cases v with
  | tuple items =>
    by_cases hitems : items.length = 2
    · obtain ⟨column, label, rfl⟩ := List.length_eq_two.mp hitems
      exact .labelled (hcolumn column) (Name.refl hname label)
    · exact .other hitems
  | _ => exact .column (by simp) (hcolumn _)

theorem Order.refl (v : Value) : L.Order v v := by
  cases v with
  | raw sql => exact .raw (hraw sql)
  | text s =>
    by_cases hs : s.toList.head? = some '-'
    · obtain ⟨name, hname'⟩ := List.head?_eq_some_iff.mp hs
      have hminus : s = "-" ++ String.ofList name := by
        rw [← String.toList_inj, hname']
        simp
      rw [hminus]
      exact .descending (hname _)
    · exact .ascending (hname s) hs hs
  | _ => exact .other (by simp) (by simp)

theorem Entry.refl (e : Value × Value) : L.Entry e e :=
  ⟨Name.refl hname e.1, rfl, fun sql _ => hraw sql⟩

theorem Row.refl (v : Value) : L.Row v v := by
  cases v with
  | map es => exact .map (List.forall₂_same.mpr fun e _ => Entry.refl hname hraw e)
  | _ => exact .other (by simp)

theorem Rows.refl (v : Value) : L.Rows v v := by
  cases v with
  | map es => exact .row (List.forall₂_same.mpr fun e _ => Entry.refl hname hraw e)
  | _ => exact .items (by simp) (by simp) (.refl (Row.refl hname hraw) _)

/-- What is no node is like itself unless it compares in ways that the backends differ in. -/
theorem Tree.refl_leaf {v : Value} (hnode : ∀ children k negated, v ≠ .predicate children k negated)
    (hsign : ∀ l, v.lookup? = some l → b.sign l = b'.sign l) : L.Tree b b' v v := by
  by_cases hcondition : v.isCondition = false
  · exact .other hcondition
  · unfold Value.isCondition at hcondition
    split at hcondition
    · next children k negated => exact absurd rfl (hnode children k negated)
    · next sql => exact .raw (hraw sql)
    · next key w =>
      cases key with
      | text key => exact .lookup rfl (hname _) (hsign _ rfl) fun sql _ => hraw sql
      | _ => exact .keyless (by simp)
    · exact absurd rfl hcondition

end Values

mutual

theorem Tree.refl (hname : ∀ s, L.name s s) (hraw : ∀ sql, L.raw sql) : ∀ {v : Value},
    (∀ leaf ∈ v.leaves, ∀ l, leaf.lookup? = some l → b.sign l = b'.sign l) →
    (∀ k ∈ v.connectors, b.SameKeyword b' k) → L.Tree b b' v v
  | v, hsign, hk => by
    by_cases hnode : ∃ children k negated, v = .predicate children k negated
    · obtain ⟨children, k, negated, rfl⟩ := hnode
      rw [Value.connectors] at hk
      rw [Value.leaves] at hsign
      exact .node (hk k (by simp)) (Trees.refl hname hraw hsign fun k' hk' =>
        hk k' (List.mem_cons_of_mem k hk'))
    · have hleaf : ∀ children k negated, v ≠ .predicate children k negated :=
        fun children k negated hv => hnode ⟨children, k, negated, hv⟩
      rw [Value.leaves.eq_2 v hleaf] at hsign
      exact Tree.refl_leaf hname hraw hleaf (hsign v (by simp))

theorem Trees.refl (hname : ∀ s, L.name s s) (hraw : ∀ sql, L.raw sql) : ∀ {vs : List Value},
    (∀ leaf ∈ Value.leavesAll vs, ∀ l, leaf.lookup? = some l → b.sign l = b'.sign l) →
    (∀ k ∈ Value.connectorsAll vs, b.SameKeyword b' k) → L.Trees b b' vs vs
  | [], _, _ => .nil
  | v :: vs, hsign, hk => by
    rw [Value.leavesAll] at hsign
    rw [Value.connectorsAll] at hk
    exact .cons
      (Tree.refl hname hraw (fun leaf hleaf => hsign leaf (List.mem_append_left _ hleaf))
        fun k hmem => hk k (List.mem_append_left _ hmem))
      (Trees.refl hname hraw (fun leaf hleaf => hsign leaf (List.mem_append_right _ hleaf))
        fun k hmem => hk k (List.mem_append_right _ hmem))

end

end Lexicon

namespace Statement.Portable

variable {b b' : Backend} (hb : b ≠ .mysql) (hb' : b' ≠ .mysql) {s : Statement}
include hb hb'

theorem tree_refl {v : Value} (h : v.Portable) :
    Lexicon.Tree ⟨Eq, fun _ => True⟩ b b' v v := by
  refine Lexicon.Tree.refl (fun _ => rfl) (fun _ => trivial) (fun leaf hleaf l hl => ?_)
    fun k hk => Backend.sameKeyword_of_portable hb hb' (h.connectors k hk)
  exact Backend.sign_eq (hl ▸ h.lookups leaf hleaf)

theorem like_refl (h : s.Portable) : StatementLike ⟨Eq, fun _ => True⟩ b b' s s where
  kind := rfl
  table := .refl (fun _ => rfl) _
  fields := by
    split
    · exact .refl (fun _ => rfl) (fun _ => trivial) _
    · exact .refl (.refl (fun _ => rfl) fun _ => trivial) _
  distinct := .same h.distinct
  joins := by
    refine List.forall₂_same.mpr fun j hj => ⟨rfl, ?_, rfl, ?_⟩
    · exact Backend.sameClause_of_portable hb hb' (.inl (h.joins j hj))
    · exact List.forall₂_same.mpr fun p _ => ⟨rfl, rfl⟩
  filter := tree_refl hb hb' h.filter
  groupBy := .refl (.refl (fun _ => rfl) fun _ => trivial) _
  having := tree_refl hb hb' h.having
  orderBy := .refl (.refl (fun _ => rfl) fun _ => trivial) _
  limit := rfl
  offset := rfl
  offsetClause hlimit hoffset := by
    rw [h.offset hlimit] at hoffset
    cases hoffset
  lock := rfl
  lockKeyword k hk := by
    rw [h.lock] at hk
    cases hk
  returning := .refl (.refl (fun _ => rfl) fun _ => trivial) _
  returningClause hreturning := by
    rw [h.returning] at hreturning
    cases hreturning

end Statement.Portable

/-! ## Templates -/

def Slot.isAttribute : Slot → Bool
  | .attribute _ => true
  | _ => false

/-- Slots that not all of the backends have, or not for this kind of statement. A portable statement
leaves them empty. -/
def StatementKind.isSpare (k : StatementKind) (name : String) : Bool :=
  name = "only" || name = "returning" || name = "lock" || k = .delete && name = "joins"

theorem Statement.Portable.slotFilling_spare {s : Statement} (h : s.Portable) {k : StatementKind}
    (hk : s.kind = .kind k) {name : String} (hname : k.isSpare name = true) (d : Dialect)
    (operands : Traced Fragment) :
    s.slotFilling d operands name = .ok Fragment.empty.toFilling := by
  simp only [StatementKind.isSpare, Bool.or_eq_true, Bool.and_eq_true, decide_eq_true_eq] at hname
  rcases hname with ((rfl | rfl) | rfl) | ⟨rfl, rfl⟩
  · show (attributeFilling d "only" (s.attributes.find "only")).result = _
    have honly := h.only
    unfold attributeFilling
    split
    · next hv => rw [hv] at honly; cases honly
    · next hv => rw [hv] at honly; cases honly
    · next hv => rw [hv] at honly; cases honly
    · rw [honly]
      rfl
  · show (asFilling (returningFragment d s.returning)).result = _
    rw [returningFragment, h.returning]
    rfl
  · show (lockFilling d s.lock).result = _
    rw [h.lock]
    rfl
  · show (asFilling (joinsFragment d s.joins)).result = _
    rw [h.deleted hk]
    rfl

namespace Backend

variable {b : Backend} {k : StatementKind}

/-- Without the spare slots, the templates of the backends are the same. -/
theorem thin_template (hb : b ≠ .mysql) (hk : k.isData = true) :
    (b.template k).thin k.isSpare = (Backend.ansi.template k).thin k.isSpare ∧
      (b.template k).names.filter (!k.isSpare ·) =
        (Backend.ansi.template k).names.filter (!k.isSpare ·) := by
  rw [b.template_eq hk, Backend.ansi.template_eq hk]
  revert hb
  cases k with
  | select | insert | update | delete => cases b <;> decide
  | _ => cases hk

theorem isAttribute_of_not_spare (hb : b ≠ .mysql) (hk : k.isData = true) :
    ∀ name ∈ (b.template k).names, (!k.isSpare name) = true →
      (Slot.ofName name).isAttribute = false := by
  rw [b.template_eq hk, Template.names_ofPlan]
  revert hb
  cases k with
  | select | insert | update | delete => cases b <;> decide
  | _ => cases hk

end Backend

/-! ## Statements and queries -/

theorem Statement.Portable.result_compile {s : Statement} (h : s.Portable) {k : StatementKind}
    (hs : s.kind = .kind k) (hk : k.isData = true) (b : Backend) (types : TypeCatalogue)
    (operands : Traced Fragment) :
    (s.compile (b.dialect types) operands).result = (do
      let fillings ← ((b.template k).names.filter (!k.isSpare ·)).mapM
        (s.slotFilling (b.dialect types) operands)
      assemble (b.template k) ((b.template k).names.zip
        (spread Fragment.empty.toFilling k.isSpare (b.template k).names fillings))) := by
  have hspare : ∀ name ∈ (b.template k).names, k.isSpare name = true →
      s.slotFilling (b.dialect types) operands name = .ok Fragment.empty.toFilling :=
    fun name _ hname => h.slotFilling_spare hs hname _ operands
  rw [Backend.result_compile types hs hk, mapM_spread hspare, bind_map_left]

theorem statement_agree {b b' : Backend} (hb : b ≠ .mysql) (hb' : b' ≠ .mysql)
    (types types' : TypeCatalogue) {s : Statement} (h : s.Portable)
    {operands operands' : Traced Fragment}
    (hoperands : SameOutcome Eq operands.result operands'.result) :
    SameOutcome Eq (s.compile (b.dialect types) operands).result
      (s.compile (b'.dialect types') operands').result := by
  obtain ⟨k, hs, hk⟩ := Statement.exists_kind h.isData
  obtain ⟨hthin, hlive⟩ := Backend.thin_template hb hk
  obtain ⟨hthin', hlive'⟩ := Backend.thin_template hb' hk
  have hslot : ∀ name ∈ (b.template k).names.filter (!k.isSpare ·), SameOutcome (FillingsLike Eq)
      (s.slotFilling (b.dialect types) operands name)
      (s.slotFilling (b'.dialect types') operands' name) := by
    intro name hname
    obtain ⟨hmem, hspare⟩ := List.mem_filter.mp hname
    refine (Backend.likeness_eq hb hb').slotFilling (h.like_refl hb hb') hs hk hoperands hmem ?_
    intro slot hslot
    have hattribute := Backend.isAttribute_of_not_spare hb hk name hmem hspare
    rw [hslot] at hattribute
    cases hattribute
  have hfillings := SameOutcome.mapM (List.forall₂_same.mpr hslot)
  rw [h.result_compile hs hk, h.result_compile hs hk, hlive'.trans hlive.symm]
  refine (hfillings.and_left fun xs hxs => (mapM_eq_ok.mp hxs).length_eq).bind ?_
  rintro xs ys ⟨hxys, hlength⟩
  obtain ⟨fs, gs, hfs, rfl, rfl⟩ := FillingsLike.exists_fragments hxys
  rw [List.forall₂_eq_eq_eq] at hfs
  subst hfs
  rw [List.length_map] at hlength
  rw [Statement.assemble_spread (b.template_regular hk).nodup hlength.symm,
    Statement.assemble_spread (b'.template_regular hk).nodup (by rw [← hlength, hlive, hlive']),
    hthin, hthin']
  exact SameOutcome.ok rfl

mutual

/-- A query corresponds to itself if each of its statements does. -/
theorem QueryMatch.refl {S : Statement → Statement → Prop} {O : Value → Prop} : ∀ {q : Query},
    (∀ s ∈ q.statements, S s s) → (∀ clause ∈ q.operations, O clause) → QueryMatch S O q q
  | .mk s compounds, hS, hO => by
    rw [Query.statements] at hS
    rw [Query.operations] at hO
    exact .mk (hS s (by simp))
      (OperandsMatch.refl (fun t ht => hS t (List.mem_cons_of_mem s ht)) hO)

theorem OperandsMatch.refl {S : Statement → Statement → Prop} {O : Value → Prop} :
    ∀ {cs : List (Value × Query)}, (∀ s ∈ Query.operandsStatements cs, S s s) →
    (∀ clause ∈ Query.operandsOperations cs, O clause) → OperandsMatch S O cs cs
  | [], _, _ => .nil
  | (clause, q) :: rest, hS, hO => by
    rw [Query.operandsStatements, Query.operandStatements] at hS
    rw [Query.operandsOperations, Query.operandOperations] at hO
    refine .cons (hO clause (by simp)) (QueryMatch.refl ?_ ?_) (OperandsMatch.refl ?_ ?_)
    · exact fun s hs => hS s (List.mem_append_left _ hs)
    · exact fun c hc => hO c (List.mem_append_left _ (List.mem_cons_of_mem clause hc))
    · exact fun s hs => hS s (List.mem_append_right _ hs)
    · exact fun c hc => hO c (List.mem_append_right _ hc)

end

/-- The standard backend, PostgreSQL and SQLite compile a portable query to the same SQL with the
same parameters, or all of them fail with errors of one family. -/
theorem backends_agree_on_portable (b b' : Backend) (hb : b ≠ .mysql) (hb' : b' ≠ .mysql)
    (types types' : TypeCatalogue) {q : Query} (h : q.Portable) :
    SameOutcome Eq (q.compile (b.dialect types)).result
      (q.compile (b'.dialect types')).result := by
  have hmatch : QueryMatch (fun s t => t = s ∧ s.Portable)
      (fun clause => ∀ c, clause = .clause c → b.SameClause b' c) q q := by
    refine .refl (fun s hs => ⟨rfl, h.statements s hs⟩) fun clause hclause c hc => ?_
    have hoperation := h.operations clause hclause
    rw [hc] at hoperation
    exact Backend.sameClause_of_portable hb hb' (.inr hoperation)
  refine hmatch.compile (Backend.likeness_eq hb hb').operandCongruence ?_
  rintro s _ operands operands' ⟨rfl, hs⟩ hoperands
  exact statement_agree hb hb' types types' hs hoperands

theorem Value.Portable.null : Value.null.Portable := ⟨by decide, by decide⟩

/-- A select with nothing but a table and fields. -/
theorem Statement.Portable.select (table fields : Value) :
    (Statement.select table fields).Portable where
  isData := rfl
  distinct h := nomatch h
  joins _ h := nomatch h
  filter := .null
  having := .null
  offset _ := rfl
  lock := rfl
  returning := rfl
  only := rfl
  deleted _ := rfl

/-- A select with every part that a portable query may have, at several depths. -/
def ordersQuery : Query :=
  .mk { Statement.select (.text "orders") (.tuple [.tuple [.text "o.id", .text "n"], .raw "now()"])
        with
        distinct := .bool true
        joins := [{ table := "items", on := [("o.id", "items.o")], kind := .leftJoin }]
        filter := .predicate [.tuple [.text "price__between", .tuple [.int 1, .int 9]],
          .predicate [.tuple [.text "kind__in", .list [.text "a", .null]]] .or true] .and false
        groupBy := .list [.text "o.id"]
        orderBy := .list [.text "-o.id"]
        limit := .int 10
        offset := .int 5 }
    [(.clause .exceptAll, .mk (Statement.select (.text "old"))
      [(.clause .union, .single { Statement.select (.text "new") with
        having := .predicate [.tuple [.text "n__isnull", .bool false]] .and false })])]

theorem ordersQuery_agree :
    ordersQuery.Portable ∧
      (ordersQuery.compile (Backend.postgresql.dialect .standard)).result.toOption.isSome = true ∧
      ∀ b b' : Backend, b ≠ .mysql → b' ≠ .mysql →
        SameOutcome Eq (ordersQuery.compile (b.dialect .standard)).result
          (ordersQuery.compile (b'.dialect .standard)).result := by
  have hportable : ordersQuery.Portable := by
    refine ⟨?_, by decide +kernel⟩
    intro s hs
    simp only [ordersQuery, Query.single, Query.statements, Query.operandsStatements,
      Query.operandStatements, List.append_nil, List.mem_cons, List.not_mem_nil, or_false] at hs
    rcases hs with rfl | rfl | rfl
    · exact { Statement.Portable.select (.text "orders")
          (.tuple [.tuple [.text "o.id", .text "n"], .raw "now()"]) with
        distinct := fun _ => .inl rfl
        joins := by decide
        filter := ⟨by decide +kernel, by decide +kernel⟩
        offset := fun h => nomatch h
        deleted := fun h => nomatch h }
    · exact .select _ _
    · exact { Statement.Portable.select (.text "new") (.tuple [.text "*"]) with
        having := ⟨by decide +kernel, by decide +kernel⟩ }
  exact ⟨hportable, by decide +kernel, fun b b' hb hb' =>
    backends_agree_on_portable b b' hb hb' .standard .standard hportable⟩

/-- A connector that only PostgreSQL has a word for. -/
def onlyQuery : Query :=
  .single { Statement.select (.text "t") with
    filter := .predicate [.tuple [.text "a", .int 1], .tuple [.text "b", .int 2]] .only false }

/-- The connectors have to be words of all backends: a query that is portable but for them can
compile in one backend and fail in the others. -/
theorem onlyQuery_differs :
    (onlyQuery.compile (Backend.postgresql.dialect .standard)).result.toOption.map Fragment.sql =
        some "SELECT * FROM \"t\" WHERE \"a\" = ? ONLY \"b\" = ?" ∧
      (onlyQuery.compile (Backend.ansi.dialect .standard)).result.toOption.isNone = true ∧
      (onlyQuery.compile (Backend.sqlite.dialect .standard)).result.toOption.isNone = true := by
  decide +kernel

end SqlRender
