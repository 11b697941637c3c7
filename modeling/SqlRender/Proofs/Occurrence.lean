import SqlRender.Proofs.EmptySlot
import SqlRender.Proofs.Filling
import SqlRender.Proofs.Filter
import SqlRender.Proofs.Parameter

/-!
# Queries inside queries

A select compiles the queries that set operations join to it, at any depth. Each of them compiles
for itself, and its SQL stands in that of the whole as it is: the care for spaces around slots
touches blanks only, and a compiled query neither begins nor ends with one.

* `Query.compiled`: the queries that are compiled with a query.
* `Template.infix_fragment`: what stands in a slot stands in the statement.
* `Backend.compiled_in_result`: every query that is compiled has a result, which stands in the SQL.
-/

namespace SqlRender

namespace Text

/-- The text neither begins nor ends with a blank. -/
structure IsStripped (cs : List Char) : Prop where
  first : ∀ c ∈ cs.head?, isBlank c = false
  last : ∀ c ∈ cs.getLast?, isBlank c = false

/-- What is cut off in front does not reach into a text that begins with something else. -/
theorem infix_dropWhile {p : Char → Bool} {part cs : List Char} (h : part <:+: cs)
    (hpart : ∀ c ∈ part.head?, p c = false) : part <:+: cs.dropWhile p := by
  obtain ⟨front, back, rfl⟩ := h
  cases part with
  | nil => exact List.nil_infix
  | cons c part =>
    have hc : p c = false := hpart c rfl
    induction front with
    | nil =>
      rw [List.nil_append, List.cons_append, List.dropWhile_cons_of_neg (by simp [hc])]
      exact (List.prefix_append (c :: part) back).isInfix
    | cons x front ih =>
      by_cases hx : p x = true
      · rw [List.cons_append, List.cons_append, List.dropWhile_cons_of_pos hx]
        exact ih
      · rw [List.cons_append, List.cons_append, List.dropWhile_cons_of_neg hx]
        exact ⟨x :: front, back, rfl⟩

theorem infix_strip {part cs : List Char} (h : part <:+: cs) (hpart : IsStripped part) :
    part <:+: strip cs := by
  have hleft : part <:+: stripLeft cs := infix_dropWhile h hpart.first
  have hright : part.reverse <:+: (stripLeft cs).reverse.dropWhile isBlank := by
    refine infix_dropWhile (List.reverse_infix.mpr hleft) fun c hc => hpart.last c ?_
    rwa [List.head?_reverse] at hc
  rw [strip, stripRight, ← List.reverse_reverse part]
  exact List.reverse_infix.mpr hright

theorem head?_dropWhile_isBlank {cs : List Char} {c : Char}
    (h : c ∈ (cs.dropWhile isBlank).head?) : isBlank c = false := by
  have hnot := List.head?_dropWhile_not isBlank cs
  rw [Option.mem_def.mp h] at hnot
  simpa using hnot

theorem isStripped_strip (cs : List Char) : IsStripped (strip cs) where
  first c hc := by
    rw [strip, stripLeft, stripRight_dropWhile] at hc
    exact head?_dropWhile_isBlank hc
  last c hc := by
    rw [strip, stripRight, List.getLast?_reverse] at hc
    exact head?_dropWhile_isBlank hc

end Text

namespace Template

theorem infix_glue {part piece : List Char} (h : part <:+: piece) (hpart : Text.IsStripped part)
    (out : List Char) : part <:+: glue out piece := by
  have hspace : ∀ c ∈ part.head?, decide (c = ' ') = false := by
    intro c hc
    have hblank := hpart.first c hc
    refine decide_eq_false ?_
    rintro rfl
    exact absurd hblank (by decide)
  unfold glue
  split
  · exact (Text.infix_dropWhile h hspace).trans (List.suffix_append _ _).isInfix
  · exact h.trans (List.suffix_append _ _).isInfix

theorem prefix_lay (out : List Char) (slots : List (List Char × List Char)) (texts : List String) :
    out <+: lay out slots texts := by
  fun_induction lay out slots texts with
  | case1 out slot slots text texts ih =>
    exact ((prefix_glue out _).trans (prefix_glue _ _)).trans ih
  | case2 => exact List.prefix_refl _

theorem infix_lay {part : List Char} (hpart : Text.IsStripped part) {text : String}
    (h : part <:+: text.toList) {slots : List (List Char × List Char)} {texts : List String}
    (hlength : texts.length = slots.length) (htext : text ∈ texts) (out : List Char) :
    part <:+: lay out slots texts := by
  induction slots generalizing texts out with
  | nil =>
    rw [List.length_nil, List.length_eq_zero_iff] at hlength
    subst hlength
    cases htext
  | cons slot slots ih =>
    cases texts with
    | nil => cases htext
    | cons first texts =>
      rw [lay]
      rcases List.mem_cons.mp htext with rfl | htext
      · have hglue := (infix_glue h hpart out).trans (prefix_glue _ slot.2).isInfix
        exact hglue.trans (prefix_lay _ slots texts).isInfix
      · exact ih (by simpa using hlength) htext _

/-- What stands in a slot, without blanks at its ends, stands in the statement. -/
theorem infix_fragment {t : Template} {part : List Char} (hpart : Text.IsStripped part)
    {parts : List Fragment} (hlength : parts.length = t.names.length) {f : Fragment}
    (hf : f ∈ parts) (h : part <:+: f.sql.toList) : part <:+: (t.fragment parts).sql.toList := by
  rw [fragment, String.toList_ofList]
  refine Text.infix_strip ?_ hpart
  refine infix_lay hpart h ?_ (List.mem_map_of_mem hf) t.head
  rw [List.length_map, hlength, names, List.length_map]

end Template

/-- A compiled statement has no blanks at its ends. -/
theorem Statement.isStripped_of_compile {d : Dialect} {operands : Traced Fragment} {s : Statement}
    {f : Fragment} (h : (s.compile d operands).result = .ok f) : Text.IsStripped f.sql.toList := by
  rw [result_compile] at h
  obtain ⟨_, -, h⟩ := bind_eq_ok.mp h
  obtain ⟨_, -, h⟩ := bind_eq_ok.mp h
  obtain ⟨_, -, h⟩ := bind_eq_ok.mp h
  obtain ⟨_, hsql, h⟩ := bind_eq_ok.mp h
  obtain ⟨_, -, hsql⟩ := bind_eq_ok.mp hsql
  cases h
  cases hsql
  rw [String.toList_ofList]
  exact Text.isStripped_strip _

/-! ## The queries that are compiled with a query -/

namespace Query

mutual

/-- The queries that are compiled with a query: itself and, for a select, those that set operations
join to it, at any depth. -/
def compiled : Query → List Query
  | .mk s compounds =>
    .mk s compounds :: match s.kind with
      | .kind .select => compiledOperands compounds
      | _ => []

def compiledOperands : List (Value × Query) → List Query
  | [] => []
  | operand :: rest => compiledOperand operand ++ compiledOperands rest

def compiledOperand : Value × Query → List Query
  | (_, q) => compiled q

end

theorem compiled_select {s : Statement} (h : s.kind = .kind .select)
    (compounds : List (Value × Query)) :
    (Query.mk s compounds).compiled = .mk s compounds :: compiledOperands compounds := by
  rw [compiled, h]

theorem compiled_other {s : Statement} (h : s.kind ≠ .kind .select)
    (compounds : List (Value × Query)) : (Query.mk s compounds).compiled = [.mk s compounds] := by
  rw [compiled]
  split
  · next hkind => exact absurd hkind h
  · rfl

end Query

namespace Backend

variable {b : Backend} {types : TypeCatalogue}

/-- A query as the operand of a set operation stands in it as it is. -/
theorem infix_operand {clause : Value} {f g : Fragment}
    (h : Fragment.operand (b.dialect types) clause f = .ok g) : f.sql.toList <:+: g.sql.toList := by
  obtain ⟨sql, hsql, h⟩ := bind_eq_ok.mp h
  cases h
  obtain ⟨registered, hregistered, -⟩ := bind_eq_ok.mp hsql
  obtain ⟨c, hc⟩ := Registry.key_of_lookup hregistered
  cases clause <;> cases hc
  replace hsql : (b.dialect types).clause c [f.sql] = .ok sql := hsql
  cases hformat : b.clauseText? c with
  | none =>
    rw [formatOf_eq, hformat] at hregistered
    cases hregistered
  | some format =>
    obtain ⟨text, texts, htexts⟩ := formatTexts?_isSome b hformat
    rw [clause_eq types htexts] at hsql
    split at hsql
    · next hlength =>
      cases hsql
      obtain ⟨after, rfl⟩ := List.length_eq_one_iff.mp hlength.symm
      refine ⟨text, after, ?_⟩
      simp [Format.weave]
    · cases hsql

mutual

/-- Every query that is compiled with a query has a result, which stands in that of the whole. -/
theorem compiled_in_result (q : Query) {f : Fragment}
    (h : (q.compile (b.dialect types)).result = .ok f) :
    ∀ q' ∈ q.compiled, ∃ f', (q'.compile (b.dialect types)).result = .ok f' ∧
      f'.sql.toList <:+: f.sql.toList := by
  cases q with
  | mk s compounds =>
    intro q' hq'
    by_cases hkind : s.kind = .kind .select
    · rw [Query.compiled_select hkind] at hq'
      rcases List.mem_cons.mp hq' with rfl | hq'
      · exact ⟨f, h, List.infix_refl _⟩
      rw [Query.compile] at h
      obtain ⟨parts, hparts, rfl⟩ := (result_compile_eq_ok hkind rfl).mp h
      have hname : "compounds" ∈ (b.template .select).names := by
        rw [template_eq b rfl, Template.names_ofPlan]
        cases b <;> decide
      obtain ⟨part, hmem, hpart⟩ := hparts.exists_part hname
      rw [Statement.slotFilling, Slot.ofName, Statement.filling, Traced.result_map] at hpart
      obtain ⟨w, hw, heq⟩ := map_eq_ok.mp hpart
      cases Fragment.toFilling_injective heq
      obtain ⟨f', hf', hoccurs⟩ := compiled_in_operands compounds hw q' hq'
      refine ⟨f', hf', Template.infix_fragment ?_ hparts.length_eq.symm hmem hoccurs⟩
      cases q' with
      | mk s' compounds' =>
        rw [Query.compile] at hf'
        exact Statement.isStripped_of_compile hf'
    · rw [Query.compiled_other hkind] at hq'
      cases List.mem_singleton.mp hq'
      exact ⟨f, h, List.infix_refl _⟩

theorem compiled_in_operands (operands : List (Value × Query)) {f : Fragment}
    (h : (Query.compileOperands (b.dialect types) operands).result = .ok f) :
    ∀ q' ∈ Query.compiledOperands operands, ∃ f', (q'.compile (b.dialect types)).result = .ok f' ∧
      f'.sql.toList <:+: f.sql.toList := by
  cases operands with
  | nil =>
    intro q' hq'
    cases hq'
  | cons operand rest =>
    obtain ⟨clause, q⟩ := operand
    rw [Query.result_compileOperands, Query.result_compileOperand] at h
    obtain ⟨first, hfirst, h⟩ := bind_eq_ok.mp h
    obtain ⟨others, hothers, h⟩ := bind_eq_ok.mp h
    obtain ⟨inner, hinner, hfirst⟩ := bind_eq_ok.mp hfirst
    cases h
    intro q' hq'
    rw [Query.compiledOperands, Query.compiledOperand] at hq'
    rcases List.mem_append.mp hq' with hq' | hq'
    · obtain ⟨f', hf', hoccurs⟩ := compiled_in_result q hinner q' hq'
      refine ⟨f', hf', (hoccurs.trans (infix_operand hfirst)).trans ?_⟩
      dsimp only
      split
      · exact List.infix_refl _
      · rw [String.toList_append, String.toList_append, List.append_assoc]
        exact (List.prefix_append _ _).isInfix
    · obtain ⟨f', hf', hoccurs⟩ := compiled_in_operands rest hothers q' hq'
      refine ⟨f', hf', hoccurs.trans ?_⟩
      dsimp only
      split
      · next hempty =>
        rw [List.isEmpty_iff.mp hempty] at hq'
        cases hq'
      · rw [String.toList_append]
        exact (List.suffix_append _ _).isInfix

end

end Backend

end SqlRender
