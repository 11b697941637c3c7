import SqlRender.Proofs.Phrase
import SqlRender.Proofs.SetOperation

/-!
# Compounds that are read from the left

What stands between selects without parentheses is read from the left, whatever was meant by it.
What is read then has another shape than what was meant, but its value is the same if there is one
operation only, that operation is associative and nothing but the whole is arranged.

* `Compound.isChain_combineAll`: where all words bind alike, only selects need no parentheses.
* `Compound.leftward`: the compound that is taken from the left, and `Compound.value_leftward`.
* `Text.compound?_eq_some_iff`: what is written without parentheses is read as it was meant exactly
  if it is flat.
-/

namespace SqlRender

namespace Compound

variable {α β α' β' : Type}

/-- The operations of a compound. -/
def ops : Compound α β → List SetOperator
  | select _ => []
  | combine op l r => op :: (l.ops ++ r.ops)
  | arrange _ c => c.ops

/-- The arrangements in a compound, wherever they stand. -/
def arrangements : Compound α β → List β
  | select _ => []
  | combine _ l r => l.arrangements ++ r.arrangements
  | arrange t c => t :: c.arrangements

/-- A compound without the selects and the arrangements themselves. -/
def shape : Compound α β → Compound Unit Unit
  | select _ => select ()
  | combine op l r => combine op l.shape r.shape
  | arrange _ c => arrange () c.shape

theorem Rel.shape_eq {P : α → α' → Prop} {Q : β → β' → Prop} {c : Compound α β}
    {c' : Compound α' β'} (h : Rel P Q c c') : c.shape = c'.shape := by
  induction h with
  | select => rfl
  | combine _ _ ihl ihr => rw [shape, shape, ihl, ihr]
  | arrange _ _ ih => rw [shape, shape, ih]

theorem Rel.ops_eq {P : α → α' → Prop} {Q : β → β' → Prop} {c : Compound α β}
    {c' : Compound α' β'} (h : Rel P Q c c') : c.ops = c'.ops := by
  induction h with
  | select => rfl
  | combine _ _ ihl ihr => rw [ops, ops, ihl, ihr]
  | arrange _ _ ih => exact ih

theorem Rel.arrangements {P : α → α' → Prop} {Q : β → β' → Prop} {c : Compound α β}
    {c' : Compound α' β'} (h : Rel P Q c c') : List.Forall₂ Q c.arrangements c'.arrangements := by
  induction h with
  | select => exact .nil
  | combine _ _ ihl ihr => exact List.rel_append ihl ihr
  | arrange ht _ ih => exact .cons ht ih

/-- What the whole is an arrangement of. -/
def body : Compound α β → Compound α β
  | arrange _ c => c
  | c => c

theorem isFlat_eq_isChain_body (tight : SetWord → Bool) (c : Compound α β) :
    c.isFlat tight = c.body.isChain tight := by
  cases c <;> rfl

theorem ops_body (c : Compound α β) : c.body.ops = c.ops := by
  cases c <;> rfl

theorem Rel.body {P : α → α' → Prop} {Q : β → β' → Prop} {c : Compound α β}
    {c' : Compound α' β'} (h : Rel P Q c c') : Rel P Q c.body c'.body := by
  cases h with
  | select ha => exact .select ha
  | combine hl hr => exact .combine hl hr
  | arrange _ hc => exact hc

/-! ## Operands from the left -/

/-- A compound with operands behind it, taken from the left. -/
def combineAll (c : Compound α β) (operands : List (SetOperator × Compound α β)) : Compound α β :=
  operands.foldl (fun c operand => combine operand.1 c operand.2) c

theorem combineAll_cons (c : Compound α β) (operand : SetOperator × Compound α β)
    (operands : List (SetOperator × Compound α β)) :
    c.combineAll (operand :: operands) = (combine operand.1 c operand.2).combineAll operands := rfl

theorem combineAll_concat (c : Compound α β) (operands : List (SetOperator × Compound α β))
    (operand : SetOperator × Compound α β) :
    c.combineAll (operands ++ [operand]) = combine operand.1 (c.combineAll operands) operand.2 := by
  rw [combineAll, List.foldl_append]
  rfl

theorem body_combineAll (a : α) (operands : List (SetOperator × Compound α β)) :
    ((select a).combineAll operands).body = (select a).combineAll operands := by
  rcases List.eq_nil_or_concat' operands with rfl | ⟨front, last, rfl⟩
  · rfl
  · rw [combineAll_concat, body]
    intro b' c' harrange
    cases harrange

theorem isSelect_combineAll (a : α) (operands : List (SetOperator × Compound α β)) :
    ((select a).combineAll operands).isSelect = operands.isEmpty := by
  rcases List.eq_nil_or_concat' operands with rfl | ⟨front, last, rfl⟩
  · rfl
  · rw [combineAll_concat, isSelect]
    · simp
    · intro a' hselect
      cases hselect

theorem mem_ops_combineAll {op : SetOperator} {c : Compound α β}
    {operands : List (SetOperator × Compound α β)} :
    op ∈ (c.combineAll operands).ops ↔
      op ∈ c.ops ∨ ∃ operand ∈ operands, op = operand.1 ∨ op ∈ operand.2.ops := by
  induction operands generalizing c with
  | nil => simp [combineAll]
  | cons operand operands ih =>
    rw [combineAll_cons, ih]
    simp only [ops, List.mem_cons, List.mem_append, exists_eq_or_imp]
    grind

theorem mem_arrangements_combineAll {t : β} {c : Compound α β}
    {operands : List (SetOperator × Compound α β)} :
    t ∈ (c.combineAll operands).arrangements ↔
      t ∈ c.arrangements ∨ ∃ operand ∈ operands, t ∈ operand.2.arrangements := by
  induction operands generalizing c with
  | nil => simp [combineAll]
  | cons operand operands ih =>
    rw [combineAll_cons, ih]
    simp only [arrangements, List.mem_cons, List.mem_append, exists_eq_or_imp]
    tauto

theorem Rel.combineAll {P : α → α' → Prop} {Q : β → β' → Prop} {c : Compound α β}
    {c' : Compound α' β'} (h : Rel P Q c c') {operands : List (SetOperator × Compound α β)}
    {operands' : List (SetOperator × Compound α' β')}
    (hs : List.Forall₂ (fun operand operand' => operand.1 = operand'.1 ∧
      Rel P Q operand.2 operand'.2) operands operands') :
    Rel P Q (c.combineAll operands) (c'.combineAll operands') := by
  induction hs generalizing c c' with
  | nil => exact h
  | cons hoperand _ ih =>
    obtain ⟨hop, hrel⟩ := hoperand
    rw [combineAll_cons, combineAll_cons, ← hop]
    exact ih (h.combine hrel)

theorem items_combineAll (c : Compound (List Item) (List Item))
    (operands : List (SetOperator × Compound (List Item) (List Item))) :
    (c.combineAll operands).items =
      c.items ++ operands.flatMap fun operand => operand.1.items ++ operand.2.items := by
  induction operands generalizing c with
  | nil => simp [combineAll]
  | cons operand operands ih => simp [combineAll_cons, ih, items]

theorem Clear.combineAll {c : Compound (List Item) (List Item)} (h : c.Clear)
    {operands : List (SetOperator × Compound (List Item) (List Item))}
    (hs : ∀ operand ∈ operands, operand.2.Clear) : (c.combineAll operands).Clear := by
  induction operands generalizing c with
  | nil => exact h
  | cons operand operands ih =>
    rw [combineAll_cons]
    exact ih ⟨h, hs operand List.mem_cons_self⟩ fun operand' hoperand' =>
      hs operand' (List.mem_cons_of_mem _ hoperand')

section Uniform

variable {tight : SetWord → Bool} {binds : Bool}

/-- Where all words bind alike, the right operand of an operation has to be a select. -/
theorem isChain_combine_of_uniform {op : SetOperator} {l r : Compound α β}
    (h : ∀ op' ∈ (combine op l r).ops, tight op'.word = binds) :
    (combine op l r).isChain tight = (l.isChain tight && r.isSelect) := by
  have hop : tight op.word = binds := h op (by simp [ops])
  cases binds with
  | true =>
    have hl : l.isTerm tight = l.isChain tight := by
      cases l with
      | select | arrange => rfl
      | combine op' l' r' =>
        rw [isChain, if_pos (h op' (by simp [ops]))]
    rw [isChain, if_pos hop, isTerm, hop, hl, Bool.true_and]
  | false =>
    have hr : r.isTerm tight = r.isSelect := by
      cases r with
      | select | arrange => rfl
      | combine op' l' r' =>
        rw [isTerm, h op' (by simp [ops])]
        rfl
    rw [isChain, if_neg (by simp [hop]), hr]

theorem isChain_combineAll {operands : List (SetOperator × Compound α β)} {c : Compound α β}
    (h : ∀ op' ∈ (c.combineAll operands).ops, tight op'.word = binds) :
    (c.combineAll operands).isChain tight =
      (c.isChain tight && operands.all fun operand => operand.2.isSelect) := by
  induction operands generalizing c with
  | nil => simp [combineAll]
  | cons operand operands ih =>
    rw [combineAll_cons] at h ⊢
    have hfirst : ∀ op' ∈ (combine operand.1 c operand.2).ops, tight op'.word = binds :=
      fun op' hop' => h op' (mem_ops_combineAll.mpr (.inl hop'))
    rw [ih h, isChain_combine_of_uniform hfirst, List.all_cons, Bool.and_assoc]

end Uniform

/-! ## Values -/

/-- What selects, operations and arrangements do with rows of some kind. -/
structure Interpretation (α β R : Type) where
  select : α → R
  combine : SetOperator → R → R → R
  arrange : β → R → R

def value {R : Type} (I : Interpretation α β R) : Compound α β → R
  | select a => I.select a
  | combine op l r => I.combine op (l.value I) (r.value I)
  | arrange t c => I.arrange t (c.value I)

/-- A compound behind another one, with the first operation of the second between them. -/
def graft (op : SetOperator) (c : Compound α β) : Compound α β → Compound α β
  | combine op' l r => combine op' (graft op c l) r
  | c' => combine op c c'

/-- The compound that is written in the same way and taken from the left. -/
def leftward : Compound α β → Compound α β
  | select a => select a
  | combine op l r => graft op l.leftward r.leftward
  | arrange t c => arrange t c.leftward

/-- One operation is the only one, and nothing is arranged. -/
structure IsUniform (op : SetOperator) (c : Compound α β) : Prop where
  ops : ∀ op' ∈ c.ops, op' = op
  arrangements : c.arrangements = []

theorem isUniform_combine {op op' : SetOperator} {l r : Compound α β} :
    (combine op' l r).IsUniform op ↔ op' = op ∧ l.IsUniform op ∧ r.IsUniform op := by
  constructor
  · rintro ⟨hops, harrangements⟩
    obtain ⟨hl, hr⟩ := List.append_eq_nil_iff.mp harrangements
    exact ⟨hops op' (by simp [Compound.ops]),
      ⟨fun op'' hop'' => hops op'' (by simp [Compound.ops, hop'']), hl⟩,
      ⟨fun op'' hop'' => hops op'' (by simp [Compound.ops, hop'']), hr⟩⟩
  · rintro ⟨rfl, hl, hr⟩
    refine ⟨?_, List.append_eq_nil_iff.mpr ⟨hl.arrangements, hr.arrangements⟩⟩
    intro op'' hop''
    rcases List.mem_cons.mp hop'' with rfl | hop''
    · rfl
    · rcases List.mem_append.mp hop'' with hop'' | hop''
      · exact hl.ops op'' hop''
      · exact hr.ops op'' hop''

theorem Rel.isUniform {P : α → α' → Prop} {Q : β → β' → Prop} {c : Compound α β}
    {c' : Compound α' β'} (h : Rel P Q c c') {op : SetOperator} (hc : c.IsUniform op) :
    c'.IsUniform op := by
  refine ⟨fun op' hop' => hc.ops op' (h.ops_eq ▸ hop'), ?_⟩
  have harrangements := h.arrangements
  rw [hc.arrangements] at harrangements
  exact List.forall₂_nil_left_iff.mp harrangements

theorem IsUniform.ne_arrange {op : SetOperator} {t : β} {c : Compound α β} :
    ¬(arrange t c).IsUniform op := by
  rintro ⟨-, harrangements⟩
  cases harrangements

section Associative

variable {R : Type} {I : Interpretation α β R} {op : SetOperator}
  (hassoc : ∀ x y z, I.combine op (I.combine op x y) z = I.combine op x (I.combine op y z))
include hassoc

theorem value_graft (c : Compound α β) {c' : Compound α β} (h : c'.IsUniform op) :
    (graft op c c').value I = I.combine op (c.value I) (c'.value I) := by
  induction c' with
  | select a => rfl
  | combine op' l r ihl _ =>
    obtain ⟨rfl, hl, -⟩ := isUniform_combine.mp h
    rw [graft, value, value, ihl hl, hassoc]
  | arrange => exact absurd h IsUniform.ne_arrange

end Associative

theorem isUniform_graft {op : SetOperator} {c c' : Compound α β} (h : c.IsUniform op)
    (h' : c'.IsUniform op) : (graft op c c').IsUniform op := by
  induction c' with
  | select a => exact isUniform_combine.mpr ⟨rfl, h, h'⟩
  | combine op' l r ihl _ =>
    obtain ⟨rfl, hl, hr⟩ := isUniform_combine.mp h'
    exact isUniform_combine.mpr ⟨rfl, ihl hl, hr⟩
  | arrange => exact absurd h' IsUniform.ne_arrange

theorem isUniform_leftward {op : SetOperator} {c : Compound α β} (h : c.IsUniform op) :
    c.leftward.IsUniform op := by
  induction c with
  | select a => exact h
  | combine op' l r ihl ihr =>
    obtain ⟨rfl, hl, hr⟩ := isUniform_combine.mp h
    exact isUniform_graft (ihl hl) (ihr hr)
  | arrange => exact absurd h IsUniform.ne_arrange

/-- Only the grouping changes, and the value does not depend on it. -/
theorem value_leftward {R : Type} {I : Interpretation α β R} {op : SetOperator}
    (hassoc : ∀ x y z, I.combine op (I.combine op x y) z = I.combine op x (I.combine op y z))
    {c : Compound α β} (h : c.IsUniform op) : c.leftward.value I = c.value I := by
  induction c with
  | select a => rfl
  | combine op' l r ihl ihr =>
    obtain ⟨rfl, hl, hr⟩ := isUniform_combine.mp h
    rw [leftward, value_graft hassoc _ (isUniform_leftward hr), ihl hl, ihr hr, value]
  | arrange => exact absurd h IsUniform.ne_arrange

theorem IsUniform.isChain_combine {op : SetOperator} {l r : Compound α β}
    (h : (combine op l r).IsUniform op) (tight : SetWord → Bool) :
    (combine op l r).isChain tight = (l.isChain tight && r.isSelect) := by
  have hbinds : ∀ op' ∈ (combine op l r).ops, tight op'.word = tight op.word := by
    intro op' hop'
    rw [h.ops op' hop']
  exact isChain_combine_of_uniform hbinds

theorem isChain_graft {tight : SetWord → Bool} {op : SetOperator} {c c' : Compound α β}
    (h : c.IsUniform op) (h' : c'.IsUniform op) (hc : c.isChain tight = true)
    (hc' : c'.isChain tight = true) : (graft op c c').isChain tight = true := by
  induction c' with
  | select a =>
    have hall : (combine op c (select a)).IsUniform op := isUniform_graft h h'
    rw [graft, hall.isChain_combine, hc]
    · rfl
    · simp
  | combine op' l r ihl _ =>
    obtain ⟨rfl, hl, hr⟩ := isUniform_combine.mp h'
    rw [h'.isChain_combine, Bool.and_eq_true] at hc'
    have hall : (combine op' (graft op' c l) r).IsUniform op' := isUniform_graft h h'
    rw [graft, hall.isChain_combine, ihl hl hc'.1, hc'.2]
    rfl
  | arrange => exact absurd h' IsUniform.ne_arrange

theorem isChain_leftward (tight : SetWord → Bool) {op : SetOperator} {c : Compound α β}
    (h : c.IsUniform op) : c.leftward.isChain tight = true := by
  induction c with
  | select a => rfl
  | combine op' l r ihl ihr =>
    obtain ⟨rfl, hl, hr⟩ := isUniform_combine.mp h
    exact isChain_graft (isUniform_leftward hl) (isUniform_leftward hr) (ihl hl) (ihr hr)
  | arrange => exact absurd h IsUniform.ne_arrange

theorem body_leftward (c : Compound α β) : c.leftward.body = c.body.leftward := by
  cases c with
  | select | arrange => rfl
  | combine op l r =>
    show (graft op l.leftward r.leftward).body = graft op l.leftward r.leftward
    cases r.leftward <;> rfl

/-- An arrangement of the whole does not matter. -/
theorem value_leftward_of_body {R : Type} {I : Interpretation α β R} {op : SetOperator}
    (hassoc : ∀ x y z, I.combine op (I.combine op x y) z = I.combine op x (I.combine op y z))
    {c : Compound α β} (h : c.body.IsUniform op) : c.leftward.value I = c.value I := by
  cases c with
  | select | combine => exact value_leftward hassoc h
  | arrange t c => exact congrArg (I.arrange t) (value_leftward hassoc h)

/-! ## What is written in the same way -/

theorem items_graft (op : SetOperator) (c c' : Compound (List Item) (List Item)) :
    (graft op c c').items = c.items ++ (op.items ++ c'.items) := by
  induction c' with
  | select | arrange => rfl
  | combine op' l r ihl _ => simp [graft, items, ihl]

theorem items_leftward (c : Compound (List Item) (List Item)) : c.leftward.items = c.items := by
  induction c with
  | select a => rfl
  | combine op l r ihl ihr => rw [leftward, items_graft, ihl, ihr, items]
  | arrange t c ih => rw [leftward, items, ih, items]

theorem tokens_graft (op : SetOperator) (c c' : Compound (List Item) (List Item)) :
    (graft op c c').tokens = graft op c.tokens c'.tokens := by
  induction c' with
  | select | arrange => rfl
  | combine op' l r ihl _ => rw [graft, tokens, ihl, tokens, graft]

theorem tokens_leftward (c : Compound (List Item) (List Item)) :
    c.leftward.tokens = c.tokens.leftward := by
  induction c with
  | select a => rfl
  | combine op l r ihl ihr => rw [leftward, tokens_graft, ihl, ihr, tokens, leftward]
  | arrange t c ih => rw [leftward, tokens, ih, tokens, leftward]

theorem Clear.graft {op : SetOperator} {c c' : Compound (List Item) (List Item)} (h : c.Clear)
    (h' : c'.Clear) : (graft op c c').Clear := by
  induction c' with
  | select | arrange => exact ⟨h, h'⟩
  | combine op' l r ihl _ => exact ⟨ihl h'.1, h'.2⟩

theorem Clear.leftward {c : Compound (List Item) (List Item)} (h : c.Clear) : c.leftward.Clear := by
  induction c with
  | select a => exact h
  | combine op l r ihl ihr => exact (ihl h.1).graft (ihr h.2)
  | arrange t c ih => exact ⟨h.1, ih h.2⟩

theorem rel_tokens (c : Compound (List Item) (List Item)) :
    Rel (fun a ts => ts = a.flatMap Item.tokens) (fun t ts => ts = t.flatMap Item.tokens) c
      c.tokens := by
  induction c with
  | select a => exact .select rfl
  | combine op l r ihl ihr => exact .combine ihl ihr
  | arrange t c ih => exact .arrange rfl ih

end Compound

/-! ## Reading what is written -/

/-- The tokens that have been taken in, from the outermost parenthesis to the innermost. -/
def stackTokens : List (List Item) → List Token
  | [] => []
  | [level] => level.flatMap Item.tokens
  | level :: rest => stackTokens rest ++ .opening :: level.flatMap Item.tokens

theorem stackTokens_nestStep {stack stack' : List (List Item)} {t : Token} (hne : stack ≠ [])
    (h : nestStep stack t = some stack') : stackTokens stack' = stackTokens stack ++ [t] := by
  cases stack with
  | nil => exact absurd rfl hne
  | cons top rest =>
    cases t with
    | opening =>
      cases h
      rfl
    | closing =>
      cases rest with
      | nil => cases h
      | cons outer rest =>
        cases h
        cases rest <;> simp [stackTokens, Item.enclosing, Item.tokens]
    | word | quoted | sign =>
      cases h
      cases rest <;> simp [stackTokens, Item.tokens]

theorem stackTokens_nest {ts : List Token} {stack stack' : List (List Item)} (hne : stack ≠ [])
    (h : nest stack ts = some stack') : stackTokens stack' = stackTokens stack ++ ts := by
  induction ts generalizing stack with
  | nil =>
    cases h
    simp
  | cons t ts ih =>
    obtain ⟨next, hnext, h⟩ := Option.bind_eq_some_iff.mp h
    have hnext' : next ≠ [] := (nestStep_under [] [] hne hnext).1
    rw [ih hnext' h, stackTokens_nestStep hne hnext, List.append_assoc]
    rfl

/-- No token is lost when parentheses are read. -/
theorem Contributes.flatMap_tokens {ts : List Token} {items : List Item}
    (h : Contributes ts items) : items.flatMap Item.tokens = ts := by
  have hnest := stackTokens_nest (by simp) (h [] [])
  simpa [stackTokens] using hnest

namespace Compound

theorem Clear.items_ne_nil {c : Compound (List Item) (List Item)} (h : c.Clear) : c.items ≠ [] := by
  induction c with
  | select a =>
    have hcore : IsCore a := h
    rintro rfl
    cases hcore.opens
  | combine op l r ihl _ => simp [items, ihl h.1]
  | arrange t c ih => simp [items, ih h.2]

end Compound

namespace Text

variable {tight : SetWord → Bool} {s : String} {c : Compound (List Item) (List Item)}

theorem compound?_of_yields (tight : SetWord → Bool) (hc : c.Clear) (h : Yields s c.items) :
    ∃ inside, compound? tight s = readQueryItems tight (readOperand inside) c.items := by
  obtain ⟨ts, hts, hitems⟩ := h
  have hnest : nest [[]] ts = some [c.items] := hitems [] []
  cases ts with
  | nil =>
    have hnil : c.items = [] := by simpa [nest] using hnest.symm
    exact absurd hnil hc.items_ne_nil
  | cons t ts =>
    refine ⟨readCompound tight ts.length, ?_⟩
    rw [compound?, hts]
    show readCompound tight (ts.length + 1) (t :: ts) = _
    rw [readCompound, hnest]
    rfl

theorem compound?_of_isFlat (hc : c.Clear) (h : Yields s c.items) (hflat : c.isFlat tight = true) :
    compound? tight s = some c.tokens := by
  obtain ⟨inside, hread⟩ := compound?_of_yields tight hc h
  rw [hread]
  exact Compound.readQueryItems_of_isFlat inside hc hflat

/-- What is written without parentheses is read as it was meant exactly if it is flat. -/
theorem compound?_eq_some_iff (hc : c.Clear) (h : Yields s c.items) :
    compound? tight s = some c.tokens ↔ c.isFlat tight = true := by
  refine ⟨fun hsome => ?_, compound?_of_isFlat hc h⟩
  obtain ⟨inside, hread⟩ := compound?_of_yields tight hc h
  rw [hread] at hsome
  rw [c.rel_tokens.isFlat_eq]
  exact Compound.isFlat_of_readQueryItems hc hsome

/-- Where one operation is the only one, all is taken from the left. -/
theorem compound?_of_isUniform (tight : SetWord → Bool) (hc : c.Clear) (h : Yields s c.items)
    {op : SetOperator} (huniform : c.body.IsUniform op) :
    compound? tight s = some c.tokens.leftward := by
  have hflat : c.leftward.isFlat tight = true := by
    rw [Compound.isFlat_eq_isChain_body, Compound.body_leftward]
    exact Compound.isChain_leftward tight huniform
  rw [← Compound.tokens_leftward]
  refine compound?_of_isFlat hc.leftward ?_ hflat
  rw [Compound.items_leftward]
  exact h

end Text

end SqlRender
