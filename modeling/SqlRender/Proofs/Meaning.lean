import Mathlib.Data.Option.Basic
import SqlRender.Proofs.Phrase
import SqlRender.Proofs.Tree

/-!
# What conditions mean

The text of a condition is read as the condition means it: with the usual precedence of NOT, AND
and OR, it has the value of the tree that it was made of, for every assignment of truth values to
the leaves. Nodes without leaves have no text and no meaning; they are dropped, negated or not.

* `Value.meaning`: the sentence that a tree stands for.
* `Backend.child_renders`: what is read in the text of a tree.
* `Formula.build_spec`: what the operators on predicates build.
* `condition_keeps_meaning`: the text of a built predicate means the formula.
-/

namespace SqlRender

namespace Sentence

variable {α : Type}

/-- Sentences with one connective between them, none if there are no sentences. -/
def chain? (op : Sentence α → Sentence α → Sentence α) : List (Sentence α) → Option (Sentence α)
  | [] => none
  | s :: ss => some (chain op s ss)

/-- The sentences have the same atoms, and the same value under every assignment to them. -/
structure Same (s t : Sentence α) : Prop where
  atoms : s.atoms = t.atoms
  value : ∀ σ first, s.value σ first = t.value σ first

end Sentence

/-- The connective that a connector stands for. -/
def Keyword.connective {α : Type} : Keyword → Sentence α → Sentence α → Sentence α
  | .or => .either
  | _ => .both

namespace Sentence.Same

variable {α : Type} {s s' t t' : Sentence α}

theorem refl (s : Sentence α) : Same s s := ⟨rfl, fun _ _ => rfl⟩

theorem neg (h : Same s t) : Same (.neg s) (.neg t) where
  atoms := h.atoms
  value σ first := by rw [Sentence.value, Sentence.value, h.value]

/-- Two negations are none. -/
theorem of_neg (h : Same (.neg s) t) : Same s (.neg t) where
  atoms := h.atoms
  value σ first := by rw [Sentence.value, ← h.value, Sentence.value, Bool.not_not]

theorem connective (h : Same s t) (h' : Same s' t') (k : Keyword) :
    Same (k.connective s s') (k.connective t t') := by
  have hboth : Same (.both s s') (.both t t') := by
    refine ⟨by rw [Sentence.atoms, Sentence.atoms, h.atoms, h'.atoms], fun σ first => ?_⟩
    rw [Sentence.value, Sentence.value, h.value, h'.value, h.atoms]
  have heither : Same (.either s s') (.either t t') := by
    refine ⟨by rw [Sentence.atoms, Sentence.atoms, h.atoms, h'.atoms], fun σ first => ?_⟩
    rw [Sentence.value, Sentence.value, h.value, h'.value, h.atoms]
  unfold Keyword.connective
  split
  · exact heither
  · exact hboth

theorem chain (k : Keyword) {ss ts : List (Sentence α)} (h : Same s t)
    (hs : List.Forall₂ Same ss ts) : Same (s.chain k.connective ss) (t.chain k.connective ts) := by
  induction hs generalizing s t with
  | nil => exact h
  | cons h' _ ih => exact h.connective (ih h') k

theorem chain? (k : Keyword) {ss ts : List (Sentence α)} (hs : List.Forall₂ Same ss ts) :
    Option.Rel Same (Sentence.chain? k.connective ss) (Sentence.chain? k.connective ts) := by
  cases hs with
  | nil => exact .none
  | cons h hs => exact .some (h.chain k hs)

end Sentence.Same

/-! ## Trees -/

/-- What a node means whose children mean these sentences. -/
def nodeMeaning (k : Keyword) (negated : Bool) (ss : List (Sentence Value)) :
    Option (Sentence Value) :=
  (Sentence.chain? k.connective ss).map fun s => if negated then .neg s else s

namespace Value

mutual

/-- What a tree means, none if it has no leaves. -/
def meaning : Value → Option (Sentence Value)
  | .predicate children connector negated => nodeMeaning connector negated (meanings children)
  | leaf => some (.atom leaf)

def meanings : List Value → List (Sentence Value)
  | [] => []
  | child :: rest => (meaning child).toList ++ meanings rest

end

theorem meanings_eq (vs : List Value) : meanings vs = vs.flatMap fun v => v.meaning.toList := by
  induction vs with
  | nil => rfl
  | cons v vs ih => rw [meanings, ih, List.flatMap_cons]

theorem meanings_append (vs ws : List Value) :
    meanings (vs ++ ws) = meanings vs ++ meanings ws := by
  simp only [meanings_eq, List.flatMap_append]

end Value

theorem forall₂_toList {α β : Type} {R : α → β → Prop} {a : Option α} {b : Option β}
    (h : Option.Rel R a b) : List.Forall₂ R a.toList b.toList := by
  cases h with
  | none => exact .nil
  | some h => exact .cons h .nil

/-! ## Texts of trees -/

/-- The text of a leaf is read as this atom. -/
def LeafText (d : Dialect) (leaf : Value) (atom : List Token) : Prop :=
  ∃ f, childCondition d leaf = .ok (some f) ∧ Text.reading f.sql = some (.atom atom)

/-- The fragment is one operand of connectives and is read as the sentence. -/
def Renders (d : Dialect) (s : Sentence Value) (f : Fragment) : Prop :=
  ∃ r, Sentence.Rel (LeafText d) s r ∧ Text.Operand f.sql r

/-- The text is read as the sentence; where there is no sentence, it is empty. -/
def Expresses (d : Dialect) (sql : String) : Option (Sentence Value) → Prop
  | none => sql = ""
  | some s => ∃ r, Sentence.Rel (LeafText d) s r ∧ Text.Reads sql r

theorem Expresses.eq_empty_iff {d : Dialect} {sql : String} {m : Option (Sentence Value)}
    (h : Expresses d sql m) : sql = "" ↔ m = none := by
  cases m with
  | none => simp [show sql = "" from h]
  | some s =>
    obtain ⟨r, -, hr⟩ := h
    simp [hr.ne_empty]

namespace Backend

variable {b : Backend} (types : TypeCatalogue)

/-- Operands with a connector between them are read with its connective. -/
theorem reads_joined {k : Keyword} (hk : k = .and ∨ k = .or) {s : Sentence Value}
    {ss : List (Sentence Value)} {part : Fragment} {parts : List Fragment}
    (h : Renders (b.dialect types) s part)
    (hs : List.Forall₂ (Renders (b.dialect types)) ss parts) :
    ∃ r, Sentence.Rel (LeafText (b.dialect types)) (s.chain k.connective ss) r ∧
      Text.Reads (Fragment.joined (" " ++ k.word ++ " ") (part :: parts)).sql r := by
  obtain ⟨r, hrel, hr⟩ := h
  obtain ⟨rs, hrels, hrs⟩ := forall₂_exists hs
  have hoperands : List.Forall₂ Text.Operand (parts.map Fragment.sql) rs :=
    List.forall₂_map_left_iff.mpr hrs.flip
  rw [Fragment.joined_eq]
  rcases hk with rfl | rfl
  · exact ⟨_, hrel.chain Sentence.Rel.both hrels, hr.joined_and hoperands⟩
  · exact ⟨_, hrel.chain Sentence.Rel.either hrels, hr.joined_or hoperands⟩

/-- The text of a node is read as its children are, with the connective and the negation. -/
theorem connect_expresses {k : Keyword} (hk : k = .and ∨ k = .or) {negated : Bool}
    {ss : List (Sentence Value)} {parts : List Fragment} {f : Fragment}
    (hs : List.Forall₂ (Renders (b.dialect types)) ss parts)
    (h : connect (b.dialect types) k negated parts = .ok f) :
    Expresses (b.dialect types) f.sql (nodeMeaning k negated ss) := by
  cases hs with
  | nil =>
    cases h
    rfl
  | cons hpart hrest =>
    obtain ⟨r, hrel, hreads⟩ := reads_joined types hk hpart hrest
    rw [connect_eq types hk] at h
    cases h
    cases negated with
    | false => exact ⟨r, hrel, hreads⟩
    | true => exact ⟨.neg r, .neg hrel, hreads.negated.reads⟩

/-- The places of a comparison are atomic if its raw SQL is. -/
theorem isAtomic_ofValue {v : Value} (h : ∀ sql ∈ v.raws, Text.IsAtomic sql) :
    Text.IsAtomic (Fragment.ofValue v).sql := by
  have hmarker : Text.IsAtomic "?" := ⟨[.sign '?'], by decide⟩
  cases v with
  | raw sql => exact h sql (by simp [Value.raws])
  | _ => exact hmarker

/-- A lookup is one atom. -/
theorem operand_lookup {key value : Value} (hraw : ∀ sql ∈ value.raws, Text.IsAtomic sql)
    {f : Fragment} (h : lookupCondition (b.dialect types) key value = .ok f) :
    ∃ tokens, Text.Operand f.sql (.atom tokens) := by
  obtain ⟨k, -, h⟩ := bind_eq_ok.mp h
  refine operand_comparison types k.column (fun w hw => isAtomic_ofValue fun sql hsql => ?_) h
  exact hraw sql (Lookup.raws_operand hw hsql)

/-- What is no node is an atom. -/
theorem leaf_renders {leaf : Value} (hleaf : ∀ children k n, leaf ≠ .predicate children k n)
    (hraw : ∀ sql ∈ leaf.raws, Text.IsAtomic sql) {part : Option Fragment}
    (h : childCondition (b.dialect types) leaf = .ok part) :
    Option.Rel (Renders (b.dialect types)) leaf.meaning part := by
  have hatom : ∃ f tokens, part = some f ∧ Text.Operand f.sql (.atom tokens) := by
    rcases childCondition_leaf hleaf h with ⟨sql, rfl, rfl⟩ | ⟨key, value, f, rfl, hf, rfl⟩
    · obtain ⟨tokens, hreading⟩ := hraw sql (by simp [Value.raws])
      exact ⟨_, tokens, rfl, Text.IsAtomic.operand hreading⟩
    · have hvalue : ∀ sql ∈ value.raws, Text.IsAtomic sql := fun sql hsql =>
        hraw sql (Value.raws_item rfl (by simp) hsql)
      obtain ⟨tokens, hoperand⟩ := operand_lookup types hvalue hf
      exact ⟨f, tokens, rfl, hoperand⟩
  obtain ⟨f, tokens, rfl, hoperand⟩ := hatom
  rw [Value.meaning]
  · exact .some ⟨.atom tokens, .atom ⟨f, h, hoperand.reads.reading⟩, hoperand⟩
  · exact hleaf

mutual

/-- What is read in the text of a tree is what the tree means. -/
theorem child_renders (v : Value) (hk : v.Connected) (hraw : ∀ sql ∈ v.raws, Text.IsAtomic sql)
    {part : Option Fragment} (h : childCondition (b.dialect types) v = .ok part) :
    Option.Rel (Renders (b.dialect types)) v.meaning part := by
  cases v with
  | predicate children k negated =>
    obtain ⟨parts, hparts, h⟩ := bind_eq_ok.mp h
    obtain ⟨inner, hinner, h⟩ := bind_eq_ok.mp h
    cases h
    obtain ⟨hconnector, hconnected⟩ := Value.connected_predicate.mp hk
    have hchildren := children_renders children hconnected
      (fun v hv sql hsql => hraw sql (Value.raws_child hv hsql)) hparts
    have hexpresses := connect_expresses types hconnector hchildren hinner
    rw [Value.meaning]
    -- a node without leaves has no text, and then no parentheses either
    cases hm : nodeMeaning k negated (Value.meanings children) with
    | none =>
      rw [if_pos (hexpresses.eq_empty_iff.mpr hm)]
      exact .none
    | some s =>
      rw [hm] at hexpresses
      obtain ⟨r, hrel, hreads⟩ := hexpresses
      rw [if_neg hreads.ne_empty]
      exact .some ⟨r, hrel, hreads.enclosed⟩
  | _ => exact leaf_renders types (by simp) hraw h

theorem children_renders (vs : List Value) (hk : ∀ v ∈ vs, v.Connected)
    (hraw : ∀ v ∈ vs, ∀ sql ∈ v.raws, Text.IsAtomic sql) {parts : List Fragment}
    (h : childConditions (b.dialect types) vs = .ok parts) :
    List.Forall₂ (Renders (b.dialect types)) (Value.meanings vs) parts := by
  cases vs with
  | nil =>
    cases h
    exact .nil
  | cons v vs =>
    obtain ⟨part, hpart, h⟩ := bind_eq_ok.mp h
    obtain ⟨rest, hrest, h⟩ := bind_eq_ok.mp h
    cases h
    have hfirst := child_renders v (hk v (by simp)) (hraw v (by simp)) hpart
    have hothers := children_renders vs (fun w hw => hk w (List.mem_cons_of_mem v hw))
      (fun w hw => hraw w (List.mem_cons_of_mem v hw)) hrest
    rw [Value.meanings]
    exact List.rel_append (forall₂_toList hfirst) hothers

end

end Backend

/-! ## Formulas -/

mutual

/-- A formula as it is written with the operators on predicates. -/
inductive Formula where
  | allOf (children : List Formula.Child) (lookups : List (String × Value))
  /-- The same with the connector set to OR. -/
  | anyOf (children : List Formula.Child) (lookups : List (String × Value))
  | or (φ ψ : Formula)
  | and (φ ψ : Formula)
  | not (φ : Formula)

/-- What a predicate is made of, besides lookups. -/
inductive Formula.Child where
  | formula (φ : Formula)
  | raw (sql : String)

end

namespace Formula

mutual

/-- The predicate that the operators give. -/
def build : Formula → Except Error Predicate
  | .allOf children lookups => do Predicate.make (← buildAll children) lookups
  | .anyOf children lookups => do
    return { ← Predicate.make (← buildAll children) lookups with connector := .or }
  | .or φ ψ => do return (← φ.build).or (← ψ.build)
  | .and φ ψ => do return (← φ.build).and (← ψ.build)
  | .not φ => do return (← φ.build).not

def Child.build : Child → Except Error Value
  | .formula φ => do return (← φ.build).toValue
  | .raw sql => .ok (.raw sql)

def buildAll : List Child → Except Error (List Value)
  | [] => .ok []
  | child :: rest => do return (← child.build) :: (← buildAll rest)

end

/-- Lookups as sentences. -/
def leaves (lookups : List (String × Value)) : List (Sentence Value) :=
  (Assoc.ofPairs lookups).map fun lookup => .atom (Predicate.leaf lookup)

mutual

/-- The formula without its subformulas that have no leaves, none if nothing remains. -/
def meaning : Formula → Option (Sentence Value)
  | .allOf children lookups => Sentence.chain? .both (meanings children ++ leaves lookups)
  | .anyOf children lookups => Sentence.chain? .either (meanings children ++ leaves lookups)
  | .or φ ψ => Option.merge .either φ.meaning ψ.meaning
  | .and φ ψ => Option.merge .both φ.meaning ψ.meaning
  | .not φ => φ.meaning.map .neg

def Child.meaning : Child → Option (Sentence Value)
  | .formula φ => φ.meaning
  | .raw sql => some (.atom (.raw sql))

def meanings : List Child → List (Sentence Value)
  | [] => []
  | child :: rest => child.meaning.toList ++ meanings rest

end

mutual

/-- The raw SQL of a formula, in its leaves and in the values of its lookups. -/
def raws : Formula → List String
  | .allOf children lookups | .anyOf children lookups =>
    rawsAll children ++ (Assoc.ofPairs lookups).flatMap fun lookup => lookup.2.raws
  | .or φ ψ | .and φ ψ => φ.raws ++ ψ.raws
  | .not φ => φ.raws

def Child.raws : Child → List String
  | .formula φ => φ.raws
  | .raw sql => [sql]

def rawsAll : List Child → List String
  | [] => []
  | child :: rest => child.raws ++ rawsAll rest

end

/-! ## What the operators build -/

/-- The value is a tree that means the sentence, without other raw SQL than the given texts. -/
structure Denotes (v : Value) (m : Option (Sentence Value)) (raws : List String) : Prop where
  connected : v.Connected
  meaning : Option.Rel Sentence.Same v.meaning m
  raws : v.raws ⊆ raws

namespace Denotes

variable {p q : Predicate} {m m' : Option (Sentence Value)} {raws raws' : List String}

theorem none_of_isEmpty (h : Denotes p.toValue m raws) (hp : p.isEmpty = true) : m = none := by
  have hm := h.meaning
  rw [Predicate.toValue, List.isEmpty_iff.mp hp] at hm
  cases hm
  rfl

/-- A node with two trees, neither of them dropped beforehand. -/
theorem node {k : Keyword} (hk : k = .and ∨ k = .or) {v w : Value} (h : Denotes v m raws)
    (h' : Denotes w m' raws') :
    Denotes (.predicate [v, w] k false) (Option.merge k.connective m m') (raws ++ raws') where
  connected := by
    refine Value.connected_predicate.mpr ⟨hk, ?_⟩
    simp [h.connected, h'.connected]
  meaning := by
    have hv := h.meaning
    have hw := h'.meaning
    rw [Value.meaning, Value.meanings, Value.meanings, Value.meanings]
    generalize v.meaning = s at hv
    generalize w.meaning = t at hw
    cases hv with
    | none =>
      cases hw with
      | none => exact .none
      | some hw => exact .some hw
    | some hv =>
      cases hw with
      | none => exact .some hv
      | some hw => exact .some (hv.connective hw k)
  raws := by
    intro sql hsql
    simp only [Value.raws, Value.rawsAll, List.append_nil, List.mem_append] at hsql ⊢
    exact hsql.imp (h.raws ·) (h'.raws ·)

theorem combine {k : Keyword} (hk : k = .and ∨ k = .or) (h : Denotes p.toValue m raws)
    (h' : Denotes q.toValue m' raws') :
    Denotes (Predicate.combine k p q).toValue (Option.merge k.connective m m') (raws ++ raws') := by
  unfold Predicate.combine
  split
  · next hq =>
    rw [h'.none_of_isEmpty hq, Option.merge_none_right]
    exact ⟨h.connected, h.meaning, fun sql hsql => List.mem_append_left _ (h.raws hsql)⟩
  · split
    · next hp =>
      rw [h.none_of_isEmpty hp, Option.merge_none_left]
      exact ⟨h'.connected, h'.meaning, fun sql hsql => List.mem_append_right _ (h'.raws hsql)⟩
    · exact h.node hk h'

theorem not (h : Denotes p.toValue m raws) : Denotes p.not.toValue (m.map .neg) raws where
  connected := by
    have hconnected := Value.connected_predicate.mp h.connected
    exact Value.connected_predicate.mpr hconnected
  meaning := by
    have hm := h.meaning
    obtain ⟨children, k, negated⟩ := p
    simp only [Predicate.not, Predicate.toValue, Value.meaning, nodeMeaning] at hm ⊢
    generalize Sentence.chain? k.connective (Value.meanings children) = c at hm ⊢
    cases c with
    | none =>
      cases hm
      exact .none
    | some s =>
      cases negated with
      | false =>
        cases hm with
        | some hs => exact .some hs.neg
      | true =>
        cases hm with
        | some hs => exact .some hs.of_neg
  raws := h.raws

end Denotes

theorem meanings_leaves (lookups : List (String × Value)) :
    Value.meanings ((Assoc.ofPairs lookups).map Predicate.leaf) = leaves lookups := by
  rw [leaves]
  induction Assoc.ofPairs lookups with
  | nil => rfl
  | cons lookup rest ih =>
    rw [List.map_cons, Value.meanings, ih]
    rfl

/-- Trees that a predicate may be made with, and that mean these sentences. -/
structure DenoteAll (vs : List Value) (ss : List (Sentence Value)) (raws : List String) : Prop where
  isChild : ∀ v ∈ vs, Predicate.isChild v = true
  connected : ∀ v ∈ vs, v.Connected
  meanings : List.Forall₂ Sentence.Same (Value.meanings vs) ss
  raws : Value.rawsAll vs ⊆ raws

namespace DenoteAll

variable {vs : List Value} {ss : List (Sentence Value)} {raws : List String}

theorem make_eq (h : DenoteAll vs ss raws) (lookups : List (String × Value)) :
    Predicate.make vs lookups =
      .ok { children := vs ++ (Assoc.ofPairs lookups).map Predicate.leaf } := by
  have hfind : vs.find? (!Predicate.isChild ·) = none := by
    rw [List.find?_eq_none]
    intro v hv
    simp [h.isChild v hv]
  rw [Predicate.make, hfind]

/-- Trees, followed by lookups, in one node. -/
theorem node (h : DenoteAll vs ss raws) (lookups : List (String × Value)) {k : Keyword}
    (hk : k = .and ∨ k = .or) :
    Denotes (.predicate (vs ++ (Assoc.ofPairs lookups).map Predicate.leaf) k false)
      (Sentence.chain? k.connective (ss ++ leaves lookups))
      (raws ++ (Assoc.ofPairs lookups).flatMap fun lookup => lookup.2.raws) where
  connected := by
    refine Value.connected_predicate.mpr ⟨hk, fun v hv => ?_⟩
    rcases List.mem_append.mp hv with hv | hv
    · exact h.connected v hv
    · obtain ⟨lookup, -, rfl⟩ := List.mem_map.mp hv
      intro k' hk'
      cases hk'
  meaning := by
    have hleaves : List.Forall₂ Sentence.Same (leaves lookups) (leaves lookups) :=
      List.forall₂_same.mpr fun s _ => .refl s
    simp only [Value.meaning, nodeMeaning, Bool.false_eq_true, if_false, Option.map_id',
      Value.meanings_append, meanings_leaves]
    exact Sentence.Same.chain? k (List.rel_append h.meanings hleaves)
  raws := by
    rw [Value.raws, Value.rawsAll_eq, List.flatMap_append, ← Value.rawsAll_eq, List.flatMap_map]
    refine List.append_subset.mpr ⟨List.Subset.trans h.raws (List.subset_append_left _ _), ?_⟩
    simp [Predicate.leaf, Value.raws, Value.rawsAll]

end DenoteAll

mutual

theorem build_spec (φ : Formula) : ∃ p, φ.build = .ok p ∧ Denotes p.toValue φ.meaning φ.raws := by
  cases φ with
  | allOf children lookups =>
    obtain ⟨vs, hvs, hall⟩ := buildAll_spec children
    exact ⟨_, bind_eq_ok.mpr ⟨vs, hvs, hall.make_eq lookups⟩, hall.node lookups (.inl rfl)⟩
  | anyOf children lookups =>
    obtain ⟨vs, hvs, hall⟩ := buildAll_spec children
    refine ⟨⟨vs ++ (Assoc.ofPairs lookups).map Predicate.leaf, .or, false⟩, ?_,
      hall.node lookups (.inr rfl)⟩
    exact bind_eq_ok.mpr ⟨vs, hvs, bind_eq_ok.mpr ⟨_, hall.make_eq lookups, rfl⟩⟩
  | or φ ψ =>
    obtain ⟨p, hp, hdenotes⟩ := build_spec φ
    obtain ⟨q, hq, hdenotes'⟩ := build_spec ψ
    refine ⟨p.or q, ?_, hdenotes.combine (.inr rfl) hdenotes'⟩
    rw [build, hp, hq]
    rfl
  | and φ ψ =>
    obtain ⟨p, hp, hdenotes⟩ := build_spec φ
    obtain ⟨q, hq, hdenotes'⟩ := build_spec ψ
    refine ⟨p.and q, ?_, hdenotes.combine (.inl rfl) hdenotes'⟩
    rw [build, hp, hq]
    rfl
  | not φ =>
    obtain ⟨p, hp, hdenotes⟩ := build_spec φ
    refine ⟨p.not, ?_, hdenotes.not⟩
    rw [build, hp]
    rfl

theorem Child.build_spec (child : Child) :
    ∃ v, child.build = .ok v ∧ Predicate.isChild v = true ∧ Denotes v child.meaning child.raws := by
  cases child with
  | formula φ =>
    obtain ⟨p, hp, hdenotes⟩ := Formula.build_spec φ
    refine ⟨p.toValue, ?_, rfl, hdenotes⟩
    rw [Child.build, hp]
    rfl
  | raw sql =>
    refine ⟨.raw sql, rfl, rfl, ?_, .some (.refl _), ?_⟩
    · intro k hk
      cases hk
    · exact List.Subset.refl _

theorem buildAll_spec (children : List Child) :
    ∃ vs, buildAll children = .ok vs ∧ DenoteAll vs (meanings children) (rawsAll children) := by
  cases children with
  | nil => exact ⟨[], rfl, by simp, by simp, .nil, List.Subset.refl _⟩
  | cons child rest =>
    obtain ⟨v, hv, hchild, hdenotes⟩ := child.build_spec
    obtain ⟨vs, hvs, hall⟩ := buildAll_spec rest
    refine ⟨v :: vs, ?_, ?_, ?_, ?_, ?_⟩
    · rw [buildAll, hv, hvs]
      rfl
    · exact List.forall_mem_cons.mpr ⟨hchild, hall.isChild⟩
    · exact List.forall_mem_cons.mpr ⟨hdenotes.connected, hall.connected⟩
    · exact List.rel_append (forall₂_toList hdenotes.meaning) hall.meanings
    · refine List.append_subset.mpr ⟨?_, ?_⟩
      · exact List.Subset.trans hdenotes.raws (List.subset_append_left _ _)
      · exact List.Subset.trans hall.raws (List.subset_append_right _ _)

end

end Formula

/-! ## Meaning of texts -/

theorem Backend.condition_expresses {b : Backend} (types : TypeCatalogue) {p : Predicate}
    (hk : p.toValue.Connected) (hraw : ∀ sql ∈ p.toValue.raws, Text.IsAtomic sql) {f : Fragment}
    (h : p.condition (b.dialect types) = .ok f) :
    Expresses (b.dialect types) f.sql p.toValue.meaning := by
  obtain ⟨parts, hparts, h⟩ := bind_eq_ok.mp h
  obtain ⟨hconnector, hconnected⟩ := Value.connected_predicate.mp hk
  have hchildren := children_renders types p.children hconnected
    (fun v hv sql hsql => hraw sql (Value.raws_child hv hsql)) hparts
  exact connect_expresses types hconnector hchildren h

/-- The condition of a formula whose raw SQL is atomic is read as the formula: the leaves stand in
it in order, each read as one atom, and its value is that of the formula without its subformulas
that have no leaves. It is empty exactly if nothing of the formula remains. -/
theorem condition_keeps_meaning (b : Backend) (types : TypeCatalogue) (φ : Formula)
    (hraw : ∀ sql ∈ φ.raws, Text.IsAtomic sql) :
    ∃ p, φ.build = .ok p ∧ ∀ f, p.condition (b.dialect types) = .ok f →
      (f.sql = "" ↔ φ.meaning = none) ∧
      ∀ m, φ.meaning = some m → ∃ r, Text.reading f.sql = some r ∧
        List.Forall₂ (LeafText (b.dialect types)) m.atoms r.atoms ∧
        ∀ σ, r.value σ 0 = m.value σ 0 := by
  obtain ⟨p, hp, hdenotes⟩ := φ.build_spec
  refine ⟨p, hp, fun f hf => ?_⟩
  have hexpresses := Backend.condition_expresses types hdenotes.connected
    (fun sql hsql => hraw sql (hdenotes.raws hsql)) hf
  have hmeaning := hdenotes.meaning
  generalize p.toValue.meaning = s at hexpresses hmeaning
  generalize φ.meaning = m at hmeaning
  cases hmeaning with
  | none => exact ⟨by simp [show f.sql = "" from hexpresses], nofun⟩
  | some hsame =>
    obtain ⟨r, hrel, hreads⟩ := hexpresses
    refine ⟨by simp [hreads.ne_empty], fun m hm => ?_⟩
    cases hm
    refine ⟨r, hreads.reading, ?_, fun σ => ?_⟩
    · rw [← hsame.atoms]
      exact hrel.atoms
    · rw [← hrel.value_eq, hsame.value]

/-- A formula with parts that are dropped, and with an AND that is no connective. -/
def riskFormula : Formula :=
  .or
    (.not (.allOf [.raw "a = b", .formula (.not (.allOf [] []))]
      [("price__between", .tuple [.int 1, .int 9])]))
    (.and (.allOf [] []) (.anyOf [] [("note", .null), ("kind__in", .list [.int 1, .raw "k + 1"])]))

theorem riskFormula_keeps_meaning :
    (∀ sql ∈ riskFormula.raws, Text.IsAtomic sql) ∧
      ∃ p f r, riskFormula.build = .ok p ∧
        p.condition (Backend.postgresql.dialect .standard) = .ok f ∧ f.sql ≠ "" ∧
        Text.reading f.sql = some r ∧ r.atoms.length = 4 ∧
        ∀ σ, r.value σ 0 = (!(σ 0 && σ 1) || (σ 2 || σ 3)) := by
  have hraw : ∀ sql ∈ riskFormula.raws, Text.IsAtomic sql := by decide +kernel
  obtain ⟨p, hp, hcondition⟩ := condition_keeps_meaning .postgresql .standard riskFormula hraw
  have hsome : (riskFormula.build >>= fun p =>
      p.condition (Backend.postgresql.dialect .standard)).toOption.isSome = true := by
    decide +kernel
  obtain ⟨f, hf⟩ := Option.isSome_iff_exists.mp hsome
  obtain ⟨p', hp', hf⟩ := bind_eq_ok.mp (toOption_eq_some.mp hf)
  cases hp.symm.trans hp'
  obtain ⟨hempty, hmeaning⟩ := hcondition f hf
  obtain ⟨r, hr, hatoms, hvalue⟩ := hmeaning _ rfl
  refine ⟨hraw, p, f, r, hp, hf, ?_, hr, hatoms.length_eq.symm, hvalue⟩
  rw [ne_eq, hempty]
  nofun

end SqlRender
