import Mathlib.Data.List.Forall2
import SqlRender.Proofs.Token

/-!
# Reading conditions

How a condition in SQL is read: parentheses first, then NOT over AND over OR. The AND that belongs
to a BETWEEN is no connective. What is left between connectives is an atom; a parenthesis that
stands alone is read as its inside, and one that stands beside other tokens is part of an atom.

* `Text.reading`: the sentence that a text is read as.
* `IsFactor.readItems_and`, `IsFactor.readItems_or`: factors with one connective between them.
* `contributes_of_nest`: a text that is read on its own is read in the same way inside another one.
-/

namespace SqlRender

/-! ## Sentences -/

/-- Atoms combined by negation, conjunction and disjunction. -/
inductive Sentence (α : Type) where
  | atom (a : α)
  | neg (s : Sentence α)
  | both (s t : Sentence α)
  | either (s t : Sentence α)
deriving DecidableEq, Repr

namespace Sentence

variable {α β : Type}

/-- The atoms, from the left. -/
def atoms : Sentence α → List α
  | atom a => [a]
  | neg s => s.atoms
  | both s t | either s t => s.atoms ++ t.atoms

/-- The truth value under an assignment to the occurrences of atoms, which are numbered from the
left, beginning with `first`. -/
def value (σ : Nat → Bool) (first : Nat) : Sentence α → Bool
  | atom _ => σ first
  | neg s => !s.value σ first
  | both s t => s.value σ first && t.value σ (first + s.atoms.length)
  | either s t => s.value σ first || t.value σ (first + s.atoms.length)

/-- Several sentences with one connective between them. -/
def chain (op : Sentence α → Sentence α → Sentence α) : Sentence α → List (Sentence α) → Sentence α
  | s, [] => s
  | s, t :: ts => op s (chain op t ts)

/-- Two sentences of one shape, with related atoms. -/
inductive Rel (P : α → β → Prop) : Sentence α → Sentence β → Prop
  | atom {a : α} {b : β} : P a b → Rel P (.atom a) (.atom b)
  | neg {s : Sentence α} {t : Sentence β} : Rel P s t → Rel P (.neg s) (.neg t)
  | both {s s' : Sentence α} {t t' : Sentence β} : Rel P s t → Rel P s' t' →
      Rel P (.both s s') (.both t t')
  | either {s s' : Sentence α} {t t' : Sentence β} : Rel P s t → Rel P s' t' →
      Rel P (.either s s') (.either t t')

namespace Rel

variable {P : α → β → Prop} {s : Sentence α} {t : Sentence β}

theorem atoms (h : Rel P s t) : List.Forall₂ P s.atoms t.atoms := by
  induction h with
  | atom hab => exact .cons hab .nil
  | neg _ ih => exact ih
  | both _ _ ih ih' | either _ _ ih ih' => exact List.rel_append ih ih'

/-- Sentences of one shape have one value. -/
theorem value_eq (h : Rel P s t) (σ : Nat → Bool) (first : Nat) :
    s.value σ first = t.value σ first := by
  induction h generalizing first with
  | atom _ => rfl
  | neg _ ih => rw [value, value, ih]
  | both h _ ih ih' | either h _ ih ih' => rw [value, value, ih, ih', h.atoms.length_eq]

theorem chain {op : Sentence α → Sentence α → Sentence α}
    {op' : Sentence β → Sentence β → Sentence β}
    (hop : ∀ {s s' t t'}, Rel P s t → Rel P s' t' → Rel P (op s s') (op' t t'))
    (h : Rel P s t) {ss : List (Sentence α)} {ts : List (Sentence β)}
    (hs : List.Forall₂ (Rel P) ss ts) : Rel P (s.chain op ss) (t.chain op' ts) := by
  induction hs generalizing s t with
  | nil => exact h
  | cons h' _ ih => exact hop h (ih h')

end Rel

end Sentence

/-- What a condition is read as: its atoms are runs of tokens. -/
abbrev Reading := Sentence (List Token)

/-! ## Connectives -/

/-- A token, or a parenthesis with its tokens and what its inside is read as, if it can be read. -/
inductive Item where
  | token (t : Token)
  | group (tokens : List Token) (inner : Option Reading)
deriving Repr

namespace Item

def tokens : Item → List Token
  | token t => [t]
  | group tokens _ => tokens

/-- The item is a word, in small or capital letters. -/
def isKeyword (keyword : List Char) : Item → Bool
  | token (.word w) => w.map Char.toUpper = keyword
  | _ => false

def isNot : Item → Bool := isKeyword ['N', 'O', 'T']

def isAnd : Item → Bool := isKeyword ['A', 'N', 'D']

def isOr : Item → Bool := isKeyword ['O', 'R']

def isBetween : Item → Bool := isKeyword ['B', 'E', 'T', 'W', 'E', 'E', 'N']

end Item

/-- The items before the first OR, and the runs behind each. -/
def orParts : List Item → List Item × List (List Item)
  | [] => ([], [])
  | item :: rest =>
    if item.isOr then ([], (orParts rest).1 :: (orParts rest).2)
    else (item :: (orParts rest).1, (orParts rest).2)

/-- The number of BETWEENs whose AND is still to come, behind an item. An AND that belongs to no
BETWEEN is a connective, and behind it there is no such number. -/
def Item.owing (n : Nat) (item : Item) : Option Nat :=
  if item.isBetween then some (n + 1)
  else if item.isAnd then if n = 0 then none else some (n - 1)
  else some n

/-- The items before the first AND that is a connective, and the runs behind each such AND. -/
def andParts : Nat → List Item → Option (List Item × List (List Item))
  | n, [] => if n = 0 then some ([], []) else none
  | n, item :: rest =>
    match item.owing n with
    | some m => (andParts m rest).map fun p => (item :: p.1, p.2)
    | none => (andParts 0 rest).map fun p => ([], p.1 :: p.2)

/-- Items without connectives: NOT in front of such items, a parenthesis, or an atom. -/
def readFactor : List Item → Option Reading
  | [] => none
  | [.group _ inner] => inner
  | item :: rest =>
    if item.isNot then (readFactor rest).map .neg
    else some (.atom (item.tokens ++ rest.flatMap Item.tokens))

def readTerm (items : List Item) : Option Reading := do
  let (first, rest) ← andParts 0 items
  return .chain .both (← readFactor first) (← rest.mapM readFactor)

def readItems (items : List Item) : Option Reading := do
  return .chain .either (← readTerm (orParts items).1) (← (orParts items).2.mapM readTerm)

/-! ## Parentheses -/

/-- Items between parentheses. -/
def Item.enclosing (items : List Item) : Item :=
  .group (.opening :: items.flatMap Item.tokens ++ [.closing]) (readItems items)

/-- Takes in a token. The stack holds the items of the open parentheses, the innermost first, and at
its bottom those outside. -/
def nestStep : List (List Item) → Token → Option (List (List Item))
  | stack, .opening => some ([] :: stack)
  | inner :: outer :: stack, .closing => some ((outer ++ [.enclosing inner]) :: stack)
  | _, .closing => none
  | level :: stack, t => some ((level ++ [.token t]) :: stack)
  | [], _ => none

def nest : List (List Item) → List Token → Option (List (List Item))
  | stack, [] => some stack
  | stack, t :: ts => do nest (← nestStep stack t) ts

/-- What the tokens of a condition are read as. -/
def readTokens (ts : List Token) : Option Reading := do
  match ← nest [[]] ts with
  | [items] => readItems items
  | _ => none

/-- What a text is read as. -/
def Text.reading (s : String) : Option Reading := do
  readTokens (← Text.tokens? s.toList)

example : Text.reading "NOT (a OR b) AND c" = some (.both
    (.neg (.either (.atom [.word ['a']]) (.atom [.word ['b']]))) (.atom [.word ['c']])) := by
  decide

/-! ## Factors -/

/-- The number of BETWEENs whose AND is still to come behind items that have no connective AND. -/
def owed : Nat → List Item → Option Nat
  | n, [] => some n
  | n, item :: rest => (item.owing n).bind fun m => owed m rest

theorem owed_append (n : Nat) (items items' : List Item) :
    owed n (items ++ items') = (owed n items).bind fun m => owed m items' := by
  induction items generalizing n with
  | nil => rfl
  | cons item items ih =>
    rw [List.cons_append, owed, owed, Option.bind_assoc]
    exact congrArg _ (funext ih)

theorem Item.owing_add {n m : Nat} {item : Item} (h : item.owing n = some m) (k : Nat) :
    item.owing (n + k) = some (m + k) := by
  unfold owing at h ⊢
  grind

theorem owed_add {n m : Nat} {items : List Item} (h : owed n items = some m) (k : Nat) :
    owed (n + k) items = some (m + k) := by
  induction items generalizing n with
  | nil =>
    cases h
    rfl
  | cons item items ih =>
    obtain ⟨n', hitem, hrest⟩ := Option.bind_eq_some_iff.mp h
    rw [owed, Item.owing_add hitem]
    exact ih hrest

theorem andParts_append {n m : Nat} {items : List Item} (h : owed n items = some m)
    (rest : List Item) :
    andParts n (items ++ rest) = (andParts m rest).map fun p => (items ++ p.1, p.2) := by
  induction items generalizing n with
  | nil =>
    cases h
    simp
  | cons item items ih =>
    obtain ⟨n', hitem, hrest⟩ := Option.bind_eq_some_iff.mp h
    rw [List.cons_append, andParts, hitem]
    simp only [ih hrest, Option.map_map]
    rfl

/-- Items that are cut at no AND have none that is a connective. -/
theorem owed_of_andParts {n : Nat} {items first : List Item}
    (h : andParts n items = some (first, [])) : first = items ∧ owed n items = some 0 := by
  induction items generalizing n first with
  | nil =>
    rw [andParts] at h
    split at h
    · next hn =>
      cases h
      exact ⟨rfl, congrArg some hn⟩
    · cases h
  | cons item items ih =>
    rw [andParts] at h
    split at h
    · next m hitem =>
      obtain ⟨⟨tail, others⟩, htail, heq⟩ := Option.map_eq_some_iff.mp h
      cases heq
      obtain ⟨rfl, howed⟩ := ih htail
      refine ⟨rfl, ?_⟩
      rw [owed, hitem]
      exact howed
    · obtain ⟨p, -, heq⟩ := Option.map_eq_some_iff.mp h
      cases heq

theorem orParts_append {items : List Item} (h : ∀ item ∈ items, item.isOr = false)
    (rest : List Item) :
    orParts (items ++ rest) = (items ++ (orParts rest).1, (orParts rest).2) := by
  induction items with
  | nil => rfl
  | cons item items ih =>
    have hrest := ih fun item' hitem' => h item' (List.mem_cons_of_mem item hitem')
    rw [List.cons_append, orParts, if_neg (by simp [h item (by simp)]), hrest]
    rfl

theorem orParts_eq_self {items first : List Item} (h : orParts items = (first, [])) :
    first = items ∧ ∀ item ∈ items, item.isOr = false := by
  induction items generalizing first with
  | nil =>
    cases h
    simp
  | cons item items ih =>
    rw [orParts] at h
    split at h
    · cases h
    · next hor =>
      obtain ⟨rfl, hothers⟩ := Prod.mk.inj h
      obtain ⟨heq, hrest⟩ := ih (Prod.ext rfl hothers)
      refine ⟨congrArg _ heq, fun item' hitem' => ?_⟩
      rcases List.mem_cons.mp hitem' with rfl | hitem'
      · simpa using hor
      · exact hrest item' hitem'

/-- Items that are one operand of connectives, and what they are read as. -/
structure IsFactor (items : List Item) (r : Reading) : Prop where
  no_or : ∀ item ∈ items, item.isOr = false
  no_and : owed 0 items = some 0
  read : readFactor items = some r

/-- Items with a separator between neighbours. -/
def joinItems (sep : Item) : List Item → List (List Item) → List Item
  | items, [] => items
  | items, next :: rest => items ++ sep :: joinItems sep next rest

theorem mapM_of_forall₂ {α β : Type} {f : α → Option β} {as : List α} {bs : List β}
    (h : List.Forall₂ (fun a b => f a = some b) as bs) : as.mapM f = some bs := by
  induction h with
  | nil => rfl
  | cons hab _ ih =>
    rw [List.mapM_cons, hab, ih]
    rfl

/-- Lists that are related item by item through something in between. -/
theorem forall₂_exists {α β γ : Type} {P : α → β → Prop} {Q : β → γ → Prop} {as : List α}
    {cs : List γ} (h : List.Forall₂ (fun a c => ∃ b, P a b ∧ Q b c) as cs) :
    ∃ bs, List.Forall₂ P as bs ∧ List.Forall₂ Q bs cs := by
  induction h with
  | nil => exact ⟨[], .nil, .nil⟩
  | cons h _ ih =>
    obtain ⟨b, hP, hQ⟩ := h
    obtain ⟨bs, hPs, hQs⟩ := ih
    exact ⟨b :: bs, .cons hP hPs, .cons hQ hQs⟩

section Chains

variable {items : List Item} {r : Reading} {others : List (List Item)} {rs : List Reading}
  {sep : Item}

theorem IsFactor.andParts_eq (h : IsFactor items r) : andParts 0 items = some (items, []) := by
  have hparts := andParts_append h.no_and []
  simpa [andParts] using hparts

theorem IsFactor.readTerm_eq (h : IsFactor items r) : readTerm items = some r := by
  rw [readTerm, h.andParts_eq]
  show ((readFactor items).bind fun r => some (Sentence.chain .both r [])) = some r
  rw [h.read]
  rfl

theorem andParts_join (hsep : sep.owing 0 = none) (h : IsFactor items r)
    (hs : List.Forall₂ IsFactor others rs) :
    andParts 0 (joinItems sep items others) = some (items, others) := by
  induction hs generalizing items r with
  | nil => exact h.andParts_eq
  | cons hnext _ ih =>
    -- a factor owes no AND at its end, so the separator is a connective
    rw [joinItems, andParts_append h.no_and, andParts, hsep]
    simp [ih hnext]

theorem no_or_join (hsep : sep.isOr = false) (h : IsFactor items r)
    (hs : List.Forall₂ IsFactor others rs) :
    ∀ item ∈ joinItems sep items others, item.isOr = false := by
  induction hs generalizing items r with
  | nil => exact h.no_or
  | cons hnext _ ih =>
    intro item hitem
    rw [joinItems] at hitem
    rcases List.mem_append.mp hitem with hitem | hitem
    · exact h.no_or item hitem
    · rcases List.mem_cons.mp hitem with rfl | hitem
      · exact hsep
      · exact ih hnext item hitem

/-- Factors with AND between them. -/
theorem IsFactor.readItems_and (hand : sep.owing 0 = none) (hor : sep.isOr = false)
    (h : IsFactor items r) (hs : List.Forall₂ IsFactor others rs) :
    readItems (joinItems sep items others) = some (.chain .both r rs) := by
  have hparts : orParts (joinItems sep items others) = (joinItems sep items others, []) := by
    simpa [orParts] using orParts_append (no_or_join hor h hs) []
  have hfactors := mapM_of_forall₂ (hs.imp fun _ _ hf => hf.read)
  have hterm : readTerm (joinItems sep items others) = some (.chain .both r rs) := by
    rw [readTerm, andParts_join hand h hs]
    simp only [Option.bind_eq_bind, Option.bind_some, h.read, hfactors]
    rfl
  rw [readItems, hparts]
  simp only [hterm]
  rfl

theorem orParts_join (hsep : sep.isOr = true) (h : IsFactor items r)
    (hs : List.Forall₂ IsFactor others rs) :
    orParts (joinItems sep items others) = (items, others) := by
  induction hs generalizing items r with
  | nil =>
    have hparts := orParts_append h.no_or []
    simpa [joinItems, orParts] using hparts
  | cons hnext _ ih =>
    rw [joinItems, orParts_append h.no_or, orParts, if_pos hsep, ih hnext]
    simp

/-- Factors with OR between them. -/
theorem IsFactor.readItems_or (hor : sep.isOr = true) (h : IsFactor items r)
    (hs : List.Forall₂ IsFactor others rs) :
    readItems (joinItems sep items others) = some (.chain .either r rs) := by
  have hterms := mapM_of_forall₂ (hs.imp fun _ _ hf => hf.readTerm_eq)
  rw [readItems, orParts_join hor h hs]
  simp only [h.readTerm_eq, hterms]
  rfl

end Chains

/-! ## Texts inside other texts -/

theorem nest_append (stack : List (List Item)) (ts us : List Token) :
    nest stack (ts ++ us) = (nest stack ts).bind fun stack => nest stack us := by
  induction ts generalizing stack with
  | nil => rfl
  | cons t ts ih =>
    rw [List.cons_append, nest, nest]
    cases nestStep stack t with
    | none => rfl
    | some stack' => exact ih stack'

/-- Wherever the tokens stand, they add these items to those of the innermost open parenthesis. -/
def Contributes (ts : List Token) (items : List Item) : Prop :=
  ∀ level stack, nest (level :: stack) ts = some ((level ++ items) :: stack)

namespace Contributes

theorem nil : Contributes [] [] := by
  intro level stack
  rw [nest, List.append_nil]

theorem append {ts us : List Token} {items items' : List Item} (h : Contributes ts items)
    (h' : Contributes us items') : Contributes (ts ++ us) (items ++ items') := by
  intro level stack
  rw [nest_append, h level stack, Option.bind_some, h' (level ++ items) stack, List.append_assoc]

theorem token {t : Token} (hopening : t ≠ .opening) (hclosing : t ≠ .closing) :
    Contributes [t] [.token t] := by
  intro level stack
  cases t with
  | opening => exact absurd rfl hopening
  | closing => exact absurd rfl hclosing
  | _ => rfl

/-- A parenthesis is one item. -/
theorem enclosed {ts : List Token} {items : List Item} (h : Contributes ts items) :
    Contributes (.opening :: ts ++ [.closing]) [.enclosing items] := by
  intro level stack
  show nest ([] :: level :: stack) (ts ++ [.closing]) = _
  rw [nest_append, h [] (level :: stack)]
  rfl

end Contributes

/-- Further items below those of a stack. -/
def under (level : List Item) (stack : List (List Item)) : List (List Item) → List (List Item)
  | [] => []
  | [bottom] => (level ++ bottom) :: stack
  | top :: next :: rest => top :: under level stack (next :: rest)

theorem nestStep_under (level : List Item) (stack : List (List Item)) {s s' : List (List Item)}
    {t : Token} (hs : s ≠ []) (h : nestStep s t = some s') :
    s' ≠ [] ∧ nestStep (under level stack s) t = some (under level stack s') := by
  cases s with
  | nil => exact absurd rfl hs
  | cons top rest =>
    cases t with
    | opening =>
      cases h
      exact ⟨by simp, rfl⟩
    | closing =>
      cases rest with
      | nil => cases h
      | cons outer rest =>
        cases h
        refine ⟨by simp, ?_⟩
        cases rest with
        | nil => simp [under, nestStep]
        | cons next rest => rfl
    | word | quoted | sign =>
      cases h
      refine ⟨by simp, ?_⟩
      cases rest with
      | nil => simp [under, nestStep]
      | cons next rest => rfl

theorem nest_under (level : List Item) (stack : List (List Item)) {s s' : List (List Item)}
    {ts : List Token} (hs : s ≠ []) (h : nest s ts = some s') :
    nest (under level stack s) ts = some (under level stack s') := by
  induction ts generalizing s with
  | nil =>
    cases h
    rfl
  | cons t ts ih =>
    obtain ⟨next, hnext, h⟩ := Option.bind_eq_some_iff.mp h
    obtain ⟨hne, hstep⟩ := nestStep_under level stack hs hnext
    rw [nest, hstep]
    exact ih hne h

/-- Tokens whose parentheses are closed add the same items everywhere. -/
theorem contributes_of_nest {ts : List Token} {items : List Item}
    (h : nest [[]] ts = some [items]) : Contributes ts items := by
  intro level stack
  have hunder := nest_under level stack (by simp) h
  simpa [under] using hunder

theorem Text.reading_eq {s : String} {ts : List Token} {items : List Item}
    (hs : Text.tokens? s.toList = some ts) (hts : Contributes ts items) :
    Text.reading s = readItems items := by
  have hnest := hts [] []
  rw [reading, hs]
  show readTokens ts = _
  rw [readTokens, hnest]
  rfl

/-- The text is one atom. -/
def Text.IsAtomic (s : String) : Prop := ∃ tokens, Text.reading s = some (.atom tokens)

instance (s : String) : Decidable (Text.IsAtomic s) :=
  match h : Text.reading s with
  | some (.atom tokens) => .isTrue ⟨tokens, h⟩
  | none | some (.neg _) | some (.both ..) | some (.either ..) =>
    .isFalse fun ⟨_, htokens⟩ => nomatch h.symm.trans htokens

example : Text.IsAtomic "x BETWEEN 1 AND (2 OR y)" ∧ ¬ Text.IsAtomic "x = 1 OR y" := by
  decide +kernel

theorem chain_eq_atom {op : Reading → Reading → Reading} (hop : ∀ r s a, op r s ≠ .atom a)
    {r : Reading} {rs : List Reading} {a : List Token} (h : Sentence.chain op r rs = .atom a) :
    r = .atom a ∧ rs = [] := by
  cases rs with
  | nil => exact ⟨h, rfl⟩
  | cons s rs => exact absurd h (hop r _ a)

theorem eq_nil_of_mapM {α β : Type} {f : α → Option β} {as : List α} (h : as.mapM f = some []) :
    as = [] := by
  cases as with
  | nil => rfl
  | cons a as =>
    rw [List.mapM_cons] at h
    obtain ⟨b, -, h⟩ := Option.bind_eq_some_iff.mp h
    obtain ⟨bs, -, h⟩ := Option.bind_eq_some_iff.mp h
    cases h

theorem factor_of_readTerm {items : List Item} {a : List Token}
    (h : readTerm items = some (.atom a)) :
    owed 0 items = some 0 ∧ readFactor items = some (.atom a) := by
  obtain ⟨⟨first, rest⟩, hparts, h⟩ := Option.bind_eq_some_iff.mp h
  obtain ⟨r, hr, h⟩ := Option.bind_eq_some_iff.mp h
  obtain ⟨rs, hrs, h⟩ := Option.bind_eq_some_iff.mp h
  have hboth : ∀ (r s : Reading) (a : List Token), Sentence.both r s ≠ .atom a := by simp
  obtain ⟨rfl, rfl⟩ := chain_eq_atom hboth (Option.some.inj h)
  cases eq_nil_of_mapM hrs
  obtain ⟨rfl, howed⟩ := owed_of_andParts hparts
  exact ⟨howed, hr⟩

/-- Items that are read as one atom are one operand of connectives. -/
theorem isFactor_of_readItems {items : List Item} {a : List Token}
    (h : readItems items = some (.atom a)) : IsFactor items (.atom a) := by
  obtain ⟨r, hr, h⟩ := Option.bind_eq_some_iff.mp h
  obtain ⟨rs, hrs, h⟩ := Option.bind_eq_some_iff.mp h
  have heither : ∀ (r s : Reading) (a : List Token), Sentence.either r s ≠ .atom a := by simp
  obtain ⟨rfl, rfl⟩ := chain_eq_atom heither (Option.some.inj h)
  have hparts : orParts items = ((orParts items).1, []) := Prod.ext rfl (eq_nil_of_mapM hrs)
  obtain ⟨hfirst, hor⟩ := orParts_eq_self hparts
  rw [hfirst] at hr
  obtain ⟨howed, hread⟩ := factor_of_readTerm hr
  exact ⟨hor, howed, hread⟩

/-- A text that is read as one atom is one operand of connectives wherever it stands. -/
theorem Text.factor_of_reading {s : String} {a : List Token}
    (h : Text.reading s = some (.atom a)) :
    ∃ ts items, Text.tokens? s.toList = some ts ∧ Contributes ts items ∧
      IsFactor items (.atom a) := by
  obtain ⟨ts, hts, h⟩ := Option.bind_eq_some_iff.mp h
  obtain ⟨stack, hnest, h⟩ := Option.bind_eq_some_iff.mp h
  split at h
  · next items => exact ⟨ts, items, hts, contributes_of_nest hnest, isFactor_of_readItems h⟩
  · cases h

end SqlRender
