import Mathlib.Data.List.TakeWhile
import SqlRender.Proofs.Reading

/-!
# Reading set operations

How a query with set operations is read. An ordering, a limit or a lock that stands behind
everything belongs to the whole. In front of it stand selects with operations between them, which
are taken from the left; words that bind tighter than others are taken first. An operand that is not
a select of its own stands in parentheses.

* `Compound`: selects that are combined and arranged, and `Compound.isFlat`, those that can be
  written without parentheses.
* `readCompound`: what tokens are read as.
* `Compound.isFlat_of_readQueryItems`: what is written without parentheses is read as flat.
* `Compound.readQueryItems_of_isFlat`: what is flat is read as it was written.
-/

namespace SqlRender

/-! ## Compounds -/

inductive SetWord where
  | union | intersect | except
deriving DecidableEq, Repr

/-- An operation between sets of rows, with or without repetitions. -/
structure SetOperator where
  word : SetWord
  all : Bool
deriving DecidableEq, Repr

/-- Selects that are combined by operations and then ordered, cut off or locked. -/
inductive Compound (α β : Type) where
  | select (a : α)
  | combine (op : SetOperator) (l r : Compound α β)
  | arrange (t : β) (c : Compound α β)
deriving DecidableEq, Repr

namespace Compound

variable {α β α' β' : Type}

/-- Two compounds of one shape, with related selects and arrangements. -/
inductive Rel (P : α → α' → Prop) (Q : β → β' → Prop) : Compound α β → Compound α' β' → Prop
  | select {a : α} {a' : α'} : P a a' → Rel P Q (.select a) (.select a')
  | combine {op : SetOperator} {l r : Compound α β} {l' r' : Compound α' β'} :
      Rel P Q l l' → Rel P Q r r' → Rel P Q (.combine op l r) (.combine op l' r')
  | arrange {t : β} {t' : β'} {c : Compound α β} {c' : Compound α' β'} :
      Q t t' → Rel P Q c c' → Rel P Q (.arrange t c) (.arrange t' c')

def isSelect : Compound α β → Bool
  | select _ => true
  | _ => false

/-- Selects with tight operations between them, taken from the left. -/
def isTerm (tight : SetWord → Bool) : Compound α β → Bool
  | select _ => true
  | combine op l r => tight op.word && l.isTerm tight && r.isSelect
  | arrange .. => false

/-- Terms with other operations between them, taken from the left. -/
def isChain (tight : SetWord → Bool) : Compound α β → Bool
  | select _ => true
  | combine op l r =>
    if tight op.word then (combine op l r).isTerm tight else l.isChain tight && r.isTerm tight
  | arrange .. => false

/-- No operand has to stand in parentheses. -/
def isFlat (tight : SetWord → Bool) : Compound α β → Bool
  | arrange _ c => c.isChain tight
  | c => c.isChain tight

theorem isChain_of_isTerm {tight : SetWord → Bool} {c : Compound α β}
    (h : c.isTerm tight = true) : c.isChain tight = true := by
  cases c with
  | select a => rfl
  | combine op l r =>
    have htight : tight op.word = true := by
      simp only [isTerm, Bool.and_eq_true] at h
      exact h.1.1
    rw [isChain, if_pos htight]
    exact h
  | arrange => cases h

theorem isFlat_of_isChain {tight : SetWord → Bool} {c : Compound α β}
    (h : c.isChain tight = true) : c.isFlat tight = true := by
  cases c with
  | select | combine => exact h
  | arrange => cases h

namespace Rel

variable {P : α → α' → Prop} {Q : β → β' → Prop} {c : Compound α β} {c' : Compound α' β'}

theorem isSelect_eq (h : Rel P Q c c') : c.isSelect = c'.isSelect := by
  cases h <;> rfl

theorem isTerm_eq (h : Rel P Q c c') (tight : SetWord → Bool) :
    c.isTerm tight = c'.isTerm tight := by
  induction h with
  | select | arrange => rfl
  | combine _ hr ihl _ => rw [isTerm, isTerm, ihl, hr.isSelect_eq]

theorem isChain_eq (h : Rel P Q c c') (tight : SetWord → Bool) :
    c.isChain tight = c'.isChain tight := by
  induction h with
  | select | arrange => rfl
  | combine hl hr ihl _ =>
    rw [isChain, isChain, ihl, hr.isTerm_eq, (hl.combine hr).isTerm_eq]

/-- Compounds of one shape need the same parentheses. -/
theorem isFlat_eq (h : Rel P Q c c') (tight : SetWord → Bool) :
    c.isFlat tight = c'.isFlat tight := by
  cases h with
  | select => rfl
  | combine hl hr => exact (hl.combine hr).isChain_eq tight
  | arrange _ hc => exact hc.isChain_eq tight

end Rel

end Compound

/-! ## Reading -/

/-- What a query is read as: its selects and arrangements are runs of tokens. -/
abbrev CompoundReading := Compound (List Token) (List Token)

namespace SetWord

def chars : SetWord → List Char
  | union => ['U', 'N', 'I', 'O', 'N']
  | intersect => ['I', 'N', 'T', 'E', 'R', 'S', 'E', 'C', 'T']
  | except => ['E', 'X', 'C', 'E', 'P', 'T']

def values : List SetWord := [union, intersect, except]

end SetWord

/-- The words that begin what belongs to a whole query. -/
def tailWords : List (List Char) :=
  [['O', 'R', 'D', 'E', 'R'], ['L', 'I', 'M', 'I', 'T'], ['O', 'F', 'F', 'S', 'E', 'T'],
   ['F', 'O', 'R'], ['L', 'O', 'C', 'K']]

namespace Item

def isSelect : Item → Bool := isKeyword ['S', 'E', 'L', 'E', 'C', 'T']

def isAll : Item → Bool := isKeyword ['A', 'L', 'L']

def setWord? (item : Item) : Option SetWord :=
  SetWord.values.find? fun word => item.isKeyword word.chars

def isTail (item : Item) : Bool := tailWords.any item.isKeyword

end Item

/-- The items before the first operation, and those behind each with its word. -/
def cut : List Item → List Item × List (SetWord × List Item)
  | [] => ([], [])
  | item :: rest =>
    match item.setWord? with
    | some word => ([], (word, (cut rest).1) :: (cut rest).2)
    | none => (item :: (cut rest).1, (cut rest).2)

/-- The operation with its operand. An ALL behind the word belongs to the operation. -/
def operation : SetWord × List Item → SetOperator × List Item
  | (word, []) => (⟨word, false⟩, [])
  | (word, item :: rest) =>
    if item.isAll then (⟨word, true⟩, rest) else (⟨word, false⟩, item :: rest)

namespace CompoundReading

/-- A term with what waits in front of it for its right operand. -/
def close : Option (CompoundReading × SetOperator) → CompoundReading → CompoundReading
  | none, c => c
  | some (l, op), c => .combine op l c

/-- What a whole is read as that has these items behind it. -/
def arranged (tail : List Item) (c : CompoundReading) : CompoundReading :=
  if tail.isEmpty then c else .arrange (tail.flatMap Item.tokens) c

end CompoundReading

section Reader

variable (tight : SetWord → Bool) (operand : List Item → Option CompoundReading)

/-- Takes in operands from the left. A tight operation extends the current term; behind another one
a new term begins. -/
def readOperations : Option (CompoundReading × SetOperator) → CompoundReading →
    List (SetWord × List Item) → Option CompoundReading
  | waiting, term, [] => some (CompoundReading.close waiting term)
  | waiting, term, part :: parts => do
    let op := (operation part).1
    let next ← operand (operation part).2
    if tight part.1 then readOperations waiting (.combine op term next) parts
    else readOperations (some (CompoundReading.close waiting term, op)) next parts

/-- The items of a query: what belongs to the whole stands behind all operations. -/
def readQueryItems (items : List Item) : Option CompoundReading := do
  let front := items.takeWhile fun item => !item.isTail
  let tail := items.dropWhile fun item => !item.isTail
  let first ← operand (cut front).1
  let whole ← readOperations tight operand none first (cut front).2
  if tail.all fun item => item.setWord?.isNone then return whole.arranged tail else none

/-- A select, or a query in parentheses. -/
def readOperand (inside : List Token → Option CompoundReading) : List Item → Option CompoundReading
  | [] => none
  | [.group tokens _] => inside tokens.tail.dropLast
  | item :: rest =>
    if item.isSelect then some (.select ((item :: rest).flatMap Item.tokens)) else none

end Reader

/-- What the tokens of a query are read as, down to a depth of parentheses. -/
def readCompound (tight : SetWord → Bool) : Nat → List Token → Option CompoundReading
  | 0, _ => none
  | depth + 1, ts => do
    match ← nest [[]] ts with
    | [items] => readQueryItems tight (readOperand (readCompound tight depth)) items
    | _ => none

/-- What the text of a query is read as. There are no more parentheses than tokens. -/
def Text.compound? (tight : SetWord → Bool) (s : String) : Option CompoundReading := do
  let ts ← Text.tokens? s.toList
  readCompound tight ts.length ts

example : Text.compound? (fun _ => false) "SELECT a UNION (SELECT b LIMIT 5)" = some
    (.combine ⟨.union, false⟩ (.select [.word ['S', 'E', 'L', 'E', 'C', 'T'], .word ['a']])
      (.arrange [.word ['L', 'I', 'M', 'I', 'T'], .word ['5']]
        (.select [.word ['S', 'E', 'L', 'E', 'C', 'T'], .word ['b']]))) := by
  decide

/-! ## Words -/

namespace Item

variable {item : Item}

theorem isKeyword_unique {keyword keyword' : List Char} (h : item.isKeyword keyword = true)
    (h' : item.isKeyword keyword' = true) : keyword = keyword' := by
  unfold isKeyword at h h'
  split at h
  · simp only [decide_eq_true_eq] at h h'
    exact h.symm.trans h'
  · cases h

theorem isKeyword_ne {keyword keyword' : List Char} (h : item.isKeyword keyword = true)
    (hne : keyword ≠ keyword') : item.isKeyword keyword' = false :=
  Bool.eq_false_iff.mpr fun h' => hne (isKeyword_unique h h')

theorem isAll_of_isSelect (h : item.isSelect = true) : item.isAll = false :=
  isKeyword_ne h (by decide)

end Item

/-! ## Writing without parentheses -/

namespace SetOperator

/-- The words of an operation behind its first one. -/
def more (op : SetOperator) : List Item := if op.all then [.token (.word ['A', 'L', 'L'])] else []

def items (op : SetOperator) : List Item := .token (.word op.word.chars) :: op.more

theorem setWord?_word (op : SetOperator) :
    (Item.token (.word op.word.chars)).setWord? = some op.word := by
  obtain ⟨word, all⟩ := op
  cases word <;> rfl

theorem setWord?_more (op : SetOperator) : ∀ item ∈ op.more, item.setWord? = none := by
  unfold more
  split <;> decide

theorem isTail_items (op : SetOperator) : ∀ item ∈ op.items, item.isTail = false := by
  obtain ⟨word, all⟩ := op
  cases word <;> cases all <;> decide

end SetOperator

/-- The items begin with SELECT. -/
def opensSelect (items : List Item) : Bool := items.head?.any Item.isSelect

/-- The items of one select: it ends neither at an operation nor at an arrangement. -/
structure IsCore (items : List Item) : Prop where
  opens : opensSelect items = true
  words : ∀ item ∈ items, item.setWord? = none
  tails : ∀ item ∈ items, item.isTail = false

/-- The items of an ordering, a limit or a lock. -/
structure IsArrangement (items : List Item) : Prop where
  opens : items.head?.any Item.isTail = true
  words : ∀ item ∈ items, item.setWord? = none

theorem readOperand_of_opens (inside : List Token → Option CompoundReading) {items : List Item}
    (h : opensSelect items = true) :
    readOperand inside items = some (.select (items.flatMap Item.tokens)) := by
  cases items with
  | nil => cases h
  | cons item rest =>
    have hselect : item.isSelect = true := h
    cases item with
    | group => cases hselect
    | token t => rw [readOperand, if_pos hselect]; simp

theorem operation_word (part : SetWord × List Item) : (operation part).1.word = part.1 := by
  unfold operation
  split
  · rfl
  · split <;> rfl

theorem operation_of_opens (op : SetOperator) {items : List Item} (h : opensSelect items = true) :
    operation (op.word, op.more ++ items) = (op, items) := by
  obtain ⟨word, all⟩ := op
  cases all with
  | true => rfl
  | false =>
    cases items with
    | nil => cases h
    | cons item rest =>
      have hall : item.isAll = false := Item.isAll_of_isSelect h
      simp [SetOperator.more, operation, hall]

theorem cut_of_words {items : List Item} (h : ∀ item ∈ items, item.setWord? = none) :
    cut items = (items, []) := by
  induction items with
  | nil => rfl
  | cons item items ih =>
    rw [cut, h item (by simp), ih fun item' hitem' => h item' (List.mem_cons_of_mem item hitem')]

theorem cut_append (items : List Item) {rest : List Item}
    (h : ∀ item ∈ items, item.setWord? = none) :
    cut (items ++ rest) = (items ++ (cut rest).1, (cut rest).2) := by
  induction items with
  | nil => rfl
  | cons item items ih =>
    rw [List.cons_append, cut, h item (by simp),
      ih fun item' hitem' => h item' (List.mem_cons_of_mem item hitem')]
    rfl

/-- Items with an operation between them are cut there. -/
theorem cut_operation (items : List Item) (op : SetOperator) (rest : List Item) :
    cut (items ++ (op.items ++ rest)) =
      ((cut items).1, (cut items).2 ++ (op.word, op.more ++ (cut rest).1) :: (cut rest).2) := by
  induction items with
  | nil =>
    have hrest : cut (op.more ++ rest) = (op.more ++ (cut rest).1, (cut rest).2) :=
      cut_append op.more op.setWord?_more
    rw [List.nil_append, SetOperator.items, List.cons_append]
    simp [cut, op.setWord?_word, hrest]
  | cons item items ih =>
    rw [List.cons_append, cut, cut, ih]
    cases item.setWord? <;> rfl

namespace Compound

/-- The items of a compound that is written without parentheses. -/
def items : Compound (List Item) (List Item) → List Item
  | select a => a
  | combine op l r => l.items ++ (op.items ++ r.items)
  | arrange t c => c.items ++ t

/-- The compound with its selects and arrangements as runs of tokens. -/
def tokens : Compound (List Item) (List Item) → CompoundReading
  | select a => select (a.flatMap Item.tokens)
  | combine op l r => combine op l.tokens r.tokens
  | arrange t c => arrange (t.flatMap Item.tokens) c.tokens

/-- The selects and arrangements are such by their words. -/
def Clear : Compound (List Item) (List Item) → Prop
  | select a => IsCore a
  | combine _ l r => l.Clear ∧ r.Clear
  | arrange t c => IsArrangement t ∧ c.Clear

variable {tight : SetWord → Bool} {inside : List Token → Option CompoundReading}

/-! ## What is read is flat -/

theorem isChain_close {waiting : Option (CompoundReading × SetOperator)} {term : CompoundReading}
    (hwaiting : ∀ p ∈ waiting, p.1.isChain tight = true ∧ tight p.2.word = false)
    (hterm : term.isTerm tight = true) :
    (CompoundReading.close waiting term).isChain tight = true := by
  cases waiting with
  | none => exact isChain_of_isTerm hterm
  | some p =>
    obtain ⟨hchain, hloose⟩ := hwaiting p rfl
    rw [CompoundReading.close, isChain, if_neg (by simp [hloose]), hchain, hterm]
    rfl

/-- Operations between selects make a chain. -/
theorem isChain_of_readOperations {waiting : Option (CompoundReading × SetOperator)}
    {term r : CompoundReading} {parts : List (SetWord × List Item)}
    (hwaiting : ∀ p ∈ waiting, p.1.isChain tight = true ∧ tight p.2.word = false)
    (hterm : term.isTerm tight = true)
    (hparts : ∀ part ∈ parts, opensSelect (operation part).2 = true)
    (h : readOperations tight (readOperand inside) waiting term parts = some r) :
    r.isChain tight = true := by
  induction parts generalizing waiting term with
  | nil =>
    cases h
    exact isChain_close hwaiting hterm
  | cons part parts ih =>
    have hrest := fun part' hpart' => hparts part' (List.mem_cons_of_mem part hpart')
    rw [readOperations, readOperand_of_opens inside (hparts part (by simp))] at h
    simp only [Option.bind_eq_bind, Option.bind_some] at h
    split at h
    · next htight =>
      refine ih hwaiting ?_ hrest h
      rw [isTerm, operation_word, htight, hterm]
      rfl
    · next hloose =>
      refine ih ?_ rfl hrest h
      rintro p ⟨rfl⟩
      exact ⟨isChain_close hwaiting hterm, by rw [operation_word]; simpa using hloose⟩

/-- Every operand begins with SELECT. -/
structure Opened (items : List Item) : Prop where
  first : opensSelect (cut items).1 = true
  parts : ∀ part ∈ (cut items).2, opensSelect (operation part).2 = true

theorem Opened.of_core {items : List Item} (h : IsCore items) : Opened items := by
  constructor <;> rw [cut_of_words h.words]
  · exact h.opens
  · simp

theorem Opened.operation {items rest : List Item} (h : Opened items) (op : SetOperator)
    (hrest : Opened rest) : Opened (items ++ (op.items ++ rest)) := by
  constructor <;> rw [cut_operation]
  · exact h.first
  · intro part hpart
    rcases List.mem_append.mp hpart with hpart | hpart
    · exact h.parts part hpart
    · rcases List.mem_cons.mp hpart with rfl | hpart
      · rw [operation_of_opens op hrest.first]
        exact hrest.first
      · exact hrest.parts part hpart

/-- The items before the first arrangement of two texts. -/
theorem front_append (items rest : List Item) :
    (∀ item ∈ items, item.isTail = false) ∧
        (items ++ rest).takeWhile (fun item => !item.isTail) =
          items ++ rest.takeWhile (fun item => !item.isTail) ∨
      (items ++ rest).takeWhile (fun item => !item.isTail) =
        items.takeWhile (fun item => !item.isTail) := by
  by_cases h : ∀ item ∈ items, item.isTail = false
  · exact .inl ⟨h, List.takeWhile_append_of_pos (by simpa using h)⟩
  · refine .inr ?_
    rw [List.takeWhile_append, if_neg]
    intro hlength
    have hall := List.takeWhile_eq_self_iff.mp (List.Sublist.eq_of_length
      (List.takeWhile_sublist _) hlength)
    exact h (by simpa using hall)

/-- Whatever is cut off at an arrangement, every operand in front of it begins with SELECT. -/
theorem Clear.opened {c : Compound (List Item) (List Item)} (h : c.Clear) :
    Opened (c.items.takeWhile fun item => !item.isTail) := by
  induction c with
  | select a =>
    have hcore : IsCore a := h
    rw [items, List.takeWhile_eq_self_iff.mpr (by simpa using hcore.tails)]
    exact .of_core hcore
  | combine op l r ihl ihr =>
    rw [items]
    rcases front_append l.items (op.items ++ r.items) with ⟨hl, heq⟩ | heq
    · have hfront : l.items.takeWhile (fun item => !item.isTail) = l.items :=
        List.takeWhile_eq_self_iff.mpr (by simpa using hl)
      have hleft := ihl h.1
      rw [hfront] at hleft
      rw [heq, List.takeWhile_append_of_pos (by simpa using op.isTail_items)]
      exact hleft.operation op (ihr h.2)
    · rw [heq]
      exact ihl h.1
  | arrange t c ih =>
    obtain ⟨ht, hc⟩ := h
    rw [items]
    rcases front_append c.items t with ⟨hl, heq⟩ | heq
    · have hfront : c.items.takeWhile (fun item => !item.isTail) = c.items :=
        List.takeWhile_eq_self_iff.mpr (by simpa using hl)
      have htail : t.takeWhile (fun item => !item.isTail) = [] := by
        cases t with
        | nil => rfl
        | cons item t => exact List.takeWhile_cons_of_neg (by simpa using ht.opens)
      rw [heq, htail, List.append_nil, ← hfront]
      exact ih hc
    · rw [heq]
      exact ih hc

/-- What is written without parentheses is read as something flat. -/
theorem isFlat_of_readQueryItems {c : Compound (List Item) (List Item)} (hc : c.Clear)
    {r : CompoundReading} (h : readQueryItems tight (readOperand inside) c.items = some r) :
    r.isFlat tight = true := by
  have hopened := hc.opened
  rw [readQueryItems, readOperand_of_opens inside hopened.first] at h
  simp only [Option.bind_eq_bind, Option.bind_some] at h
  obtain ⟨whole, hwhole, h⟩ := Option.bind_eq_some_iff.mp h
  have hchain : whole.isChain tight = true :=
    isChain_of_readOperations (by simp) rfl hopened.parts hwhole
  split at h
  · cases h
    unfold CompoundReading.arranged
    split
    · exact isFlat_of_isChain hchain
    · exact hchain
  · cases h

/-! ## What is flat is read -/

theorem isTerm_combine {op : SetOperator} {l r : Compound (List Item) (List Item)} :
    (combine op l r).isTerm tight = true ↔
      tight op.word = true ∧ l.isTerm tight = true ∧ ∃ a, r = select a := by
  rw [isTerm, Bool.and_eq_true, Bool.and_eq_true, and_assoc]
  refine and_congr_right fun _ => and_congr_right fun _ => ?_
  cases r <;> simp [isSelect]

/-- A chain ends with a term: behind a tight operation a select, behind another one a term. -/
theorem isChain_combine {op : SetOperator} {l r : Compound (List Item) (List Item)} :
    (combine op l r).isChain tight = true ↔
      (combine op l r).isTerm tight = true ∨
        tight op.word = false ∧ l.isChain tight = true ∧ r.isTerm tight = true := by
  rw [isChain]
  by_cases htight : tight op.word = true
  · simp [htight]
  · simp [isTerm, htight]

theorem Clear.isTail_of_isTerm {c : Compound (List Item) (List Item)} (h : c.Clear)
    (hterm : c.isTerm tight = true) : ∀ item ∈ c.items, item.isTail = false := by
  induction c with
  | select a => exact IsCore.tails h
  | combine op l r ihl _ =>
    obtain ⟨-, hl, a, rfl⟩ := isTerm_combine.mp hterm
    simp only [items, List.forall_mem_append]
    exact ⟨ihl h.1 hl, op.isTail_items, IsCore.tails h.2⟩
  | arrange => cases hterm

theorem Clear.isTail_of_isChain {c : Compound (List Item) (List Item)} (h : c.Clear)
    (hchain : c.isChain tight = true) : ∀ item ∈ c.items, item.isTail = false := by
  induction c with
  | select a => exact IsCore.tails h
  | combine op l r ihl _ =>
    rcases isChain_combine.mp hchain with hterm | ⟨-, hl, hr⟩
    · exact h.isTail_of_isTerm hterm
    · simp only [items, List.forall_mem_append]
      exact ⟨ihl h.1 hl, op.isTail_items, h.2.isTail_of_isTerm hr⟩
  | arrange => cases hchain

/-- The first select. -/
def first : Compound (List Item) (List Item) → List Item
  | select a => a
  | combine _ l _ => l.first
  | arrange _ c => c.first

theorem Clear.opens_first {c : Compound (List Item) (List Item)} (h : c.Clear) :
    opensSelect c.first = true := by
  induction c with
  | select a => exact IsCore.opens h
  | combine op l r ihl _ => exact ihl h.1
  | arrange t c ih => exact ih h.2

theorem Clear.cut_first {c : Compound (List Item) (List Item)} (h : c.Clear)
    (hchain : c.isChain tight = true) : (cut c.items).1 = c.first := by
  induction c with
  | select a => rw [items, cut_of_words (IsCore.words h), first]
  | combine op l r ihl _ =>
    rw [items, cut_operation, first]
    rcases isChain_combine.mp hchain with hterm | ⟨-, hl, -⟩
    · exact ihl h.1 (isChain_of_isTerm (isTerm_combine.mp hterm).2.1)
    · exact ihl h.1 hl
  | arrange => cases hchain

variable (inside)

/-- The operations of a term extend the select that it begins with. -/
theorem Clear.readOperations_term {c : Compound (List Item) (List Item)} (h : c.Clear)
    (hterm : c.isTerm tight = true) (waiting : Option (CompoundReading × SetOperator))
    (parts : List (SetWord × List Item)) :
    readOperations tight (readOperand inside) waiting (.select (c.first.flatMap Item.tokens))
        ((cut c.items).2 ++ parts) =
      readOperations tight (readOperand inside) waiting c.tokens parts := by
  induction c generalizing parts with
  | select a =>
    rw [items, cut_of_words (IsCore.words h)]
    rfl
  | combine op l r ihl _ =>
    obtain ⟨htight, hl, a, rfl⟩ := isTerm_combine.mp hterm
    have ha : IsCore a := h.2
    rw [items, cut_operation, items, cut_of_words ha.words, List.append_assoc, first, ihl h.1 hl]
    rw [List.cons_append, readOperations, operation_of_opens op ha.opens,
      readOperand_of_opens inside ha.opens]
    simp only [Option.bind_eq_bind, Option.bind_some, htight, if_true]
    rfl
  | arrange => cases hterm

/-- Behind the operations of a chain its last term is at hand, and the rest of the chain waits. -/
theorem Clear.readOperations_chain {c : Compound (List Item) (List Item)} (h : c.Clear)
    (hchain : c.isChain tight = true) :
    ∃ waiting term, CompoundReading.close waiting term = c.tokens ∧ ∀ parts,
      readOperations tight (readOperand inside) none (.select (c.first.flatMap Item.tokens))
          ((cut c.items).2 ++ parts) =
        readOperations tight (readOperand inside) waiting term parts := by
  induction c with
  | select a => exact ⟨none, _, rfl, h.readOperations_term inside rfl none⟩
  | combine op l r ihl _ =>
    rcases isChain_combine.mp hchain with hterm | ⟨hloose, hl, hr⟩
    · exact ⟨none, _, rfl, h.readOperations_term inside hterm none⟩
    · obtain ⟨waiting, term, hclose, hleft⟩ := ihl h.1 hl
      have hfirst : (cut r.items).1 = r.first := h.2.cut_first (isChain_of_isTerm hr)
      refine ⟨some (l.tokens, op), r.tokens, rfl, fun parts => ?_⟩
      rw [items, cut_operation, hfirst, List.append_assoc, first, hleft]
      rw [List.cons_append, readOperations, operation_of_opens op h.2.opens_first,
        readOperand_of_opens inside h.2.opens_first]
      simp only [Option.bind_eq_bind, Option.bind_some, hloose, Bool.false_eq_true, if_false]
      rw [hclose]
      exact h.2.readOperations_term inside hr _ parts
  | arrange => cases hchain

/-- A chain with an arrangement behind it, or with nothing. -/
theorem Clear.readQueryItems_chain {c : Compound (List Item) (List Item)} (h : c.Clear)
    (hchain : c.isChain tight = true) {t : List Item} (ht : t = [] ∨ IsArrangement t) :
    readQueryItems tight (readOperand inside) (c.items ++ t) = some (c.tokens.arranged t) := by
  have hfront := h.isTail_of_isChain hchain
  have hpos : ∀ item ∈ c.items, (!item.isTail) = true := by simpa using hfront
  have hstop : t.takeWhile (fun item => !item.isTail) = [] ∧
      t.dropWhile (fun item => !item.isTail) = t := by
    rcases ht with rfl | ht
    · exact ⟨rfl, rfl⟩
    · cases t with
      | nil => exact ⟨rfl, rfl⟩
      | cons item t =>
        have htail : item.isTail = true := ht.opens
        simp [htail]
  have hwords : (t.all fun item => item.setWord?.isNone) = true := by
    rcases ht with rfl | ht
    · rfl
    · simpa using ht.words
  obtain ⟨waiting, term, hclose, hread⟩ := h.readOperations_chain inside hchain
  have hwhole := hread []
  rw [List.append_nil, readOperations, hclose] at hwhole
  rw [readQueryItems, List.takeWhile_append_of_pos hpos, List.dropWhile_append_of_pos hpos,
    hstop.1, hstop.2, List.append_nil, h.cut_first hchain,
    readOperand_of_opens inside h.opens_first]
  simp only [Option.bind_eq_bind, Option.bind_some, hwhole, hwords, if_true]
  rfl

/-- What is flat is read as it was written. -/
theorem readQueryItems_of_isFlat {c : Compound (List Item) (List Item)} (h : c.Clear)
    (hflat : c.isFlat tight = true) :
    readQueryItems tight (readOperand inside) c.items = some c.tokens := by
  cases c with
  | select | combine =>
    rw [← List.append_nil (items _)]
    exact h.readQueryItems_chain inside hflat (.inl rfl)
  | arrange t c =>
    obtain ⟨ht, hc⟩ := h
    have hne : t.isEmpty = false := by
      cases t with
      | nil => cases ht.opens
      | cons => rfl
    have hread := hc.readQueryItems_chain inside hflat (.inr ht)
    rw [CompoundReading.arranged, hne] at hread
    exact hread

end Compound

end SqlRender
