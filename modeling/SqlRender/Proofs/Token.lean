import SqlRender.Template

/-!
# Tokens of SQL

A text is cut into words, quoted runs, parentheses and other signs; blanks only separate. A quoted
run goes from a quote to the next one of the same kind, so a quote that is written twice ends one
run and begins another. A text that ends inside a quoted run has no tokens.

* `Text.tokens?_append`: texts put one behind the other, where no word goes on.
-/

namespace SqlRender

inductive Token where
  | word (chars : List Char)
  | quoted (mark : Char) (body : List Char)
  | opening
  | closing
  | sign (c : Char)
deriving DecidableEq, Repr

/-- Where a scan stands: between tokens, in a word or in a quoted run. -/
inductive Scan where
  | between
  | word (chars : List Char)
  | quoted (mark : Char) (body : List Char)
deriving DecidableEq, Repr

def quoteMarks : List Char := ['"', '\x60', '\'']

def Token.ofSign : Char → Token
  | '(' => .opening
  | ')' => .closing
  | c => .sign c

namespace Scan

/-- A character between tokens: the tokens that it ends, and where the scan stands behind it. -/
def start (c : Char) : List Token × Scan :=
  if Text.isWord c then ([], .word [c])
  else if c ∈ quoteMarks then ([], .quoted c [])
  else if Text.isBlank c then ([], .between)
  else ([.ofSign c], .between)

def step : Scan → Char → List Token × Scan
  | .between, c => start c
  | .word w, c =>
    if Text.isWord c then ([], .word (w ++ [c])) else (.word w :: (start c).1, (start c).2)
  | .quoted mark w, c =>
    if c = mark then ([.quoted mark w], .between) else ([], .quoted mark (w ++ [c]))

def run : Scan → List Char → List Token × Scan
  | s, [] => ([], s)
  | s, c :: cs => ((s.step c).1 ++ ((s.step c).2.run cs).1, ((s.step c).2.run cs).2)

/-- The token that the end of a text ends. -/
def finish : Scan → Option (List Token)
  | .between => some []
  | .word w => some [.word w]
  | .quoted .. => none

theorem run_append (s : Scan) (cs ds : List Char) :
    s.run (cs ++ ds) = ((s.run cs).1 ++ ((s.run cs).2.run ds).1, ((s.run cs).2.run ds).2) := by
  induction cs generalizing s with
  | nil => rfl
  | cons c cs ih =>
    rw [List.cons_append, run, run, ih]
    simp only [List.append_assoc]

theorem not_word_of_start {c : Char} (hc : Text.isWord c = false) (w : List Char) :
    (start c).2 ≠ .word w := by
  unfold start
  rw [if_neg (by simp [hc])]
  split
  · simp
  · split <;> simp

/-- A character that belongs to no word leaves no word open. -/
theorem not_word_of_step {c : Char} (hc : Text.isWord c = false) (s : Scan) (w : List Char) :
    (s.step c).2 ≠ .word w := by
  cases s with
  | between => exact not_word_of_start hc w
  | word v =>
    rw [step, if_neg (by simp [hc])]
    exact not_word_of_start hc w
  | quoted mark v =>
    rw [step]
    split <;> simp

/-- A word ends where a character follows that belongs to no word. -/
theorem run_word {w cs : List Char} (h : ∀ c ∈ cs.head?, Text.isWord c = false) (hne : cs ≠ []) :
    (Scan.word w).run cs = (.word w :: (between.run cs).1, (between.run cs).2) := by
  cases cs with
  | nil => exact absurd rfl hne
  | cons c cs =>
    have hstep : (Scan.word w).step c = (.word w :: (start c).1, (start c).2) := by
      rw [step, if_neg (by simp [h c rfl])]
    rw [run, run, hstep]
    rfl

/-- Behind a text whose last character belongs to no word, no word is open. -/
theorem not_word_of_run {cs : List Char} (h : ∀ c ∈ cs.getLast?, Text.isWord c = false)
    (w : List Char) : (between.run cs).2 ≠ .word w := by
  rcases List.eq_nil_or_concat cs with rfl | ⟨front, c, rfl⟩
  · simp [run]
  · have hc : Text.isWord c = false := h c (by simp)
    rw [List.concat_eq_append, run_append]
    exact not_word_of_step hc _ w

end Scan

namespace Text

/-- The tokens of a text. -/
def tokens? (cs : List Char) : Option (List Token) :=
  (Scan.between.run cs).2.finish.map ((Scan.between.run cs).1 ++ ·)

/-- No word of the first text goes on in the second. -/
def Breaks (cs ds : List Char) : Prop :=
  (∀ c ∈ cs.getLast?, isWord c = false) ∨ ∀ c ∈ ds.head?, isWord c = false

theorem tokens?_append {cs ds : List Char} {ts us : List Token} (hcs : tokens? cs = some ts)
    (hds : tokens? ds = some us) (h : Breaks cs ds) : tokens? (cs ++ ds) = some (ts ++ us) := by
  obtain ⟨last, hlast, hts⟩ := Option.map_eq_some_iff.mp hcs
  obtain ⟨last', hlast', hus⟩ := Option.map_eq_some_iff.mp hds
  rw [tokens?, Scan.run_append]
  cases hscan : (Scan.between.run cs).2 with
  | quoted mark w =>
    rw [hscan] at hlast
    cases hlast
  | between =>
    rw [hscan] at hlast
    cases hlast
    simp only [hlast', Option.map_some, List.append_assoc, hus]
    rw [← hts, List.append_nil]
  -- an open word ends where the texts meet, since nothing of the second text belongs to it
  | word w =>
    rw [hscan] at hlast
    cases hlast
    by_cases hne : ds = []
    · subst hne
      cases hds
      simp [Scan.run, Scan.finish, ← hts]
    · have hhead : ∀ c ∈ ds.head?, isWord c = false := by
        rcases h with hend | hhead
        · exact absurd hscan (Scan.not_word_of_run hend w)
        · exact hhead
      rw [Scan.run_word hhead hne]
      simp only [hlast', Option.map_some, List.append_assoc, List.cons_append]
      rw [← hts, ← hus]
      simp

end Text

end SqlRender
