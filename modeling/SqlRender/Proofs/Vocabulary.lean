import SqlRender.Proofs.Layout

/-!
# The words of two backends

What the texts of clauses and keywords have in common in all bundled backends, and when two
backends write a clause or a keyword alike.

* `Backend.formatTexts?_spec`: no format has a mark, and places in it never touch.
* `Backend.SameClause`, `Backend.SameKeyword`: two backends with one text for a symbol.
-/

namespace SqlRender

/-! ## Texts of formats -/

/-- The text has no mark of any backend. -/
def Text.isUnmarked (cs : List Char) : Bool := cs.all fun c => c != '"' && c != '\x60'

theorem Text.isUnmarked_of_isPlain {cs : List Char} (h : isPlain cs = true) :
    isUnmarked cs = true := by
  refine List.all_eq_true.mpr fun c hc => ?_
  have hplain := List.all_eq_true.mp h c hc
  simp only [Bool.and_eq_true] at hplain ⊢
  exact ⟨hplain.1.2, hplain.2⟩

theorem Text.isUnmarked_spaced {word : String} (h : isUnmarked word.toList = true) :
    isUnmarked (" " ++ word ++ " ").toList = true := by
  simp only [isUnmarked, String.toList_append, List.all_append, Bool.and_eq_true]
  exact ⟨⟨by decide +kernel, h⟩, by decide +kernel⟩

theorem Text.isUnmarked_ofInt (n : Int) : isUnmarked (ofInt n).toList = true := by
  refine List.all_eq_true.mpr fun c hc => ?_
  have hdigit := mem_ofInt hc
  have hquote : c ≠ '"' := by
    rintro rfl
    revert hdigit
    decide
  have hbacktick : c ≠ '\x60' := by
    rintro rfl
    revert hdigit
    decide
  simp [hquote, hbacktick]

/-- Unmarked arguments between unmarked texts. -/
theorem Format.isUnmarked_write {text : List Char} {texts : List (List Char)} {args : List Value}
    {cs : List Char} (htext : Text.isUnmarked text = true)
    (htexts : ∀ t ∈ texts, Text.isUnmarked t = true)
    (hargs : ∀ arg ∈ args, ∀ s, arg.shown Value.display = .ok s →
      Text.isUnmarked s.toList = true)
    (h : write text texts args = .ok cs) : Text.isUnmarked cs = true := by
  fun_induction write text texts args generalizing cs with
  | case1 text =>
    cases h
    exact htext
  | case2 => cases h
  | case3 => cases h
  | case4 text next texts arg args ih =>
    obtain ⟨s, hs, h⟩ := bind_eq_ok.mp h
    obtain ⟨rest, hrest, h⟩ := bind_eq_ok.mp h
    cases h
    have hrest := ih (htexts next (by simp)) (fun t ht => htexts t (List.mem_cons_of_mem next ht))
      (fun arg' hmem => hargs arg' (List.mem_cons_of_mem arg hmem)) hrest
    simp only [Text.isUnmarked, List.all_append, Bool.and_eq_true]
    exact ⟨⟨htext, hargs arg (by simp) s hs⟩, hrest⟩

namespace Backend

variable {b : Backend} {c : Clause}

/-- The own texts of a format are unmarked, and there is text between any two of its places. -/
theorem formatTexts?_spec {text : List Char} {texts : List (List Char)}
    (h : b.formatTexts? c = some (text, texts)) :
    Text.isUnmarked text = true ∧ (∀ t ∈ texts, Text.isUnmarked t = true) ∧
      ∀ t ∈ texts.dropLast, t ≠ [] := by
  have hall : ∀ entry ∈ b.entries, entry.asClause?.all (fun pair =>
      (Format.texts? pair.2.toList).all fun texts => Text.isUnmarked texts.1 &&
        texts.2.all Text.isUnmarked && texts.2.dropLast.all (· ≠ [])) = true := by
    refine entries_all ?_ (fun b => ?_) b
    · decide +kernel
    · cases b <;> decide +kernel
  obtain ⟨format, hformat, htexts⟩ := Option.bind_eq_some_iff.mp h
  obtain ⟨entry, hmem, hentry⟩ := Dialect.lastText?_mem hformat
  have hspec := hall entry hmem
  rw [hentry, Option.all_some, htexts, Option.all_some] at hspec
  simp only [Bool.and_eq_true, List.all_eq_true, decide_eq_true_eq] at hspec
  exact ⟨hspec.1.1, hspec.1.2, hspec.2⟩

/-- A clause with whole numbers in its places. -/
theorem isUnmarked_numbers {types : TypeCatalogue} {ns : List Int} {t : String}
    (h : (b.dialect types).clauseOf (.clause c) (ns.map .int) = .ok t) :
    Text.isUnmarked t.toList = true := by
  obtain ⟨value, hvalue, h⟩ := bind_eq_ok.mp h
  rw [formatOf_eq] at hvalue
  cases hformat : b.clauseText? c with
  | none =>
    rw [hformat] at hvalue
    cases hvalue
  | some format =>
    rw [hformat] at hvalue
    cases hvalue
    obtain ⟨text, texts, htexts⟩ := b.formatTexts?_isSome hformat
    obtain ⟨htext, hothers, -⟩ := formatTexts?_spec htexts
    rw [formatTexts?, hformat] at htexts
    have happly : Format.apply format (.ofList (ns.map .int)) = .ok t := h
    rw [Format.apply, Format.fill_eq_write htexts] at happly
    obtain ⟨cs, hcs, ht⟩ := bind_eq_ok.mp happly
    cases ht
    rw [String.toList_ofList]
    refine Format.isUnmarked_write htext hothers (fun arg harg s hs => ?_) hcs
    obtain ⟨n, -, rfl⟩ := List.mem_map.mp harg
    rw [Value.eq_ofInt_of_shown hs]
    exact Text.isUnmarked_ofInt n

theorem isUnmarked_keywordText? {k : Keyword} {t : String} (h : b.keywordText? k = some t) :
    Text.isUnmarked t.toList = true := by
  have hall : ∀ entry ∈ b.entries, entry.asKeyword?.all (fun pair =>
      Text.isUnmarked pair.2.toList) = true := by
    refine entries_all ?_ (fun b => ?_) b
    · decide +kernel
    · cases b <;> decide +kernel
  obtain ⟨entry, hmem, hentry⟩ := Dialect.lastText?_mem h
  have hunmarked := hall entry hmem
  rwa [hentry] at hunmarked

/-! ## What two backends have in common -/

/-- Both backends have the same format for a clause, or neither has one. -/
def SameClause (b b' : Backend) (c : Clause) : Prop := b.clauseText? c = b'.clauseText? c

/-- Both backends have the same word for a keyword, or neither has one. -/
def SameKeyword (b b' : Backend) (k : Keyword) : Prop := b.keywordText? k = b'.keywordText? k

instance (b b' : Backend) (c : Clause) : Decidable (b.SameClause b' c) :=
  inferInstanceAs (Decidable (b.clauseText? c = b'.clauseText? c))

instance (b b' : Backend) (k : Keyword) : Decidable (b.SameKeyword b' k) :=
  inferInstanceAs (Decidable (b.keywordText? k = b'.keywordText? k))

/-- The clauses of statements that no backend has a format of its own for. -/
def sharedClauses : List Clause :=
  [.asAlias, .filter, .groupBy, .having, .limit, .limitOffset, .negation, .orderBy]

theorem sameClause_of_shared (b b' : Backend) {c : Clause} (hc : c ∈ sharedClauses) :
    b.SameClause b' c := by
  have hansi : ∀ b : Backend, ∀ c ∈ sharedClauses, b.SameClause .ansi c := by
    intro b
    cases b <;> decide +kernel
  exact (hansi b c hc).trans (hansi b' c hc).symm

theorem sameKeyword_of_shared (b b' : Backend) {k : Keyword} (hk : k ∈ [.and, .desc]) :
    b.SameKeyword b' k := by
  have hansi : ∀ b : Backend, ∀ k ∈ [Keyword.and, .desc], b.SameKeyword .ansi k := by
    intro b
    cases b <;> decide +kernel
  exact (hansi b k hk).trans (hansi b' k hk).symm

variable {b' : Backend} {types types' : TypeCatalogue}

theorem keywordText_same {k : Keyword} (h : b.SameKeyword b' k) :
    SameOutcome (fun t t' => t = t' ∧ Text.isUnmarked t.toList = true)
      ((b.dialect types).keywordText k) ((b'.dialect types').keywordText k) := by
  rw [keywordText_eq, keywordText_eq, ← h]
  cases hk : b.keywordText? k with
  | none => exact (rfl : Error.Family.unknownSymbol = .unknownSymbol)
  | some t => exact SameOutcome.ok ⟨rfl, isUnmarked_keywordText? hk⟩

theorem formatOf_same (h : b.SameClause b' c) :
    SameOutcome Eq ((b.dialect types).formatOf (.clause c))
      ((b'.dialect types').formatOf (.clause c)) := by
  rw [formatOf_eq, formatOf_eq, ← h]
  cases b.clauseText? c with
  | none => exact (rfl : Error.Family.unknownSymbol = .unknownSymbol)
  | some format => exact SameOutcome.ok rfl

theorem clauseOf_same (h : b.SameClause b' c) (args : List Value) :
    SameOutcome Eq ((b.dialect types).clauseOf (.clause c) args)
      ((b'.dialect types').clauseOf (.clause c) args) := by
  refine (formatOf_same h).bind fun format format' hformat => ?_
  subst hformat
  exact SameOutcome.refl fun t _ => rfl

end Backend

end SqlRender
