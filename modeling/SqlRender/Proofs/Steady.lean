import SqlRender.Proofs.Correspondence
import SqlRender.Proofs.Marker
import SqlRender.Proofs.Raw

/-!
# What a bundled dialect writes without binding

A text is steady if it has no marker outside quotes and all its quotes are closed. Quoted names are
steady whatever they contain, and so are keywords, raw SQL without question marks and marks, and
what the formats and templates of a bundled backend make of steady texts.

* `Backend.steady_quote`: dotted names in quotes.
* `Backend.steady_clauseOf`: clauses whose format has no question mark.
-/

namespace SqlRender

/-- The second fragment is the first with literals for its parameters, and binds nothing. -/
def Fragment.AlignedWith (mark : Char) (lit : Value → String) (f g : Fragment) : Prop :=
  Aligned mark lit f.sql.toList f.params g.sql.toList ∧ g.params = []

/-- The text has no marker outside quotes, and all its quotes are closed. -/
def Steady (mark : Char) (lit : Value → String) (t : String) : Prop :=
  Fragment.AlignedWith mark lit (.ofSql t) (.ofSql t)

section Texts

variable {mark : Char} {lit : Value → String}

theorem Fragment.AlignedWith.append {f f' g g' : Fragment} (h : f.AlignedWith mark lit g)
    (h' : f'.AlignedWith mark lit g') : (f.append f').AlignedWith mark lit (g.append g') := by
  refine ⟨?_, by rw [Fragment.append, h.2, h'.2]; rfl⟩
  rw [Fragment.append, Fragment.append, String.toList_append, String.toList_append]
  exact h.1.append h'.1

theorem steady_iff {t : String} : Steady mark lit t ↔ Aligned mark lit t.toList [] t.toList :=
  ⟨fun h => h.1, fun h => ⟨h, rfl⟩⟩

theorem steady_ofList {cs : List Char} :
    Steady mark lit (String.ofList cs) ↔ Aligned mark lit cs [] cs := by
  rw [steady_iff, String.toList_ofList]

theorem Steady.append {s t : String} (hs : Steady mark lit s) (ht : Steady mark lit t) :
    Steady mark lit (s ++ t) := by
  rw [steady_iff] at hs ht ⊢
  rw [String.toList_append]
  exact hs.append ht

theorem Steady.joined {sep : String} (hsep : Steady mark lit sep) {texts : List String}
    (h : ∀ t ∈ texts, Steady mark lit t) : Steady mark lit (Text.joined sep texts) := by
  fun_induction Text.joined sep texts with
  | case1 => exact steady_iff.mpr .nil
  | case2 t => exact h t (by simp)
  | case3 t texts _ ih =>
    have hrest := ih fun t' ht' => h t' (List.mem_cons_of_mem t ht')
    exact ((h t (by simp)).append hsep).append hrest

/-! ## Quoted names -/

theorem double_cons (mark c : Char) (cs : List Char) :
    Text.double [mark] (c :: cs) =
      if c = mark then mark :: mark :: Text.double [mark] cs else c :: Text.double [mark] cs := by
  rw [Text.double, Text.doubleFrom]
  by_cases hc : c = mark
  · simp [hc, Text.double]
  · simp [hc, Ne.symm hc, Text.double]

/-- A mark inside a name ends one quoted run and begins the next. -/
theorem aligned_double {body : List Char} (hbody : mark ∉ body) (name : List Char) :
    Aligned mark lit (mark :: body ++ (Text.double [mark] name ++ [mark])) []
      (mark :: body ++ (Text.double [mark] name ++ [mark])) := by
  induction name generalizing body with
  | nil => exact .quoted hbody .nil
  | cons c name ih =>
    rw [double_cons]
    by_cases hc : c = mark
    · rw [if_pos hc]
      exact .quoted hbody (ih List.not_mem_nil)
    · rw [if_neg hc]
      have hlonger : mark ∉ body ++ [c] := by
        simp [hbody, Ne.symm hc]
      have hstep := ih hlonger
      simp only [List.cons_append, List.append_assoc, List.nil_append] at hstep ⊢
      exact hstep

theorem aligned_quoteChars (name : List Char) :
    Aligned mark lit (Dialect.quoteChars [mark] name) [] (Dialect.quoteChars [mark] name) := by
  have hnone : mark ∉ ([] : List Char) := List.not_mem_nil
  have h : Aligned mark lit _ [] _ := aligned_double hnone name
  simp only [Dialect.quoteChars, List.cons_append, List.nil_append] at h ⊢
  exact h

theorem aligned_join {sep : List Char} (hsep : Aligned mark lit sep [] sep)
    {pieces : List (List Char)} (h : ∀ piece ∈ pieces, Aligned mark lit piece [] piece) :
    Aligned mark lit (Text.join sep pieces) [] (Text.join sep pieces) := by
  fun_induction Text.join sep pieces with
  | case1 => exact .nil
  | case2 piece => exact h piece (by simp)
  | case3 piece pieces _ ih =>
    have hrest := ih fun piece' hmem => h piece' (List.mem_cons_of_mem piece hmem)
    exact ((h piece (by simp)).append hsep).append hrest

end Texts

/-! ## Bundled backends -/

theorem Dialect.mark_putAll (d : Dialect) (entries : List Dialect.Entry) :
    (d.putAll entries).mark = d.mark := by
  induction entries generalizing d with
  | nil => rfl
  | cons entry entries ih =>
    refine (ih (d.put entry)).trans ?_
    cases entry <;> rfl

namespace Backend

/-- The character around identifiers. -/
def markChar : Backend → Char
  | .mysql => '\x60'
  | _ => '"'

theorem mark_toList (b : Backend) : b.mark.toList = [b.markChar] := by
  cases b <;> decide

theorem mark_dialect (b : Backend) (types : TypeCatalogue) :
    (b.dialect types).mark.toList = [b.markChar] := by
  have h : (b.dialect types).mark = b.mark := by
    show (b.openDialect types).mark = b.mark
    rw [openDialect_eq, Dialect.mark_putAll]
    rfl
  rw [h, mark_toList]

theorem markChar_ne (b : Backend) : b.markChar ≠ '?' := by
  cases b <;> decide

theorem markChar_not_blank (b : Backend) : Text.isBlank b.markChar = false := by
  cases b <;> decide

/-- The text has neither a question mark nor a mark. -/
def isPlain (b : Backend) (cs : List Char) : Bool := cs.all fun c => c != '?' && c != b.markChar

variable {b : Backend} {lit : Value → String}

theorem ne_of_isPlain {cs : List Char} (h : b.isPlain cs = true) :
    ∀ c ∈ cs, c ≠ '?' ∧ c ≠ b.markChar := by
  intro c hc
  have hcs := List.all_eq_true.mp h c hc
  simpa using hcs

theorem aligned_of_isPlain {cs : List Char} (h : b.isPlain cs = true) :
    Aligned b.markChar lit cs [] cs :=
  .of_plain (ne_of_isPlain h)

theorem steady_of_isPlain {t : String} (h : b.isPlain t.toList = true) : Steady b.markChar lit t :=
  steady_iff.mpr (aligned_of_isPlain h)

/-- A text without question marks and without the mark of any backend. -/
theorem isPlain_of_plain {cs : List Char} (h : Text.isPlain cs = true) (b : Backend) :
    b.isPlain cs = true := by
  refine List.all_eq_true.mpr fun c hc => ?_
  have hc' := List.all_eq_true.mp h c hc
  simp only [Bool.and_eq_true, bne_iff_ne] at hc' ⊢
  obtain ⟨⟨hmarker, hdouble⟩, hback⟩ := hc'
  refine ⟨hmarker, ?_⟩
  cases b with
  | mysql => exact hback
  | ansi | postgresql | sqlite => exact hdouble

/-- The signs by which a statement is put together. -/
theorem steady_sign {t : String} (h : t ∈ ["", "(", ")", ", ", " = ", " ", " AND "]) :
    Steady b.markChar lit t := by
  have hall : ["", "(", ")", ", ", " = ", " ", " AND "].all (Text.isPlain ·.toList) = true := by
    decide +kernel
  exact steady_of_isPlain (isPlain_of_plain (List.all_eq_true.mp hall t h) b)

variable (types : TypeCatalogue)

/-- A dotted name in quotes is steady, whatever it contains. -/
theorem steady_quote (name : String) : Steady b.markChar lit ((b.dialect types).quote name) := by
  rw [Dialect.quote, mark_dialect, steady_ofList]
  refine aligned_join (aligned_of_isPlain (by cases b <;> decide)) fun piece hpiece => ?_
  obtain ⟨segment, -, rfl⟩ := List.mem_map.mp hpiece
  unfold Dialect.quoteSegment
  split
  · next hstar =>
    rw [hstar]
    exact aligned_of_isPlain (by cases b <;> decide)
  · exact aligned_quoteChars segment

theorem steady_quoteIdentifier (name : String) :
    Steady b.markChar lit ((b.dialect types).quoteIdentifier name) := by
  rw [Dialect.quoteIdentifier, mark_dialect, steady_ofList]
  exact aligned_quoteChars name.toList

theorem steady_quoteName {v : Value} {t : String} (h : (b.dialect types).quoteName v = .ok t) :
    Steady b.markChar lit t := by
  obtain ⟨name, -, ht⟩ := bind_eq_ok.mp h
  rw [← Except.ok.inj ht]
  exact steady_quote types name

/-! ## Keywords and clauses -/

theorem steady_keywordText? {k : Keyword} {t : String} (h : b.keywordText? k = some t) :
    Steady b.markChar lit t := by
  have hall : ∀ entry ∈ b.entries, entry.asKeyword?.all (fun pair =>
      Text.isPlain pair.2.toList) = true := by
    refine entries_all ?_ (fun b => ?_) b
    · decide +kernel
    · cases b <;> decide +kernel
  obtain ⟨entry, hmem, hentry⟩ := Dialect.lastText?_mem h
  have hplain := hall entry hmem
  rw [hentry] at hplain
  exact steady_of_isPlain (isPlain_of_plain hplain b)

theorem steady_keywordText {k : Keyword} {t : String}
    (h : (b.dialect types).keywordText k = .ok t) : Steady b.markChar lit t := by
  rw [keywordText_eq] at h
  cases hk : b.keywordText? k with
  | none =>
    rw [hk] at h
    cases h
  | some t' =>
    rw [hk] at h
    cases h
    exact steady_keywordText? hk

end Backend

/-- The format of the clause has markers of its own. -/
def Clause.hasMarkers : Clause → Bool
  | .equals | .notEquals | .greater | .greaterEqual | .less | .lessEqual | .like | .notLike
  | .regexp | .notRegexp | .rlike | .between | .notBetween => true
  | _ => false

/-- The characters of the texts of a format are characters of the format. -/
theorem Format.mem_of_texts? {cs text : List Char} {texts : List (List Char)}
    (h : texts? cs = some (text, texts)) : (∀ c ∈ text, c ∈ cs) ∧ ∀ t ∈ texts, ∀ c ∈ t, c ∈ cs := by
  fun_induction texts? cs generalizing text texts with
  | case1 =>
    cases h
    simp
  | case2 cs ih =>
    obtain ⟨⟨next, rest⟩, hrest, heq⟩ := Option.map_eq_some_iff.mp h
    cases heq
    obtain ⟨hnext, hothers⟩ := ih hrest
    simp only [List.mem_cons]
    grind
  | case3 => cases h
  | case4 c cs _ hc ih =>
    obtain ⟨⟨first, rest⟩, hrest, heq⟩ := Option.map_eq_some_iff.mp h
    cases heq
    obtain ⟨hfirst, hothers⟩ := ih hrest
    simp only [List.mem_cons]
    grind

namespace Backend

variable {b : Backend} {lit : Value → String} {c : Clause} {text : List Char}
  {texts : List (List Char)} (types : TypeCatalogue)

theorem plain_of_clauseText? (hc : c.hasMarkers = false) {format : String}
    (h : b.clauseText? c = some format) : Text.isPlain format.toList = true := by
  have hall : ∀ entry ∈ b.entries, entry.asClause?.all (fun pair =>
      pair.1.hasMarkers || Text.isPlain pair.2.toList) = true := by
    refine entries_all ?_ (fun b => ?_) b
    · decide +kernel
    · cases b <;> decide +kernel
  obtain ⟨entry, hmem, hentry⟩ := Dialect.lastText?_mem h
  have hplain := hall entry hmem
  rwa [hentry, Option.all_some, hc, Bool.false_or] at hplain

/-- A format without markers of its own consists of steady texts. -/
theorem aligned_formatTexts? (lit : Value → String) (hc : c.hasMarkers = false)
    (h : b.formatTexts? c = some (text, texts)) :
    Aligned b.markChar lit text [] text ∧ ∀ t ∈ texts, Aligned b.markChar lit t [] t := by
  obtain ⟨format, hformat, htexts⟩ := Option.bind_eq_some_iff.mp h
  have hplain := plain_of_clauseText? hc hformat
  have hchars := ne_of_isPlain (isPlain_of_plain hplain b)
  obtain ⟨htext, hothers⟩ := Format.mem_of_texts? htexts
  exact ⟨.of_plain fun c hc => hchars c (htext c hc),
    fun t ht => .of_plain fun c hc => hchars c (hothers t ht c hc)⟩

/-- A format with markers of its own has one place for a text. -/
theorem length_of_hasMarkers (hc : c.hasMarkers = true)
    (h : b.formatTexts? c = some (text, texts)) : texts.length = 1 := by
  have hall : ∀ entry ∈ b.entries, entry.asClause?.all (fun pair =>
      !pair.1.hasMarkers || (Format.texts? pair.2.toList).all (·.2.length == 1)) = true := by
    refine entries_all ?_ (fun b => ?_) b
    · decide +kernel
    · cases b <;> decide +kernel
  obtain ⟨format, hformat, htexts⟩ := Option.bind_eq_some_iff.mp h
  obtain ⟨entry, hmem, hentry⟩ := Dialect.lastText?_mem hformat
  have hone := hall entry hmem
  rw [hentry, Option.all_some, hc, htexts] at hone
  simpa using hone

theorem steady_write {args : List Value} {cs : List Char}
    (htext : Aligned b.markChar lit text [] text)
    (htexts : ∀ t ∈ texts, Aligned b.markChar lit t [] t)
    (hargs : ∀ arg ∈ args, ∀ s, arg.shown Value.display = .ok s →
      Steady b.markChar lit s)
    (h : Format.write text texts args = .ok cs) : Aligned b.markChar lit cs [] cs := by
  fun_induction Format.write text texts args generalizing cs with
  | case1 text =>
    cases h
    exact htext
  | case2 => cases h
  | case3 => cases h
  | case4 text next texts arg args ih =>
    obtain ⟨s, hs, h⟩ := bind_eq_ok.mp h
    obtain ⟨rest, hrest, h⟩ := bind_eq_ok.mp h
    cases h
    have harg := steady_iff.mp (hargs arg (by simp) s hs)
    have hothers := ih (htexts next (by simp)) (fun t ht => htexts t (List.mem_cons_of_mem next ht))
      (fun arg' hmem => hargs arg' (List.mem_cons_of_mem arg hmem)) hrest
    exact (htext.append harg).append hothers

/-- A clause whose format has no markers, with steady arguments. -/
theorem steady_clauseOf (hc : c.hasMarkers = false) {args : List Value} {t : String}
    (hargs : ∀ arg ∈ args, ∀ s, arg.shown Value.display = .ok s →
      Steady b.markChar lit s)
    (h : (b.dialect types).clauseOf (.clause c) args = .ok t) : Steady b.markChar lit t := by
  obtain ⟨value, hvalue, h⟩ := bind_eq_ok.mp h
  rw [formatOf_eq] at hvalue
  cases hformat : b.clauseText? c with
  | none =>
    rw [hformat] at hvalue
    cases hvalue
  | some format =>
    rw [hformat] at hvalue
    cases hvalue
    obtain ⟨text, texts, htexts⟩ := b.formatTexts?_isSome hformat
    obtain ⟨htext, hothers⟩ := aligned_formatTexts? lit hc htexts
    have hfill : Format.texts? format.toList = some (text, texts) := by
      rw [formatTexts?, hformat] at htexts
      exact htexts
    have happly : Format.apply format (.ofList args) = .ok t := h
    rw [Format.apply, Format.fill_eq_write hfill] at happly
    obtain ⟨cs, hcs, ht⟩ := bind_eq_ok.mp happly
    cases ht
    exact steady_ofList.mpr (steady_write htext hothers hargs hcs)

/-- A clause whose format has no markers, with steady texts. -/
theorem steady_clause (hc : c.hasMarkers = false) {args : List String} {t : String}
    (hargs : ∀ arg ∈ args, Steady b.markChar lit arg)
    (h : (b.dialect types).clause c args = .ok t) : Steady b.markChar lit t := by
  refine steady_clauseOf types hc (fun arg hmem s hs => ?_) h
  obtain ⟨text, htext, rfl⟩ := List.mem_map.mp hmem
  cases hs
  exact hargs text htext

/-- A clause with two texts, whatever the clause is. -/
theorem steady_clause_two {first second t : String} (hfirst : Steady b.markChar lit first)
    (hsecond : Steady b.markChar lit second)
    (h : (b.dialect types).clause c [first, second] = .ok t) : Steady b.markChar lit t := by
  have hargs : ∀ arg ∈ [first, second], Steady b.markChar lit arg := by
    simp [hfirst, hsecond]
  cases hc : c.hasMarkers with
  | false => exact steady_clause types hc hargs h
  | true =>
    -- a format with markers of its own has one place only
    cases hformat : b.clauseText? c with
    | none =>
      rw [Dialect.clause, Dialect.clauseOf, formatOf_eq, hformat] at h
      cases h
    | some format =>
      obtain ⟨text, texts, htexts⟩ := b.formatTexts?_isSome hformat
      rw [clause_eq types htexts, if_neg (by rw [length_of_hasMarkers hc htexts]; simp)] at h
      cases h

/-- A fragment inside a clause whose format has no markers. -/
theorem alignedWith_enclosed (hc : c.hasMarkers = false) {f g : Fragment}
    (h : f.AlignedWith b.markChar lit g) :
    SameOutcome (Fragment.AlignedWith b.markChar lit) (f.enclosed (b.dialect types) c)
      (g.enclosed (b.dialect types) c) := by
  unfold Fragment.enclosed
  cases hformat : b.clauseText? c with
  | none =>
    simp only [Dialect.clause, Dialect.clauseOf, formatOf_eq, hformat]
    exact SameOutcome.error _
  | some format =>
    obtain ⟨text, texts, htexts⟩ := b.formatTexts?_isSome hformat
    obtain ⟨htext, hothers⟩ := aligned_formatTexts? lit hc htexts
    rw [clause_eq types htexts, clause_eq types htexts]
    -- the text of a clause takes one argument; with any other number both runs fail
    cases texts with
    | nil => exact SameOutcome.error .wrongType
    | cons next rest =>
      cases rest with
      | cons _ _ => exact SameOutcome.error .wrongType
      | nil =>
        refine SameOutcome.pure ⟨?_, h.2⟩
        simp only [Format.weave, List.map_cons, List.map_nil, List.zipWith_cons_cons,
          List.zipWith_nil_left, List.flatten_cons, List.flatten_nil, List.append_nil,
          String.toList_ofList]
        have hback := h.1.append (hothers next (by simp))
        rw [List.append_nil] at hback
        exact htext.append hback

end Backend

/-! ## Raw SQL -/

namespace Value

/-- No raw SQL in the value has a question mark or a mark. -/
def Plain (b : Backend) (v : Value) : Prop := ∀ sql ∈ v.raws, b.isPlain sql.toList = true

namespace Plain

variable {b : Backend}

/-- The items of a value have no other raw SQL than the value. -/
theorem item {v : Value} (h : v.Plain b) {items : List Value} (hitems : v.items? = some items)
    {item : Value} (hitem : item ∈ items) : item.Plain b :=
  fun sql hsql => h sql (raws_item hitems hitem hsql)

theorem entry {entries : Mapping} (h : (Value.map entries).Plain b) {e : Value × Value}
    (he : e ∈ entries) : e.2.Plain b :=
  fun sql hsql => h sql (raws_entry he hsql)

theorem child {children : List Value} {k : Keyword} {negated : Bool}
    (h : (Value.predicate children k negated).Plain b) {child : Value} (hchild : child ∈ children) :
    child.Plain b :=
  fun sql hsql => h sql (raws_child hchild hsql)

theorem raw {sql : String} (h : (Value.raw sql).Plain b) : b.isPlain sql.toList = true :=
  h sql (by simp [raws])

end Plain

end Value

end SqlRender
