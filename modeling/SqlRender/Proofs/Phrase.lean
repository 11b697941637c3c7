import SqlRender.Proofs.Comparison
import SqlRender.Proofs.Reading
import SqlRender.Proofs.Steady

/-!
# Conditions as operands of connectives

How the parts of a condition are read where they stand. A comparison is one atom whatever its column
is called, since a quoted name holds neither words nor parentheses, and the AND behind a BETWEEN
belongs to it. Operands with a connective between them are read as such, and parentheses make an
operand of what is read inside them.

* `Phrase.append`: texts one behind the other.
* `Backend.operand_comparison`: comparisons with atomic operands.
* `Reads.joined`, `Reads.enclosed`, `Reads.negated`: the texts of nodes.
-/

namespace SqlRender

/-- A token that is no word and no parenthesis. -/
def Token.isLabel : Token → Bool
  | .quoted .. | .sign _ => true
  | _ => false

theorem Token.ne_parenthesis {t : Token} (h : t.isLabel = true) : t ≠ .opening ∧ t ≠ .closing := by
  constructor <;> (rintro rfl; cases h)

theorem Item.isKeyword_label {t : Token} (h : t.isLabel = true) (keyword : List Char) :
    (Item.token t).isKeyword keyword = false := by
  cases t with
  | quoted | sign => rfl
  | word | opening | closing => cases h

namespace Text

/-! ## Texts one behind the other -/

/-- The text begins with a character that belongs to no word. -/
def startsApart (s : String) : Bool := s.toList.head?.any fun c => !isWord c

/-- The text ends in a character that belongs to no word. -/
def endsApart (s : String) : Bool := s.toList.getLast?.any fun c => !isWord c

theorem startsApart_append {s : String} (h : startsApart s = true) (t : String) :
    startsApart (s ++ t) = true := by
  obtain ⟨c, hc, hword⟩ := (Option.any_eq_true _ _).mp h
  rw [startsApart, String.toList_append, List.head?_append, hc]
  exact hword

theorem endsApart_append (s : String) {t : String} (h : endsApart t = true) :
    endsApart (s ++ t) = true := by
  obtain ⟨c, hc, hword⟩ := (Option.any_eq_true _ _).mp h
  rw [endsApart, String.toList_append, List.getLast?_append, hc]
  exact hword

theorem breaks_of_apart {s t : String} (h : endsApart s = true ∨ startsApart t = true) :
    Breaks s.toList t.toList := by
  rcases h with h | h
  · obtain ⟨c, hc, hword⟩ := (Option.any_eq_true _ _).mp h
    refine .inl fun c' hc' => ?_
    cases hc.symm.trans hc'
    simpa using hword
  · obtain ⟨c, hc, hword⟩ := (Option.any_eq_true _ _).mp h
    refine .inr fun c' hc' => ?_
    cases hc.symm.trans hc'
    simpa using hword

/-- The text adds these items wherever it stands. -/
def Yields (s : String) (items : List Item) : Prop :=
  ∃ ts, tokens? s.toList = some ts ∧ Contributes ts items

theorem Yields.append {s t : String} {items items' : List Item} (h : Yields s items)
    (h' : Yields t items') (hapart : endsApart s = true ∨ startsApart t = true) :
    Yields (s ++ t) (items ++ items') := by
  obtain ⟨ts, hts, hitems⟩ := h
  obtain ⟨us, hus, hitems'⟩ := h'
  refine ⟨ts ++ us, ?_, hitems.append hitems'⟩
  rw [String.toList_append]
  exact tokens?_append hts hus (breaks_of_apart hapart)

theorem yields_empty : Yields "" [] := ⟨[], rfl, .nil⟩

/-- A text between parentheses is one item. -/
theorem Yields.enclosed {s : String} {items : List Item} (h : Yields s items) :
    Yields ("(" ++ s ++ ")") [.enclosing items] := by
  obtain ⟨ts, hts, hitems⟩ := h
  refine ⟨.opening :: ts ++ [.closing], ?_, hitems.enclosed⟩
  have hopen : tokens? "(".toList = some [.opening] := by decide
  have hclose : tokens? ")".toList = some [.closing] := by decide
  have hfront : tokens? ("(" ++ s).toList = some ([.opening] ++ ts) := by
    rw [String.toList_append]
    exact tokens?_append hopen hts (breaks_of_apart (.inl (by decide)))
  rw [String.toList_append]
  exact tokens?_append hfront hclose (breaks_of_apart (.inr (by decide)))

/-! ## Phrases -/

/-- The text is without connectives. In front of it there are `n` BETWEENs whose AND is still to
come, and behind it `m`. -/
structure Phrase (s : String) (n m : Nat) (items : List Item) : Prop where
  yields : Yields s items
  no_or : ∀ item ∈ items, item.isOr = false
  owed : owed n items = some m

namespace Phrase

variable {s t : String} {k n m : Nat} {items items' : List Item}

theorem append (h : Phrase s k n items) (h' : Phrase t n m items')
    (hapart : endsApart s = true ∨ startsApart t = true) :
    Phrase (s ++ t) k m (items ++ items') where
  yields := h.yields.append h'.yields hapart
  no_or := by
    intro item hitem
    rcases List.mem_append.mp hitem with hitem | hitem
    · exact h.no_or item hitem
    · exact h'.no_or item hitem
  owed := by rw [owed_append, h.owed, Option.bind_some, h'.owed]

/-- A phrase stands inside a BETWEEN as it does outside. -/
theorem add (h : Phrase s n m items) (k : Nat) : Phrase s (n + k) (m + k) items :=
  ⟨h.yields, h.no_or, owed_add h.owed k⟩

/-- What stands in parentheses does not matter outside them. -/
theorem enclosed (h : Yields s items) (n : Nat) :
    Phrase ("(" ++ s ++ ")") n n [.enclosing items] := by
  refine ⟨h.enclosed, fun item hitem => ?_, rfl⟩
  cases List.mem_singleton.mp hitem
  rfl

end Phrase

/-- The tokens of a phrase without parentheses. -/
def isPhrase (n m : Nat) (s : String) : Bool :=
  (tokens? s.toList).any fun ts =>
    ts.all (fun t => t != .opening && t != .closing && !(Item.token t).isOr) &&
      owed n (ts.map .token) == some m

theorem contributes_tokens {ts : List Token}
    (h : ∀ t ∈ ts, t ≠ .opening ∧ t ≠ .closing) : Contributes ts (ts.map .token) := by
  induction ts with
  | nil => exact .nil
  | cons t ts ih =>
    obtain ⟨hopening, hclosing⟩ := h t (by simp)
    have hrest := ih fun t' ht' => h t' (List.mem_cons_of_mem t ht')
    exact (Contributes.token hopening hclosing).append hrest

theorem phrase_of_isPhrase {n m : Nat} {s : String} (h : isPhrase n m s = true) :
    ∃ items, Phrase s n m items := by
  obtain ⟨ts, hts, h⟩ := (Option.any_eq_true _ _).mp h
  obtain ⟨hall, howed⟩ := Bool.and_eq_true_iff.mp h
  simp only [List.all_eq_true, Bool.and_eq_true, bne_iff_ne, Bool.not_eq_true'] at hall
  refine ⟨ts.map .token, ⟨ts, hts, contributes_tokens fun t ht => (hall t ht).1⟩, ?_, ?_⟩
  · intro item hitem
    obtain ⟨t, ht, rfl⟩ := List.mem_map.mp hitem
    exact (hall t ht).2
  · simpa using howed

/-! ## Operands and what is read -/

/-- The text is one operand of connectives wherever it stands, and read as `r`. -/
def Operand (s : String) (r : Reading) : Prop := ∃ items, Yields s items ∧ IsFactor items r

/-- The text is read as `r` where it stands between parentheses or alone. -/
def Reads (s : String) (r : Reading) : Prop := ∃ items, Yields s items ∧ readItems items = some r

/-- A phrase that begins with a token other than NOT is an atom. -/
theorem Phrase.operand {s : String} {t : Token} {items : List Item}
    (h : Phrase s 0 0 (.token t :: items)) (ht : (Item.token t).isNot = false) :
    ∃ tokens, Operand s (.atom tokens) := by
  refine ⟨t :: items.flatMap Item.tokens, .token t :: items, h.yields, h.no_or, h.owed, ?_⟩
  simp [readFactor, ht, Item.tokens]

theorem IsAtomic.operand {s : String} {tokens : List Token}
    (h : Text.reading s = some (.atom tokens)) : Operand s (.atom tokens) := by
  obtain ⟨ts, items, hts, hitems, hfactor⟩ := factor_of_reading h
  exact ⟨items, ⟨ts, hts, hitems⟩, hfactor⟩

theorem IsAtomic.phrase {s : String} (h : IsAtomic s) : ∃ items, Phrase s 0 0 items := by
  obtain ⟨tokens, h⟩ := h
  obtain ⟨items, hyields, hfactor⟩ := IsAtomic.operand h
  exact ⟨items, hyields, hfactor.no_or, hfactor.no_and⟩

section Reads

variable {s : String} {r : Reading}

theorem Operand.reads (h : Operand s r) : Reads s r := by
  obtain ⟨items, hyields, hfactor⟩ := h
  have hread : readItems (joinItems (.token (.word ['O', 'R'])) items []) =
      some (.chain .either r []) := hfactor.readItems_or rfl .nil
  exact ⟨items, hyields, hread⟩

theorem Reads.reading (h : Reads s r) : Text.reading s = some r := by
  obtain ⟨items, ⟨ts, hts, hitems⟩, hread⟩ := h
  rw [reading_eq hts hitems, hread]

/-- Nothing is read in an empty text. -/
theorem Reads.ne_empty (h : Reads s r) : s ≠ "" := by
  rintro rfl
  have hnone : Text.reading "" = none := by decide
  rw [h.reading] at hnone
  cases hnone

theorem Reads.enclosed (h : Reads s r) : Operand ("(" ++ s ++ ")") r := by
  obtain ⟨items, hyields, hread⟩ := h
  obtain ⟨hyields', hor, howed⟩ := Phrase.enclosed hyields 0
  exact ⟨_, hyields', hor, howed, hread⟩

theorem Reads.negated (h : Reads s r) : Operand ("NOT (" ++ s ++ ")") (.neg r) := by
  obtain ⟨items, hyields, hread⟩ := h
  have hnot : Phrase "NOT " 0 0 [.token (.word ['N', 'O', 'T'])] := by
    refine ⟨⟨_, ?_, .token (by simp) (by simp)⟩, ?_, ?_⟩ <;> decide
  obtain ⟨hyields', hor, howed⟩ :=
    hnot.append (Phrase.enclosed hyields 0) (.inl (by decide))
  have htext : "NOT (" ++ s ++ ")" = "NOT " ++ ("(" ++ s ++ ")") := by
    simp [← String.append_assoc]
  rw [htext]
  refine ⟨_, hyields', hor, howed, ?_⟩
  show (readItems items).map Sentence.neg = _
  rw [hread]
  rfl

variable {texts : List String} {rs : List Reading}

theorem yields_joined {sep : String} {item : Item} (hsep : Yields sep [item])
    (hstart : startsApart sep = true) (hend : endsApart sep = true) {items : List Item}
    (h : Yields s items) {others : List (List Item)} (hs : List.Forall₂ Yields texts others) :
    Yields (joined sep (s :: texts)) (joinItems item items others) := by
  induction hs generalizing s items with
  | nil => exact h
  | cons hnext _ ih =>
    have hfront := h.append hsep (.inr hstart)
    have hall := hfront.append (ih hnext) (.inl (endsApart_append s hend))
    rw [List.append_assoc] at hall
    exact hall

/-- Texts with commas between them. -/
theorem yields_list (h : ∀ s ∈ texts, ∃ items, Yields s items) :
    ∃ items, Yields (joined ", " texts) items := by
  have hcomma : Yields ", " [.token (.sign ',')] :=
    ⟨_, by decide, .token (by simp) (by simp)⟩
  fun_induction joined ", " texts with
  | case1 => exact ⟨[], yields_empty⟩
  | case2 s => exact h s (by simp)
  | case3 s texts _ ih =>
    obtain ⟨items, hitems⟩ := h s (by simp)
    obtain ⟨rest, hrest⟩ := ih fun s' hs' => h s' (List.mem_cons_of_mem s hs')
    have hfront := hitems.append hcomma (.inr (by decide))
    exact ⟨_, hfront.append hrest (.inl (endsApart_append s (by decide)))⟩

theorem Operand.joined_and (h : Operand s r) (hs : List.Forall₂ Operand texts rs) :
    Reads (joined " AND " (s :: texts)) (.chain .both r rs) := by
  obtain ⟨items, hyields, hfactor⟩ := h
  obtain ⟨others, hothers, hfactors⟩ := forall₂_exists hs
  have hsep : Yields " AND " [.token (.word ['A', 'N', 'D'])] :=
    ⟨_, by decide, .token (by simp) (by simp)⟩
  exact ⟨_, yields_joined hsep (by decide) (by decide) hyields hothers,
    hfactor.readItems_and (by decide) (by decide) hfactors⟩

theorem Operand.joined_or (h : Operand s r) (hs : List.Forall₂ Operand texts rs) :
    Reads (joined " OR " (s :: texts)) (.chain .either r rs) := by
  obtain ⟨items, hyields, hfactor⟩ := h
  obtain ⟨others, hothers, hfactors⟩ := forall₂_exists hs
  have hsep : Yields " OR " [.token (.word ['O', 'R'])] :=
    ⟨_, by decide, .token (by simp) (by simp)⟩
  exact ⟨_, yields_joined hsep (by decide) (by decide) hyields hothers,
    hfactor.readItems_or (by decide) hfactors⟩

end Reads

/-! ## Quoted names -/

/-- The text has tokens, and all of them are labels. -/
def Labels (cs : List Char) : Prop :=
  ∃ ts, tokens? cs = some ts ∧ ts ≠ [] ∧ ∀ t ∈ ts, t.isLabel = true

theorem Labels.append {cs ds : List Char} (h : Labels cs) (h' : Labels ds) (hb : Breaks cs ds) :
    Labels (cs ++ ds) := by
  obtain ⟨ts, hts, hne, hlabel⟩ := h
  obtain ⟨us, hus, -, hlabel'⟩ := h'
  refine ⟨ts ++ us, tokens?_append hts hus hb, by simp [hne], fun t ht => ?_⟩
  rcases List.mem_append.mp ht with ht | ht
  · exact hlabel t ht
  · exact hlabel' t ht

/-- Behind the mark that begins a quoted run, a name with its marks written twice is a row of such
runs. -/
theorem run_double {mark : Char} (hword : isWord mark = false) (hmark : mark ∈ quoteMarks)
    (body name : List Char) :
    ∃ ts, (Scan.quoted mark body).run (double [mark] name ++ [mark]) = (ts, .between) ∧
      ts ≠ [] ∧ ∀ t ∈ ts, t.isLabel = true := by
  induction name generalizing body with
  | nil =>
    refine ⟨[.quoted mark body], ?_, by simp [Token.isLabel]⟩
    simp [double, doubleFrom, Scan.run, Scan.step]
  | cons c name ih =>
    rw [double_cons]
    by_cases hc : c = mark
    · -- the two marks end one run and begin the next
      obtain ⟨ts, hts, -, hlabel⟩ := ih []
      refine ⟨.quoted mark body :: ts, ?_, by simp, ?_⟩
      · simp [hc, Scan.run, Scan.step, Scan.start, hword, hmark, hts]
      · exact List.forall_mem_cons.mpr ⟨rfl, hlabel⟩
    · obtain ⟨ts, hts, hrest⟩ := ih (body ++ [c])
      refine ⟨ts, ?_, hrest⟩
      simp [hc, Scan.run, Scan.step, hts]

theorem labels_quoteChars {mark : Char} (hword : isWord mark = false) (hmark : mark ∈ quoteMarks)
    (name : List Char) : Labels (Dialect.quoteChars [mark] name) := by
  obtain ⟨ts, hts, hrest⟩ := run_double hword hmark [] name
  refine ⟨ts, ?_, hrest⟩
  simp [Dialect.quoteChars, tokens?, Scan.run, Scan.step, Scan.start, Scan.finish, hword, hmark,
    hts]

theorem labels_join {pieces : List (List Char)} (hne : pieces ≠ [])
    (h : ∀ piece ∈ pieces, Labels piece) : Labels (join ['.'] pieces) := by
  have hdot : Labels ['.'] := ⟨[.sign '.'], by decide, by decide⟩
  have hapart : isWord '.' = false := by decide
  fun_induction join ['.'] pieces with
  | case1 => exact absurd rfl hne
  | case2 piece => exact h piece (by simp)
  | case3 piece pieces hpieces ih =>
    have hrest := ih (by simpa using hpieces) fun piece' hpiece' =>
      h piece' (List.mem_cons_of_mem piece hpiece')
    have hfront := (h piece (by simp)).append hdot (.inr (by simpa using hapart))
    refine hfront.append hrest (.inl ?_)
    intro c hc
    rw [List.getLast?_concat] at hc
    cases hc
    exact hapart

theorem owed_labels {ts : List Token} (h : ∀ t ∈ ts, t.isLabel = true) (n : Nat) :
    owed n (ts.map .token) = some n := by
  induction ts with
  | nil => rfl
  | cons t ts ih =>
    have ht := Item.isKeyword_label (h t (by simp))
    have howing : (Item.token t).owing n = some n := by
      simp [Item.owing, Item.isBetween, Item.isAnd, ht]
    rw [List.map_cons, owed, howing]
    exact ih fun t' ht' => h t' (List.mem_cons_of_mem t ht')

/-- A phrase that begins with a quoted name is an atom. -/
theorem Labels.operand {column rest : String} (h : Labels column.toList) {items : List Item}
    (hrest : Phrase rest 0 0 items) (hapart : startsApart rest = true) :
    ∃ tokens, Operand (column ++ rest) (.atom tokens) := by
  obtain ⟨ts, hts, hne, hlabel⟩ := h
  have hcolumn : Phrase column 0 0 (ts.map .token) := by
    refine ⟨⟨ts, hts, contributes_tokens fun t ht => Token.ne_parenthesis (hlabel t ht)⟩, ?_,
      owed_labels hlabel 0⟩
    intro item hitem
    obtain ⟨t, ht, rfl⟩ := List.mem_map.mp hitem
    exact Item.isKeyword_label (hlabel t ht) _
  have hall := hcolumn.append hrest (.inr hapart)
  cases ts with
  | nil => exact absurd rfl hne
  | cons t ts => exact hall.operand (Item.isKeyword_label (hlabel t (by simp)) _)

end Text

/-! ## Comparisons -/

namespace Backend

open Text (Phrase isPhrase startsApart endsApart)

variable {b : Backend} (types : TypeCatalogue)

theorem labels_quote (name : String) : Text.Labels ((b.dialect types).quote name).toList := by
  rw [Dialect.quote, mark_dialect, String.toList_ofList]
  refine Text.labels_join (by simp [Text.split]) fun piece hpiece => ?_
  obtain ⟨segment, -, rfl⟩ := List.mem_map.mp hpiece
  unfold Dialect.quoteSegment
  split
  · next hstar =>
    rw [hstar]
    exact ⟨[.sign '*'], by decide, by decide⟩
  · exact Text.labels_quoteChars (by cases b <;> decide) (by cases b <;> decide) segment

theorem startsApart_tail {t : Tail String} (hsign : t.sign ∈ b.signs t) :
    startsApart t.text = true := by
  have hall : (b.signs t).all startsApart = true := by
    cases t <;> cases b <;> simp only [signs] <;> decide
  have hstart := List.all_eq_true.mp hall t.sign hsign
  have htext : ∃ rest, t.text = t.sign ++ rest := by
    cases t with
    | test sign => exact ⟨"", by simp [Tail.text, Tail.sign]⟩
    | single | range | list => simp [Tail.text, Tail.sign, String.append_assoc]
  obtain ⟨rest, htext⟩ := htext
  rw [htext]
  exact Text.startsApart_append hstart rest

/-- What stands behind the column of a comparison is a phrase: the AND of a BETWEEN is its own. -/
theorem phrase_tail {t : Tail String} (hsign : t.sign ∈ b.signs t)
    (hoperands : ∀ s ∈ t.operands, Text.IsAtomic s) : ∃ items, Phrase t.text 0 0 items := by
  cases t with
  | test sign =>
    have hall : (b.signs (.test sign : Tail String)).all (isPhrase 0 0) = true := by
      simp only [signs]
      decide
    exact Text.phrase_of_isPhrase (List.all_eq_true.mp hall sign hsign)
  | single sign operand =>
    have hall : (b.signs (.single sign operand)).all
        (fun s => isPhrase 0 0 s && endsApart s) = true := by
      cases b <;> simp only [signs] <;> decide
    obtain ⟨hphrase, hend⟩ := Bool.and_eq_true_iff.mp (List.all_eq_true.mp hall sign hsign)
    obtain ⟨items, hitems⟩ := Text.phrase_of_isPhrase hphrase
    obtain ⟨items', hitems'⟩ := (hoperands operand (by simp [Tail.operands])).phrase
    exact ⟨_, hitems.append hitems' (.inl hend)⟩
  -- the sign leaves a BETWEEN open, and the AND between the bounds closes it
  | range sign low high =>
    have hall : (b.signs (.range sign low high)).all
        (fun s => isPhrase 0 1 s && endsApart s) = true := by
      simp only [signs]
      cases b <;> decide
    obtain ⟨hphrase, hend⟩ := Bool.and_eq_true_iff.mp (List.all_eq_true.mp hall sign hsign)
    obtain ⟨items, hitems⟩ := Text.phrase_of_isPhrase hphrase
    obtain ⟨lows, hlow⟩ := (hoperands low (by simp [Tail.operands])).phrase
    obtain ⟨highs, hhigh⟩ := (hoperands high (by simp [Tail.operands])).phrase
    have hand : isPhrase 1 0 " AND " = true := by decide
    obtain ⟨ands, hand⟩ := Text.phrase_of_isPhrase hand
    have hfront := hitems.append (hlow.add 1) (.inl hend)
    have hboth := hfront.append hand (.inr (by decide))
    exact ⟨_, hboth.append hhigh (.inl (Text.endsApart_append _ (by decide)))⟩
  -- the sign ends in the parenthesis that the end of the text closes
  | list sign texts =>
    have hfront : ∃ front, sign = front ++ "(" ∧ isPhrase 0 0 front = true ∧
        endsApart front = true := by
      simp only [signs, Backend.sign, List.map_cons, List.map_nil, Tail.sign, List.mem_cons,
        List.not_mem_nil, or_false] at hsign
      rcases hsign with rfl | rfl
      · exact ⟨" IN ", by decide⟩
      · exact ⟨" NOT IN ", by decide⟩
    obtain ⟨front, rfl, hphrase, hend⟩ := hfront
    obtain ⟨items, hitems⟩ := Text.phrase_of_isPhrase hphrase
    obtain ⟨inner, hinner⟩ := Text.yields_list fun s hs =>
      (hoperands s hs).phrase.imp fun _ h => h.yields
    have htext : (Tail.list (front ++ "(") texts).text =
        front ++ ("(" ++ Text.joined ", " texts ++ ")") := by
      simp [Tail.text, String.append_assoc]
    rw [htext]
    exact ⟨_, hitems.append (.enclosed hinner 0) (.inl hend)⟩

/-- A comparison with atomic operands is one atom. -/
theorem operand_comparison {l : Lookup} {v : Value} (column : String)
    (hraw : ∀ w ∈ l.operands v, Text.IsAtomic (Fragment.ofValue w).sql) {f : Fragment}
    (h : comparison (b.dialect types) l ((b.dialect types).quote column) v = .ok f) :
    ∃ tokens, Text.Operand f.sql (.atom tokens) := by
  obtain ⟨t, hsql, hsign, hoperands⟩ := comparison_text types h
  have hatomic : ∀ s ∈ t.operands, Text.IsAtomic s := by
    intro s hs
    obtain ⟨w, hw, rfl⟩ := hoperands s hs
    exact hraw w hw
  obtain ⟨items, hitems⟩ := phrase_tail hsign hatomic
  rw [hsql]
  exact (labels_quote types column).operand hitems (startsApart_tail hsign)

end Backend

end SqlRender
