import SqlRender.Proofs.LockNotice
import SqlRender.Proofs.Phrase
import SqlRender.Proofs.Raw
import SqlRender.Proofs.SetOperation
import SqlRender.Proofs.SlotText
import SqlRender.Proofs.WellTyped

/-!
# Texts without operations and arrangements

What stands in a select before its set operations can be read by itself, and none of its words
begins an operation or an arrangement, as long as the same holds of the raw SQL in it. What stands
behind the operations begins with the word of an ordering, a limit or a lock.

* `Text.Inert`: a text that neither combines nor arranges.
* `Backend.inert_conditionClause`, `Backend.inert_joinsFragment` and their like: the slots before
  the operations.
* `Backend.arranges_orderFragment`, `Backend.arranges_limitFragment`: the slots behind them.
-/

namespace SqlRender

/-- The item begins neither an operation nor an arrangement. -/
def Item.isInert (item : Item) : Bool := item.setWord?.isNone && !item.isTail

namespace Text

/-- The items of a text that can be read by itself. -/
def items? (s : String) : Option (List Item) :=
  match (tokens? s.toList).bind (nest [[]]) with
  | some [items] => some items
  | _ => none

theorem yields_of_items? {s : String} {items : List Item} (h : items? s = some items) :
    Yields s items := by
  unfold items? at h
  split at h
  · next inner hnest =>
    cases h
    obtain ⟨ts, hts, hnest⟩ := Option.bind_eq_some_iff.mp hnest
    exact ⟨ts, hts, contributes_of_nest hnest⟩
  · cases h

/-! ## Inert texts -/

/-- The text can be read where it stands, and nothing in it begins an operation or an
arrangement. -/
def Inert (s : String) : Prop := ∃ items, Yields s items ∧ ∀ item ∈ items, item.isInert = true

/-- The text is inert by itself. -/
def isInert (s : String) : Bool := (items? s).any fun items => items.all Item.isInert

theorem inert_of_isInert {s : String} (h : isInert s = true) : Inert s := by
  obtain ⟨items, hitems, hall⟩ := (Option.any_eq_true _ _).mp h
  exact ⟨items, yields_of_items? hitems, List.all_eq_true.mp hall⟩

theorem inert_empty : Inert "" := ⟨[], yields_empty, by simp⟩

theorem Inert.append {s t : String} (h : Inert s) (h' : Inert t)
    (hapart : endsApart s = true ∨ startsApart t = true) : Inert (s ++ t) := by
  obtain ⟨items, hyields, hitems⟩ := h
  obtain ⟨items', hyields', hitems'⟩ := h'
  refine ⟨items ++ items', hyields.append hyields' hapart, fun item hitem => ?_⟩
  rcases List.mem_append.mp hitem with hitem | hitem
  · exact hitems item hitem
  · exact hitems' item hitem

/-- Whatever stands in parentheses, outside them it is one item. -/
theorem Inert.enclosed {s : String} (h : Inert s) : Inert ("(" ++ s ++ ")") := by
  obtain ⟨items, hyields, -⟩ := h
  refine ⟨_, hyields.enclosed, fun item hitem => ?_⟩
  cases List.mem_singleton.mp hitem
  rfl

/-- A separator that stands apart on both sides. -/
structure IsSeparator (sep : String) : Prop where
  inert : isInert sep = true
  starts : startsApart sep = true
  ends : endsApart sep = true

theorem inert_joined {sep : String} (hsep : IsSeparator sep) {texts : List String}
    (h : ∀ t ∈ texts, Inert t) : Inert (joined sep texts) := by
  fun_induction joined sep texts with
  | case1 => exact inert_empty
  | case2 t => exact h t List.mem_cons_self
  | case3 t texts _ ih =>
    have hrest := ih fun t' ht' => h t' (List.mem_cons_of_mem t ht')
    have hfront := (h t List.mem_cons_self).append (inert_of_isInert hsep.inert) (.inr hsep.starts)
    exact hfront.append hrest (.inl (endsApart_append t hsep.ends))

theorem isSeparator_comma : IsSeparator ", " := ⟨by decide, by decide, by decide⟩

theorem isSeparator_space : IsSeparator " " := ⟨by decide, by decide, by decide⟩

theorem isInert_label {t : Token} (h : t.isLabel = true) : (Item.token t).isInert = true := by
  simp [Item.isInert, Item.setWord?, Item.isTail, Item.isKeyword_label h]

theorem Labels.inert {s : String} (h : Labels s.toList) : Inert s := by
  obtain ⟨ts, hts, -, hlabel⟩ := h
  have hitems : Contributes ts (ts.map .token) :=
    contributes_tokens fun t ht => Token.ne_parenthesis (hlabel t ht)
  refine ⟨ts.map .token, ⟨ts, hts, hitems⟩, fun item hitem => ?_⟩
  obtain ⟨t, ht, rfl⟩ := List.mem_map.mp hitem
  exact isInert_label (hlabel t ht)

/-! ## Numbers -/

theorem run_wordChars {w cs : List Char} (h : ∀ c ∈ cs, isWord c = true) :
    (Scan.word w).run cs = ([], .word (w ++ cs)) := by
  induction cs generalizing w with
  | nil => simp [Scan.run]
  | cons c cs ih =>
    have hstep : (Scan.word w).step c = ([], .word (w ++ [c])) := if_pos (h c List.mem_cons_self)
    rw [Scan.run, hstep, ih fun c' hc' => h c' (List.mem_cons_of_mem c hc')]
    simp

/-- Word characters make one word. -/
theorem tokens?_wordChars {c : Char} {cs : List Char} (h : ∀ c' ∈ c :: cs, isWord c' = true) :
    tokens? (c :: cs) = some [.word (c :: cs)] := by
  have hstart : Scan.between.step c = ([], .word [c]) := if_pos (h c List.mem_cons_self)
  have hrun : Scan.between.run (c :: cs) = ([], .word (c :: cs)) := by
    rw [Scan.run, hstart, run_wordChars fun c' hc' => h c' (List.mem_cons_of_mem c hc')]
    rfl
  rw [tokens?, hrun]
  rfl

theorem isWord_of_isDigit {c : Char} (h : c.isDigit = true) : isWord c = true := by
  have hrange : ∃ rest, wordRanges = (0x30, 0x39) :: rest := ⟨_, rfl⟩
  obtain ⟨rest, hrange⟩ := hrange
  simp only [Char.isDigit, Bool.and_eq_true, decide_eq_true_eq] at h
  obtain ⟨hlow, hhigh⟩ := h
  have hlow' : 0x30 ≤ c.toNat := hlow
  have hhigh' : c.toNat ≤ 0x39 := hhigh
  rw [isWord, hrange, inRanges, if_neg (by omega)]
  simp [hhigh']

theorem toUpper_of_isDigit {c : Char} (h : c.isDigit = true) : c.toUpper = c := by
  simp only [Char.isDigit, Bool.and_eq_true, decide_eq_true_eq] at h
  obtain ⟨hlow, hhigh⟩ := h
  unfold Char.toUpper
  rw [dif_neg]
  rintro ⟨h, -⟩
  exact absurd (UInt32.le_trans h hhigh) (by decide)

/-- A word that begins with a digit is no word of SQL. -/
theorem isKeyword_digits {c : Char} (h : c.isDigit = true) (cs : List Char) {keyword : List Char}
    (hkeyword : keyword.head?.all (fun k => !k.isDigit) = true) :
    (Item.token (.word (c :: cs))).isKeyword keyword = false := by
  simp only [Item.isKeyword, List.map_cons, toUpper_of_isDigit h, decide_eq_false_iff_not]
  rintro rfl
  simp [h] at hkeyword

theorem isInert_digits {c : Char} (h : c.isDigit = true) (cs : List Char) :
    (Item.token (.word (c :: cs))).isInert = true := by
  have hwords : (Item.token (.word (c :: cs))).setWord? = none := by
    refine List.find?_eq_none.mpr fun word _ => ?_
    rw [isKeyword_digits h cs (by cases word <;> decide)]
    simp
  have htails : (Item.token (.word (c :: cs))).isTail = false := by
    refine List.any_eq_false.mpr fun keyword hkeyword => ?_
    have hall : tailWords.all (fun word => word.head?.all fun k => !k.isDigit) = true := by decide
    rw [isKeyword_digits h cs (List.all_eq_true.mp hall keyword hkeyword)]
    simp
  simp [Item.isInert, hwords, htails]

/-- A whole number is one word, with a sign in front if it is negative. -/
theorem inert_ofInt (n : Int) : Inert (ofInt n) := by
  have hdigits : ∀ c ∈ Nat.toDigits 10 n.natAbs, c.isDigit = true := fun c hc =>
    Nat.isDigit_of_mem_toDigits (by decide) (by decide) hc
  have hnumber : Inert (String.ofList (Nat.toDigits 10 n.natAbs)) := by
    cases hchars : Nat.toDigits 10 n.natAbs with
    | nil => exact inert_empty
    | cons c cs =>
      rw [hchars] at hdigits
      have htokens := tokens?_wordChars fun c' hc' => isWord_of_isDigit (hdigits c' hc')
      refine ⟨[.token (.word (c :: cs))], ⟨[.word (c :: cs)], ?_, ?_⟩, fun item hitem => ?_⟩
      · rw [String.toList_ofList, htokens]
      · exact .token (by simp) (by simp)
      · cases List.mem_singleton.mp hitem
        exact isInert_digits (hdigits c List.mem_cons_self) cs
  have hsign : isInert "-" = true := by decide
  rw [ofInt]
  split
  · rw [String.ofList_append]
    exact (inert_of_isInert hsign).append hnumber (.inl (by decide))
  · exact hnumber

/-! ## Arrangements -/

/-- The text can be read where it stands, and it is an ordering, a limit or a lock. -/
def Arranges (s : String) : Prop := ∃ items, Yields s items ∧ IsArrangement items

/-- The text is an arrangement by itself. -/
def isArrangement (s : String) : Bool :=
  (items? s).any fun items =>
    items.head?.any Item.isTail && items.all fun item => item.setWord?.isNone

theorem arranges_of_isArrangement {s : String} (h : isArrangement s = true) : Arranges s := by
  obtain ⟨items, hitems, h⟩ := (Option.any_eq_true _ _).mp h
  obtain ⟨hopens, hwords⟩ := Bool.and_eq_true_iff.mp h
  refine ⟨items, yields_of_items? hitems, hopens, fun item hitem => ?_⟩
  simpa using List.all_eq_true.mp hwords item hitem

end Text

theorem IsArrangement.append {items items' : List Item} (h : IsArrangement items)
    (h' : ∀ item ∈ items', item.setWord? = none) : IsArrangement (items ++ items') where
  opens := by
    cases items with
    | nil => cases h.opens
    | cons item items => exact h.opens
  words := by
    intro item hitem
    rcases List.mem_append.mp hitem with hitem | hitem
    · exact h.words item hitem
    · exact h' item hitem

namespace Text

theorem Arranges.append {s t : String} (h : Arranges s) (h' : Arranges t)
    (hapart : endsApart s = true ∨ startsApart t = true) : Arranges (s ++ t) := by
  obtain ⟨items, hyields, hitems⟩ := h
  obtain ⟨items', hyields', hitems'⟩ := h'
  exact ⟨_, hyields.append hyields' hapart, hitems.append hitems'.words⟩

/-- What an arrangement is about. -/
theorem Arranges.append_inert {s t : String} (h : Arranges s) (h' : Inert t)
    (hapart : endsApart s = true ∨ startsApart t = true) : Arranges (s ++ t) := by
  obtain ⟨items, hyields, hitems⟩ := h
  obtain ⟨items', hyields', hinert⟩ := h'
  refine ⟨_, hyields.append hyields' hapart, hitems.append fun item hitem => ?_⟩
  obtain ⟨hword, -⟩ := Bool.and_eq_true_iff.mp (hinert item hitem)
  simpa using hword

end Text

/-! ## Names and columns -/

/-- The raw SQL in a value is inert. -/
def Value.RawsInert (v : Value) : Prop := ∀ sql ∈ v.raws, Text.Inert sql

namespace Value.RawsInert

variable {v : Value}

theorem raw {sql : String} (h : (Value.raw sql).RawsInert) : Text.Inert sql :=
  h sql (by simp [raws])

theorem item (h : v.RawsInert) {items : List Value} (hitems : v.items? = some items) {item : Value}
    (hitem : item ∈ items) : item.RawsInert :=
  fun sql hsql => h sql (raws_item hitems hitem hsql)

theorem child {children : List Value} {k : Keyword} {negated : Bool}
    (h : (Value.predicate children k negated).RawsInert) {child : Value}
    (hchild : child ∈ children) : child.RawsInert :=
  fun sql hsql => h sql (raws_child hchild hsql)

end Value.RawsInert

/-- There is a limit or an offset. -/
def Statement.isLimited (s : Statement) : Bool :=
  match s.limit with
  | .null => s.offset.isTrue
  | _ => true

theorem Statement.isLimited_of_ne {s : Statement} (h : s.limit ≠ .null) : s.isLimited = true := by
  unfold isLimited
  split
  · next hnull => exact absurd hnull h
  · rfl

/-- No lock, or a lock on rows. -/
def Value.isRowLock : Value → Bool
  | .null | .keyword .forUpdateLock | .keyword .forShareLock => true
  | _ => false

namespace Backend

open Text (Inert Arranges isInert startsApart endsApart inert_of_isInert)

variable {b : Backend} (types : TypeCatalogue)

theorem inert_quote (name : String) : Inert ((b.dialect types).quote name) :=
  (labels_quote types name).inert

theorem inert_quoteIdentifier (name : String) : Inert ((b.dialect types).quoteIdentifier name) := by
  refine Text.Labels.inert ?_
  rw [Dialect.quoteIdentifier, mark_dialect, String.toList_ofList]
  exact Text.labels_quoteChars (by cases b <;> decide) (by cases b <;> decide) name.toList

theorem inert_quoteName {v : Value} {t : String} (h : (b.dialect types).quoteName v = .ok t) :
    Inert t := by
  obtain ⟨name, -, h⟩ := bind_eq_ok.mp h
  rw [← Except.ok.inj h]
  exact inert_quote types name

theorem inert_nameFragment {v : Value} {f : Fragment}
    (h : Statement.nameFragment (b.dialect types) v = .ok f) : Inert f.sql := by
  unfold Statement.nameFragment at h
  split at h
  · obtain ⟨t, ht, h⟩ := bind_eq_ok.mp h
    cases h
    exact inert_quoteName types ht
  · cases h
    exact Text.inert_empty

theorem inert_columnText {v : Value} (hv : v.RawsInert) {t : String}
    (h : Statement.columnText (b.dialect types) v = .ok t) : Inert t := by
  unfold Statement.columnText at h
  split at h
  · cases h
    exact hv.raw
  · exact inert_quoteName types h

/-- A clause with one place, behind a text. -/
theorem inert_clause_one {c : Clause} {before arg t : String}
    (hformat : b.formatTexts? c = some (before.toList, ["".toList]))
    (hbefore : isInert before = true) (hend : endsApart before = true) (harg : Inert arg)
    (h : (b.dialect types).clause c [arg] = .ok t) : Inert t := by
  rw [clause_one types hformat, String.append_empty] at h
  cases h
  exact (inert_of_isInert hbefore).append harg (.inl hend)

/-- A clause with two places that a separator stands between. -/
theorem inert_clause_two {c : Clause} {before sep first second t : String}
    (hformat : b.formatTexts? c = some (before.toList, [sep.toList, "".toList]))
    (hbefore : Inert (before ++ first)) (hsep : Text.IsSeparator sep) (hsecond : Inert second)
    (h : (b.dialect types).clause c [first, second] = .ok t) : Inert t := by
  rw [clause_two types hformat, String.append_empty] at h
  cases h
  have hfront := hbefore.append (inert_of_isInert hsep.inert) (.inr hsep.starts)
  exact hfront.append hsecond (.inl (Text.endsApart_append _ hsep.ends))

theorem inert_fieldText {v : Value} (hv : v.RawsInert) {t : String}
    (h : Statement.fieldText (b.dialect types) v = .ok t) : Inert t := by
  unfold Statement.fieldText at h
  split at h
  · next items =>
    obtain ⟨⟨column, label⟩, hpair, h⟩ := bind_eq_ok.mp h
    obtain ⟨first, hfirst, h⟩ := bind_eq_ok.mp h
    obtain ⟨second, hsecond, h⟩ := bind_eq_ok.mp h
    obtain ⟨name, -, hname⟩ := bind_eq_ok.mp hsecond
    rw [← Except.ok.inj hname] at h
    have hcolumn : column.RawsInert := hv.item (Value.asPair_eq_ok.mp hpair) (by simp)
    have hformat : b.formatTexts? .asAlias = some ("".toList, [" AS ".toList, "".toList]) := by
      cases b <;> decide
    refine inert_clause_two types hformat ?_ ⟨by decide, by decide, by decide⟩
      (inert_quoteIdentifier types name) h
    rw [String.empty_append]
    exact inert_columnText types hcolumn hfirst
  · exact inert_columnText types hv h

/-- Texts that are made from the items of a value, with a comma between them. -/
theorem inert_items {v : Value} (hv : v.RawsInert) {write : Value → Except Error String}
    (hwrite : ∀ item : Value, item.RawsInert → ∀ t, write item = .ok t → Inert t)
    {items : List Value} (hitems : v.asItems = .ok items) {texts : List String}
    (htexts : items.mapM write = .ok texts) : Inert (Text.joined ", " texts) := by
  refine Text.inert_joined Text.isSeparator_comma ?_
  refine forall_of_mapM_eq_ok htexts fun item hitem t ht => hwrite item ?_ t ht
  exact hv.item (Value.asItems_eq_ok.mp hitems) hitem

theorem inert_fieldList {v : Value} (hv : v.RawsInert) {t : String}
    (h : Statement.fieldList (b.dialect types) v = .ok t) : Inert t := by
  obtain ⟨items, hitems, h⟩ := bind_eq_ok.mp h
  obtain ⟨texts, htexts, h⟩ := bind_eq_ok.mp h
  cases h
  exact inert_items hv (fun _ hitem _ ht => inert_fieldText types hitem ht) hitems htexts

/-! ## Joins, groups and distinct rows -/

theorem inert_joinText {j : Join} (hj : j.kind.isJoin = true) {t : String}
    (h : Statement.joinText (b.dialect types) j = .ok t) : Inert t := by
  obtain ⟨word, hword, h⟩ := bind_eq_ok.mp h
  cases hword.symm.trans (keywordText_connector types (.inl rfl))
  have hformat : ∃ before : String,
      b.formatTexts? j.kind = some (before.toList, [" ON ".toList, "".toList]) ∧
        isInert before = true ∧ endsApart before = true := by
    cases hkind : j.kind with
    | innerJoin => exact ⟨"JOIN ", by cases b <;> decide⟩
    | leftJoin => exact ⟨"LEFT JOIN ", by cases b <;> decide⟩
    | rightJoin => exact ⟨"RIGHT JOIN ", by cases b <;> decide⟩
    | outerJoin => exact ⟨"FULL OUTER JOIN ", by cases b <;> decide⟩
    | straightJoin =>
      cases b with
      | postgresql => exact ⟨"INNER JOIN ", by decide⟩
      | ansi | mysql | sqlite => exact ⟨"STRAIGHT_JOIN ", by decide⟩
    | _ =>
      rw [hkind] at hj
      cases hj
  obtain ⟨before, hformat, hinert, hend⟩ := hformat
  have htable : Inert (before ++ (b.dialect types).quote j.table) :=
    (inert_of_isInert hinert).append (inert_quote types j.table) (.inl hend)
  refine inert_clause_two types hformat htable ⟨by decide, by decide, by decide⟩ ?_ h
  refine Text.inert_joined ⟨by decide, by decide, by decide⟩ fun condition hcondition => ?_
  obtain ⟨⟨left, right⟩, -, rfl⟩ := List.mem_map.mp hcondition
  have hequal : isInert " = " = true := by decide
  have hfront := (inert_quote (b := b) types left).append (inert_of_isInert hequal)
    (.inr (by decide))
  exact hfront.append (inert_quote types right) (.inl (Text.endsApart_append _ (by decide)))

theorem inert_joinsFragment {joins : List Join} (hjoins : ∀ j ∈ joins, j.kind.isJoin = true)
    {f : Fragment} (h : Statement.joinsFragment (b.dialect types) joins = .ok f) :
    Inert f.sql := by
  obtain ⟨texts, htexts, h⟩ := bind_eq_ok.mp h
  cases h
  refine Text.inert_joined Text.isSeparator_space ?_
  exact forall_of_mapM_eq_ok htexts fun j hj _ ht => inert_joinText types (hjoins j hj) ht

theorem inert_groupFragment {v : Value} (hv : v.RawsInert) {f : Fragment}
    (h : Statement.groupFragment (b.dialect types) v = .ok f) : Inert f.sql := by
  have hformat : b.formatTexts? .groupBy = some ("GROUP BY ".toList, ["".toList]) := by
    cases b <;> decide
  unfold Statement.groupFragment at h
  split at h
  · obtain ⟨items, hitems, h⟩ := bind_eq_ok.mp h
    obtain ⟨texts, htexts, h⟩ := bind_eq_ok.mp h
    obtain ⟨t, ht, h⟩ := bind_eq_ok.mp h
    cases h
    have hlist := inert_items hv (fun _ hitem _ ht => inert_columnText types hitem ht) hitems htexts
    exact inert_clause_one types hformat (by decide) (by decide) hlist ht
  · cases h
    exact Text.inert_empty

/-- Names in the parentheses behind DISTINCT ON. Only one backend has such a clause. -/
theorem inert_clause_distinctOn {names t : String} (hnames : Inert names)
    (h : (b.dialect types).clause .distinctOn [names] = .ok t) : Inert t := by
  have hclause : b.clauseText? .distinctOn = none ∨
      b.formatTexts? .distinctOn = some ("DISTINCT ON (".toList, [")".toList]) := by
    cases b <;> decide
  rcases hclause with hnone | hformat
  · rw [Dialect.clause, Dialect.clauseOf, formatOf_eq, hnone] at h
    cases h
  · rw [clause_one types hformat] at h
    cases h
    have htext : "DISTINCT ON (" ++ names ++ ")" = "DISTINCT ON " ++ ("(" ++ names ++ ")") := by
      simp [← String.append_assoc]
    have hfront : isInert "DISTINCT ON " = true := by decide
    rw [htext]
    exact (inert_of_isInert hfront).append hnames.enclosed (.inl (by decide))

theorem inert_distinctNames {v : Value} {f : Fragment}
    (h : Statement.distinctNames (b.dialect types) v = .ok f) : Inert f.sql := by
  unfold Statement.distinctNames at h
  split at h
  · next name =>
    obtain ⟨t, ht, h⟩ := bind_eq_ok.mp h
    cases h
    exact inert_clause_distinctOn types (inert_quote types name) ht
  · obtain ⟨names, hnames, h⟩ := bind_eq_ok.mp h
    obtain ⟨t, ht, h⟩ := bind_eq_ok.mp h
    cases h
    obtain ⟨items, -, hquoted⟩ := bind_eq_ok.mp hnames
    obtain ⟨texts, htexts, hjoined⟩ := bind_eq_ok.mp hquoted
    cases hjoined
    refine inert_clause_distinctOn types (Text.inert_joined Text.isSeparator_comma ?_) ht
    exact forall_of_mapM_eq_ok htexts fun _ _ _ ht => inert_quoteName types ht

theorem inert_distinctFilling {v : Value} {f : Fragment}
    (h : Statement.distinctFilling (b.dialect types) v = .ok f.toFilling) : Inert f.sql := by
  unfold Statement.distinctFilling at h
  split at h
  · rw [formatOf_distinct] at h
    have hdistinct : isInert "DISTINCT" = true := by decide
    cases Fragment.toFilling_injective (f := .ofSql "DISTINCT") (Except.ok.inj h)
    exact inert_of_isInert hdistinct
  · split at h
    · obtain ⟨g, hg, heq⟩ := map_eq_ok.mp h
      cases Fragment.toFilling_injective heq
      exact inert_distinctNames types hg
    · cases Fragment.toFilling_injective (f := .empty) (Except.ok.inj h)
      exact Text.inert_empty

/-! ## Conditions -/

theorem inert_ofValue {v : Value} (hv : v.RawsInert) : Inert (Fragment.ofValue v).sql := by
  have hmarker : isInert "?" = true := by decide
  cases v with
  | raw sql => exact hv.raw
  | _ => exact inert_of_isInert hmarker

theorem inert_tail {t : Tail String} (hsign : t.sign ∈ b.signs t)
    (hoperands : ∀ s ∈ t.operands, Inert s) : Inert t.text := by
  cases t with
  | test sign =>
    have hall : (b.signs (.test sign : Tail String)).all isInert = true := by
      simp only [signs]
      decide
    exact inert_of_isInert (List.all_eq_true.mp hall sign hsign)
  | single sign operand =>
    have hall : (b.signs (.single sign operand)).all
        (fun s => isInert s && endsApart s) = true := by
      cases b <;> simp only [signs] <;> decide
    obtain ⟨hinert, hend⟩ := Bool.and_eq_true_iff.mp (List.all_eq_true.mp hall sign hsign)
    exact (inert_of_isInert hinert).append (hoperands operand (by simp [Tail.operands])) (.inl hend)
  | range sign low high =>
    have hall : (b.signs (.range sign low high)).all
        (fun s => isInert s && endsApart s) = true := by
      cases b <;> simp only [signs] <;> decide
    obtain ⟨hinert, hend⟩ := Bool.and_eq_true_iff.mp (List.all_eq_true.mp hall sign hsign)
    have hand : isInert " AND " = true := by decide
    have hlow := (inert_of_isInert hinert).append (hoperands low (by simp [Tail.operands]))
      (.inl hend)
    have hboth := hlow.append (inert_of_isInert hand) (.inr (by decide))
    exact hboth.append (hoperands high (by simp [Tail.operands]))
      (.inl (Text.endsApart_append _ (by decide)))
  -- the sign ends in the parenthesis that the end of the text closes
  | list sign texts =>
    have hfront : ∃ front, sign = front ++ "(" ∧ isInert front = true ∧ endsApart front = true := by
      simp only [signs, Backend.sign, List.map_cons, List.map_nil, Tail.sign, List.mem_cons,
        List.not_mem_nil, or_false] at hsign
      rcases hsign with rfl | rfl
      · exact ⟨" IN ", by decide⟩
      · exact ⟨" NOT IN ", by decide⟩
    obtain ⟨front, rfl, hinert, hend⟩ := hfront
    have hlist : Inert ("(" ++ Text.joined ", " texts ++ ")") :=
      (Text.inert_joined Text.isSeparator_comma hoperands).enclosed
    have htext : (Tail.list (front ++ "(") texts).text =
        front ++ ("(" ++ Text.joined ", " texts ++ ")") := by
      simp [Tail.text, String.append_assoc]
    rw [htext]
    exact (inert_of_isInert hinert).append hlist (.inl hend)

theorem inert_lookup {key value : Value} (hv : value.RawsInert) {f : Fragment}
    (h : lookupCondition (b.dialect types) key value = .ok f) : Inert f.sql := by
  obtain ⟨k, -, h⟩ := bind_eq_ok.mp h
  obtain ⟨t, hsql, hsign, hoperands⟩ := comparison_text types h
  have htail : Inert t.text := by
    refine inert_tail hsign fun s hs => ?_
    obtain ⟨w, hw, rfl⟩ := hoperands s hs
    exact inert_ofValue fun sql hsql => hv sql (Lookup.raws_operand hw hsql)
  rw [hsql]
  exact (inert_quote types k.column).append htail (.inr (startsApart_tail hsign))

theorem inert_connect {k : Keyword} (hk : k = .and ∨ k = .or) {negated : Bool}
    {parts : List Fragment} (hparts : ∀ part ∈ parts, Inert part.sql) {f : Fragment}
    (h : connect (b.dialect types) k negated parts = .ok f) : Inert f.sql := by
  cases parts with
  | nil =>
    cases h
    exact Text.inert_empty
  | cons part parts =>
    rw [connect_eq types hk] at h
    cases h
    have hjoined : Inert (Fragment.joined (" " ++ k.word ++ " ") (part :: parts)).sql := by
      rw [Fragment.joined_eq]
      refine Text.inert_joined ?_ fun t ht => ?_
      · rcases hk with rfl | rfl <;> exact ⟨by decide, by decide, by decide⟩
      · obtain ⟨part', hpart', rfl⟩ := List.mem_map.mp ht
        exact hparts part' hpart'
    cases negated with
    | false => exact hjoined
    | true =>
      have hnot : isInert "NOT " = true := by decide
      have htext : ∀ sql : String, "NOT (" ++ sql ++ ")" = "NOT " ++ ("(" ++ sql ++ ")") := by
        simp [← String.append_assoc]
      show Inert ("NOT (" ++ _ ++ ")")
      rw [htext]
      exact (inert_of_isInert hnot).append hjoined.enclosed (.inl (by decide))

mutual

theorem inert_child (v : Value) (hk : v.Connected) (hv : v.RawsInert) {part : Option Fragment}
    (h : childCondition (b.dialect types) v = .ok part) : ∀ f ∈ part, Inert f.sql := by
  cases v with
  | predicate children k negated =>
    obtain ⟨parts, hparts, h⟩ := bind_eq_ok.mp h
    obtain ⟨inner, hinner, h⟩ := bind_eq_ok.mp h
    cases h
    obtain ⟨hconnector, hconnected⟩ := Value.connected_predicate.mp hk
    have hchildren := inert_children children hconnected (fun _ hchild => hv.child hchild) hparts
    have hnode := inert_connect types hconnector hchildren hinner
    intro f hf
    split at hf
    · cases hf
    · cases hf
      exact hnode.enclosed
  | _ =>
    rcases childCondition_leaf (by simp) h with ⟨sql, hleaf, rfl⟩ | ⟨key, value, f, hleaf, hf, rfl⟩
    · rw [hleaf] at hv
      rintro f ⟨rfl⟩
      exact hv.raw
    · rw [hleaf] at hv
      rintro f ⟨rfl⟩
      exact inert_lookup types (hv.item rfl (by simp)) hf

theorem inert_children (vs : List Value) (hk : ∀ v ∈ vs, v.Connected)
    (hvs : ∀ v ∈ vs, v.RawsInert) {parts : List Fragment}
    (h : childConditions (b.dialect types) vs = .ok parts) : ∀ f ∈ parts, Inert f.sql := by
  cases vs with
  | nil =>
    cases h
    simp
  | cons v vs =>
    obtain ⟨part, hpart, h⟩ := bind_eq_ok.mp h
    obtain ⟨rest, hrest, h⟩ := bind_eq_ok.mp h
    cases h
    have hfirst := inert_child v (hk v (by simp)) (hvs v (by simp)) hpart
    have hothers := inert_children vs (fun w hw => hk w (List.mem_cons_of_mem v hw))
      (fun w hw => hvs w (List.mem_cons_of_mem v hw)) hrest
    intro f hf
    rcases List.mem_append.mp hf with hf | hf
    · exact hfirst f (by simpa using hf)
    · exact hothers f hf

end

theorem inert_conditionClause {c : Clause} {before : String}
    (hformat : b.formatTexts? c = some (before.toList, ["".toList]))
    (hbefore : isInert before = true) (hend : endsApart before = true) {v : Value}
    (hk : v.Connected) (hv : v.RawsInert) {f : Fragment}
    (h : conditionClause (b.dialect types) c v = .ok f) : Inert f.sql := by
  unfold conditionClause at h
  split at h
  · cases h
    exact Text.inert_empty
  · next children k negated =>
    simp only at h
    split at h
    · cases h
      exact Text.inert_empty
    · obtain ⟨inner, hinner, h⟩ := bind_eq_ok.mp h
      split at h
      · cases h
        exact Text.inert_empty
      · obtain ⟨t, ht, h⟩ := bind_eq_ok.mp h
        cases h
        obtain ⟨parts, hparts, hinner⟩ := bind_eq_ok.mp hinner
        obtain ⟨hconnector, hconnected⟩ := Value.connected_predicate.mp hk
        have hchildren := inert_children types children hconnected
          (fun _ hchild => hv.child hchild) hparts
        exact inert_clause_one types hformat hbefore hend
          (inert_connect types hconnector hchildren hinner) ht
  · cases h

/-! ## Orderings, limits and locks -/

theorem inert_orderText {v : Value} (hv : v.RawsInert) {t : String}
    (h : Statement.orderText (b.dialect types) v = .ok t) : Inert t := by
  unfold Statement.orderText at h
  split at h
  · cases h
    exact hv.raw
  · split at h
    · next name _ =>
      obtain ⟨word, hword, h⟩ := bind_eq_ok.mp h
      have hdesc : b.keywordText? .desc = some "DESC" := by
        cases b <;> decide
      rw [keywordText_eq, hdesc] at hword
      cases hword
      have hinert : isInert " DESC" = true := by decide
      have htext : ∀ column : String, column ++ " " ++ "DESC" = column ++ " DESC" := by
        simp [String.append_assoc]
      rw [← Except.ok.inj h, htext]
      exact (inert_quote types _).append (inert_of_isInert hinert) (.inr (by decide))
    · cases h
      exact inert_quote types _
  · cases h

/-- An ordering is an arrangement, and without one there is no text. -/
theorem arranges_orderFragment {v : Value} (hv : v.RawsInert) {f : Fragment}
    (h : Statement.orderFragment (b.dialect types) v = .ok f) :
    if v.isTrue then Arranges f.sql else f.sql = "" := by
  have hformat : b.formatTexts? .orderBy = some ("ORDER BY ".toList, ["".toList]) := by
    cases b <;> decide
  have hfront : Text.isArrangement "ORDER BY " = true := by decide
  unfold Statement.orderFragment at h
  split at h
  · next htrue =>
    obtain ⟨items, hitems, h⟩ := bind_eq_ok.mp h
    obtain ⟨texts, htexts, h⟩ := bind_eq_ok.mp h
    obtain ⟨t, ht, h⟩ := bind_eq_ok.mp h
    cases h
    have hlist := inert_items hv (fun _ hitem _ ht => inert_orderText types hitem ht) hitems htexts
    rw [clause_one types hformat, String.append_empty] at ht
    cases ht
    rw [if_pos htrue]
    exact (Text.arranges_of_isArrangement hfront).append_inert hlist (.inl (by decide))
  · next hfalse =>
    cases h
    rw [if_neg hfalse]
    rfl

/-- Whole numbers between texts stand there as their numerals. -/
theorem write_numbers {text cs : List Char} {texts : List (List Char)} {ns : List Int}
    (h : Format.write text texts (ns.map .int) = .ok cs) :
    Format.write text texts ((ns.map Text.ofInt).map .text) = .ok cs := by
  induction ns generalizing text texts cs with
  | nil => exact h
  | cons n ns ih =>
    cases texts with
    | nil => exact h
    | cons next texts =>
      obtain ⟨shown, hshown, h⟩ := bind_eq_ok.mp h
      obtain ⟨rest, hrest, h⟩ := bind_eq_ok.mp h
      have hn : shown = Text.ofInt n := Value.eq_ofInt_of_shown hshown
      rw [List.map_cons, List.map_cons, Format.write, ih hrest, ← hn]
      exact h

theorem clause_of_numbers {c : Clause} (ns : List Int) {t : String}
    (h : (b.dialect types).clauseOf (.clause c) (ns.map .int) = .ok t) :
    (b.dialect types).clause c (ns.map Text.ofInt) = .ok t := by
  obtain ⟨value, hvalue, h⟩ := bind_eq_ok.mp h
  rw [formatOf_eq] at hvalue
  cases htext : b.clauseText? c with
  | none =>
    rw [htext] at hvalue
    cases hvalue
  | some text =>
    rw [htext] at hvalue
    cases hvalue
    obtain ⟨first, texts, hformat⟩ := b.formatTexts?_isSome htext
    obtain ⟨_, heq, htexts⟩ := Option.bind_eq_some_iff.mp hformat
    cases htext.symm.trans heq
    replace h : Format.apply text (.ofList (ns.map .int)) = .ok t := h
    rw [Format.apply, Format.fill_eq_write htexts] at h
    obtain ⟨cs, hcs, h⟩ := bind_eq_ok.mp h
    rw [Dialect.clause, Dialect.clauseOf, formatOf_eq, htext]
    show Format.apply text (.ofList ((ns.map Text.ofInt).map .text)) = .ok t
    rw [Format.apply, Format.fill_eq_write htexts, write_numbers hcs]
    exact h

/-- A number behind a text. -/
theorem arranges_number {c : Clause} {before : String} {n : Int} {t : String}
    (hformat : b.formatTexts? c = some (before.toList, ["".toList]))
    (hbefore : Text.isArrangement before = true) (hend : endsApart before = true)
    (h : (b.dialect types).clauseOf (.clause c) [.int n] = .ok t) : Arranges t := by
  have hclause := clause_of_numbers types [n] h
  rw [List.map_cons, List.map_nil, clause_one types hformat, String.append_empty] at hclause
  cases hclause
  exact (Text.arranges_of_isArrangement hbefore).append_inert (Text.inert_ofInt n) (.inl hend)

/-- A limit is an arrangement, and without one there is no text. -/
theorem arranges_limitFragment {s : Statement} {f : Fragment}
    (h : Statement.limitFragment (b.dialect types) s.limit s.offset = .ok f) :
    if s.isLimited then Arranges f.sql else f.sql = "" := by
  unfold Statement.limitFragment at h
  split at h
  · next hnull hfalse =>
    cases h
    rw [Statement.isLimited, hnull, hfalse]
    rfl
  · next hnull htrue =>
    obtain ⟨n, -, h⟩ := bind_eq_ok.mp h
    obtain ⟨t, ht, h⟩ := bind_eq_ok.mp h
    cases h
    have hformat : ∃ before : String, b.formatTexts? .offset = some (before.toList, ["".toList]) ∧
        Text.isArrangement before = true ∧ endsApart before = true := by
      cases b with
      | ansi | postgresql => exact ⟨"OFFSET ", by decide⟩
      | mysql => exact ⟨"LIMIT 18446744073709551615 OFFSET ", by decide⟩
      | sqlite => exact ⟨"LIMIT -1 OFFSET ", by decide⟩
    obtain ⟨before, hformat, hbefore, hend⟩ := hformat
    rw [Statement.isLimited, hnull, htrue]
    exact arranges_number types hformat hbefore hend ht
  · next hnull =>
    obtain ⟨n, -, h⟩ := bind_eq_ok.mp h
    obtain ⟨t, ht, h⟩ := bind_eq_ok.mp h
    cases h
    have hformat : b.formatTexts? .limit = some ("LIMIT ".toList, ["".toList]) := by
      cases b <;> decide
    rw [if_pos (Statement.isLimited_of_ne hnull)]
    exact arranges_number types hformat (by decide) (by decide) ht
  · next hnull =>
    obtain ⟨n, -, h⟩ := bind_eq_ok.mp h
    obtain ⟨m, -, h⟩ := bind_eq_ok.mp h
    obtain ⟨t, ht, h⟩ := bind_eq_ok.mp h
    cases h
    have hformat : b.formatTexts? .limitOffset =
        some ("LIMIT ".toList, [" OFFSET ".toList, "".toList]) := by
      cases b <;> decide
    have hclause := clause_of_numbers types [n, m] ht
    rw [List.map_cons, List.map_cons, List.map_nil, clause_two types hformat,
      String.append_empty] at hclause
    cases hclause
    rw [if_pos (Statement.isLimited_of_ne hnull)]
    have hlimit : Text.isArrangement "LIMIT " = true := by decide
    have hoffset : Text.isArrangement " OFFSET " = true := by decide
    have hfront := (Text.arranges_of_isArrangement hlimit).append_inert (Text.inert_ofInt n)
      (.inl (by decide))
    have hboth := hfront.append (Text.arranges_of_isArrangement hoffset) (.inr (by decide))
    exact hboth.append_inert (Text.inert_ofInt m) (.inl (Text.endsApart_append _ (by decide)))

/-- The words of a lock are an arrangement. -/
theorem arranges_wordFor? {v : Value} (hv : v.isRowLock = true) {t : String}
    (h : b.wordFor? v = some t) : Arranges t := by
  have hall : ∀ k ∈ [Keyword.forUpdateLock, .forShareLock],
      (b.keywordText? k).all Text.isArrangement = true := by
    cases b <;> decide
  obtain ⟨k, hk, htext⟩ := Option.bind_eq_some_iff.mp h
  have hmem : k ∈ [Keyword.forUpdateLock, .forShareLock] := by
    unfold Value.isRowLock at hv
    split at hv
    · cases hk
    · cases hk
      decide
    · cases hk
      decide
    · cases hv
  have harranges := hall k hmem
  rw [htext] at harranges
  exact Text.arranges_of_isArrangement harranges

end Backend

end SqlRender
