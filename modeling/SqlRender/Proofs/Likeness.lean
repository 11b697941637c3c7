import SqlRender.Proofs.Raw
import SqlRender.Proofs.Tree
import SqlRender.Proofs.Vocabulary

/-!
# Statements alike

Two statements are alike when they differ only in their names, and a given relation holds between
the names in one place. They may be compiled by two backends, as long as these have the same words
for what the statements use. What the two are compiled to is compared by a relation `R` between
fragments that holds between quoted names that stand for each other, and is kept when texts are put
around and between fragments (`Likeness`).

* `Lexicon`: which names stand for each other, and which raw SQL both statements may hold.
* `StatementLike`: statements that are alike.
* `Likeness.inClause`: a clause with related fragments in its places.
* `Likeness.fieldText`, `Likeness.orderText`, `Likeness.joinText`: the texts that name columns.
-/

namespace SqlRender

/-! ## Values alike -/

/-- Which names of two statements stand for each other, and which raw SQL may stand in both. -/
structure Lexicon where
  name : String → String → Prop
  raw : String → Prop

/-- Two collections with as many items, related one by one. -/
structure ItemsLike (E : Value → Value → Prop) (v w : Value) : Prop where
  isTrue : v.isTrue = w.isTrue
  items : Option.Rel (List.Forall₂ E) v.items? w.items?

namespace Lexicon

variable (L : Lexicon)

/-- All raw SQL in a value may stand in both statements. -/
def Free (v : Value) : Prop := ∀ sql ∈ v.raws, L.raw sql

/-- Two values in the place of a name. What is no text has no name in it. -/
inductive Name : Value → Value → Prop
  | text {s t : String} : L.name s t → Name (.text s) (.text t)
  | other {v : Value} : (∀ s, v ≠ .text s) → Name v v

/-- Two columns: names, or raw SQL. -/
inductive Column : Value → Value → Prop
  | raw {sql : String} : L.raw sql → Column (.raw sql) (.raw sql)
  | name {v w : Value} : (∀ sql, v ≠ .raw sql) → L.Name v w → Column v w

/-- Two fields: columns, or columns with an alias. -/
inductive Field : Value → Value → Prop
  | column {v w : Value} : (∀ items, v ≠ .tuple items) → L.Column v w → Field v w
  | labelled {column column' label label' : Value} : L.Column column column' → L.Name label label' →
      Field (.tuple [column, label]) (.tuple [column', label'])
  | other {items : List Value} : items.length ≠ 2 → Field (.tuple items) (.tuple items)

/-- Two items of an ordering, both ascending or both descending. -/
inductive Order : Value → Value → Prop
  | raw {sql : String} : L.raw sql → Order (.raw sql) (.raw sql)
  | ascending {s t : String} : L.name s t → s.toList.head? ≠ some '-' → t.toList.head? ≠ some '-' →
      Order (.text s) (.text t)
  | descending {s t : String} : L.name s t → Order (.text ("-" ++ s)) (.text ("-" ++ t))
  | other {v : Value} : (∀ sql, v ≠ .raw sql) → (∀ s, v ≠ .text s) → Order v v

/-- Two entries of rows: columns that stand for each other, with one value. -/
structure Entry (e f : Value × Value) : Prop where
  column : L.Name e.1 f.1
  value : f.2 = e.2
  free : L.Free e.2

/-- Two rows. -/
inductive Row : Value → Value → Prop
  | map {es fs : Mapping} : List.Forall₂ L.Entry es fs → Row (.map es) (.map fs)
  | other {v : Value} : (∀ es, v ≠ .map es) → Row v v

/-- The rows of two inserts or updates; one map is one row. -/
inductive Rows : Value → Value → Prop
  | row {es fs : Mapping} : List.Forall₂ L.Entry es fs → Rows (.map es) (.map fs)
  | items {v w : Value} : (∀ es, v ≠ .map es) → (∀ es, w ≠ .map es) → ItemsLike L.Row v w →
      Rows v w

variable (b b' : Backend)

/-- What two selects are distinct by: nothing, all columns, or names. -/
inductive Distinct : Value → Value → Prop
  | same {v : Value} : (v.isTrue = true → v = .bool true ∨ v.items? = none) → Distinct v v
  | name {s t : String} : b.SameClause b' .distinctOn → L.name s t → Distinct (.text s) (.text t)
  | names {v w : Value} : b.SameClause b' .distinctOn → (∀ s, v ≠ .text s) → (∀ s, w ≠ .text s) →
      v.items? ≠ none → ItemsLike L.Name v w → Distinct v w

/-- Two joins of one kind. -/
structure Joined (j k : Join) : Prop where
  kind : k.kind = j.kind
  clause : b.SameClause b' j.kind
  table : L.name j.table k.table
  on : List.Forall₂ (fun p q => L.name p.1 q.1 ∧ L.name p.2 q.2) j.on k.on

mutual

/-- Two conditions of one shape, with the same connectors, comparisons and values. -/
inductive Tree : Value → Value → Prop
  | node {cs ds : List Value} {k : Keyword} {negated : Bool} : b.SameKeyword b' k → Trees cs ds →
      Tree (.predicate cs k negated) (.predicate ds k negated)
  | raw {sql : String} : L.raw sql → Tree (.raw sql) (.raw sql)
  | lookup {key key' : String} {v : Value} :
      (LookupKey.read key').lookup = (LookupKey.read key).lookup →
      L.name (LookupKey.read key).column (LookupKey.read key').column →
      b.sign (LookupKey.read key).lookup = b'.sign (LookupKey.read key).lookup → L.Free v →
      Tree (.tuple [.text key, v]) (.tuple [.text key', v])
  | other {v : Value} : v.isCondition = false → Tree v v
  | keyless {key v : Value} : (∀ s, key ≠ .text s) → Tree (.tuple [key, v]) (.tuple [key, v])

inductive Trees : List Value → List Value → Prop
  | nil : Trees [] []
  | cons {v w : Value} {vs ws : List Value} : Tree v w → Trees vs ws → Trees (v :: vs) (w :: ws)

end

/-- One value of a slot that is filled from the attributes. -/
structure Attribute (name : String) (v w : Value) : Prop where
  same : w = v
  free : L.Free v
  keyword : ∀ k, v = .keyword k ∨ v = .bool true ∧ Keyword.ofTag? name = some k → b.SameKeyword b' k

end Lexicon

/-- Two statements that differ in their names at most, for two backends with the same words for
what the statements use. -/
structure StatementLike (L : Lexicon) (b b' : Backend) (s t : Statement) : Prop where
  kind : t.kind = s.kind
  table : L.Name s.table t.table
  fields : if s.hasData then L.Rows s.fields t.fields else ItemsLike L.Field s.fields t.fields
  distinct : L.Distinct b b' s.distinct t.distinct
  joins : List.Forall₂ (L.Joined b b') s.joins t.joins
  filter : L.Tree b b' s.filter t.filter
  groupBy : ItemsLike L.Column s.groupBy t.groupBy
  having : L.Tree b b' s.having t.having
  orderBy : ItemsLike L.Order s.orderBy t.orderBy
  limit : t.limit = s.limit
  offset : t.offset = s.offset
  offsetClause : s.limit = .null → s.offset.isTrue = true → b.SameClause b' .offset
  lock : t.lock = s.lock
  lockKeyword : ∀ k, s.lock = .keyword k → b.SameKeyword b' k
  returning : ItemsLike L.Field s.returning t.returning
  returningClause : s.returning.isTrue = true → b.SameClause b' .returning

theorem ItemsLike.nil {E : Value → Value → Prop} : ItemsLike E (.tuple []) (.tuple []) :=
  ⟨rfl, .some .nil⟩

/-- Two selects with nothing but a table and fields. -/
theorem StatementLike.select {L : Lexicon} {b b' : Backend} {v v' w w' : Value}
    (htable : L.Name v v') (hfields : ItemsLike L.Field w w') :
    StatementLike L b b' (Statement.select v w) (Statement.select v' w') where
  kind := rfl
  table := htable
  fields := hfields
  distinct := .same fun h => nomatch h
  joins := .nil
  filter := .other rfl
  groupBy := .nil
  having := .other rfl
  orderBy := .nil
  limit := rfl
  offset := rfl
  offsetClause _ h := nomatch h
  lock := rfl
  lockKeyword _ h := nomatch h
  returning := .nil
  returningClause h := nomatch h

/-- The relation `R` between fragments holds between names that stand for each other, and is kept
when texts are put around and between fragments. -/
structure Likeness (L : Lexicon) (b b' : Backend) (R : Fragment → Fragment → Prop) : Prop where
  empty : R .empty .empty
  isEmpty {f g : Fragment} : R f g → (f.sql = "" ↔ g.sql = "")
  between {f f' g g' : Fragment} {t : String} : t ≠ "" → Text.isUnmarked t.toList = true →
    R f g → R f' g' → R ((f.append (.ofSql t)).append f') ((g.append (.ofSql t)).append g')
  place {v : Value} : L.Free v → R (.ofValue v) (.ofValue v)
  emptyName {s t : String} : L.name s t → (s = "" ↔ t = "")
  sameName {s t s' t' : String} : L.name s t → L.name s' t' → (s = s' ↔ t = t')
  quote {s t : String} (types types' : TypeCatalogue) : L.name s t →
    R (.ofSql ((b.dialect types).quote s)) (.ofSql ((b'.dialect types').quote t))
  identifier {s t : String} (types types' : TypeCatalogue) : L.name s t →
    R (.ofSql ((b.dialect types).quoteIdentifier s))
      (.ofSql ((b'.dialect types').quoteIdentifier t))

/-! ## Texts around and between fragments -/

namespace Fragment

/-- Fragments in the places of a format. -/
def woven (text : List Char) : List (List Char) → List Fragment → Fragment
  | next :: texts, f :: fs => (ofSql (String.ofList text)).append (f.append (woven next texts fs))
  | _, _ => ofSql (String.ofList text)

theorem woven_eq {texts : List (List Char)} {fs : List Fragment} (h : fs.length = texts.length)
    (text : List Char) :
    woven text texts fs = ⟨String.ofList (Format.weave text texts (fs.map (·.sql.toList))),
      fs.flatMap params⟩ := by
  induction texts generalizing fs text with
  | nil =>
    cases fs with
    | nil => simp [woven, Format.weave, ofSql]
    | cons f fs => cases h
  | cons next texts ih =>
    cases fs with
    | nil => cases h
    | cons f fs =>
      rw [woven, ih (Nat.succ.inj h)]
      simp [append, ofSql, Format.weave, String.ofList_append]

end Fragment

namespace Likeness

variable {L : Lexicon} {b b' : Backend} {R : Fragment → Fragment → Prop} (hR : Likeness L b b' R)
include hR

theorem text {t : String} (ht : Text.isUnmarked t.toList = true) : R (.ofSql t) (.ofSql t) := by
  by_cases hempty : t = ""
  · subst hempty
    exact hR.empty
  · have hwhole := hR.between hempty ht hR.empty hR.empty
    simpa [Fragment.append, Fragment.ofSql, Fragment.empty] using hwhole

/-- A text in front. -/
theorem before {t : String} (ht : Text.isUnmarked t.toList = true) {f g : Fragment} (h : R f g) :
    R ((Fragment.ofSql t).append f) ((Fragment.ofSql t).append g) := by
  by_cases hempty : t = ""
  · subst hempty
    simpa [Fragment.append, Fragment.ofSql] using h
  · have hwhole := hR.between hempty ht hR.empty h
    simpa [Fragment.append, Fragment.ofSql, Fragment.empty] using hwhole

/-- A text behind. -/
theorem behind {t : String} (ht : Text.isUnmarked t.toList = true) {f g : Fragment} (h : R f g) :
    R (f.append (.ofSql t)) (g.append (.ofSql t)) := by
  by_cases hempty : t = ""
  · subst hempty
    simpa [Fragment.append, Fragment.ofSql] using h
  · have hwhole := hR.between hempty ht h hR.empty
    simpa [Fragment.append, Fragment.ofSql, Fragment.empty] using hwhole

theorem joined {sep : String} (hne : sep ≠ "") (hsep : Text.isUnmarked sep.toList = true)
    {fs gs : List Fragment} (h : List.Forall₂ R fs gs) :
    R (Fragment.joined sep fs) (Fragment.joined sep gs) := by
  induction h with
  | nil => exact hR.empty
  | cons hfg hrest ih =>
    cases hrest with
    | nil => exact hfg
    | cons _ _ => exact hR.between hne hsep hfg ih

theorem parenthesized {f g : Fragment} (h : R f g) :
    R ⟨"(" ++ f.sql ++ ")", f.params⟩ ⟨"(" ++ g.sql ++ ")", g.params⟩ := by
  have hwhole := hR.behind (t := ")") (by decide)
    (hR.before (t := "(") (by decide) h)
  simpa [Fragment.append, Fragment.ofSql] using hwhole

/-- Fragments in the places of a format that has text between any two of them. -/
theorem woven {text : List Char} {texts : List (List Char)} (htext : Text.isUnmarked text = true)
    (htexts : ∀ t ∈ texts, Text.isUnmarked t = true) (hne : ∀ t ∈ texts.dropLast, t ≠ [])
    {fs gs : List Fragment} (h : List.Forall₂ R fs gs) (hlength : fs.length = texts.length) :
    R (Fragment.woven text texts fs) (Fragment.woven text texts gs) := by
  induction h generalizing text texts with
  | nil =>
    have hwhole := hR.text (t := String.ofList text) (by simpa using htext)
    cases texts with
    | nil => exact hwhole
    | cons _ _ => cases hlength
  | @cons f g fs gs hfg hrest ih =>
    cases texts with
    | nil => cases hlength
    | cons next texts =>
      rw [Fragment.woven, Fragment.woven]
      refine hR.before (by simpa using htext) ?_
      have hnext : Text.isUnmarked next = true := htexts next (by simp)
      cases texts with
      | nil =>
        cases hrest with
        | nil => exact hR.behind (by simpa using hnext) hfg
        | cons _ _ => cases hlength
      | cons next' texts =>
        -- the text behind the first place is not the last one
        have hbetween : next ≠ [] := hne next (by simp)
        have hothers : R (Fragment.woven [] (next' :: texts) fs)
            (Fragment.woven [] (next' :: texts) gs) := ih rfl
          (fun t ht => htexts t (List.mem_cons_of_mem next ht))
          (fun t ht => hne t (by simpa using .inr ht)) (Nat.succ.inj hlength)
        have hwhole := hR.between (t := String.ofList next) (by simpa using hbetween)
          (by simpa using hnext) hfg hothers
        cases hrest with
        | nil => cases hlength
        | cons _ _ =>
          simpa [Fragment.woven, Fragment.append, Fragment.ofSql, String.append_assoc] using hwhole

end Likeness

/-- Two texts that bind nothing. -/
def TextsLike (R : Fragment → Fragment → Prop) (s t : String) : Prop := R (.ofSql s) (.ofSql t)

theorem Fragment.sql_ofSqls (texts : List String) : (texts.map ofSql).map sql = texts := by
  rw [List.map_map]
  exact List.map_id texts

theorem Fragment.params_ofSqls (texts : List String) : (texts.map ofSql).flatMap params = [] := by
  simp [ofSql]

theorem TextsLike.forall₂ {R : Fragment → Fragment → Prop} {ss ts : List String}
    (h : List.Forall₂ (TextsLike R) ss ts) :
    List.Forall₂ R (ss.map Fragment.ofSql) (ts.map Fragment.ofSql) := by
  rw [List.forall₂_map_left_iff, List.forall₂_map_right_iff]
  exact h

/-- Fragments in the places of a clause. -/
def Fragment.inClause (d : Dialect) (c : Clause) (fs : List Fragment) : Except Error Fragment := do
  return ⟨← d.clause c (fs.map sql), fs.flatMap params⟩

namespace Likeness

variable {L : Lexicon} {b b' : Backend} {R : Fragment → Fragment → Prop} (hR : Likeness L b b' R)
  {types types' : TypeCatalogue}
include hR

theorem inClause {c : Clause} (hc : b.SameClause b' c) {fs gs : List Fragment}
    (h : List.Forall₂ R fs gs) :
    SameOutcome R (Fragment.inClause (b.dialect types) c fs)
      (Fragment.inClause (b'.dialect types') c gs) := by
  unfold Fragment.inClause
  cases hformat : b.clauseText? c with
  | none =>
    have hformat' : b'.clauseText? c = none := hc.symm.trans hformat
    simp only [Dialect.clause, Dialect.clauseOf, Backend.formatOf_eq, hformat, hformat']
    exact (rfl : Error.Family.unknownSymbol = .unknownSymbol)
  | some format =>
    obtain ⟨text, texts, htexts⟩ := b.formatTexts?_isSome hformat
    have htexts' : b'.formatTexts? c = some (text, texts) := by
      rwa [Backend.formatTexts?, ← hc, ← Backend.formatTexts?]
    rw [Backend.clause_eq types htexts, Backend.clause_eq types' htexts', List.length_map,
      List.length_map, ← h.length_eq]
    split
    · next hlength =>
      obtain ⟨htext, hothers, hne⟩ := Backend.formatTexts?_spec htexts
      have hwoven := hR.woven htext hothers hne h hlength
      rw [Fragment.woven_eq hlength, Fragment.woven_eq (h.length_eq ▸ hlength)] at hwoven
      simp only [List.map_map]
      exact SameOutcome.pure hwoven
    · exact SameOutcome.error .wrongType

/-! ## Texts -/

theorem betweenTexts {sep : String} (hne : sep ≠ "") (hsep : Text.isUnmarked sep.toList = true)
    {s s' t t' : String} (h : TextsLike R s t) (h' : TextsLike R s' t') :
    TextsLike R (s ++ sep ++ s') (t ++ sep ++ t') :=
  hR.between hne hsep h h'

/-- Texts with one text between neighbours. -/
theorem joinedTexts {sep : String} (hne : sep ≠ "") (hsep : Text.isUnmarked sep.toList = true)
    {ss ts : List String} (h : List.Forall₂ (TextsLike R) ss ts) :
    TextsLike R (Text.joined sep ss) (Text.joined sep ts) := by
  have hjoined := hR.joined hne hsep (TextsLike.forall₂ h)
  rw [Fragment.joined_eq, Fragment.joined_eq, Fragment.sql_ofSqls, Fragment.sql_ofSqls,
    Fragment.params_ofSqls, Fragment.params_ofSqls] at hjoined
  exact hjoined

/-- Texts in the places of a clause. -/
theorem clause {c : Clause} (hc : b.SameClause b' c) {ss ts : List String}
    (h : List.Forall₂ (TextsLike R) ss ts) :
    SameOutcome (TextsLike R) ((b.dialect types).clause c ss)
      ((b'.dialect types').clause c ts) := by
  have hwhole : SameOutcome R (Fragment.inClause (b.dialect types) c (ss.map .ofSql))
      (Fragment.inClause (b'.dialect types') c (ts.map .ofSql)) :=
    hR.inClause hc (TextsLike.forall₂ h)
  rw [Fragment.inClause, Fragment.inClause, Fragment.sql_ofSqls, Fragment.sql_ofSqls,
    Fragment.params_ofSqls, Fragment.params_ofSqls] at hwhole
  revert hwhole
  cases (b.dialect types).clause c ss <;> cases (b'.dialect types').clause c ts <;>
    exact fun hwhole => hwhole

theorem quoteName {v w : Value} (h : L.Name v w) :
    SameOutcome (TextsLike R) ((b.dialect types).quoteName v)
      ((b'.dialect types').quoteName w) := by
  cases h with
  | text hst => exact SameOutcome.ok (hR.quote types types' hst)
  | other hv =>
    cases v with
    | text s => exact absurd rfl (hv s)
    | _ => exact SameOutcome.error .noMember

theorem quoteIdentifierOf {v w : Value} (h : L.Name v w) :
    SameOutcome (TextsLike R) ((b.dialect types).quoteIdentifierOf v)
      ((b'.dialect types').quoteIdentifierOf w) := by
  cases h with
  | text hst => exact SameOutcome.ok (hR.identifier types types' hst)
  | other hv =>
    cases v with
    | text s => exact absurd rfl (hv s)
    | _ => exact SameOutcome.error .noMember

theorem quoteNames {vs ws : List Value} (h : List.Forall₂ L.Name vs ws) :
    SameOutcome (TextsLike R) ((b.dialect types).quoteNames vs)
      ((b'.dialect types').quoteNames ws) := by
  refine (SameOutcome.mapM (h.imp fun v w hvw => hR.quoteName hvw)).bind fun ss ts hst => ?_
  exact SameOutcome.pure (hR.joinedTexts (by decide) (by decide) hst)

theorem rawText {sql : String} (h : L.raw sql) : R (.ofSql sql) (.ofSql sql) :=
  hR.place (v := .raw sql) (by simpa [Lexicon.Free, Value.raws] using h)

theorem columnText {v w : Value} (h : L.Column v w) :
    SameOutcome (TextsLike R) (Statement.columnText (b.dialect types) v)
      (Statement.columnText (b'.dialect types') w) := by
  cases h with
  | raw hsql => exact SameOutcome.ok (hR.rawText hsql)
  | name hv hvw =>
    have hw : ∀ sql, w ≠ .raw sql := by
      cases hvw with
      | text _ => simp
      | other _ => exact hv
    rw [Statement.columnText, Statement.columnText]
    · exact hR.quoteName hvw
    · exact hw
    · exact hv

theorem fieldText {v w : Value} (h : L.Field v w) :
    SameOutcome (TextsLike R) (Statement.fieldText (b.dialect types) v)
      (Statement.fieldText (b'.dialect types') w) := by
  cases h with
  | column hv hvw =>
    have hw : ∀ items, w ≠ .tuple items := by
      cases hvw with
      | raw _ => simp
      | name _ hvw =>
        cases hvw with
        | text _ => simp
        | other _ => exact hv
    rw [Statement.fieldText, Statement.fieldText]
    · exact hR.columnText hvw
    · exact hw
    · exact hv
  | labelled hcolumn hlabel =>
    refine (hR.columnText hcolumn).bind fun s t hst => ?_
    refine (hR.quoteIdentifierOf hlabel).bind fun s' t' hst' => ?_
    exact hR.clause (Backend.sameClause_of_shared b b' (by decide)) (.cons hst (.cons hst' .nil))
  | @other items hitems =>
    have hpair : (Value.tuple items).asPair = .error .badValue := by
      unfold Value.asPair
      split
      · next a b' hpair =>
        cases hpair
        exact absurd rfl hitems
      · rfl
      · next hnone => cases hnone
    rw [Statement.fieldText, Statement.fieldText, hpair]
    exact SameOutcome.error .badValue

theorem orderText {v w : Value} (h : L.Order v w) :
    SameOutcome (TextsLike R) (Statement.orderText (b.dialect types) v)
      (Statement.orderText (b'.dialect types') w) := by
  cases h with
  | raw hsql => exact SameOutcome.ok (hR.rawText hsql)
  | @ascending s t hst hs ht =>
    have hplain : ∀ (d : Dialect) (s : String), s.toList.head? ≠ some '-' →
        Statement.orderText d (.text s) = .ok (d.quote s) := by
      intro d s hs
      rw [Statement.orderText]
      split
      · next name hname =>
        rw [hname] at hs
        exact absurd rfl hs
      · rfl
    rw [hplain _ s hs, hplain _ t ht]
    exact SameOutcome.ok (hR.quote types types' hst)
  | @descending s t hst =>
    have hminus : ∀ (d : Dialect) (s : String), Statement.orderText d (.text ("-" ++ s)) = (do
        return d.quote s ++ " " ++ (← d.keywordText .desc)) := by
      intro d s
      have hchars : ("-" ++ s).toList = '-' :: s.toList := by simp
      rw [Statement.orderText, hchars]
      simp
    rw [hminus, hminus]
    refine (Backend.keywordText_same (Backend.sameKeyword_of_shared b b' (by decide))).bind ?_
    rintro word _ ⟨rfl, hword⟩
    exact SameOutcome.pure (hR.betweenTexts (by decide) (by decide)
      (hR.quote types types' hst) (hR.text hword))
  | other hraw htext =>
    cases v with
    | raw sql => exact absurd rfl (hraw sql)
    | text s => exact absurd rfl (htext s)
    | _ => exact SameOutcome.error .noMember

theorem joinText {j k : Join} (h : L.Joined b b' j k) :
    SameOutcome (TextsLike R) (Statement.joinText (b.dialect types) j)
      (Statement.joinText (b'.dialect types') k) := by
  unfold Statement.joinText
  refine (Backend.keywordText_same (Backend.sameKeyword_of_shared b b' (by decide))).bind ?_
  rintro word _ ⟨rfl, hword⟩
  have hcondition : ∀ p q : String × String, L.name p.1 q.1 ∧ L.name p.2 q.2 →
      TextsLike R ((b.dialect types).quote p.1 ++ " = " ++ (b.dialect types).quote p.2)
        ((b'.dialect types').quote q.1 ++ " = " ++ (b'.dialect types').quote q.2) := by
    rintro p q ⟨hleft, hright⟩
    exact hR.betweenTexts (by decide) (by decide) (hR.quote types types' hleft)
      (hR.quote types types' hright)
  have hconditions := hR.joinedTexts (by simp) (Text.isUnmarked_spaced hword)
    (List.rel_map hcondition h.on)
  rw [h.kind]
  exact hR.clause h.clause (.cons (hR.quote types types' h.table) (.cons hconditions .nil))

end Likeness

end SqlRender
