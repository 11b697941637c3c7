import SqlRender.Proofs.Comparison
import SqlRender.Proofs.Steady

/-!
# What fills the slots that bind nothing

The names, joins, groupings, orderings, limits and keywords of a statement are steady texts in a
bundled dialect, as long as the raw SQL among them has neither question marks nor marks.
-/

namespace SqlRender

theorem steady_ofInt {b : Backend} {lit : Value → String} (n : Int) :
    Steady b.markChar lit (Text.ofInt n) := by
  rw [steady_iff]
  refine .of_plain fun c hc => ?_
  have hdigit := Text.mem_ofInt hc
  constructor
  · rintro rfl
    revert hdigit
    decide
  · rintro rfl
    revert hdigit
    cases b <;> decide

namespace Statement

variable {b : Backend} {lit : Value → String} (types : TypeCatalogue)

/-- The fragment stands as it is whatever the literals are, and binds nothing. -/
abbrev SteadyFragment (b : Backend) (lit : Value → String) (f : Fragment) : Prop :=
  f.AlignedWith b.markChar lit f

theorem steady_empty : SteadyFragment b lit .empty := ⟨.nil, rfl⟩

theorem steady_nameFragment {v : Value} {f : Fragment}
    (h : nameFragment (b.dialect types) v = .ok f) : SteadyFragment b lit f := by
  unfold nameFragment at h
  split at h
  · obtain ⟨t, ht, h⟩ := bind_eq_ok.mp h
    cases h
    exact Backend.steady_quoteName types ht
  · cases h
    exact steady_empty

theorem steady_columnText {v : Value} (hv : v.Plain b) {t : String}
    (h : columnText (b.dialect types) v = .ok t) : Steady b.markChar lit t := by
  unfold columnText at h
  split at h
  · cases h
    exact Backend.steady_of_isPlain hv.raw
  · exact Backend.steady_quoteName types h

theorem steady_fieldText {v : Value} (hv : v.Plain b) {t : String}
    (h : fieldText (b.dialect types) v = .ok t) : Steady b.markChar lit t := by
  unfold fieldText at h
  split at h
  · next items =>
    obtain ⟨⟨column, label⟩, hpair, h⟩ := bind_eq_ok.mp h
    obtain ⟨first, hfirst, h⟩ := bind_eq_ok.mp h
    obtain ⟨second, hsecond, h⟩ := bind_eq_ok.mp h
    have hitems := Value.asPair_eq_ok.mp hpair
    have hcolumn : column.Plain b := hv.item hitems (by simp)
    obtain ⟨name, -, hname⟩ := bind_eq_ok.mp hsecond
    rw [← Except.ok.inj hname] at h
    exact Backend.steady_clause_two types (steady_columnText types hcolumn hfirst)
      (Backend.steady_quoteIdentifier types name) h
  · exact steady_columnText types hv h

/-- Texts that are made from the items of a value, with a comma between them. -/
theorem steady_items {v : Value} (hv : v.Plain b) {write : Value → Except Error String}
    (hwrite : ∀ item : Value, item.Plain b → ∀ t, write item = .ok t → Steady b.markChar lit t)
    {items : List Value} (hitems : v.asItems = .ok items) {texts : List String}
    (htexts : items.mapM write = .ok texts) :
    Steady b.markChar lit (Text.joined ", " texts) := by
  refine Steady.joined (Backend.steady_sign (by simp)) ?_
  refine forall_of_mapM_eq_ok htexts fun item hitem t ht => hwrite item ?_ t ht
  exact hv.item (Value.asItems_eq_ok.mp hitems) hitem

theorem steady_fieldList {v : Value} (hv : v.Plain b) {t : String}
    (h : fieldList (b.dialect types) v = .ok t) : Steady b.markChar lit t := by
  obtain ⟨items, hitems, h⟩ := bind_eq_ok.mp h
  obtain ⟨texts, htexts, h⟩ := bind_eq_ok.mp h
  cases h
  exact steady_items hv (fun item hitem t ht => steady_fieldText types hitem ht) hitems htexts

theorem steady_distinctNames {v : Value} {f : Fragment}
    (h : distinctNames (b.dialect types) v = .ok f) : SteadyFragment b lit f := by
  unfold distinctNames at h
  split at h
  · next name =>
    obtain ⟨t, ht, h⟩ := bind_eq_ok.mp h
    cases h
    exact Backend.steady_clause types rfl (by simp [Backend.steady_quote types]) ht
  · obtain ⟨names, hnames, h⟩ := bind_eq_ok.mp h
    obtain ⟨t, ht, h⟩ := bind_eq_ok.mp h
    cases h
    obtain ⟨items, -, hquoted⟩ := bind_eq_ok.mp hnames
    obtain ⟨texts, htexts, hjoined⟩ := bind_eq_ok.mp hquoted
    cases hjoined
    refine Backend.steady_clause types rfl (fun arg harg => ?_) ht
    rw [List.mem_singleton.mp harg]
    refine Steady.joined (Backend.steady_sign (by simp)) ?_
    exact forall_of_mapM_eq_ok htexts fun item _ t ht => Backend.steady_quoteName types ht

theorem steady_joinText {j : Join} {t : String} (h : joinText (b.dialect types) j = .ok t) :
    Steady b.markChar lit t := by
  obtain ⟨word, hword, h⟩ := bind_eq_ok.mp h
  have hspace : Steady b.markChar lit " " := Backend.steady_sign (by simp)
  refine Backend.steady_clause_two types (Backend.steady_quote types j.table) ?_ h
  refine Steady.joined ((hspace.append (Backend.steady_keywordText types hword)).append hspace) ?_
  intro condition hcondition
  obtain ⟨⟨left, right⟩, -, rfl⟩ := List.mem_map.mp hcondition
  exact ((Backend.steady_quote types left).append (Backend.steady_sign (by simp))).append
    (Backend.steady_quote types right)

theorem steady_joinsFragment {joins : List Join} {f : Fragment}
    (h : joinsFragment (b.dialect types) joins = .ok f) : SteadyFragment b lit f := by
  obtain ⟨texts, htexts, h⟩ := bind_eq_ok.mp h
  cases h
  refine Steady.joined (Backend.steady_sign (by simp)) ?_
  exact forall_of_mapM_eq_ok htexts fun j _ t ht => steady_joinText types ht

theorem steady_groupFragment {v : Value} (hv : v.Plain b) {f : Fragment}
    (h : groupFragment (b.dialect types) v = .ok f) : SteadyFragment b lit f := by
  unfold groupFragment at h
  split at h
  · obtain ⟨items, hitems, h⟩ := bind_eq_ok.mp h
    obtain ⟨texts, htexts, h⟩ := bind_eq_ok.mp h
    obtain ⟨t, ht, h⟩ := bind_eq_ok.mp h
    cases h
    have hjoined : Steady b.markChar lit (Text.joined ", " texts) :=
      steady_items hv (fun item hitem t ht => steady_columnText types hitem ht) hitems htexts
    exact Backend.steady_clause types rfl (by simpa using hjoined) ht
  · cases h
    exact steady_empty

theorem steady_orderText {v : Value} (hv : v.Plain b) {t : String}
    (h : orderText (b.dialect types) v = .ok t) : Steady b.markChar lit t := by
  unfold orderText at h
  split at h
  · cases h
    exact Backend.steady_of_isPlain hv.raw
  · split at h
    · obtain ⟨word, hword, h⟩ := bind_eq_ok.mp h
      rw [← Except.ok.inj h]
      exact ((Backend.steady_quote types _).append (Backend.steady_sign (by simp))).append
        (Backend.steady_keywordText types hword)
    · cases h
      exact Backend.steady_quote types _
  · cases h

theorem steady_orderFragment {v : Value} (hv : v.Plain b) {f : Fragment}
    (h : orderFragment (b.dialect types) v = .ok f) : SteadyFragment b lit f := by
  unfold orderFragment at h
  split at h
  · obtain ⟨items, hitems, h⟩ := bind_eq_ok.mp h
    obtain ⟨texts, htexts, h⟩ := bind_eq_ok.mp h
    obtain ⟨t, ht, h⟩ := bind_eq_ok.mp h
    cases h
    have hjoined : Steady b.markChar lit (Text.joined ", " texts) :=
      steady_items hv (fun item hitem t ht => steady_orderText types hitem ht) hitems htexts
    exact Backend.steady_clause types rfl (by simpa using hjoined) ht
  · cases h
    exact steady_empty

/-- A clause with whole numbers. -/
theorem steady_numbers {c : Clause} (hc : c.hasMarkers = false) (ns : List Int) {t : String}
    (h : (b.dialect types).clauseOf (.clause c) (ns.map .int) = .ok t) :
    Steady b.markChar lit t := by
  refine Backend.steady_clauseOf types hc (fun arg harg s hs => ?_) h
  obtain ⟨n, -, rfl⟩ := List.mem_map.mp harg
  rw [Value.eq_ofInt_of_shown hs]
  exact steady_ofInt n

theorem steady_limitFragment {limit offset : Value} {f : Fragment}
    (h : limitFragment (b.dialect types) limit offset = .ok f) : SteadyFragment b lit f := by
  unfold limitFragment at h
  split at h
  · cases h
    exact steady_empty
  · obtain ⟨n, -, h⟩ := bind_eq_ok.mp h
    obtain ⟨t, ht, h⟩ := bind_eq_ok.mp h
    cases h
    exact steady_numbers types rfl [n] ht
  · obtain ⟨n, -, h⟩ := bind_eq_ok.mp h
    obtain ⟨t, ht, h⟩ := bind_eq_ok.mp h
    cases h
    exact steady_numbers types rfl [n] ht
  · obtain ⟨n, -, h⟩ := bind_eq_ok.mp h
    obtain ⟨m, -, h⟩ := bind_eq_ok.mp h
    obtain ⟨t, ht, h⟩ := bind_eq_ok.mp h
    cases h
    exact steady_numbers types rfl [n, m] ht

theorem steady_returningFragment {v : Value} (hv : v.Plain b) {f : Fragment}
    (h : returningFragment (b.dialect types) v = .ok f) : SteadyFragment b lit f := by
  unfold returningFragment at h
  split at h
  · obtain ⟨fields, hfields, h⟩ := bind_eq_ok.mp h
    obtain ⟨t, ht, h⟩ := bind_eq_ok.mp h
    cases h
    have hlist : Steady b.markChar lit fields := steady_fieldList types hv hfields
    exact Backend.steady_clause types rfl (by simpa using hlist) ht
  · cases h
    exact steady_empty

/-! ## Fillings -/

/-- The filling is a steady fragment. -/
def SteadyFilling (b : Backend) (lit : Value → String) (x : Filling) : Prop :=
  ∃ f, SteadyFragment b lit f ∧ x = f.toFilling

theorem steady_asFilling {y : Except Error Fragment} {x : Filling}
    (hy : ∀ f, y = .ok f → SteadyFragment b lit f) (h : (asFilling y).result = .ok x) :
    SteadyFilling b lit x := by
  obtain ⟨f, hf, rfl⟩ := map_eq_ok.mp h
  exact ⟨f, hy f hf, rfl⟩

theorem steadyFilling_text {t : String} (h : Steady b.markChar lit t) :
    SteadyFilling b lit { item := .text t } :=
  ⟨.ofSql t, h, rfl⟩

theorem steady_distinctFilling {v : Value} {x : Filling}
    (h : distinctFilling (b.dialect types) v = .ok x) : SteadyFilling b lit x := by
  unfold distinctFilling at h
  split at h
  · obtain ⟨item, hitem, h⟩ := bind_eq_ok.mp h
    cases h
    rw [Backend.formatOf_eq] at hitem
    cases hformat : b.clauseText? .distinct with
    | none =>
      rw [hformat] at hitem
      cases hitem
    | some format =>
      rw [hformat] at hitem
      cases hitem
      have hplain := Backend.plain_of_clauseText? rfl hformat
      exact steadyFilling_text (Backend.steady_of_isPlain (Backend.isPlain_of_plain hplain b))
  · split at h
    · obtain ⟨f, hf, rfl⟩ := map_eq_ok.mp h
      exact ⟨f, steady_distinctNames types hf, rfl⟩
    · cases h
      exact ⟨.empty, steady_empty, rfl⟩

theorem steady_slotKeyword {slot : String} {key : Value} {x : Filling}
    (h : (slotKeyword (b.dialect types) slot key).result = .ok x) : SteadyFilling b lit x := by
  rw [slotKeyword, Traced.result_bind] at h
  obtain ⟨item, hitem, h⟩ := bind_eq_ok.mp h
  obtain ⟨key', -, hfind⟩ := bind_eq_ok.mp ((Registry.find?_eq _ key).symm.trans hitem)
  cases hk : (RegistryKey.ofValue? key' : Option Keyword) with
  | none =>
    rw [hk] at hfind
    cases hfind
    cases h
    exact steadyFilling_text (steady_iff.mpr .nil)
  | some k =>
    rw [hk, Option.bind_some, Backend.keywords_item?] at hfind
    cases htext : b.keywordText? k with
    | none =>
      rw [htext] at hfind
      cases hfind
      cases h
      exact steadyFilling_text (steady_iff.mpr .nil)
    | some t =>
      rw [htext] at hfind
      cases hfind
      cases h
      exact steadyFilling_text (Backend.steady_keywordText? htext)

theorem steady_attributeFilling {slot : String} {v : Value} (hv : v.Plain b) {x : Filling}
    (h : (attributeFilling (b.dialect types) slot v).result = .ok x) : SteadyFilling b lit x := by
  unfold attributeFilling at h
  split at h
  · exact steady_slotKeyword types h
  · split at h
    · exact steady_slotKeyword types h
    · cases h
      exact steadyFilling_text (steady_iff.mpr .nil)
  · cases h
    exact steadyFilling_text (Backend.steady_of_isPlain hv.raw)
  · split at h
    · cases h
    · cases h
      exact steadyFilling_text (steady_iff.mpr .nil)

theorem steady_lockFilling {v : Value} {x : Filling}
    (h : (lockFilling (b.dialect types) v).result = .ok x) : SteadyFilling b lit x := by
  unfold lockFilling at h
  split at h
  · cases h
    exact steadyFilling_text (steady_iff.mpr .nil)
  · exact steady_slotKeyword types h

end Statement

theorem Value.Plain.find {b : Backend} {m : Mapping} (h : (Value.map m).Plain b) (key : String) :
    (m.find key).Plain b := by
  unfold Mapping.find
  cases hvalue : Assoc.get? (Value.text key) m with
  | none =>
    intro sql hsql
    cases hsql
  | some v =>
    obtain ⟨k, -, hmem⟩ := Assoc.mem_of_get? hvalue
    exact h.entry hmem

/-- The values of a statement that can hold raw SQL. -/
def Statement.rawPlaces (s : Statement) : List Value :=
  [s.fields, s.filter, s.groupBy, s.having, s.orderBy, s.returning, .map s.attributes]

/-- The raw SQL in a statement. -/
def Statement.raws (s : Statement) : List String := s.rawPlaces.flatMap Value.raws

/-- What a statement puts into a slot that binds nothing is steady. -/
theorem Backend.steady_filling {b : Backend} {lit : Value → String} (types : TypeCatalogue)
    {s : Statement} {k : StatementKind} (hs : s.kind = .kind k)
    (hplain : ∀ v ∈ s.rawPlaces, v.Plain b) {operands : Traced Fragment} {slot : Slot}
    (hsuits : slot.suits k = true) (hbinds : s.binds slot = false) {x : Filling}
    (h : (s.filling (b.dialect types) operands slot).result = .ok x) :
    Statement.SteadyFilling b lit x := by
  have hfields : s.fields.Plain b := hplain _ (by simp [Statement.rawPlaces])
  cases slot with
  | table | index =>
    exact Statement.steady_asFilling (fun f hf => Statement.steady_nameFragment types hf) h
  | fields =>
    have hlist : ∀ f, Statement.fieldsFragment (b.dialect types) s = .ok f →
        Statement.SteadyFragment b lit f := by
      intro f hf
      unfold Statement.fieldsFragment at hf
      simp only [Statement.binds, Statement.hasData] at hbinds
      split at hf
      · next hkind => rw [hkind] at hbinds; cases hbinds
      · next hkind => rw [hkind] at hbinds; cases hbinds
      · obtain ⟨t, ht, hf⟩ := bind_eq_ok.mp hf
        cases hf
        exact Statement.steady_fieldList types hfields ht
    exact Statement.steady_asFilling hlist h
  -- only an insert has this slot, and there it binds
  | values =>
    simp only [Slot.suits, decide_eq_true_eq] at hsuits
    simp [Statement.binds, Statement.hasData, hs, hsuits] at hbinds
  | distinct => exact Statement.steady_distinctFilling types h
  | joins =>
    exact Statement.steady_asFilling (fun f hf => Statement.steady_joinsFragment types hf) h
  | filter | having | compounds => cases hbinds
  | groupBy =>
    have hv : s.groupBy.Plain b := hplain _ (by simp [Statement.rawPlaces])
    exact Statement.steady_asFilling (fun f hf => Statement.steady_groupFragment types hv hf) h
  | orderBy =>
    have hv : s.orderBy.Plain b := hplain _ (by simp [Statement.rawPlaces])
    exact Statement.steady_asFilling (fun f hf => Statement.steady_orderFragment types hv hf) h
  | limit =>
    exact Statement.steady_asFilling (fun f hf => Statement.steady_limitFragment types hf) h
  | lock => exact Statement.steady_lockFilling types h
  | returning =>
    have hv : s.returning.Plain b := hplain _ (by simp [Statement.rawPlaces])
    exact Statement.steady_asFilling (fun f hf => Statement.steady_returningFragment types hv hf) h
  | columns | keys | options => cases hsuits
  | «attribute» name =>
    have hv : (Value.map s.attributes).Plain b := hplain _ (by simp [Statement.rawPlaces])
    exact Statement.steady_attributeFilling types (hv.find name) h

end SqlRender
