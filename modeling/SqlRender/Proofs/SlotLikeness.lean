import SqlRender.Proofs.Likeness

/-!
# Slots of statements that are alike

A relation between fragments that is kept when texts are put together (`Likeness`) holds between
what two statements that are alike put into a slot, and between the operands of set operations.

* `Likeness.conditionClause`: conditions of one shape.
* `Likeness.valuesFragment`, `Likeness.assignments`: rows with columns that stand for each other.
* `Likeness.filling`: all slots.
* `Likeness.operandCongruence`: the operands of set operations.
-/

namespace SqlRender

namespace Likeness

variable {L : Lexicon} {b b' : Backend} {R : Fragment → Fragment → Prop} (hR : Likeness L b b' R)
  {types types' : TypeCatalogue}
include hR

/-! ## Slots without conditions and rows -/

theorem nameFragment {v w : Value} (h : L.Name v w) :
    SameOutcome R (Statement.nameFragment (b.dialect types) v)
      (Statement.nameFragment (b'.dialect types') w) := by
  have htrue : v.isTrue = w.isTrue := by
    cases h with
    | text hst =>
      rw [Bool.eq_iff_iff]
      simp [Value.isTrue, hR.emptyName hst]
    | other _ => rfl
  unfold Statement.nameFragment
  rw [htrue]
  split
  · exact (hR.quoteName h).bind fun s t hst => SameOutcome.pure hst
  · exact hR.empty

theorem fieldList {v w : Value} (h : ItemsLike L.Field v w) :
    SameOutcome (TextsLike R) (Statement.fieldList (b.dialect types) v)
      (Statement.fieldList (b'.dialect types') w) := by
  unfold Statement.fieldList
  refine (Value.asItems_sameOutcome h.items).bind fun items items' hitems => ?_
  refine (SameOutcome.mapM (hitems.imp fun v w hvw => hR.fieldText hvw)).bind fun ss ts hst => ?_
  exact SameOutcome.pure (hR.joinedTexts (by decide) (by decide) hst)

theorem joinsFragment {js ks : List Join} (h : List.Forall₂ (L.Joined b b') js ks) :
    SameOutcome R (Statement.joinsFragment (b.dialect types) js)
      (Statement.joinsFragment (b'.dialect types') ks) := by
  refine (SameOutcome.mapM (h.imp fun j k hjk => hR.joinText hjk)).bind fun ss ts hst => ?_
  exact SameOutcome.pure (hR.joinedTexts (by decide) (by decide) hst)

/-- A clause with one text in it. -/
theorem clauseFragment {c : Clause} (hc : b.SameClause b' c) {s t : String} (h : TextsLike R s t) :
    SameOutcome R (do return .ofSql (← (b.dialect types).clause c [s]))
      (do return .ofSql (← (b'.dialect types').clause c [t])) :=
  (hR.clause hc (.cons h .nil)).bind fun _ _ hst => SameOutcome.pure hst

/-- A clause with the items of a collection in it, nothing if there are none. -/
theorem listFragment {c : Clause} (hc : b.SameClause b' c) {E : Value → Value → Prop}
    {write write' : Value → Except Error String}
    (hwrite : ∀ v w, E v w → SameOutcome (TextsLike R) (write v) (write' w)) {v w : Value}
    (h : ItemsLike E v w) :
    SameOutcome R
      (if v.isTrue then do
        let texts ← (← v.asItems).mapM write
        return .ofSql (← (b.dialect types).clause c [Text.joined ", " texts])
      else .ok .empty)
      (if w.isTrue then do
        let texts ← (← w.asItems).mapM write'
        return .ofSql (← (b'.dialect types').clause c [Text.joined ", " texts])
      else .ok .empty) := by
  rw [h.isTrue]
  split
  · refine (Value.asItems_sameOutcome h.items).bind fun items items' hitems => ?_
    refine (SameOutcome.mapM (hitems.imp hwrite)).bind fun ss ts hst => ?_
    exact hR.clauseFragment hc (hR.joinedTexts (by decide) (by decide) hst)
  · exact hR.empty

theorem groupFragment {v w : Value} (h : ItemsLike L.Column v w) :
    SameOutcome R (Statement.groupFragment (b.dialect types) v)
      (Statement.groupFragment (b'.dialect types') w) :=
  hR.listFragment (Backend.sameClause_of_shared b b' (by decide)) (fun _ _ hvw => hR.columnText hvw)
    h

theorem orderFragment {v w : Value} (h : ItemsLike L.Order v w) :
    SameOutcome R (Statement.orderFragment (b.dialect types) v)
      (Statement.orderFragment (b'.dialect types') w) :=
  hR.listFragment (Backend.sameClause_of_shared b b' (by decide)) (fun _ _ hvw => hR.orderText hvw)
    h

theorem returningFragment {v w : Value} (h : ItemsLike L.Field v w)
    (hc : v.isTrue = true → b.SameClause b' .returning) :
    SameOutcome R (Statement.returningFragment (b.dialect types) v)
      (Statement.returningFragment (b'.dialect types') w) := by
  unfold Statement.returningFragment
  rw [← h.isTrue]
  split
  · next htrue =>
    exact (hR.fieldList h).bind fun s t hst => hR.clauseFragment (hc htrue) hst
  · exact hR.empty

/-- A clause with whole numbers, which both statements have. -/
theorem numbers {c : Clause} (hc : b.SameClause b' c) (ns : List Int) :
    SameOutcome R (do return .ofSql (← (b.dialect types).clauseOf (.clause c) (ns.map .int)))
      (do return .ofSql (← (b'.dialect types').clauseOf (.clause c) (ns.map .int))) := by
  refine ((Backend.clauseOf_same hc (ns.map .int)).and_left
    fun t ht => Backend.isUnmarked_numbers ht).bind ?_
  rintro t _ ⟨rfl, ht⟩
  exact SameOutcome.pure (hR.text ht)

theorem limitFragment (limit offset : Value)
    (hc : limit = .null → offset.isTrue = true → b.SameClause b' .offset) :
    SameOutcome R (Statement.limitFragment (b.dialect types) limit offset)
      (Statement.limitFragment (b'.dialect types') limit offset) := by
  unfold Statement.limitFragment
  split
  · exact hR.empty
  · next htrue =>
    exact SameOutcome.bind_same fun n _ => hR.numbers (hc rfl htrue) [n]
  · exact SameOutcome.bind_same fun n _ =>
      hR.numbers (Backend.sameClause_of_shared b b' (by decide)) [n]
  · exact SameOutcome.bind_same fun n _ => SameOutcome.bind_same fun m _ =>
      hR.numbers (Backend.sameClause_of_shared b b' (by decide)) [n, m]

theorem distinctNames {v w : Value} (hc : b.SameClause b' .distinctOn) (hv : ∀ s, v ≠ .text s)
    (hw : ∀ s, w ≠ .text s) (h : ItemsLike L.Name v w) :
    SameOutcome R (Statement.distinctNames (b.dialect types) v)
      (Statement.distinctNames (b'.dialect types') w) := by
  have hlist : SameOutcome (TextsLike R) ((b.dialect types).quoteList v)
      ((b'.dialect types').quoteList w) :=
    (Value.asItems_sameOutcome h.items).bind fun items items' hitems => hR.quoteNames hitems
  rw [Statement.distinctNames, Statement.distinctNames]
  · exact hlist.bind fun s t hst => hR.clauseFragment hc hst
  · exact hw
  · exact hv

end Likeness

/-- Two fillings that are related fragments. -/
def FillingsLike (R : Fragment → Fragment → Prop) (x y : Filling) : Prop :=
  ∃ f g, R f g ∧ x = f.toFilling ∧ y = g.toFilling

theorem FillingsLike.toFilling {R : Fragment → Fragment → Prop} {f g : Fragment} (h : R f g) :
    FillingsLike R f.toFilling g.toFilling :=
  ⟨f, g, h, rfl, rfl⟩

theorem FillingsLike.exists_fragments {R : Fragment → Fragment → Prop} {xs ys : List Filling}
    (h : List.Forall₂ (FillingsLike R) xs ys) :
    ∃ fs gs, List.Forall₂ R fs gs ∧ xs = fs.map Fragment.toFilling ∧
      ys = gs.map Fragment.toFilling := by
  induction h with
  | nil => exact ⟨[], [], .nil, rfl, rfl⟩
  | cons hxy _ ih =>
    obtain ⟨f, g, hfg, rfl, rfl⟩ := hxy
    obtain ⟨fs, gs, hfs, rfl, rfl⟩ := ih
    exact ⟨f :: fs, g :: gs, .cons hfg hfs, rfl, rfl⟩

/-- The keyword that a value names in a slot of a bundled backend, empty if there is none. -/
theorem Backend.result_slotKeyword (b : Backend) (types : TypeCatalogue) (slot : String)
    (key : Value) :
    (Statement.slotKeyword (b.dialect types) slot key).result = (do
      let key ← key.asKey
      return (Fragment.ofSql
        (((RegistryKey.ofValue? key).bind b.keywordText?).getD "")).toFilling) := by
  rw [Statement.slotKeyword, Traced.result_bind]
  show ((b.dialect types).keywords.find? key >>= _) = _
  rw [Registry.find?_eq, bind_assoc]
  refine bind_congr fun key' => ?_
  cases (RegistryKey.ofValue? key' : Option Keyword) with
  | none => rfl
  | some k =>
    have hitem := keywords_item? b types k
    simp only [pure_bind, Option.bind_some, hitem]
    cases b.keywordText? k <;> rfl

theorem Backend.formatOf_distinct (b : Backend) (types : TypeCatalogue) :
    (b.dialect types).formatOf (.clause .distinct) = .ok (.text "DISTINCT") := by
  have htext : b.clauseText? .distinct = some "DISTINCT" := by
    cases b <;> decide
  rw [formatOf_eq, htext]
  rfl

/-- A value without items has no names. -/
theorem Statement.distinctNames_error {v : Value} (h : v.items? = none) (d : Dialect) :
    distinctNames d v = .error .wrongType := by
  have hitems : v.asItems = .error .wrongType := by
    rw [Value.asItems, h]
  rw [distinctNames, Dialect.quoteList, hitems]
  · rfl
  · rintro s rfl
    cases h

/-- Backends with one sign for a comparison write the same behind a column. -/
theorem Backend.tail_congr {b b' : Backend} {l : Lookup} (h : b.sign l = b'.sign l) (v : Value) :
    b.tail l v = b'.tail l v := by
  unfold tail
  split <;> simp_all

/-- A value that names no clause has no format, whatever the backend. -/
theorem Backend.formatOf_fault (b b' : Backend) (types types' : TypeCatalogue) {key : Value}
    (h : ∀ c, key ≠ .clause c) :
    ∃ e e', (b.dialect types).formatOf key = .error e ∧
      (b'.dialect types').formatOf key = .error e' ∧ e.family = e'.family := by
  have hnone : (RegistryKey.ofValue? key : Option Clause) = none := by
    cases key with
    | clause c => exact absurd rfl (h c)
    | _ => rfl
  unfold Dialect.formatOf
  rw [Registry.lookup_fault _ _ hnone, Registry.lookup_fault _ _ hnone,
    b.owner_eq types Dialect.picks_clauses (fun _ => rfl) rfl,
    b'.owner_eq types' Dialect.picks_clauses (fun _ => rfl) rfl]
  split
  · refine ⟨_, _, rfl, rfl, ?_⟩
    -- both name the same value, and the name of a backend has a text
    cases hkey : key.isWritable <;>
      simp [Error.raised, Error.named, Error.family, Value.isWritable, hkey]
  · exact ⟨_, _, rfl, rfl, rfl⟩

theorem Value.eq_of_asKey {v key : Value} (h : v.asKey = .ok key) : key = v := by
  unfold asKey at h
  split at h <;> cases h
  rfl

namespace Likeness

variable {L : Lexicon} {b b' : Backend} {R : Fragment → Fragment → Prop} (hR : Likeness L b b' R)
  {types types' : TypeCatalogue}
include hR

theorem slotKeyword (slot : String) {key : Value}
    (hk : ∀ k, key = .keyword k → b.SameKeyword b' k) :
    SameOutcome (FillingsLike R) (Statement.slotKeyword (b.dialect types) slot key).result
      (Statement.slotKeyword (b'.dialect types') slot key).result := by
  rw [Backend.result_slotKeyword, Backend.result_slotKeyword]
  refine SameOutcome.bind_same fun key' hkey => SameOutcome.pure ?_
  cases Value.eq_of_asKey hkey
  cases key with
  | keyword k =>
    show FillingsLike R (Fragment.ofSql ((b.keywordText? k).getD "")).toFilling
      (Fragment.ofSql ((b'.keywordText? k).getD "")).toFilling
    rw [← hk k rfl]
    refine .toFilling (hR.text ?_)
    cases htext : b.keywordText? k with
    | none => rfl
    | some t => exact Backend.isUnmarked_keywordText? htext
  | _ => exact .toFilling hR.empty

theorem lockFilling {v : Value} (hk : ∀ k, v = .keyword k → b.SameKeyword b' k) :
    SameOutcome (FillingsLike R) (Statement.lockFilling (b.dialect types) v).result
      (Statement.lockFilling (b'.dialect types') v).result := by
  unfold Statement.lockFilling
  split
  · exact SameOutcome.ok (.toFilling hR.empty)
  · exact hR.slotKeyword "lock" hk

theorem attributeFilling {name : String} {v w : Value} (h : L.Attribute b b' name v w) :
    SameOutcome (FillingsLike R) (Statement.attributeFilling (b.dialect types) name v).result
      (Statement.attributeFilling (b'.dialect types') name w).result := by
  obtain ⟨rfl, hfree, hkeyword⟩ := h
  have hslot : ∀ k, (w = .keyword k ∨ w = .bool true ∧ Keyword.ofTag? name = some k) →
      SameOutcome (FillingsLike R)
        (Statement.slotKeyword (b.dialect types) name (.keyword k)).result
        (Statement.slotKeyword (b'.dialect types') name (.keyword k)).result := by
    intro k hk
    refine hR.slotKeyword name fun k' hk' => ?_
    cases hk'
    exact hkeyword k hk
  unfold Statement.attributeFilling
  split
  · next k => exact hslot k (.inl rfl)
  · split
    · next k hk => exact hslot k (.inr ⟨rfl, hk⟩)
    · exact SameOutcome.ok (.toFilling hR.empty)
  · next sql => exact SameOutcome.ok (.toFilling (hR.rawText (hfree sql (by simp [Value.raws]))))
  · split
    · exact SameOutcome.error _
    · exact SameOutcome.ok (.toFilling hR.empty)

theorem distinctFilling {v w : Value} (h : L.Distinct b b' v w) :
    SameOutcome (FillingsLike R) (Statement.distinctFilling (b.dialect types) v)
      (Statement.distinctFilling (b'.dialect types') w) := by
  have hnames : ∀ v w : Value, v ≠ .bool true → w ≠ .bool true → v.isTrue = w.isTrue →
      (v.isTrue = true → SameOutcome R (Statement.distinctNames (b.dialect types) v)
        (Statement.distinctNames (b'.dialect types') w)) →
      SameOutcome (FillingsLike R) (Statement.distinctFilling (b.dialect types) v)
        (Statement.distinctFilling (b'.dialect types') w) := by
    intro v w hv hw htrue hvw
    rw [Statement.distinctFilling, Statement.distinctFilling, ← htrue]
    · split
      · next hv => exact (hvw hv).map fun _ _ => .toFilling
      · exact SameOutcome.ok (.toFilling hR.empty)
    · exact hw
    · exact hv
  cases h with
  | same hv =>
    by_cases hall : v = .bool true
    · subst hall
      rw [Statement.distinctFilling, Statement.distinctFilling, Backend.formatOf_distinct,
        Backend.formatOf_distinct]
      exact SameOutcome.ok (.toFilling (hR.text (t := "DISTINCT") (by decide)))
    · refine hnames v v hall hall rfl fun htrue => ?_
      have hitems := (hv htrue).resolve_left hall
      rw [Statement.distinctNames_error hitems, Statement.distinctNames_error hitems]
      exact SameOutcome.error .wrongType
  | @name s t hc hst =>
    have htrue : (Value.text s).isTrue = (Value.text t).isTrue := by
      rw [Bool.eq_iff_iff]
      simp [Value.isTrue, hR.emptyName hst]
    exact hnames _ _ (by simp) (by simp) htrue fun _ =>
      hR.clauseFragment hc (hR.quote types types' hst)
  | names hc hv hw hsome hvw =>
    have hne : ∀ {v : Value}, v.items? ≠ none → v ≠ .bool true := by
      rintro _ hv rfl
      exact hv rfl
    have hsome' : w.items? ≠ none := by
      intro hnone
      have hitems := hvw.items
      rw [hnone] at hitems
      cases hv : v.items? with
      | none => exact hsome hv
      | some items =>
        rw [hv] at hitems
        cases hitems
    exact hnames _ _ (hne hsome) (hne hsome') hvw.isTrue fun _ => hR.distinctNames hc hv hw hvw

/-! ## Conditions -/

theorem enclosed {c : Clause} (hc : b.SameClause b' c) {f g : Fragment} (h : R f g) :
    SameOutcome R (f.enclosed (b.dialect types) c) (g.enclosed (b'.dialect types') c) := by
  have hwhole : SameOutcome R (Fragment.inClause (b.dialect types) c [f])
      (Fragment.inClause (b'.dialect types') c [g]) := hR.inClause hc (.cons h .nil)
  simpa [Fragment.inClause, Fragment.enclosed] using hwhole

theorem connect {k : Keyword} (hk : b.SameKeyword b' k) (negated : Bool) {fs gs : List Fragment}
    (h : List.Forall₂ R fs gs) :
    SameOutcome R (connect (b.dialect types) k negated fs)
      (connect (b'.dialect types') k negated gs) := by
  cases h with
  | nil => exact hR.empty
  | cons hfg hrest =>
    rw [connect_cons, connect_cons]
    refine (Backend.keywordText_same hk).bind ?_
    rintro word _ ⟨rfl, hword⟩
    have hjoined := hR.joined (by simp) (Text.isUnmarked_spaced hword) (.cons hfg hrest)
    cases negated with
    | false => exact hjoined
    | true => exact hR.enclosed (Backend.sameClause_of_shared b b' (by decide)) hjoined

/-- A tail behind two columns that stand for each other. -/
theorem tail {column column' : String} (h : TextsLike R column column') {t : Tail Value}
    (hsign : t.sign ∈ b.signs t) (hfree : ∀ v ∈ t.operands, L.Free v) :
    R (t.fragment column) (t.fragment column') := by
  have hall : (b.signs t).all (fun sign => sign != "" && Text.isUnmarked sign.toList) = true := by
    cases t <;> cases b <;> simp only [Backend.signs] <;> decide
  have hspec := List.all_eq_true.mp hall t.sign hsign
  rw [Bool.and_eq_true, bne_iff_ne] at hspec
  obtain ⟨hne, hunmarked⟩ := hspec
  cases t with
  | test sign => exact hR.behind hunmarked h
  | single sign v =>
    have hwhole := hR.between hne hunmarked h (hR.place (hfree v (by simp [Tail.operands])))
    simpa [Fragment.append, Fragment.ofSql, Tail.fragment, Tail.map, Tail.text, Tail.operands,
      Tail.sign, String.append_assoc] using hwhole
  | range sign low high =>
    have hlow := hR.between hne hunmarked h (hR.place (hfree low (by simp [Tail.operands])))
    have hwhole := hR.between (t := " AND ") (by decide) (by decide) hlow
      (hR.place (hfree high (by simp [Tail.operands])))
    simpa [Fragment.append, Fragment.ofSql, Tail.fragment, Tail.map, Tail.text, Tail.operands,
      Tail.sign, String.append_assoc] using hwhole
  | list sign items =>
    have hplaces : List.Forall₂ R (items.map Fragment.ofValue) (items.map Fragment.ofValue) := by
      rw [List.forall₂_map_left_iff, List.forall₂_map_right_iff]
      exact List.forall₂_same.mpr fun v hv => hR.place (hfree v hv)
    have hlist : R (Fragment.joined ", " (items.map .ofValue))
        (Fragment.joined ", " (items.map .ofValue)) :=
      hR.joined (by decide) (by decide) hplaces
    have hwhole := hR.behind (t := ")") (by decide) (hR.between hne hunmarked h hlist)
    rw [Fragment.joined_eq] at hwhole
    simpa [Fragment.append, Fragment.ofSql, Tail.fragment, Tail.map, Tail.text, Tail.operands,
      Tail.sign, String.append_assoc, List.flatMap_map, Function.comp_def] using hwhole

theorem comparison {l : Lookup} (hl : b.sign l = b'.sign l) {column column' : String}
    (h : TextsLike R column column') {v : Value} (hfree : L.Free v) :
    SameOutcome R (comparison (b.dialect types) l column v)
      (comparison (b'.dialect types') l column' v) := by
  rw [Backend.comparison_eq, Backend.comparison_eq, ← Backend.tail_congr hl v]
  have hself : SameOutcome (fun t t' => t = t' ∧ b.tail l v = .ok t) (b.tail l v) (b.tail l v) :=
    SameOutcome.refl fun t ht => ⟨rfl, ht⟩
  refine hself.map ?_
  rintro t _ ⟨rfl, ht⟩
  obtain ⟨hoperands, hsign⟩ := Backend.tail_spec ht
  refine hR.tail h hsign fun w hw sql hsql => hfree sql ?_
  rw [hoperands] at hw
  exact Lookup.raws_operand hw hsql

/-- A condition stands in parentheses, unless it is empty. -/
theorem inParentheses {f g : Fragment} (h : R f g) :
    Option.Rel R (if f.sql = "" then none else some ⟨"(" ++ f.sql ++ ")", f.params⟩)
      (if g.sql = "" then none else some ⟨"(" ++ g.sql ++ ")", g.params⟩) := by
  by_cases hf : f.sql = ""
  · rw [if_pos hf, if_pos ((hR.isEmpty h).mp hf)]
    exact .none
  · rw [if_neg hf, if_neg (mt (hR.isEmpty h).mpr hf)]
    exact .some (hR.parenthesized h)

end Likeness

/-- Other children than predicates, raw SQL and lookups have no condition in any dialect. -/
theorem childCondition_fault {v : Value} (h : v.isCondition = false) :
    ∃ e, ∀ d, childCondition d v = .error e := by
  cases v with
  | predicate => cases h
  | raw => cases h
  | tuple items =>
    refine ⟨.badValue, fun d => ?_⟩
    unfold childCondition
    split <;> first | rfl | simp_all [Value.isCondition]
  | _ => exact ⟨_, fun d => rfl⟩

theorem lookupKey_fault {key : Value} (h : ∀ s, key ≠ .text s) : ∃ e, lookupKey key = .error e := by
  cases key with
  | text s => exact absurd rfl (h s)
  | _ => exact ⟨_, rfl⟩

namespace Likeness

variable {L : Lexicon} {b b' : Backend} {R : Fragment → Fragment → Prop}
  {types types' : TypeCatalogue}

mutual

theorem child (hR : Likeness L b b' R) {v w : Value} : L.Tree b b' v w →
    SameOutcome (Option.Rel R) (childCondition (b.dialect types) v)
      (childCondition (b'.dialect types') w)
  | .node hk hcs => by
    rw [childCondition, childCondition]
    refine (hR.children hcs).bind fun fs gs hfs => ?_
    refine (hR.connect hk _ hfs).bind fun f g hfg => ?_
    exact SameOutcome.pure (hR.inParentheses hfg)
  | .raw hsql => by
    rw [childCondition, childCondition]
    exact SameOutcome.ok (.some (hR.rawText hsql))
  | @Lexicon.Tree.lookup _ _ _ key key' v hlookup hcolumn hsign hfree => by
    have hcondition : SameOutcome R (lookupCondition (b.dialect types) (.text key) v)
        (lookupCondition (b'.dialect types') (.text key') v) := by
      show SameOutcome R _ (SqlRender.comparison _ (LookupKey.read key').lookup _ v)
      rw [hlookup]
      exact hR.comparison hsign (hR.quote types types' hcolumn) hfree
    rw [childCondition, childCondition]
    exact hcondition.bind fun f g hfg => SameOutcome.pure (.some hfg)
  | .other hv => by
    obtain ⟨e, he⟩ := childCondition_fault hv
    rw [he, he]
    exact SameOutcome.error e
  | .keyless hkey => by
    obtain ⟨e, he⟩ := lookupKey_fault hkey
    rw [childCondition, childCondition, lookupCondition, lookupCondition, he]
    exact SameOutcome.error e

theorem children (hR : Likeness L b b' R) {vs ws : List Value} : L.Trees b b' vs ws →
    SameOutcome (List.Forall₂ R) (childConditions (b.dialect types) vs)
      (childConditions (b'.dialect types') ws)
  | .nil => .nil
  | .cons hvw hrest => by
    rw [childConditions, childConditions]
    refine (hR.child hvw).bind fun part part' hpart => ?_
    refine (hR.children hrest).bind fun parts parts' hparts => ?_
    refine SameOutcome.pure ?_
    cases hpart with
    | none => exact hparts
    | some hpart => exact .cons hpart hparts

end

variable (hR : Likeness L b b' R)
include hR

/-- Two conditions inside a clause. -/
theorem conditionClause {c : Clause} (hc : b.SameClause b' c) {v w : Value}
    (h : L.Tree b b' v w) :
    SameOutcome R (conditionClause (b.dialect types) c v)
      (conditionClause (b'.dialect types') c w) := by
  cases h with
  | raw _ | lookup _ _ _ _ | keyless _ => exact SameOutcome.error .noMember
  | other hv =>
    cases v with
    | null => exact hR.empty
    | predicate => cases hv
    | _ => exact SameOutcome.error .noMember
  | @node cs ds k negated hk hcs =>
    have hne : cs.isEmpty = ds.isEmpty := by
      cases hcs <;> rfl
    have hlast : ∀ f g, R f g → SameOutcome R
        (if f.sql = "" then (pure .empty : Except Error Fragment)
          else f.enclosed (b.dialect types) c)
        (if g.sql = "" then (pure .empty : Except Error Fragment)
          else g.enclosed (b'.dialect types') c) := by
      intro f g hfg
      by_cases hf : f.sql = ""
      · rw [if_pos hf, if_pos ((hR.isEmpty hfg).mp hf)]
        exact hR.empty
      · rw [if_neg hf, if_neg (mt (hR.isEmpty hfg).mpr hf)]
        exact hR.enclosed hc hfg
    have hcondition : SameOutcome R (Predicate.condition (b.dialect types) ⟨cs, k, negated⟩)
        (Predicate.condition (b'.dialect types') ⟨ds, k, negated⟩) :=
      (hR.children hcs).bind fun _ _ hfs => hR.connect hk negated hfs
    show SameOutcome R
      (if cs.isEmpty then pure .empty else do
        let f ← Predicate.condition (b.dialect types) ⟨cs, k, negated⟩
        if f.sql = "" then pure .empty else f.enclosed (b.dialect types) c)
      (if ds.isEmpty then pure .empty else do
        let g ← Predicate.condition (b'.dialect types') ⟨ds, k, negated⟩
        if g.sql = "" then pure .empty else g.enclosed (b'.dialect types') c)
    rw [hne]
    split
    · exact hR.empty
    · exact hcondition.bind hlast

end Likeness

/-! ## Rows -/

namespace Lexicon

variable {L : Lexicon}

theorem Row.isTrue_eq {v w : Value} (h : L.Row v w) : v.isTrue = w.isTrue := by
  cases h with
  | map hes => cases hes <;> rfl
  | other _ => rfl

theorem Row.asMapping {v w : Value} (h : L.Row v w) :
    SameOutcome (List.Forall₂ L.Entry) v.asMapping w.asMapping := by
  cases h with
  | map hes => exact hes
  | other hv =>
    cases v with
    | map es => exact absurd rfl (hv es)
    | _ => exact SameOutcome.error .noMember

theorem rows_checked {vs ws : List Value} (h : List.Forall₂ L.Row vs ws) :
    (vs.isEmpty || !vs.all Value.isTrue) = (ws.isEmpty || !ws.all Value.isTrue) := by
  have hall : vs.all Value.isTrue = ws.all Value.isTrue := by
    induction h with
    | nil => rfl
    | cons hvw _ ih => rw [List.all_cons, List.all_cons, hvw.isTrue_eq, ih]
  have hempty : vs.isEmpty = ws.isEmpty := by
    cases h <;> rfl
  rw [hall, hempty]

theorem Rows.givenRows {v w : Value} (h : L.Rows v w) :
    SameOutcome (List.Forall₂ L.Row) (Statement.givenRows v) (Statement.givenRows w) := by
  cases h with
  | row hes => exact .cons (.map hes) .nil
  | items hv hw hvw =>
    rw [Statement.givenRows, Statement.givenRows, hvw.isTrue]
    · split
      · exact Value.asItems_sameOutcome hvw.items
      · exact .nil
    · exact hw
    · exact hv

theorem Rows.isTrue_eq {v w : Value} (h : L.Rows v w) : v.isTrue = w.isTrue := by
  cases h with
  | row hes => cases hes <;> rfl
  | items _ _ hvw => exact hvw.isTrue

theorem Rows.asMapping {v w : Value} (h : L.Rows v w) :
    SameOutcome (List.Forall₂ L.Entry) v.asMapping w.asMapping := by
  have hfault : ∀ v : Value, (∀ es, v ≠ .map es) → v.asMapping = .error .noMember := by
    intro v hv
    cases v with
    | map es => exact absurd rfl (hv es)
    | _ => rfl
  cases h with
  | row hes => exact hes
  | items hv hw _ =>
    rw [hfault v hv, hfault w hw]
    exact SameOutcome.error .noMember

theorem Rows.insertRows {v w : Value} (h : L.Rows v w) :
    SameOutcome (List.Forall₂ L.Row) (Statement.insertRows v) (Statement.insertRows w) := by
  rw [Statement.insertRows_eq, Statement.insertRows_eq]
  refine h.givenRows.bind fun vs ws hrows => ?_
  rw [rows_checked hrows]
  split
  · exact SameOutcome.error .noRow
  · exact hrows

theorem columns_like {es fs : Mapping} (h : List.Forall₂ L.Entry es fs) :
    List.Forall₂ L.Name (es.map Prod.fst) (fs.map Prod.fst) := by
  rw [List.forall₂_map_left_iff, List.forall₂_map_right_iff]
  exact h.imp fun e f hef => hef.column

end Lexicon

/-- A text differs from every value that is none. -/
theorem Value.same?_text {s : String} {v : Value} (h : ∀ t, v ≠ .text t) :
    same? (.text s) v = some false ∧ same? v (.text s) = some false := by
  cases v with
  | text t => exact absurd rfl (h t)
  | _ => simp [same?, sameAmount?, amount?]

namespace Likeness

variable {L : Lexicon} {b b' : Backend} {R : Fragment → Fragment → Prop} (hR : Likeness L b b' R)
  {types types' : TypeCatalogue}
include hR

/-- A name equals another exactly if the names that they stand for are equal. -/
theorem same?_eq {v v' w w' : Value} (h : L.Name v v') (h' : L.Name w w') :
    Value.same? v w = Value.same? v' w' := by
  cases h with
  | text hst =>
    cases h' with
    | text hst' => simp [Value.same?, hR.sameName hst hst']
    | other hw => rw [(Value.same?_text hw).1, (Value.same?_text hw).1]
  | other hv =>
    cases h' with
    | text _ => rw [(Value.same?_text hv).2, (Value.same?_text hv).2]
    | other _ => rfl

theorem sameAll_eq {vs vs' ws ws' : List Value} (h : List.Forall₂ L.Name vs vs')
    (h' : List.Forall₂ L.Name ws ws') : Value.sameAll vs ws = Value.sameAll vs' ws' := by
  have hall : Value.sameAll? vs ws = Value.sameAll? vs' ws' := by
    induction h generalizing ws ws' with
    | nil => cases h' <;> rfl
    | cons hname _ ih =>
      cases h' with
      | nil => rfl
      | cons hname' hrest =>
        rw [Value.sameAll?, Value.sameAll?, hR.same?_eq hname hname', ih hrest]
  rw [Value.sameAll, hall, Value.sameAll]

/-- Fragments with a comma between them. -/
theorem list {fs gs : List Fragment} (h : List.Forall₂ R fs gs) :
    R ⟨Text.joined ", " (fs.map Fragment.sql), fs.flatMap Fragment.params⟩
      ⟨Text.joined ", " (gs.map Fragment.sql), gs.flatMap Fragment.params⟩ := by
  rw [← Fragment.joined_eq, ← Fragment.joined_eq]
  exact hR.joined (by decide) (by decide) h

theorem rowFragment {es fs : Mapping} (h : List.Forall₂ L.Entry es fs) :
    R (Statement.rowFragment es) (Statement.rowFragment fs) := by
  have hplaces : List.Forall₂ R (es.map fun e => .ofValue e.2) (fs.map fun f => .ofValue f.2) := by
    rw [List.forall₂_map_left_iff, List.forall₂_map_right_iff]
    refine h.imp fun e f hef => ?_
    rw [hef.value]
    exact hR.place hef.free
  exact hR.parenthesized (hR.list hplaces)

theorem matchingRow {columns columns' : List Value}
    (hcolumns : List.Forall₂ L.Name columns columns') {v w : Value} (h : L.Row v w) :
    SameOutcome R (Statement.matchingRow columns v) (Statement.matchingRow columns' w) := by
  refine h.asMapping.bind fun es fs hes => ?_
  rw [hR.sameAll_eq (Lexicon.columns_like hes) hcolumns]
  split
  · exact hR.rowFragment hes
  · exact SameOutcome.error .rowsDiffer

theorem valuesFragment {v w : Value} (h : L.Rows v w) :
    SameOutcome R (Statement.valuesFragment v) (Statement.valuesFragment w) := by
  refine h.insertRows.bind fun rows rows' hrows => ?_
  cases hrows with
  | nil => exact SameOutcome.error .noRow
  | cons hfirst hrest =>
    refine hfirst.asMapping.bind fun es fs hes => ?_
    have hothers := SameOutcome.mapM
      (hrest.imp fun v w hvw => hR.matchingRow (Lexicon.columns_like hes) hvw)
    refine hothers.bind fun parts parts' hparts => SameOutcome.pure ?_
    exact hR.list (.cons (hR.rowFragment hes) hparts)

theorem insertFields {v w : Value} (h : L.Rows v w) :
    SameOutcome R (Statement.insertFields (b.dialect types) v)
      (Statement.insertFields (b'.dialect types') w) := by
  refine h.insertRows.bind fun rows rows' hrows => ?_
  have hfirst : L.Row (rows.headD .null) (rows'.headD .null) := by
    cases hrows with
    | nil => exact .other (by simp)
    | cons hrow _ => exact hrow
  refine hfirst.asMapping.bind fun es fs hes => ?_
  refine (hR.quoteNames (Lexicon.columns_like hes)).bind fun s t hst => SameOutcome.pure ?_
  exact hR.parenthesized hst

theorem assignment {e f : Value × Value} (h : L.Entry e f) :
    SameOutcome R (Statement.assignment (b.dialect types) e)
      (Statement.assignment (b'.dialect types') f) := by
  refine (hR.quoteName h.column).bind fun s t hst => SameOutcome.pure ?_
  rw [h.value]
  have hwhole := hR.between (t := " = ") (by decide) (by decide) hst (hR.place h.free)
  simpa [Fragment.append, Fragment.ofSql] using hwhole

theorem assignments {v w : Value} (h : L.Rows v w) :
    SameOutcome R (Statement.assignments (b.dialect types) v)
      (Statement.assignments (b'.dialect types') w) := by
  unfold Statement.assignments
  rw [h.isTrue_eq]
  split
  · exact SameOutcome.error .noAssignment
  · refine h.asMapping.bind fun es fs hes => ?_
    refine (SameOutcome.mapM (hes.imp fun e f hef => hR.assignment hef)).bind fun fs gs hfs => ?_
    exact SameOutcome.pure (hR.list hfs)

/-! ## Statements -/

theorem fieldsFragment {s t : Statement} (h : StatementLike L b b' s t) :
    SameOutcome R (Statement.fieldsFragment (b.dialect types) s)
      (Statement.fieldsFragment (b'.dialect types') t) := by
  have hfields := h.fields
  unfold Statement.fieldsFragment
  rw [h.kind]
  split
  · next hkind =>
    rw [Statement.hasData, hkind] at hfields
    exact hR.insertFields hfields
  · next hkind =>
    rw [Statement.hasData, hkind] at hfields
    exact hR.assignments hfields
  · next hinsert hupdate =>
    have hdata : s.hasData = false := by
      unfold Statement.hasData
      split
      · next hkind => exact absurd hkind hinsert
      · next hkind => exact absurd hkind hupdate
      · rfl
    simp only [hdata, Bool.false_eq_true, if_false] at hfields
    exact (hR.fieldList hfields).bind fun s t hst => SameOutcome.pure hst

/-- What two statements that are alike put into a slot. The slots for the values of an insert, for
an index, for parts of a schema and for attributes are left to those who have them. -/
theorem filling {s t : Statement} (h : StatementLike L b b' s t)
    {operands operands' : Traced Fragment}
    (hoperands : SameOutcome R operands.result operands'.result) {slot : Slot}
    (hvalues : slot = .values → s.hasData = true)
    (hattribute : ∀ name, slot = .attribute name →
      L.Attribute b b' name (s.attributes.find name) (t.attributes.find name))
    (hslot : slot ∉ [.index, .columns, .keys, .options]) :
    SameOutcome (FillingsLike R) (s.filling (b.dialect types) operands slot).result
      (t.filling (b'.dialect types') operands' slot).result := by
  have hasFilling : ∀ x y : Except Error Fragment, SameOutcome R x y →
      SameOutcome (FillingsLike R) (Statement.asFilling x).result (Statement.asFilling y).result :=
    fun x y hxy => hxy.map fun _ _ => .toFilling
  cases slot with
  | table => exact hasFilling _ _ (hR.nameFragment h.table)
  | fields => exact hasFilling _ _ (hR.fieldsFragment h)
  | values =>
    have hrows := h.fields
    rw [if_pos (hvalues rfl)] at hrows
    exact hasFilling _ _ (hR.valuesFragment hrows)
  | distinct => exact hR.distinctFilling h.distinct
  | joins => exact hasFilling _ _ (hR.joinsFragment h.joins)
  | filter =>
    have hc := Backend.sameClause_of_shared b b' (c := .filter) (by decide)
    exact hasFilling _ _ (hR.conditionClause hc h.filter)
  | having =>
    have hc := Backend.sameClause_of_shared b b' (c := .having) (by decide)
    exact hasFilling _ _ (hR.conditionClause hc h.having)
  | groupBy => exact hasFilling _ _ (hR.groupFragment h.groupBy)
  | orderBy => exact hasFilling _ _ (hR.orderFragment h.orderBy)
  | limit =>
    rw [Statement.filling, Statement.filling, h.limit, h.offset]
    exact hasFilling _ _ (hR.limitFragment s.limit s.offset h.offsetClause)
  | lock =>
    rw [Statement.filling, Statement.filling, h.lock]
    exact hR.lockFilling h.lockKeyword
  | compounds =>
    rw [Statement.filling, Statement.filling, Traced.result_map, Traced.result_map]
    exact hoperands.map fun _ _ => .toFilling
  | returning => exact hasFilling _ _ (hR.returningFragment h.returning h.returningClause)
  | «attribute» name => exact hR.attributeFilling (hattribute name rfl)
  | index | columns | keys | options => exact absurd (by decide) hslot

/-- What two statements that are alike put into a slot of the template of the first backend. -/
theorem slotFilling {s t : Statement} (h : StatementLike L b b' s t) {k : StatementKind}
    (hs : s.kind = .kind k) (hk : k.isData = true) {operands operands' : Traced Fragment}
    (hoperands : SameOutcome R operands.result operands'.result)
    {name : String} (hname : name ∈ (b.template k).names)
    (hattribute : ∀ slot, Slot.ofName name = .attribute slot →
      L.Attribute b b' slot (s.attributes.find slot) (t.attributes.find slot)) :
    SameOutcome (FillingsLike R) (s.slotFilling (b.dialect types) operands name)
      (t.slotFilling (b'.dialect types') operands' name) := by
  refine hR.filling h hoperands (fun hvalues => ?_) hattribute (b.slots_of_rows hk name hname)
  have hsuits := (b.template_regular hk).suits name hname
  rw [hvalues] at hsuits
  cases of_decide_eq_true hsuits
  rw [Statement.hasData, hs]

/-! ## Operands of set operations -/

/-- Operands of set operations that both backends write alike. -/
theorem operandCongruence :
    OperandCongruence (b.dialect types) (b'.dialect types')
      (fun clause => ∀ c, clause = .clause c → b.SameClause b' c) R where
  empty := hR.empty
  operand {clause f g} hclause h := by
    by_cases hc : ∃ c, clause = .clause c
    · obtain ⟨c, rfl⟩ := hc
      exact hR.enclosed (hclause c rfl) h
    · obtain ⟨e, e', he, he', hfamily⟩ := b.formatOf_fault b' types types' fun c hcontra =>
        hc ⟨c, hcontra⟩
      rw [Fragment.operand, Fragment.operand, Dialect.clauseOf, Dialect.clauseOf, he, he']
      exact hfamily
  next {f f' g g'} h h' := by
    have hwhole := hR.between (t := " ") (by decide) (by decide) h h'
    simpa [Fragment.append, Fragment.ofSql] using hwhole

end Likeness

end SqlRender
