import SqlRender.Proofs.Marker
import SqlRender.Proofs.Raw
import SqlRender.Proofs.Tree

/-!
# Filters are never lost

A statement that reads, changes or deletes rows has its filter in the SQL whenever the filter has
a leaf. What is left out are nodes without leaves, negated or not.

* `Backend.children_rendering`: a condition renders each of its leaves once, in order.
* `Template.infix_of_renderValues`: a text that ends in no blank stands in the SQL as it is.
* `filter_never_lost`: both together for the statements of the bundled dialects.
-/

namespace SqlRender

/-- The text is not empty and does not end in a blank. -/
def Text.endsSolid (s : String) : Bool := s.toList.getLast?.any fun c => !isBlank c

theorem Text.endsSolid_append (s : String) {t : String} (h : endsSolid t = true) :
    endsSolid (s ++ t) = true := by
  obtain ⟨c, hc, hblank⟩ := (Option.any_eq_true _ _).mp h
  rw [endsSolid, String.toList_append, List.getLast?_append, hc]
  exact hblank

theorem Text.ne_empty_of_endsSolid {s : String} (h : endsSolid s = true) : s ≠ "" := by
  rintro rfl
  cases h

/-! ## What a condition renders -/

/-- The fragment consists of the conditions of these leaves, each once and in this order, with no
other text between and around them than parentheses, NOT, AND and OR. -/
inductive Rendering (d : Dialect) : List Value → Fragment → Prop
  | raw (sql : String) : Rendering d [.raw sql] (.ofSql sql)
  | lookup {key value : Value} {f : Fragment} : lookupCondition d key value = .ok f →
      Rendering d [.tuple [key, value]] f
  | enclosed {vs : List Value} {f : Fragment} : Rendering d vs f →
      Rendering d vs ⟨"(" ++ f.sql ++ ")", f.params⟩
  | negated {vs : List Value} {f : Fragment} : Rendering d vs f →
      Rendering d vs ⟨"NOT (" ++ f.sql ++ ")", f.params⟩
  | connected {k : Keyword} {vs ws : List Value} {f g : Fragment} : k = .and ∨ k = .or →
      Rendering d vs f → Rendering d ws g →
      Rendering d (vs ++ ws) ⟨f.sql ++ (" " ++ k.word ++ " ") ++ g.sql, f.params ++ g.params⟩

namespace Rendering

variable {d : Dialect}

theorem ne_nil {vs : List Value} {f : Fragment} (h : Rendering d vs f) : vs ≠ [] := by
  induction h with
  | raw | lookup => simp
  | enclosed _ ih | negated _ ih => exact ih
  | connected _ _ _ ih _ => simp [ih]

theorem joined {k : Keyword} (hk : k = .and ∨ k = .or) {vs : List Value} {f : Fragment}
    (h : Rendering d vs f) {vss : List (List Value)} {fs : List Fragment}
    (hs : List.Forall₂ (Rendering d) vss fs) :
    Rendering d (vs ++ vss.flatten) (Fragment.joined (" " ++ k.word ++ " ") (f :: fs)) := by
  induction hs generalizing vs f with
  | nil => simpa [Fragment.joined] using h
  | cons hnext _ ih =>
    have hrest := connected hk h (ih hnext)
    simpa [Fragment.joined, Fragment.append, Fragment.ofSql] using hrest

theorem node {k : Keyword} (hk : k = .and ∨ k = .or) (negated : Bool) {vs : List Value}
    {f : Fragment} (h : Rendering d vs f) {vss : List (List Value)} {fs : List Fragment}
    (hs : List.Forall₂ (Rendering d) vss fs) :
    Rendering d (vs ++ vss.flatten) (nodeFragment k negated (f :: fs)) := by
  cases negated with
  | false => exact h.joined hk hs
  | true => exact .negated (h.joined hk hs)

end Rendering

theorem leaf_rendering {d : Dialect} {leaf : Value}
    (hleaf : ∀ children k n, leaf ≠ .predicate children k n) {part : Option Fragment}
    (h : childCondition d leaf = .ok part) : ∃ f, part = some f ∧ Rendering d leaf.leaves f := by
  rcases childCondition_leaf hleaf h with ⟨sql, rfl, rfl⟩ | ⟨key, value, f, rfl, hf, rfl⟩
  · exact ⟨_, rfl, .raw sql⟩
  · exact ⟨f, rfl, .lookup hf⟩

namespace Backend

variable {b : Backend} (types : TypeCatalogue)

theorem endsSolid_tail {t : Tail String} (hsign : t.sign ∈ b.signs t)
    (hoperands : ∀ s ∈ t.operands, Text.endsSolid s = true) : Text.endsSolid t.text = true := by
  cases t with
  | test sign =>
    have hall : (b.signs (.test sign : Tail String)).all Text.endsSolid = true := by
      simp only [signs]
      decide
    exact List.all_eq_true.mp hall sign hsign
  | single sign operand =>
    exact Text.endsSolid_append _ (hoperands operand (by simp [Tail.operands]))
  | range sign low high => exact Text.endsSolid_append _ (hoperands high (by simp [Tail.operands]))
  | list sign items => exact Text.endsSolid_append _ (by decide)

theorem endsSolid_lookup {key value : Value}
    (hraw : ∀ sql ∈ value.raws, Text.endsSolid sql = true) {f : Fragment}
    (h : lookupCondition (b.dialect types) key value = .ok f) : Text.endsSolid f.sql = true := by
  obtain ⟨k, -, h⟩ := bind_eq_ok.mp h
  obtain ⟨t, hsql, hsign, hoperands⟩ := comparison_text types h
  rw [hsql]
  refine Text.endsSolid_append _ (endsSolid_tail hsign fun s hs => ?_)
  obtain ⟨w, hw, rfl⟩ := hoperands s hs
  cases w with
  | raw sql => exact hraw sql (Lookup.raws_operand hw (by simp [Value.raws]))
  | _ => exact (by decide : Text.endsSolid "?" = true)

/-- A condition ends as its last leaf does, or with a parenthesis. -/
theorem endsSolid_rendering {vs : List Value}
    (hraw : ∀ v ∈ vs, ∀ sql ∈ v.raws, Text.endsSolid sql = true) {f : Fragment}
    (h : Rendering (b.dialect types) vs f) : Text.endsSolid f.sql = true := by
  have hclose : Text.endsSolid ")" = true := by decide
  induction h with
  | raw sql => exact hraw (.raw sql) (List.mem_singleton_self _) sql (by simp [Value.raws])
  | @lookup key value f hf =>
    refine endsSolid_lookup types (fun sql hsql => ?_) hf
    exact hraw (.tuple [key, value]) (List.mem_singleton_self _) sql
      (Value.raws_item rfl (by simp) hsql)
  | enclosed | negated => exact Text.endsSolid_append _ hclose
  | connected _ _ _ _ ih =>
    exact Text.endsSolid_append _ (ih fun v hv => hraw v (List.mem_append_right _ hv))

theorem connect_rendering {k : Keyword} (hk : k = .and ∨ k = .or) {negated : Bool}
    {vss : List (List Value)} {parts : List Fragment} {f : Fragment}
    (hs : List.Forall₂ (Rendering (b.dialect types)) vss parts)
    (h : connect (b.dialect types) k negated parts = .ok f) :
    vss.flatten = [] ∧ f = .empty ∨ Rendering (b.dialect types) vss.flatten f := by
  cases hs with
  | nil =>
    cases h
    exact .inl ⟨rfl, rfl⟩
  | cons hfirst hrest =>
    rw [connect_eq types hk] at h
    cases h
    exact .inr (hfirst.node hk negated hrest)

mutual

/-- A tree without condition has no leaves; otherwise all of them are rendered. -/
theorem child_rendering (v : Value) (hk : v.Connected)
    (hraw : ∀ leaf ∈ v.leaves, ∀ sql ∈ leaf.raws, Text.endsSolid sql = true)
    {part : Option Fragment} (h : childCondition (b.dialect types) v = .ok part) :
    part.elim (v.leaves = []) (Rendering (b.dialect types) v.leaves) := by
  cases v with
  | predicate children k negated =>
    obtain ⟨parts, hparts, h⟩ := bind_eq_ok.mp h
    obtain ⟨inner, hinner, h⟩ := bind_eq_ok.mp h
    cases h
    obtain ⟨hconnector, hconnected⟩ := Value.connected_predicate.mp hk
    obtain ⟨vss, hrendering, hleaves⟩ := children_rendering children hconnected hraw hparts
    rw [Value.leaves] at hraw ⊢
    rw [← hleaves] at hraw ⊢
    rcases connect_rendering types hconnector hrendering hinner with ⟨hnone, rfl⟩ | hnode
    · exact hnone
    · -- the text of the node does not end in a blank, so it is not empty
      have hsolid := endsSolid_rendering types hraw hnode
      rw [if_neg (Text.ne_empty_of_endsSolid hsolid)]
      exact .enclosed hnode
  | _ =>
    obtain ⟨f, rfl, hf⟩ := leaf_rendering (by simp) h
    exact hf

theorem children_rendering (vs : List Value) (hk : ∀ v ∈ vs, v.Connected)
    (hraw : ∀ leaf ∈ Value.leavesAll vs, ∀ sql ∈ leaf.raws, Text.endsSolid sql = true)
    {parts : List Fragment} (h : childConditions (b.dialect types) vs = .ok parts) :
    ∃ vss, List.Forall₂ (Rendering (b.dialect types)) vss parts ∧
      vss.flatten = Value.leavesAll vs := by
  cases vs with
  | nil =>
    cases h
    exact ⟨[], .nil, rfl⟩
  | cons v vs =>
    obtain ⟨part, hpart, h⟩ := bind_eq_ok.mp h
    obtain ⟨rest, hrest, h⟩ := bind_eq_ok.mp h
    cases h
    rw [Value.leavesAll] at hraw
    have hfirst := child_rendering v (hk v (by simp))
      (fun leaf hleaf => hraw leaf (List.mem_append_left _ hleaf)) hpart
    obtain ⟨vss, hrendering, hleaves⟩ := children_rendering vs
      (fun w hw => hk w (List.mem_cons_of_mem v hw))
      (fun leaf hleaf => hraw leaf (List.mem_append_right _ hleaf)) hrest
    rw [Value.leavesAll, ← hleaves]
    cases part with
    | none =>
      have hnone : v.leaves = [] := hfirst
      exact ⟨vss, hrendering, by rw [hnone, List.nil_append]⟩
    | some f => exact ⟨v.leaves :: vss, .cons hfirst hrendering, rfl⟩

end

end Backend

/-! ## Texts in templates -/

namespace Template

theorem prefix_glue (out piece : List Char) : out <+: glue out piece := by
  unfold glue
  split
  · exact List.prefix_append _ _
  · exact List.prefix_append _ _

/-- A piece that begins with no space is put behind a text as it is. -/
theorem glue_eq {piece : List Char} (h : piece.head? ≠ some ' ') (out : List Char) :
    glue out piece = out ++ piece := by
  unfold glue
  split
  · cases piece with
    | nil => rfl
    | cons c piece =>
      have hc : c ≠ ' ' := by
        rintro rfl
        exact h rfl
      rw [List.dropWhile_cons_of_neg (by simpa using hc)]
  · rfl

variable {fragment : List Char → Value} {out cs : List Char}
  {slots : List (List Char × List Char)}

/-- What has been put together stays at the front. -/
theorem prefix_of_assembleValues (h : assembleValues fragment out slots = .ok cs) : out <+: cs := by
  fun_induction assembleValues fragment out slots with
  | case1 out =>
    cases h
    exact List.prefix_refl _
  | case2 out name text rest s hs ih =>
    exact ((prefix_glue out _).trans (prefix_glue _ text)).trans (ih h)
  | case3 out name text rest hv hfalse ih => exact (prefix_glue out text).trans (ih h)
  | case4 => cases h
  | case5 => cases h

theorem exists_front {out' text : List Char} (hout : out <+: out')
    (h : ∃ front, out' ++ front ++ text <+: cs) : ∃ front, out ++ front ++ text <+: cs := by
  obtain ⟨extra, rfl⟩ := hout
  obtain ⟨front, h⟩ := h
  exact ⟨extra ++ front, by simpa using h⟩

/-- A text that begins with no space stands in the result as it is. -/
theorem prefix_of_slot (h : assembleValues fragment out slots = .ok cs)
    {slot : List Char × List Char} (hslot : slot ∈ slots) {s : String}
    (hs : fragment slot.1 = .text s) (hspace : s.toList.head? ≠ some ' ') :
    ∃ front, out ++ front ++ s.toList <+: cs := by
  fun_induction assembleValues fragment out slots with
  | case1 => cases hslot
  | case2 out name text rest s' hs' ih =>
    rcases List.mem_cons.mp hslot with rfl | hslot
    · cases hs'.symm.trans hs
      have hrest := prefix_of_assembleValues h
      rw [glue_eq hspace] at hrest
      exact ⟨[], by simpa using (prefix_glue _ _).trans hrest⟩
    · exact exists_front ((prefix_glue out _).trans (prefix_glue _ text)) (ih h hslot)
  | case3 out name text rest hv hfalse ih =>
    rcases List.mem_cons.mp hslot with rfl | hslot
    · exact absurd hs (hv s)
    · exact exists_front (prefix_glue out text) (ih h hslot)
  | case4 => cases h
  | case5 => cases h

/-- A text that begins with no space and does not end in a blank stands in the SQL. -/
theorem infix_of_renderValues {t : Template} (ht : t.beginsSolid = true)
    {values : List (String × Value)} {sql : String} (h : t.renderValues values = .ok sql)
    {name : String} (hname : name ∈ t.names) {s : String}
    (hs : Assoc.get? name values = some (.text s)) (hspace : s.toList.head? ≠ some ' ')
    (hsolid : Text.endsSolid s = true) : s.toList <:+: sql.toList := by
  obtain ⟨cs, hcs, h⟩ := bind_eq_ok.mp h
  cases h
  obtain ⟨slot, hslot, rfl⟩ := List.mem_map.mp hname
  obtain ⟨front, back, rfl⟩ := prefix_of_slot hcs hslot (by rw [hs]; rfl) hspace
  obtain ⟨first, hfirst, hblank⟩ := (Option.any_eq_true _ _).mp ht
  obtain ⟨last, hlast, hblank'⟩ := (Option.any_eq_true _ _).mp hsolid
  -- nothing goes at the front, and behind the text at most the blanks of what follows it
  have hleft : Text.stripLeft (t.head ++ front ++ s.toList ++ back) =
      t.head ++ front ++ s.toList ++ back := by
    obtain ⟨head, hhead⟩ := List.head?_eq_some_iff.mp hfirst
    rw [hhead]
    exact List.dropWhile_cons_of_neg (by simpa using hblank)
  have hright : ∀ c ∈ (t.head ++ front ++ s.toList).getLast?, Text.isBlank c = false := by
    intro c hc
    rw [List.getLast?_append, hlast] at hc
    cases hc
    simpa using hblank'
  rw [String.toList_ofList, Text.strip, hleft, Text.stripRight_append_of_solid back hright]
  exact ⟨t.head ++ front, Text.stripRight back, by simp⟩

end Template

/-! ## Filters of statements -/

/-- The leaves of the filter of a statement, from the left. -/
def Statement.filterLeaves (s : Statement) : List Value :=
  (Predicate.ofValue? s.filter).elim [] fun p => p.toValue.leaves

theorem Assoc.get?_fillings {write : String → Except Error Filling} {names : List String}
    {fillings : List Filling}
    (h : List.Forall₂ (fun name filling => write name = .ok filling) names fillings) {name : String}
    (hname : name ∈ names) :
    ∃ filling, write name = .ok filling ∧
      Assoc.get? name ((names.zip fillings).map fun entry => (entry.1, entry.2.item)) =
        some filling.item := by
  induction h with
  | nil => cases hname
  | @cons other filling names fillings hother _ ih =>
    by_cases heq : other = name
    · subst heq
      exact ⟨filling, hother, by simp [Assoc.get?]⟩
    · have hmem : name ∈ names := by
        rcases List.mem_cons.mp hname with rfl | hmem
        · exact absurd rfl heq
        · exact hmem
      obtain ⟨x, hx, hget⟩ := ih hmem
      exact ⟨x, hx, by simpa [Assoc.get?, heq] using hget⟩

namespace Backend

variable {b : Backend} (types : TypeCatalogue)

theorem clause_filter (sql : String) :
    (b.dialect types).clause .filter [sql] = .ok ("WHERE " ++ sql) := by
  have h : b.formatTexts? .filter = some ("WHERE ".toList, ["".toList]) := by
    cases b <;> decide
  rw [clause_one types h, String.append_empty]

/-- A filter is empty if it has no leaves; otherwise it is its condition, with all leaves. -/
theorem filter_spec {s : Statement} (hk : s.filter.Connected)
    (hraw : ∀ leaf ∈ s.filterLeaves, ∀ sql ∈ leaf.raws, Text.endsSolid sql = true) {f : Fragment}
    (h : conditionClause (b.dialect types) .filter s.filter = .ok f) :
    (s.filterLeaves = [] ∧ f = .empty) ∨
      ∃ p g, Predicate.ofValue? s.filter = some p ∧ p.condition (b.dialect types) = .ok g ∧
        f = ⟨"WHERE " ++ g.sql, g.params⟩ ∧ Rendering (b.dialect types) s.filterLeaves g := by
  unfold conditionClause at h
  split at h
  · next hfilter =>
    cases h
    exact .inl ⟨by rw [Statement.filterLeaves, hfilter]; rfl, rfl⟩
  · next children k negated hfilter =>
    have hleaves : s.filterLeaves = Value.leavesAll children := by
      rw [Statement.filterLeaves, hfilter]
      rfl
    rw [hfilter] at hk
    rw [hleaves] at hraw ⊢
    obtain ⟨hconnector, hconnected⟩ := Value.connected_predicate.mp hk
    dsimp only at h
    split at h
    · next hempty =>
      cases h
      cases (List.isEmpty_iff.mp hempty : children = [])
      exact .inl ⟨rfl, rfl⟩
    · obtain ⟨g, hg, h⟩ := bind_eq_ok.mp h
      obtain ⟨parts, hparts, hinner⟩ := bind_eq_ok.mp hg
      obtain ⟨vss, hrendering, hflatten⟩ := children_rendering types children hconnected hraw hparts
      rw [← hflatten] at hraw ⊢
      rcases connect_rendering types hconnector hrendering hinner with ⟨hnone, rfl⟩ | hnode
      -- children without leaves: the condition has no text and the clause is left out
      · cases h
        exact .inl ⟨hnone, rfl⟩
      -- a leaf ends in text, so the test for an empty condition fails
      · have hsolid := endsSolid_rendering types hraw hnode
        rw [if_neg (Text.ne_empty_of_endsSolid hsolid), clause_filter] at h
        cases h
        exact .inr ⟨_, g, by rw [hfilter]; rfl, hg, rfl, hnode⟩
  · cases h

end Backend

/-- A result of a statement: what fills the slot for the filter, and that it stands in the SQL. -/
theorem Backend.filter_in_result {b : Backend} (types : TypeCatalogue) {s : Statement}
    {k : StatementKind} (hkind : s.kind = .kind k) (hk : k = .select ∨ k = .update ∨ k = .delete)
    {operands : Traced Fragment} {f : Fragment}
    (h : (s.compile (b.dialect types) operands).result = .ok f) :
    ∃ w, conditionClause (b.dialect types) .filter s.filter = .ok w ∧
      (w.sql.toList.head? ≠ some ' ' → Text.endsSolid w.sql = true →
        w.sql.toList <:+: f.sql.toList) := by
  have hdata : k.isData = true := by
    rcases hk with rfl | rfl | rfl <;> rfl
  rw [result_compile types hkind hdata] at h
  obtain ⟨fillings, hfillings, h⟩ := bind_eq_ok.mp h
  obtain ⟨sql, hsql, h⟩ := bind_eq_ok.mp h
  cases h
  have hregular := b.template_regular hdata
  have hname : "where" ∈ (b.template k).names := by
    refine hregular.filter ?_
    rcases hk with rfl | rfl | rfl <;> decide
  obtain ⟨filling, hfilling, hget⟩ := Assoc.get?_fillings (mapM_eq_ok.mp hfillings) hname
  have hfilter : Fragment.toFilling <$> conditionClause (b.dialect types) .filter s.filter =
      .ok filling := hfilling
  obtain ⟨w, hw, rfl⟩ := map_eq_ok.mp hfilter
  exact ⟨w, hw, Template.infix_of_renderValues hregular.begins hsql hname hget⟩

/-- A statement of a bundled dialect has its filter whenever the filter has a leaf. The slot for it
is empty exactly if there is no leaf; otherwise the SQL has `WHERE` and the condition in it, which
renders every leaf once and in order. So an update or a delete without `WHERE` has no leaf in its
filter. -/
theorem filter_never_lost (b : Backend) (types : TypeCatalogue) {q : Query} {k : StatementKind}
    (hkind : q.statement.kind = .kind k) (hk : k = .select ∨ k = .update ∨ k = .delete)
    (hconnected : q.statement.filter.Connected)
    (hraw : ∀ leaf ∈ q.statement.filterLeaves, ∀ sql ∈ leaf.raws, Text.endsSolid sql = true)
    {f : Fragment} (h : (q.compile (b.dialect types)).result = .ok f) :
    ∃ w : Fragment, (q.filling (b.dialect types) "where").result = .ok w.toFilling ∧
      (w.sql = "" ↔ q.statement.filterLeaves = []) ∧
      (q.statement.filterLeaves ≠ [] → ∃ p g, Predicate.ofValue? q.statement.filter = some p ∧
        p.condition (b.dialect types) = .ok g ∧ w = ⟨"WHERE " ++ g.sql, g.params⟩ ∧
        ("WHERE " ++ g.sql).toList <:+: f.sql.toList ∧
        Rendering (b.dialect types) q.statement.filterLeaves g) ∧
      (¬ "WHERE ".toList <:+: f.sql.toList → q.statement.filterLeaves = []) := by
  obtain ⟨s, compounds⟩ := q
  rw [Query.compile] at h
  obtain ⟨w, hw, hinfix⟩ := Backend.filter_in_result types hkind hk h
  have hfilling : ((Query.mk s compounds).filling (b.dialect types) "where").result =
      .ok w.toFilling := map_eq_ok.mpr ⟨w, hw, rfl⟩
  refine ⟨w, hfilling, ?_⟩
  rcases Backend.filter_spec types hconnected hraw hw with
    ⟨hnone, rfl⟩ | ⟨p, g, hp, hg, rfl, hrendering⟩
  · exact ⟨iff_of_true rfl hnone, fun hne => absurd hnone hne, fun _ => hnone⟩
  · have hsolid : Text.endsSolid ("WHERE " ++ g.sql) = true :=
      Text.endsSolid_append _ (Backend.endsSolid_rendering types hraw hrendering)
    have hwhere := hinfix (by simp) hsolid
    refine ⟨?_, fun _ => ⟨p, g, hp, hg, rfl, hwhere, hrendering⟩, fun hno => absurd ?_ hno⟩
    · simp only [Text.ne_empty_of_endsSolid hsolid, false_iff]
      exact hrendering.ne_nil
    · refine List.IsInfix.trans ?_ hwhere
      rw [String.toList_append]
      exact (List.prefix_append _ _).isInfix

/-- A delete whose filter has a negated node without leaves beside one with two. -/
def purgeQuery : Query :=
  .single { Statement.delete (.text "logs") with
    filter := .predicate
      [.predicate [.predicate [] .and false] .and true,
       .predicate [.predicate [.raw "stale"] .and true,
         .tuple [.text "age__between", .tuple [.int 1, .raw "cap"]]] .or false] .and false }

theorem purgeQuery_filter_never_lost :
    purgeQuery.statement.filter.Connected ∧
      (∀ leaf ∈ purgeQuery.statement.filterLeaves, ∀ sql ∈ leaf.raws,
        Text.endsSolid sql = true) ∧
      ∃ f g, (purgeQuery.compile (Backend.postgresql.dialect .standard)).result = .ok f ∧
        ("WHERE " ++ g.sql).toList <:+: f.sql.toList ∧
        Rendering (Backend.postgresql.dialect .standard)
          [.raw "stale", .tuple [.text "age__between", .tuple [.int 1, .raw "cap"]]] g := by
  have hconnected : purgeQuery.statement.filter.Connected := by decide +kernel
  have hraw : ∀ leaf ∈ purgeQuery.statement.filterLeaves, ∀ sql ∈ leaf.raws,
      Text.endsSolid sql = true := by decide +kernel
  have hsome : (purgeQuery.compile
      (Backend.postgresql.dialect .standard)).result.toOption.isSome = true := by decide +kernel
  obtain ⟨f, hf⟩ := Option.isSome_iff_exists.mp hsome
  have hresult := toOption_eq_some.mp hf
  obtain ⟨w, -, -, hfilter, -⟩ := filter_never_lost .postgresql .standard
    (k := .delete) rfl (by simp) hconnected hraw hresult
  have hleaves : purgeQuery.statement.filterLeaves ≠ [] := by
    show [_, _] ≠ []
    simp
  obtain ⟨p, g, -, -, -, hwhere, hrendering⟩ := hfilter hleaves
  exact ⟨hconnected, hraw, f, g, hresult, hwhere, hrendering⟩

end SqlRender
