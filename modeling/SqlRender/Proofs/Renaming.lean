import SqlRender.Proofs.Alignment
import SqlRender.Proofs.Lexeme
import SqlRender.Proofs.SlotLikeness

/-!
# Names never change the shape of a statement

Two queries without raw SQL, the second with other names in the places of those of the first, are
compiled alike: both fail, with errors of one family, or the two results have the same parameters
and the same lexemes but for the identifiers, and two identifiers in one place are the segments of
names that stand for each other. So whatever a name contains, marks, blanks or SQL, it is read as
the one identifier that it was written as.

* `IsRenaming`: what is asked of the names that stand for each other.
* `Query.Renamed`: a query with other names.
* `likeness_renamed`: quoted names that stand for each other have corresponding segments.
-/

namespace SqlRender

/-- A correspondence between names: one to one, with as many segments, stars in the same places, and
the empty name for itself. -/
structure IsRenaming (N : String → String → Prop) : Prop where
  injective {s t s' t' : String} : N s t → N s' t' → (s = s' ↔ t = t')
  empty {s t : String} : N s t → (s = "" ↔ t = "")
  segments {s t : String} : N s t → List.Forall₂ (fun x y => x = ['*'] ↔ y = ['*'])
    (Text.split '.' s.toList) (Text.split '.' t.toList)

/-- Two segments in one place of names that stand for each other, or two such names as a whole. -/
def Segment (N : String → String → Prop) (x y : List Char) : Prop :=
  ∃ s t, N s t ∧ (x = s.toList ∧ y = t.toList ∨
    (x, y) ∈ (Text.split '.' s.toList).zip (Text.split '.' t.toList))

/-- A statement that reads or changes rows, and the same one with other names. Neither has raw
SQL. -/
structure Statement.Renamed (N : String → String → Prop) (s t : Statement) : Prop where
  isData : s.isData = true
  like (b : Backend) : StatementLike ⟨N, fun _ => False⟩ b b s t
  attributes : t.attributes = s.attributes
  attributesFree (name : String) : (s.attributes.find name).raws = []

/-- A query and the same one with other names. -/
def Query.Renamed (N : String → String → Prop) (q r : Query) : Prop :=
  QueryMatch (Statement.Renamed N) (fun _ => True) q r

/-- The same parameters, and texts that differ in their identifiers at most. -/
def Fragment.Renamed (mark : Char) (N : String → String → Prop) (f g : Fragment) : Prop :=
  f.params = g.params ∧ Parallel mark (Segment N) f.sql.toList g.sql.toList

/-! ## Quoted names -/

variable {N : String → String → Prop} {b : Backend}

theorem Text.ne_of_isUnmarked {cs : List Char} (h : isUnmarked cs = true) (b : Backend) :
    ∀ c ∈ cs, c ≠ b.markChar := by
  intro c hc
  have hunmarked := List.all_eq_true.mp h c hc
  simp only [Bool.and_eq_true, bne_iff_ne] at hunmarked
  cases b with
  | mysql => exact hunmarked.2
  | ansi | postgresql | sqlite => exact hunmarked.1

theorem segment_of_forall₂ {s t : String} (h : N s t)
    (hsegments : List.Forall₂ (fun x y => x = ['*'] ↔ y = ['*'])
      (Text.split '.' s.toList) (Text.split '.' t.toList)) :
    List.Forall₂ (fun x y => (x = ['*'] ↔ y = ['*']) ∧ Segment N x y)
      (Text.split '.' s.toList) (Text.split '.' t.toList) := by
  rw [List.forall₂_iff_zip] at hsegments ⊢
  exact ⟨hsegments.1, fun hmem => ⟨hsegments.2 hmem, s, t, h, .inr hmem⟩⟩

/-- Dotted names with as many segments and stars in the same places. -/
theorem parallel_segments {P : List Char → List Char → Prop} {xs ys : List (List Char)}
    (h : List.Forall₂ (fun x y => (x = ['*'] ↔ y = ['*']) ∧ P x y) xs ys) :
    Parallel b.markChar P
      (Text.join ['.'] (xs.map (Dialect.quoteSegment [b.markChar])))
      (Text.join ['.'] (ys.map (Dialect.quoteSegment [b.markChar]))) := by
  have hunmarked : ∀ c ∈ ['.', '*'], c ≠ b.markChar := Text.ne_of_isUnmarked (by decide) b
  have hsegment : ∀ x y, (x = ['*'] ↔ y = ['*']) ∧ P x y → Parallel b.markChar P
      (Dialect.quoteSegment [b.markChar] x) (Dialect.quoteSegment [b.markChar] y) := by
    rintro x y ⟨hstar, hxy⟩
    unfold Dialect.quoteSegment
    by_cases hx : x = ['*']
    · rw [if_pos hx, if_pos (hstar.mp hx), hx, hstar.mp hx]
      exact .char (hunmarked '*' (by simp)) .nil
    · rw [if_neg hx, if_neg (mt hstar.mpr hx)]
      exact .quoted hxy
  have hdot : '.' ≠ b.markChar := hunmarked '.' (by simp)
  induction h with
  | nil => exact .nil
  | @cons x y xs ys hxy hrest ih =>
    cases hrest with
    | nil => exact hsegment x y hxy
    | cons _ _ =>
      simp only [List.map_cons, Text.join, List.append_assoc, List.singleton_append] at ih ⊢
      refine (hsegment x y hxy).append (.char hdot ih) (.inr ?_)
      rw [List.head?_cons]
      exact fun hcontra => hdot (Option.some.inj hcontra)

theorem Fragment.Renamed.ofSql {mark : Char} {s t : String}
    (h : Parallel mark (Segment N) s.toList t.toList) :
    Fragment.Renamed mark N (.ofSql s) (.ofSql t) := ⟨rfl, h⟩

/-- Names that stand for each other are quoted as identifiers that do so. -/
theorem likeness_renamed (hN : IsRenaming N) (b : Backend) :
    Likeness ⟨N, fun _ => False⟩ b b (Fragment.Renamed b.markChar N) where
  empty := ⟨rfl, .nil⟩
  isEmpty {f g} h := by
    rw [← String.toList_eq_nil_iff, ← String.toList_eq_nil_iff]
    exact h.2.eq_nil_iff
  between {f f' g g' t} hne ht h h' := by
    have hunmarked := Text.ne_of_isUnmarked ht b
    have hchars : t.toList ≠ [] := by rwa [Ne, String.toList_eq_nil_iff]
    have hhead : t.toList.head? ≠ some b.markChar := fun hcontra =>
      hunmarked _ (List.mem_of_head? hcontra) rfl
    have hlast : (f.sql.toList ++ t.toList).getLast? ≠ some b.markChar := by
      rw [List.getLast?_append_of_ne_nil _ hchars]
      exact fun hcontra => hunmarked _ (List.mem_of_getLast? hcontra) rfl
    refine ⟨?_, ?_⟩
    · simp only [Fragment.append, Fragment.ofSql, List.append_nil]
      rw [h.1, h'.1]
    · simp only [Fragment.append, Fragment.ofSql, String.toList_append]
      exact (h.2.append (.of_ne hunmarked) (.inr hhead)).append h'.2 (.inl hlast)
  place {v} hv := by
    have hvalue : Fragment.ofValue v = ⟨"?", [v]⟩ := by
      cases v with
      | raw sql => exact absurd (by simp [Value.raws]) (hv sql)
      | _ => rfl
    have hmarker : ∀ c ∈ "?".toList, c ≠ b.markChar := Text.ne_of_isUnmarked (by decide) b
    rw [hvalue]
    exact ⟨rfl, .of_ne hmarker⟩
  emptyName h := hN.empty h
  sameName h h' := hN.injective h h'
  quote {s t} types types' h := by
    refine .ofSql ?_
    rw [Dialect.quote, Dialect.quote, Backend.mark_dialect, Backend.mark_dialect,
      String.toList_ofList, String.toList_ofList]
    exact parallel_segments (segment_of_forall₂ h (hN.segments h))
  identifier {s t} types types' h := by
    refine .ofSql ?_
    rw [Dialect.quoteIdentifier, Dialect.quoteIdentifier, Backend.mark_dialect,
      Backend.mark_dialect, String.toList_ofList, String.toList_ofList]
    exact .quoted ⟨s, t, h, .inl ⟨rfl, rfl⟩⟩

/-! ## Statements and queries -/

theorem template_renamed {k : StatementKind} (hk : k.isData = true) {fs gs : List Fragment}
    (h : List.Forall₂ (Fragment.Renamed b.markChar N) fs gs) :
    Fragment.Renamed b.markChar N ((b.template k).fragment fs) ((b.template k).fragment gs) := by
  have hregular := b.template_regular hk
  have hunmarked : ∀ cs, Text.isPlain cs = true → ∀ c ∈ cs, c ≠ b.markChar := fun cs hcs =>
    Text.ne_of_isUnmarked (Text.isUnmarked_of_isPlain hcs) b
  have hhead := hunmarked _ hregular.head
  have hlast : (b.template k).head.getLast? ≠ some b.markChar := fun hcontra =>
    hhead _ (List.mem_of_getLast? hcontra) rfl
  refine ⟨?_, ?_⟩
  · show fs.flatMap Fragment.params = gs.flatMap Fragment.params
    induction h with
    | nil => rfl
    | cons hfg _ ih => rw [List.flatMap_cons, List.flatMap_cons, hfg.1, ih]
  · rw [Template.fragment, Template.fragment, String.toList_ofList, String.toList_ofList]
    refine (Parallel.lay b.markChar_not_blank
      (fun slot hslot => hunmarked _ (hregular.slots slot hslot)) (b.slots_apart hk) ?_ hlast
      (.of_ne hhead)).strip b.markChar_not_blank
    exact List.rel_map (fun f g hfg => hfg.2) h

theorem statement_renamed (hN : IsRenaming N) (b : Backend) (types : TypeCatalogue)
    {s t : Statement} (h : s.Renamed N t) {operands operands' : Traced Fragment}
    (hoperands : SameOutcome (Fragment.Renamed b.markChar N) operands.result operands'.result) :
    SameOutcome (Fragment.Renamed b.markChar N) (s.compile (b.dialect types) operands).result
      (t.compile (b.dialect types) operands').result := by
  obtain ⟨hdata, hlike, hattributes, hfree⟩ := h
  obtain ⟨k, hs, hk⟩ := Statement.exists_kind hdata
  have ht : t.kind = .kind k := (hlike b).kind.trans hs
  rw [Backend.result_compile types hs hk, Backend.result_compile types ht hk]
  have hattribute : ∀ slot, Lexicon.Attribute ⟨N, fun _ => False⟩ b b slot
      (s.attributes.find slot) (t.attributes.find slot) := by
    intro slot
    rw [hattributes]
    exact ⟨rfl, by simp [Lexicon.Free, hfree], fun _ _ => rfl⟩
  have hslot : ∀ name ∈ (b.template k).names, SameOutcome
      (FillingsLike (Fragment.Renamed b.markChar N)) (s.slotFilling (b.dialect types) operands name)
      (t.slotFilling (b.dialect types) operands' name) := fun name hname =>
    (likeness_renamed hN b).slotFilling (hlike b) hs hk hoperands hname fun slot _ =>
      hattribute slot
  have hfillings := SameOutcome.mapM (List.forall₂_same.mpr hslot)
  refine (hfillings.and_left fun xs hxs => (mapM_eq_ok.mp hxs).length_eq).bind ?_
  rintro xs ys ⟨hxys, hlength⟩
  obtain ⟨fs, gs, hfs, rfl, rfl⟩ := FillingsLike.exists_fragments hxys
  rw [List.length_map] at hlength
  have hnodup := (b.template_regular hk).nodup
  rw [Statement.assemble_eq hnodup hlength.symm,
    Statement.assemble_eq hnodup (by rw [← hfs.length_eq, hlength])]
  exact SameOutcome.ok (template_renamed hk hfs)

/-- Two queries that differ in their names are compiled alike: the texts have the same lexemes but
for identifiers, and two identifiers in one place are segments of names that stand for each
other. -/
theorem lexemes_independent_of_names (b : Backend) (types : TypeCatalogue) (hN : IsRenaming N)
    {q r : Query} (h : q.Renamed N r) :
    SameOutcome (fun f g => f.params = g.params ∧
        ∃ ls ms, Text.lexemes? b.markChar f.sql.toList = some ls ∧
          Text.lexemes? b.markChar g.sql.toList = some ms ∧
          List.Forall₂ (Lexeme.Rel (Segment N)) ls ms)
      (q.compile (b.dialect types)).result (r.compile (b.dialect types)).result := by
  have hoperands : OperandCongruence (b.dialect types) (b.dialect types) _ _ :=
    (likeness_renamed hN b).operandCongruence
  have hcompiled := h.compile
    { hoperands with operand := fun _ hfg => hoperands.operand (fun _ _ => rfl) hfg }
    fun _ _ _ _ hst hops => statement_renamed hN b types hst hops
  exact hcompiled.imp fun f g hfg => ⟨hfg.1, hfg.2.lexemes⟩

/-- A select with the given names in several places, at several depths. -/
def reportQuery (table star label left right column : String) : Query :=
  .mk { Statement.select (.text table) (.tuple [.text star, .tuple [.text left, .text label]]) with
        joins := [{ table := table, on := [(left, right)], kind := .leftJoin }]
        filter := .predicate
          [.predicate [.tuple [.text (column ++ "__in"), .list [.int 1, .null]]] .or true]
          .and false
        orderBy := .list [.text ("-" ++ right)] }
    [(.clause .unionAll, .single (Statement.select (.text right)))]

theorem reportQuery_renamed {table star label left right column : String}
    {table' star' label' left' right' column' : String} (hall : N "*" "*") (htable : N table table')
    (hstar : N star star') (hlabel : N label label') (hleft : N left left')
    (hright : N right right') (hcolumn : N column column')
    (hkey : LookupKey.read (column ++ "__in") = ⟨column, .inList⟩)
    (hkey' : LookupKey.read (column' ++ "__in") = ⟨column', .inList⟩) :
    (reportQuery table star label left right column).Renamed N
      (reportQuery table' star' label' left' right' column') := by
  have hname : ∀ s t, N s t → Lexicon.Column ⟨N, fun _ => False⟩ (.text s) (.text t) :=
    fun s t h => .name (by simp) (.text h)
  have hfield : ∀ s t, N s t → Lexicon.Field ⟨N, fun _ => False⟩ (.text s) (.text t) :=
    fun s t h => .column (by simp) (hname s t h)
  have hlabelled : Lexicon.Field ⟨N, fun _ => False⟩ (.tuple [.text left, .text label])
      (.tuple [.text left', .text label']) := .labelled (hname _ _ hleft) (.text hlabel)
  have hfields : ItemsLike (Lexicon.Field ⟨N, fun _ => False⟩)
      (.tuple [.text star, .tuple [.text left, .text label]])
      (.tuple [.text star', .tuple [.text left', .text label']]) :=
    ⟨rfl, .some (.cons (hfield _ _ hstar) (.cons hlabelled .nil))⟩
  have hlookup : ∀ b, Lexicon.Tree ⟨N, fun _ => False⟩ b b
      (.tuple [.text (column ++ "__in"), .list [.int 1, .null]])
      (.tuple [.text (column' ++ "__in"), .list [.int 1, .null]]) := fun b =>
    .lookup (by rw [hkey, hkey']) (by rw [hkey, hkey']; exact hcolumn) rfl
      (by simp [Lexicon.Free, Value.raws, Value.rawsAll])
  refine .mk ⟨rfl, fun b => ?_, rfl, fun name => rfl⟩
    (.cons trivial (.mk ⟨rfl, fun b => ?_, rfl, fun name => rfl⟩ .nil) .nil)
  · exact { StatementLike.select (.text htable) hfields with
      joins := .cons ⟨rfl, rfl, htable, .cons ⟨hleft, hright⟩ .nil⟩ .nil
      filter := .node rfl (.cons (.node rfl (.cons (hlookup b) .nil)) .nil)
      orderBy := ⟨rfl, .some (.cons (.descending hright) .nil)⟩ }
  · exact .select (.text hright) ⟨rfl, .some (.cons (hfield _ _ hall) .nil)⟩

/-- Names with marks, markers, blanks and SQL in them, for simple names. -/
def reportNames : List (String × String) :=
  [("*", "*"), ("orders", "o\"r\x60 ?"), ("orders.*", "a , b.*"), ("n", "%s\"\" --"),
   ("orders.id", "'.id\""), ("item.of", "-1; DROP TABLE x . SELECT"), ("price", "a__b\"__in")]

def simpleReport : Query := reportQuery "orders" "orders.*" "n" "orders.id" "item.of" "price"

def hostileReport : Query :=
  reportQuery "o\"r\x60 ?" "a , b.*" "%s\"\" --" "'.id\"" "-1; DROP TABLE x . SELECT" "a__b\"__in"

theorem isRenaming_reportNames : IsRenaming fun s t => (s, t) ∈ reportNames := by
  have hinjective : ∀ p ∈ reportNames, ∀ p' ∈ reportNames, (p.1 = p'.1 ↔ p.2 = p'.2) := by
    decide +kernel
  have hempty : ∀ p ∈ reportNames, (p.1 = "" ↔ p.2 = "") := by decide +kernel
  have hsegments : ∀ p ∈ reportNames, List.Forall₂ (fun x y => x = ['*'] ↔ y = ['*'])
      (Text.split '.' p.1.toList) (Text.split '.' p.2.toList) := by decide +kernel
  exact ⟨fun h h' => hinjective _ h _ h', fun h => hempty _ h, fun h => hsegments _ h⟩

theorem hostileReport_lexemes :
    IsRenaming (fun s t => (s, t) ∈ reportNames) ∧
      simpleReport.Renamed (fun s t => (s, t) ∈ reportNames) hostileReport ∧
      (hostileReport.compile (Backend.mysql.dialect .standard)).result.toOption.isSome = true ∧
      ∀ b : Backend, SameOutcome (fun f g => f.params = g.params ∧
          ∃ ls ms, Text.lexemes? b.markChar f.sql.toList = some ls ∧
            Text.lexemes? b.markChar g.sql.toList = some ms ∧
            List.Forall₂ (Lexeme.Rel (Segment fun s t => (s, t) ∈ reportNames)) ls ms)
        (simpleReport.compile (b.dialect .standard)).result
        (hostileReport.compile (b.dialect .standard)).result := by
  have hkeys : LookupKey.read ("price" ++ "__in") = ⟨"price", .inList⟩ ∧
      LookupKey.read ("a__b\"__in" ++ "__in") = ⟨"a__b\"__in", .inList⟩ := by decide +kernel
  have hrenamed : simpleReport.Renamed (fun s t => (s, t) ∈ reportNames) hostileReport := by
    refine reportQuery_renamed ?_ ?_ ?_ ?_ ?_ ?_ ?_ hkeys.1 hkeys.2 <;> simp [reportNames]
  exact ⟨isRenaming_reportNames, hrenamed, by decide +kernel, fun b =>
    lexemes_independent_of_names b .standard isRenaming_reportNames hrenamed⟩

end SqlRender
