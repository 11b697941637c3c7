import SqlRender.Proofs.Inert
import SqlRender.Proofs.Spacing

/-!
# A select and what arranges it

The SQL of a select with operands has three parts: the select itself, the operands with their
operations, and the ordering, the limit and the lock. What the first and the last part are does not
depend on the operands.

* `Statement.Readable`: the selects that this is about.
* `Backend.exists_segments`: the three parts of a select.
-/

namespace SqlRender

/-- A select whose conditions have AND and OR between them, whose raw SQL can be read by itself and
neither combines nor arranges, and which locks rows or nothing. -/
structure Statement.Readable (s : Statement) : Prop where
  kind : s.kind = .kind .select
  joins : ∀ j ∈ s.joins, j.kind.isJoin = true
  filter : s.filter.Connected
  having : s.having.Connected
  lock : s.lock.isRowLock = true
  raws : ∀ sql ∈ s.raws, Text.isInert sql = true

/-- A select without its ordering, its limit and its lock. -/
def Statement.bare (s : Statement) : Statement :=
  { s with orderBy := .tuple [], limit := .null, offset := .null, lock := .null }

/-- The select is ordered, cut off or locked. -/
def Statement.arranges (b : Backend) (s : Statement) : Bool :=
  s.orderBy.isTrue || s.isLimited || (b.lockText? s).isSome

theorem Statement.Readable.rawsInert {s : Statement} (h : s.Readable) {v : Value}
    (hv : v ∈ s.rawPlaces) : v.RawsInert :=
  fun sql hsql => Text.inert_of_isInert (h.raws sql (List.mem_flatMap.mpr ⟨v, hv, hsql⟩))

namespace Backend

open Text (Yields Gives Inert Arranges)

variable {b : Backend} {types : TypeCatalogue} {s : Statement} {operands : Traced Fragment}

/-! ## The slots of a select -/

/-- The slots in front of the operands. -/
def coreSlots : List (String × String) := selectSlots.take 7

/-- The slots behind the operands. -/
def tailSlots : Backend → List (String × String)
  | .ansi | .sqlite => [("order_by", " "), ("limit", "")]
  | .mysql | .postgresql => [("order_by", " "), ("limit", " "), ("lock", "")]

theorem plan_select (b : Backend) :
    b.plan .select = ("SELECT ", coreSlots ++ ("compounds", " ") :: b.tailSlots) := by
  cases b <;> rfl

theorem names_select (b : Backend) :
    (b.template .select).names =
      coreSlots.map Prod.fst ++ "compounds" :: b.tailSlots.map Prod.fst := by
  rw [template_eq b rfl, Template.names_ofPlan, plan_select, List.map_append, List.map_cons]

/-- What the texts behind the slots in front of the operands are read as. -/
def coreSeps : List (List Item) :=
  [[], [.token (.word ['F', 'R', 'O', 'M'])], [], [], [], [], []]

/-- The items of a select whose slots in front of the operands are filled with these. -/
def coreItems (pieces : List (List Item)) : List Item :=
  .token (.word ['S', 'E', 'L', 'E', 'C', 'T']) :: (List.zipWith (· ++ ·) pieces coreSeps).flatten

theorem spaced_coreSlots :
    List.Forall₂ (fun slot sep => Template.Spaced slot.2 sep)
      (Template.ofPlan ("SELECT ", coreSlots)).slots coreSeps := by
  have hspace : Template.Spaced " ".toList [] := ⟨by decide, by decide, [], by decide, .nil⟩
  have hfrom : Template.Spaced " FROM ".toList [.token (.word ['F', 'R', 'O', 'M'])] :=
    ⟨by decide, by decide, _, by decide, .token (by simp) (by simp)⟩
  exact .cons hspace (.cons hfrom (.cons hspace (.cons hspace (.cons hspace (.cons hspace
    (.cons hspace .nil))))))

/-- A filled select is read as what fills its slots. -/
theorem yields_select {coreParts tailParts : List Fragment}
    {corePieces tailPieces : List (List Item)}
    (hcore : List.Forall₂ Yields (coreParts.map Fragment.sql) corePieces)
    (hcoreLength : coreParts.length = coreSlots.length) {c : Fragment} {items : List Item}
    (hc : Yields c.sql items) (htail : List.Forall₂ Yields (tailParts.map Fragment.sql) tailPieces)
    (htailLength : tailParts.length = b.tailSlots.length) :
    Yields ((b.template .select).fragment (coreParts ++ c :: tailParts)).sql
      (coreItems corePieces ++ items ++ tailPieces.flatten) := by
  have hhead : Gives "SELECT ".toList [.token (.word ['S', 'E', 'L', 'E', 'C', 'T'])] :=
    ⟨_, by decide, .token (by simp) (by simp)⟩
  obtain ⟨hfront, hend⟩ := Template.gives_lay hhead (by decide) spaced_coreSlots hcore
    (by simp [hcoreLength, Template.ofPlan])
  have hslots : (Template.ofPlan (b.plan .select)).slots =
      (Template.ofPlan ("SELECT ", coreSlots)).slots ++
        (Template.ofPlan ("SELECT ", ("compounds", " ") :: b.tailSlots)).slots := by
    rw [plan_select]
    simp [Template.ofPlan]
  have hspaces : (∀ slot ∈ (Template.ofPlan
        ("SELECT ", ("compounds", " ") :: b.tailSlots)).slots.dropLast, slot.2 = [' ']) ∧
      ∀ slot ∈ (Template.ofPlan ("SELECT ", ("compounds", " ") :: b.tailSlots)).slots.getLast?,
        slot.2 = [] := by
    cases b <;> decide
  have hall := Template.gives_lay_spaces hfront hend hspaces.1 hspaces.2 (.cons hc htail)
    (by simp [htailLength, Template.ofPlan])
  rw [← Template.lay_append _ (by simp [hcoreLength, Template.ofPlan]), ← hslots] at hall
  have hhead' : (Template.ofPlan (b.plan .select)).head = "SELECT ".toList := by
    simp only [plan_select, Template.ofPlan]
  have hitems : coreItems corePieces ++ items ++ tailPieces.flatten =
      [.token (.word ['S', 'E', 'L', 'E', 'C', 'T'])] ++
        (List.zipWith (· ++ ·) corePieces coreSeps).flatten ++ (items :: tailPieces).flatten := by
    simp [coreItems]
  rw [template_eq b rfl, Template.fragment, List.map_append, hhead', hitems]
  exact hall.strip

/-! ## What fills the slots -/

theorem Fills.append {names names' : List String} {parts : List Fragment}
    (h : Fills b types operands s (names ++ names') parts) :
    ∃ front back, parts = front ++ back ∧ Fills b types operands s names front ∧
      Fills b types operands s names' back := by
  induction names generalizing parts with
  | nil => exact ⟨[], parts, rfl, .nil, h⟩
  | cons name names ih =>
    rcases h with _ | ⟨hfirst, h⟩
    obtain ⟨front, back, rfl, hfront, hback⟩ := ih h
    exact ⟨_ :: front, back, rfl, .cons hfirst hfront, hback⟩

/-- Slots that are filled in the same way. -/
theorem Fills.congr {s' : Statement} {operands' : Traced Fragment} {names : List String}
    {parts : List Fragment} (h : Fills b types operands s names parts)
    (heq : ∀ name ∈ names, s'.slotFilling (b.dialect types) operands' name =
      s.slotFilling (b.dialect types) operands name) :
    Fills b types operands' s' names parts := by
  refine ((List.forall₂_and_left _ _).mpr ⟨heq, h⟩).imp fun name part hpart => ?_
  rw [hpart.1]
  exact hpart.2

theorem eq_ok_of_toFilling {y : Except Error Fragment} {part : Fragment}
    (h : Fragment.toFilling <$> y = .ok part.toFilling) : y = .ok part := by
  obtain ⟨f, rfl, heq⟩ := map_eq_ok.mp h
  rw [Fragment.toFilling_injective heq]

/-- What fills the slots in front of the operands is inert. -/
theorem inert_of_coreSlots (hs : s.Readable) {name : String}
    (hname : name ∈ coreSlots.map Prod.fst) {part : Fragment}
    (h : s.slotFilling (b.dialect types) operands name = .ok part.toFilling) : Inert part.sql := by
  have hplace : ∀ v ∈ s.rawPlaces, v.RawsInert := fun v => hs.rawsInert
  simp only [coreSlots, selectSlots, List.take, List.map_cons, List.map_nil, List.mem_cons,
    List.not_mem_nil, or_false] at hname
  rcases hname with rfl | rfl | rfl | rfl | rfl | rfl | rfl
  · exact inert_distinctFilling types h
  · have hfields : Statement.fieldsFragment (b.dialect types) s = .ok part := eq_ok_of_toFilling h
    rw [Statement.fieldsFragment, hs.kind] at hfields
    obtain ⟨t, ht, hfields⟩ := bind_eq_ok.mp hfields
    cases hfields
    exact inert_fieldList types (hplace _ (by simp [Statement.rawPlaces])) ht
  · exact inert_nameFragment types (eq_ok_of_toFilling h)
  · exact inert_joinsFragment types hs.joins (eq_ok_of_toFilling h)
  · have hformat : b.formatTexts? .filter = some ("WHERE ".toList, ["".toList]) := by
      cases b <;> decide
    exact inert_conditionClause types hformat (by decide) (by decide) hs.filter
      (hplace _ (by simp [Statement.rawPlaces])) (eq_ok_of_toFilling h)
  · exact inert_groupFragment types (hplace _ (by simp [Statement.rawPlaces]))
      (eq_ok_of_toFilling h)
  · have hformat : b.formatTexts? .having = some ("HAVING ".toList, ["".toList]) := by
      cases b <;> decide
    exact inert_conditionClause types hformat (by decide) (by decide) hs.having
      (hplace _ (by simp [Statement.rawPlaces])) (eq_ok_of_toFilling h)

/-- Inert texts with the items that they are read as. -/
theorem exists_pieces {parts : List Fragment} (h : ∀ part ∈ parts, Inert part.sql) :
    ∃ pieces, List.Forall₂ Yields (parts.map Fragment.sql) pieces ∧
      ∀ piece ∈ pieces, ∀ item ∈ piece, item.isInert = true := by
  induction parts with
  | nil => exact ⟨[], .nil, by simp⟩
  | cons part parts ih =>
    obtain ⟨piece, hpiece, hinert⟩ := h part List.mem_cons_self
    obtain ⟨pieces, hpieces, hothers⟩ := ih fun part' hpart' =>
      h part' (List.mem_cons_of_mem _ hpart')
    exact ⟨piece :: pieces, .cons hpiece hpieces, List.forall_mem_cons.mpr ⟨hinert, hothers⟩⟩

theorem isCore_coreItems {pieces : List (List Item)}
    (h : ∀ piece ∈ pieces, ∀ item ∈ piece, item.isInert = true) : IsCore (coreItems pieces) := by
  have hseps : ∀ sep ∈ coreSeps, ∀ item ∈ sep, item.isInert = true := by decide
  have hselect : (Item.token (.word ['S', 'E', 'L', 'E', 'C', 'T'])).isInert = true := by decide
  have hall : ∀ item ∈ coreItems pieces, item.isInert = true := by
    intro item hitem
    rcases List.mem_cons.mp hitem with rfl | hitem
    · exact hselect
    · obtain ⟨both, hboth, hitem⟩ := List.mem_flatten.mp hitem
      rw [← List.map_uncurry_zip_eq_zipWith] at hboth
      obtain ⟨⟨piece, sep⟩, hpair, rfl⟩ := List.mem_map.mp hboth
      obtain ⟨hpiece, hsep⟩ := List.of_mem_zip hpair
      rcases List.mem_append.mp hitem with hitem | hitem
      · exact h piece hpiece item hitem
      · exact hseps sep hsep item hitem
  refine ⟨rfl, fun item hitem => ?_, fun item hitem => ?_⟩
  · obtain ⟨hword, -⟩ := Bool.and_eq_true_iff.mp (hall item hitem)
    simpa using hword
  · obtain ⟨-, htail⟩ := Bool.and_eq_true_iff.mp (hall item hitem)
    simpa using htail

/-! ## What arranges a select -/

/-- Items that are an arrangement or, without one, none. -/
def IsArrangementIf (arranges : Bool) (items : List Item) : Prop :=
  if arranges then IsArrangement items else items = []

theorem IsArrangementIf.append {flag flag' : Bool} {items items' : List Item}
    (h : IsArrangementIf flag items) (h' : IsArrangementIf flag' items') :
    IsArrangementIf (flag || flag') (items ++ items') := by
  cases flag with
  | false =>
    cases h
    exact h'
  | true =>
    have hfirst : IsArrangement items := h
    refine hfirst.append ?_
    cases flag' with
    | false =>
      cases h'
      simp
    | true => exact IsArrangement.words h'

theorem exists_arrangement {flag : Bool} {sql : String}
    (h : if flag then Arranges sql else sql = "") :
    ∃ items, Yields sql items ∧ IsArrangementIf flag items := by
  cases flag with
  | true => exact h
  | false => exact ⟨[], h ▸ Text.yields_empty, rfl⟩

theorem lockText?_select (hs : s.kind = .kind .select) :
    b.lockText? s = if "lock" ∈ b.tailSlots.map Prod.fst then b.wordFor? s.lock else none := by
  have hslot : b.hasLockSlot (.kind .select) = decide ("lock" ∈ b.tailSlots.map Prod.fst) := by
    rw [hasLockSlot, names_select]
    cases b <;> decide
  rw [lockText?, hs, hslot]
  simp only [decide_eq_true_eq]

/-- The slots behind the operands are filled with an arrangement if there is one. -/
theorem exists_tailPieces (hs : s.Readable) {parts : List Fragment}
    (h : Fills b types operands s (b.tailSlots.map Prod.fst) parts) :
    ∃ pieces, List.Forall₂ Yields (parts.map Fragment.sql) pieces ∧
      IsArrangementIf (s.arranges b) pieces.flatten := by
  have horder : ∀ {part : Fragment},
      s.slotFilling (b.dialect types) operands "order_by" = .ok part.toFilling →
      ∃ items, Yields part.sql items ∧ IsArrangementIf s.orderBy.isTrue items := by
    intro part hpart
    have hv := hs.rawsInert (v := s.orderBy) (by simp [Statement.rawPlaces])
    exact exists_arrangement (arranges_orderFragment types hv (eq_ok_of_toFilling hpart))
  have hlimit : ∀ {part : Fragment},
      s.slotFilling (b.dialect types) operands "limit" = .ok part.toFilling →
      ∃ items, Yields part.sql items ∧ IsArrangementIf s.isLimited items := by
    intro part hpart
    exact exists_arrangement (arranges_limitFragment types (eq_ok_of_toFilling hpart))
  have hlock : ∀ {part : Fragment},
      s.slotFilling (b.dialect types) operands "lock" = .ok part.toFilling →
      ∃ items, Yields part.sql items ∧ IsArrangementIf (b.wordFor? s.lock).isSome items := by
    intro part hpart
    cases Fragment.toFilling_injective (toFilling_of_lockFilling hpart)
    refine exists_arrangement ?_
    cases hword : b.wordFor? s.lock with
    | none => rfl
    | some word => exact arranges_wordFor? hs.lock hword
  have hlockText := lockText?_select (b := b) hs.kind
  cases b with
  | ansi | sqlite =>
    rcases h with _ | ⟨ho, _ | ⟨hl, ⟨⟩⟩⟩
    obtain ⟨order, horder, horder'⟩ := horder ho
    obtain ⟨limit, hlimit, hlimit'⟩ := hlimit hl
    refine ⟨[order, limit], .cons horder (.cons hlimit .nil), ?_⟩
    rw [Statement.arranges, hlockText, if_neg (by decide), Option.isSome_none, Bool.or_false]
    simpa using horder'.append hlimit'
  | mysql | postgresql =>
    rcases h with _ | ⟨ho, _ | ⟨hl, _ | ⟨hk, ⟨⟩⟩⟩⟩
    obtain ⟨order, horder, horder'⟩ := horder ho
    obtain ⟨limit, hlimit, hlimit'⟩ := hlimit hl
    obtain ⟨lock, hlock, hlock'⟩ := hlock hk
    refine ⟨[order, limit, lock], .cons horder (.cons hlimit (.cons hlock .nil)), ?_⟩
    rw [Statement.arranges, hlockText, if_pos (by decide)]
    simpa using (horder'.append hlimit').append hlock'

/-! ## The three parts of a select -/

/-- What a select without operands is read as. -/
def Shows (b : Backend) (types : TypeCatalogue) (s : Statement) (items : List Item) : Prop :=
  ∃ g, ((Query.single s).compile (b.dialect types)).result = .ok g ∧ Yields g.sql items

theorem shows_of_fills (hs : s.kind = .kind .select) {coreParts tailParts : List Fragment}
    {corePieces tailPieces : List (List Item)}
    (hcore : Fills b types (pure .empty) s (coreSlots.map Prod.fst) coreParts)
    (htail : Fills b types (pure .empty) s (b.tailSlots.map Prod.fst) tailParts)
    (hcorePieces : List.Forall₂ Yields (coreParts.map Fragment.sql) corePieces)
    (htailPieces : List.Forall₂ Yields (tailParts.map Fragment.sql) tailPieces) :
    b.Shows types s (coreItems corePieces ++ tailPieces.flatten) := by
  have hfills : Fills b types (pure .empty) s (b.template .select).names
      (coreParts ++ .empty :: tailParts) := by
    rw [names_select]
    exact List.rel_append hcore (.cons rfl htail)
  refine ⟨_, result_compile_of_fills hs rfl hfills, ?_⟩
  have hcoreLength : coreParts.length = coreSlots.length := by
    rw [← hcore.length_eq, List.length_map]
  have htailLength : tailParts.length = b.tailSlots.length := by
    rw [← htail.length_eq, List.length_map]
  have hnone : Yields Fragment.empty.sql [] := Text.yields_empty
  simpa using yields_select hcorePieces hcoreLength hnone htailPieces htailLength

/-- What fills the slots behind the operands of a select that arranges nothing. -/
theorem fills_bare_tail : Fills b types (pure .empty) s.bare (b.tailSlots.map Prod.fst)
    (b.tailSlots.map fun _ => .empty) := by
  cases b with
  | ansi | sqlite => exact .cons rfl (.cons rfl .nil)
  | mysql | postgresql => exact .cons rfl (.cons rfl (.cons rfl .nil))

/-- The slots of a select but one do not depend on its operands. -/
theorem slotFilling_operands (operands' : Traced Fragment) {name : String}
    (h : name ≠ "compounds") :
    s.slotFilling (b.dialect types) operands' name =
      s.slotFilling (b.dialect types) operands name := by
  rw [Statement.slotFilling, Statement.slotFilling]
  cases hslot : Slot.ofName name with
  | compounds => exact absurd (Slot.ofName_eq_compounds hslot) h
  | _ => rfl

/-- The slots in front of the operands are filled in the same way without an arrangement. -/
theorem slotFilling_bare {name : String} (h : name ∈ coreSlots.map Prod.fst) :
    s.bare.slotFilling (b.dialect types) operands name =
      s.slotFilling (b.dialect types) operands name := by
  simp only [coreSlots, selectSlots, List.take, List.map_cons, List.map_nil, List.mem_cons,
    List.not_mem_nil, or_false] at h
  rcases h with rfl | rfl | rfl | rfl | rfl | rfl | rfl <;> rfl

theorem Fills.forall_parts {names : List String} {parts : List Fragment} {P : Fragment → Prop}
    (h : Fills b types operands s names parts) (hP : ∀ name ∈ names, ∀ part : Fragment,
      s.slotFilling (b.dialect types) operands name = .ok part.toFilling → P part) :
    ∀ part ∈ parts, P part := by
  induction h with
  | nil => simp
  | cons hpart _ ih =>
    refine List.forall_mem_cons.mpr ⟨hP _ List.mem_cons_self _ hpart, ih fun name hname => ?_⟩
    exact hP name (List.mem_cons_of_mem _ hname)

/-- A select with operands: what it is by itself, the operands, and what arranges the whole. -/
theorem exists_segments (hs : s.Readable) {f : Fragment}
    (h : (s.compile (b.dialect types) operands).result = .ok f) :
    ∃ (c : Fragment) (core tail : List Item), operands.result = .ok c ∧ IsCore core ∧
      IsArrangementIf (s.arranges b) tail ∧ b.Shows types s.bare core ∧
      b.Shows types s (core ++ tail) ∧
      ∀ items, Yields c.sql items → Yields f.sql (core ++ items ++ tail) := by
  obtain ⟨parts, hparts, rfl⟩ := (result_compile_eq_ok hs.kind rfl).mp h
  rw [names_select] at hparts
  obtain ⟨coreParts, rest, rfl, hcore, hrest⟩ := hparts.append
  rcases hrest with _ | ⟨hc, htail⟩
  next c tailParts =>
  replace htail : Fills b types operands s (b.tailSlots.map Prod.fst) tailParts := htail
  have hinert := hcore.forall_parts fun name hname part => inert_of_coreSlots hs hname
  obtain ⟨corePieces, hcorePieces, hcoreInert⟩ := exists_pieces hinert
  obtain ⟨tailPieces, htailPieces, harrangement⟩ := exists_tailPieces hs htail
  -- the operands have no part in the other slots
  have hcompounds : ∀ name ∈ coreSlots.map Prod.fst ++ b.tailSlots.map Prod.fst,
      name ≠ "compounds" := by
    cases b <;> decide
  have hcore' : Fills b types (pure .empty) s (coreSlots.map Prod.fst) coreParts :=
    hcore.congr fun name hname => slotFilling_operands _
      (hcompounds name (List.mem_append_left _ hname))
  have htail' : Fills b types (pure .empty) s (b.tailSlots.map Prod.fst) tailParts :=
    htail.congr fun name hname => slotFilling_operands _
      (hcompounds name (List.mem_append_right _ hname))
  have hbare : b.Shows types s.bare
      (coreItems corePieces ++ (b.tailSlots.map fun _ => ([] : List Item)).flatten) := by
    have hkind : s.bare.kind = .kind .select := hs.kind
    refine shows_of_fills hkind (hcore'.congr fun _ => slotFilling_bare) fills_bare_tail
      hcorePieces ?_
    rw [List.map_map]
    exact List.forall₂_map_left_iff.mpr (List.forall₂_map_right_iff.mpr
      (List.forall₂_same.mpr fun _ _ => Text.yields_empty))
  have hnone : (b.tailSlots.map fun _ => ([] : List Item)).flatten = [] := by
    simp
  rw [hnone, List.append_nil] at hbare
  have hoperands : operands.result = .ok c := by
    rw [Statement.slotFilling] at hc
    exact eq_ok_of_toFilling ((Traced.result_map ..).symm.trans hc)
  refine ⟨c, coreItems corePieces, tailPieces.flatten, hoperands, isCore_coreItems hcoreInert,
    harrangement, hbare, shows_of_fills hs.kind hcore' htail' hcorePieces htailPieces,
    fun items hitems => ?_⟩
  refine yields_select hcorePieces ?_ hitems htailPieces ?_
  · rw [← hcore.length_eq, List.length_map]
  · rw [← htail.length_eq, List.length_map]

end Backend

end SqlRender
