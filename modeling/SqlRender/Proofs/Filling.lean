import SqlRender.Proofs.SlotLikeness

/-!
# What fills the slots of the bundled backends

The bundled backends have registered texts only, so whatever fills one of their slots is a fragment,
and a template can always be put together from what fills its slots. A statement that reads or
changes rows fails exactly if one of its slots does.

* `Backend.exists_toFilling`: what fills a slot is a fragment.
* `Backend.result_compile_cases`: the result for a statement is its fragments in its template, or
  the error of one of its slots.
-/

namespace SqlRender

/-- A list is worked off up to the first item that fails. -/
theorem exists_error_of_mapM {α β : Type} {f : α → Except Error β} {as : List α} {e : Error}
    (h : as.mapM f = .error e) : ∃ a ∈ as, f a = .error e := by
  induction as with
  | nil => cases h
  | cons a as ih =>
    rw [List.mapM_cons] at h
    cases ha : f a with
    | error e' =>
      rw [ha] at h
      cases h
      exact ⟨a, List.mem_cons_self, ha⟩
    | ok b =>
      rw [ha] at h
      cases has : as.mapM f with
      | error e' =>
        rw [has] at h
        cases h
        obtain ⟨a', ha', hfa'⟩ := ih has
        exact ⟨a', List.mem_cons_of_mem a ha', hfa'⟩
      | ok bs =>
        rw [has] at h
        cases h

theorem mapM_congr {α β : Type} {f g : α → Except Error β} {as : List α}
    (h : ∀ a ∈ as, f a = g a) : as.mapM f = as.mapM g := by
  induction as with
  | nil => rfl
  | cons a as ih =>
    rw [List.mapM_cons, List.mapM_cons, h a List.mem_cons_self,
      ih fun a' ha' => h a' (List.mem_cons_of_mem a ha')]

theorem Fragment.toFilling_injective {f g : Fragment} (h : f.toFilling = g.toFilling) : f = g := by
  cases f
  cases g
  cases h
  rfl

namespace Backend

variable {b : Backend} {types : TypeCatalogue} {s : Statement} {operands : Traced Fragment}

theorem exists_toFilling_slotKeyword {slot : String} {key : Value} {x : Filling}
    (h : (Statement.slotKeyword (b.dialect types) slot key).result = .ok x) :
    ∃ f : Fragment, x = f.toFilling := by
  rw [result_slotKeyword] at h
  obtain ⟨_, -, h⟩ := bind_eq_ok.mp h
  cases h
  exact ⟨_, rfl⟩

theorem exists_toFilling_attribute {slot : String} {v : Value} {x : Filling}
    (h : (Statement.attributeFilling (b.dialect types) slot v).result = .ok x) :
    ∃ f : Fragment, x = f.toFilling := by
  unfold Statement.attributeFilling at h
  split at h
  · exact exists_toFilling_slotKeyword h
  · split at h
    · exact exists_toFilling_slotKeyword h
    · cases h
      exact ⟨.empty, rfl⟩
  · next sql =>
    cases h
    exact ⟨.ofSql sql, rfl⟩
  · split at h
    · cases h
    · cases h
      exact ⟨.empty, rfl⟩

/-- Whatever fills a slot of a bundled backend is a fragment. -/
theorem exists_toFilling {slot : Slot} {x : Filling}
    (h : (s.filling (b.dialect types) operands slot).result = .ok x) :
    ∃ f : Fragment, x = f.toFilling := by
  have hmap : ∀ y : Except Error Fragment, Fragment.toFilling <$> y = .ok x →
      ∃ f : Fragment, x = f.toFilling := by
    intro y hy
    obtain ⟨f, -, rfl⟩ := map_eq_ok.mp hy
    exact ⟨f, rfl⟩
  cases slot with
  | distinct =>
    replace h : Statement.distinctFilling (b.dialect types) s.distinct = .ok x := h
    unfold Statement.distinctFilling at h
    split at h
    · rw [formatOf_distinct] at h
      cases h
      exact ⟨.ofSql "DISTINCT", rfl⟩
    · split at h
      · exact hmap _ h
      · cases h
        exact ⟨.empty, rfl⟩
  | lock =>
    replace h : (Statement.lockFilling (b.dialect types) s.lock).result = .ok x := h
    unfold Statement.lockFilling at h
    split at h
    · cases h
      exact ⟨.empty, rfl⟩
    · exact exists_toFilling_slotKeyword h
  | compounds | columns | keys | options =>
    rw [Statement.filling, Traced.result_map] at h
    exact hmap _ h
  | «attribute» name => exact exists_toFilling_attribute h
  | _ => exact hmap _ h

/-- Fillings of slots as fragments. -/
theorem exists_fragments {names : List String} {fillings : List Filling}
    (h : names.mapM (s.slotFilling (b.dialect types) operands) = .ok fillings) :
    ∃ parts : List Fragment, fillings = parts.map Fragment.toFilling := by
  have hall : ∀ x ∈ fillings, ∃ f : Fragment, x = f.toFilling :=
    forall_of_mapM_eq_ok h fun name _ x hx => exists_toFilling hx
  clear h
  induction fillings with
  | nil => exact ⟨[], rfl⟩
  | cons x rest ih =>
    obtain ⟨f, rfl⟩ := hall x List.mem_cons_self
    obtain ⟨parts, rfl⟩ := ih fun y hy => hall y (List.mem_cons_of_mem _ hy)
    exact ⟨f :: parts, rfl⟩

/-- What a statement puts into the slots of its template, one fragment a slot. -/
def Fills (b : Backend) (types : TypeCatalogue) (operands : Traced Fragment) (s : Statement)
    (names : List String) (parts : List Fragment) : Prop :=
  List.Forall₂ (fun name part =>
    s.slotFilling (b.dialect types) operands name = .ok part.toFilling) names parts

theorem Fills.exists_part {names : List String} {parts : List Fragment}
    (h : Fills b types operands s names parts) {name : String} (hname : name ∈ names) :
    ∃ part ∈ parts, s.slotFilling (b.dialect types) operands name = .ok part.toFilling := by
  induction h with
  | nil => cases hname
  | cons hpart _ ih =>
    rcases List.mem_cons.mp hname with rfl | hname
    · exact ⟨_, List.mem_cons_self, hpart⟩
    · obtain ⟨part, hmem, hpart⟩ := ih hname
      exact ⟨part, List.mem_cons_of_mem _ hmem, hpart⟩

/-- The result for a statement that reads or changes rows: its fragments in its template, or the
error of one of its slots. -/
theorem result_compile_cases (b : Backend) (types : TypeCatalogue) (operands : Traced Fragment)
    {k : StatementKind} (hs : s.kind = .kind k) (hk : k.isData = true) :
    (∃ parts, Fills b types operands s (b.template k).names parts ∧
        (s.compile (b.dialect types) operands).result = .ok ((b.template k).fragment parts)) ∨
      ∃ name ∈ (b.template k).names, ∃ e,
        s.slotFilling (b.dialect types) operands name = .error e ∧
        (s.compile (b.dialect types) operands).result = .error e := by
  rw [result_compile types hs hk]
  cases hfillings : (b.template k).names.mapM (s.slotFilling (b.dialect types) operands) with
  | error e =>
    obtain ⟨name, hname, he⟩ := exists_error_of_mapM hfillings
    exact .inr ⟨name, hname, e, he, rfl⟩
  | ok fillings =>
    obtain ⟨parts, rfl⟩ := exists_fragments hfillings
    have hfills := List.forall₂_map_right_iff.mp (mapM_eq_ok.mp hfillings)
    refine .inl ⟨parts, hfills, ?_⟩
    exact Statement.assemble_eq (template_regular b hk).nodup hfills.length_eq.symm

theorem result_compile_of_fills {k : StatementKind} (hs : s.kind = .kind k) (hk : k.isData = true)
    {parts : List Fragment} (h : Fills b types operands s (b.template k).names parts) :
    (s.compile (b.dialect types) operands).result = .ok ((b.template k).fragment parts) := by
  have hfillings := mapM_eq_ok.mpr (List.forall₂_map_right_iff.mpr h)
  rw [result_compile types hs hk, hfillings]
  exact Statement.assemble_eq (template_regular b hk).nodup h.length_eq.symm

/-- A statement that reads or changes rows compiles exactly if its slots can be filled. -/
theorem result_compile_eq_ok {k : StatementKind} (hs : s.kind = .kind k) (hk : k.isData = true)
    {f : Fragment} :
    (s.compile (b.dialect types) operands).result = .ok f ↔
      ∃ parts, Fills b types operands s (b.template k).names parts ∧
        f = (b.template k).fragment parts := by
  constructor
  · intro h
    rcases result_compile_cases b types operands hs hk with
      ⟨parts, hparts, hresult⟩ | ⟨_, -, e, -, hresult⟩
    · rw [hresult] at h
      exact ⟨parts, hparts, (Except.ok.inj h).symm⟩
    · rw [hresult] at h
      cases h
  · rintro ⟨parts, hparts, rfl⟩
    exact result_compile_of_fills hs hk hparts

end Backend

end SqlRender
