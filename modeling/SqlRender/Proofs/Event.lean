import SqlRender.Proofs.Compilation

/-!
# Events of compilations

What a compilation can say on the way, and what it has said when it succeeds: the events of a
statement are those of its slots, in the order of the template.

* `Statement.mem_events_filling`: every event of a slot.
* `Statement.mem_events_compile`, `Query.mem_events_compileOperands`: where an event comes from.
* `Statement.events_compile`: the events of a statement that compiles.
-/

namespace SqlRender

namespace Traced

variable {α β : Type}

theorem mem_events_bind {x : Traced α} {f : α → Traced β} {e : Event} :
    e ∈ (x >>= f).events ↔ e ∈ x.events ∨ ∃ a, x.result = .ok a ∧ e ∈ (f a).events := by
  cases hx : x.result with
  | error err => simp [(bind_error f hx).2]
  | ok a => simp [(bind_ok f hx).2]

theorem events_map (f : α → β) (x : Traced α) : (f <$> x).events = x.events := by
  rw [map_eq_pure_bind]
  cases hx : x.result with
  | error err => rw [(bind_error _ hx).2]
  | ok a => rw [(bind_ok _ hx).2, events_pure, List.append_nil]

@[simp] theorem events_ofExcept (x : Except Error α) : (ofExcept x).events = [] := rfl

end Traced

namespace Statement

variable {d : Dialect} {operands : Traced Fragment} {s : Statement} {e : Event}

theorem mem_events_slotKeyword {slot : String} {key : Value}
    (h : e ∈ (slotKeyword d slot key).events) : e = .notice (.keywordMissing key slot d.name) := by
  obtain h | ⟨found, -, h⟩ := Traced.mem_events_bind.mp h
  · cases h
  · split at h
    · simpa [Traced.events_map, Traced.note] using h
    · simpa [Traced.events_map, Traced.note] using h
    · cases h

/-- What can be said while a slot is filled from the attributes. -/
theorem mem_events_attributeFilling {slot : String} {value : Value}
    (h : e ∈ (attributeFilling d slot value).events) :
    e = .notice (.slotWithoutKeyword slot) ∨
      ∃ key, e = .notice (.keywordMissing key slot d.name) := by
  unfold attributeFilling at h
  split at h
  · exact .inr ⟨_, mem_events_slotKeyword h⟩
  · split at h
    · exact .inr ⟨_, mem_events_slotKeyword h⟩
    · left
      simpa [Traced.events_map, Traced.note] using h
  · cases h
  · split at h <;> cases h

/-- Every event of a slot: a lock or an attribute whose keyword is not known, an event of an
operand, and what a word for the type of a column takes in. -/
theorem mem_events_filling {slot : Slot} (h : e ∈ (s.filling d operands slot).events) :
    (slot = .lock ∧ s.lock ≠ .null ∧ e = .notice (.keywordMissing s.lock "lock" d.name)) ∨
      (slot = .compounds ∧ e ∈ operands.events) ∨
      (∃ columns g, d.columnsGrowth? columns = some g ∧ e = .grown g) ∨
      ∃ name, slot = .attribute name ∧ (e = .notice (.slotWithoutKeyword name) ∨
        ∃ key, e = .notice (.keywordMissing key name d.name)) := by
  cases slot with
  | lock =>
    left
    rw [filling] at h
    unfold lockFilling at h
    split at h
    · cases h
    · next hlock => exact ⟨rfl, hlock, mem_events_slotKeyword h⟩
  | compounds =>
    rw [filling, Traced.events_map] at h
    exact .inr (.inl ⟨rfl, h⟩)
  | columns =>
    rw [filling, Traced.events_map] at h
    unfold schemaFragment at h
    split at h
    · cases h
    · next schema _ =>
      obtain h | ⟨_, -, h⟩ := Traced.mem_events_bind.mp h
      · obtain h | ⟨_, -, h⟩ := Traced.mem_events_bind.mp h
        · obtain ⟨g, hg, rfl⟩ := List.mem_map.mp h
          exact .inr (.inr (.inl ⟨_, g, Option.mem_toList.mp hg, rfl⟩))
        · cases h
      · cases h
  | keys | options =>
    rw [filling, Traced.events_map] at h
    unfold schemaFragment at h
    split at h
    · cases h
    · obtain h | ⟨_, -, h⟩ := Traced.mem_events_bind.mp h <;> cases h
  | «attribute» name => exact .inr (.inr (.inr ⟨name, rfl, mem_events_attributeFilling h⟩))
  | _ => cases h

theorem mem_events_fillSlots {names : List String}
    (h : e ∈ (s.fillSlots d operands names).events) :
    ∃ name ∈ names, e ∈ (s.filling d operands (.ofName name)).events := by
  induction names with
  | nil => cases h
  | cons name rest ih =>
    rw [fillSlots] at h
    obtain h | ⟨_, -, h⟩ := Traced.mem_events_bind.mp h
    · exact ⟨name, List.mem_cons_self, h⟩
    · obtain h | ⟨_, -, h⟩ := Traced.mem_events_bind.mp h
      · obtain ⟨other, hother, h⟩ := ih h
        exact ⟨other, List.mem_cons_of_mem name hother, h⟩
      · cases h

/-- Where an event of a statement comes from: its two ends, the check of its lock, and its slots. -/
theorem mem_events_compile (h : e ∈ (s.compile d operands).events) :
    (∃ label, e = .started label ∨ e = .finished label) ∨
      (∃ slots, e ∈ (s.checkLock d slots).events) ∨
      ∃ name, e ∈ (s.filling d operands (.ofName name)).events := by
  rw [compile] at h
  obtain h | ⟨_, -, h⟩ := Traced.mem_events_bind.mp h
  · cases h
  rcases List.mem_cons.mp h with rfl | h
  · exact .inl ⟨_, .inl rfl⟩
  rcases List.mem_append.mp h with h | h
  · obtain h | ⟨template, -, h⟩ := Traced.mem_events_bind.mp h
    · cases h
    obtain h | ⟨_, -, h⟩ := Traced.mem_events_bind.mp h
    · exact .inr (.inl ⟨_, h⟩)
    obtain h | ⟨_, -, h⟩ := Traced.mem_events_bind.mp h
    · obtain ⟨name, -, h⟩ := mem_events_fillSlots h
      exact .inr (.inr ⟨name, h⟩)
    · cases h
  · exact .inl ⟨_, .inr (List.mem_singleton.mp h)⟩

/-- Slots that are all filled say what each of them says. -/
theorem events_fillSlots {names : List String} {fillings : List (String × Filling)}
    (h : (s.fillSlots d operands names).result = .ok fillings) :
    (s.fillSlots d operands names).events =
      names.flatMap fun name => (s.filling d operands (.ofName name)).events := by
  induction names generalizing fillings with
  | nil => rfl
  | cons name rest ih =>
    rw [fillSlots, Traced.result_bind] at h
    obtain ⟨filling, hfilling, h⟩ := bind_eq_ok.mp h
    rw [Traced.result_bind] at h
    obtain ⟨others, hothers, -⟩ := bind_eq_ok.mp h
    rw [fillSlots, (Traced.bind_ok _ hfilling).2, (Traced.bind_ok _ hothers).2, ih hothers,
      List.flatMap_cons, Traced.events_pure, List.append_nil]

/-- The events of a statement that compiles. -/
theorem events_compile {f : Fragment} (h : (s.compile d operands).result = .ok f) :
    ∃ registered template, d.templateOf s.kind = .ok registered ∧
      Template.ofValue registered = .ok template ∧
      (s.compile d operands).events =
        .started ("render " ++ s.kind.display) ::
          ((s.checkLock d template.names).events ++
            template.names.flatMap fun name => (s.filling d operands (.ofName name)).events) ++
          [.finished ("render " ++ s.kind.display)] := by
  rw [compile, Traced.result_bind] at h
  obtain ⟨registered, hregistered, h⟩ := bind_eq_ok.mp h
  rw [Traced.result_timed, Traced.result_bind] at h
  obtain ⟨template, htemplate, h⟩ := bind_eq_ok.mp h
  have hchecked := result_checkLock d s template.names
  rw [Traced.result_bind, hchecked] at h
  replace h : (s.fillSlots d operands template.names >>= _).result = .ok f := h
  rw [Traced.result_bind] at h
  obtain ⟨fillings, hfillings, -⟩ := bind_eq_ok.mp h
  refine ⟨registered, template, hregistered, htemplate, ?_⟩
  rw [compile, (Traced.bind_ok _ hregistered).2, Traced.timed, (Traced.bind_ok _ htemplate).2,
    (Traced.bind_ok _ hchecked).2, (Traced.bind_ok _ hfillings).2, events_fillSlots hfillings]
  simp [liftM, monadLift, MonadLift.monadLift]

end Statement

namespace Query

variable {d : Dialect}

mutual

/-- A compilation puts on record only what words for the types of columns take in. -/
theorem exists_growth (q : Query) {g : WordGrowth} (h : .grown g ∈ (q.compile d).events) :
    ∃ columns, d.columnsGrowth? columns = some g := by
  cases q with
  | mk s compounds =>
    rw [compile] at h
    rcases Statement.mem_events_compile h with ⟨label, h | h⟩ | ⟨slots, h⟩ | ⟨name, h⟩
    · cases h
    · cases h
    · unfold Statement.checkLock at h
      split at h
      · cases h
      · split at h <;> simp [Traced.note] at h
    · rcases Statement.mem_events_filling h with
        ⟨-, -, h⟩ | ⟨-, h⟩ | ⟨columns, g', hgrowth, h⟩ | ⟨_, -, h | ⟨_, h⟩⟩
      · cases h
      · exact exists_growth_operands compounds h
      · cases h
        exact ⟨columns, hgrowth⟩
      · cases h
      · cases h

theorem exists_growth_operands (operands : List (Value × Query)) {g : WordGrowth}
    (h : .grown g ∈ (compileOperands d operands).events) :
    ∃ columns, d.columnsGrowth? columns = some g := by
  cases operands with
  | nil => cases h
  | cons operand rest =>
    obtain ⟨clause, q⟩ := operand
    rw [compileOperands] at h
    obtain h | ⟨_, -, h⟩ := Traced.mem_events_bind.mp h
    · rw [compileOperand] at h
      obtain h | ⟨_, -, h⟩ := Traced.mem_events_bind.mp h
      · exact exists_growth q h
      · obtain h | ⟨_, -, h⟩ := Traced.mem_events_bind.mp h <;> cases h
    · obtain h | ⟨_, -, h⟩ := Traced.mem_events_bind.mp h
      · exact exists_growth_operands rest h
      · cases h

end

/-- What is said while operands are compiled with success. -/
theorem events_compileOperands {operands : List (Value × Query)} {f : Fragment}
    (h : (compileOperands d operands).result = .ok f) :
    (compileOperands d operands).events =
      operands.flatMap fun operand => (operand.2.compile d).events := by
  induction operands generalizing f with
  | nil => rfl
  | cons operand rest ih =>
    obtain ⟨clause, q⟩ := operand
    have hresult := h
    rw [result_compileOperands] at hresult
    obtain ⟨first, hfirst, hresult⟩ := bind_eq_ok.mp hresult
    obtain ⟨others, hothers, -⟩ := bind_eq_ok.mp hresult
    have hinner := hfirst
    rw [result_compileOperand] at hinner
    obtain ⟨inner, hinner, htext⟩ := bind_eq_ok.mp hinner
    obtain ⟨text, htext, -⟩ := bind_eq_ok.mp htext
    have hevents : (compileOperand d (clause, q)).events = (q.compile d).events := by
      rw [compileOperand, (Traced.bind_ok _ hinner).2, (Traced.bind_ok _ htext).2]
      simp [liftM, monadLift, MonadLift.monadLift]
    rw [compileOperands, (Traced.bind_ok _ hfirst).2, (Traced.bind_ok _ hothers).2, ih hothers,
      hevents, List.flatMap_cons, Traced.events_pure, List.append_nil]

end Query

end SqlRender
