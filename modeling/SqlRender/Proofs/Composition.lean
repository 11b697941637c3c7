import SqlRender.Proofs.Bundled
import SqlRender.Proofs.Event

/-!
# How dialects are composed, and that they stay

A dialect is built from the baseline and overlays. In each of its tables the last registration that
names a key decides, and a key that none names is unknown. Afterwards the dialect is frozen: whoever
writes to it is refused. If the words for types are texts, it stays as it was. A word that is a list
does not: a compilation that puts a length behind it puts the length into the list.

* `Composed.register`, `Composed.registerAll`: what one registration and a run of them do.
* `result_build_cases`: when a dialect can be built, and what it is then.
* `FrozenFor.next`, `FrozenFor.run`: a frozen dialect stays frozen, whatever is done with it.
* `next_eq_self`, `run_eq_self`: without words that are lists it stays as it was.
* `last_overlay_decides_and_stays`: all of it.
* `listWord_grows`: a word that is a list gets longer.
-/

namespace SqlRender

namespace Dialect

/-! ## Tables and keys -/

/-- The type of the keys of a table. -/
def Table.Key : Table → Type
  | .keywords => Keyword
  | .clauses => Clause
  | .statements => StatementKind
  | .typeAliases => String

instance : (t : Table) → DecidableEq t.Key
  | .keywords => inferInstanceAs (DecidableEq Keyword)
  | .clauses => inferInstanceAs (DecidableEq Clause)
  | .statements => inferInstanceAs (DecidableEq StatementKind)
  | .typeAliases => inferInstanceAs (DecidableEq String)

instance : (t : Table) → RegistryKey t.Key
  | .keywords => inferInstanceAs (RegistryKey Keyword)
  | .clauses => inferInstanceAs (RegistryKey Clause)
  | .statements => inferInstanceAs (RegistryKey StatementKind)
  | .typeAliases => inferInstanceAs (RegistryKey String)

/-- The registry behind a table. -/
def registry (d : Dialect) : (t : Table) → Registry t.Key Value
  | .keywords => d.keywords
  | .clauses => d.clauses
  | .statements => d.statements
  | .typeAliases => d.typeAliases

instance : (t : Table) → SymbolKey t.Key
  | .keywords => inferInstanceAs (SymbolKey Keyword)
  | .clauses => inferInstanceAs (SymbolKey Clause)
  | .statements => inferInstanceAs (SymbolKey StatementKind)
  | .typeAliases => inferInstanceAs (SymbolKey String)

/-- The key that a registration names in a table, if it is for this table and its key is of the
right type. -/
def Write.key? (w : Write) (t : Table) : Option t.Key :=
  if w.table = t then RegistryKey.ofValue? w.key else none

/-- The key of a registration has the type that its table asks for. -/
def Write.fits (w : Write) : Bool := (w.key? w.table).isSome

/-- What the last of some registrations for a key gives to it. -/
def lastItem? (t : Table) (key : t.Key) (writes : List Write) : Option Value :=
  writes.reverse.findSome? fun w => if w.key? t = some key then some w.item else none

theorem lastItem?_append (t : Table) (key : t.Key) (before after : List Write) :
    lastItem? t key (before ++ after) = (lastItem? t key after).or (lastItem? t key before) := by
  rw [lastItem?, List.reverse_append, List.findSome?_append]
  rfl

theorem lastItem?_singleton (t : Table) (key : t.Key) (w : Write) :
    lastItem? t key [w] = if w.key? t = some key then some w.item else none := by
  by_cases h : w.key? t = some key <;> simp [lastItem?, h]

/-! ## Registrations -/

/-- The dialect with another registry behind a table. -/
def setRegistry (d : Dialect) : (t : Table) → Registry t.Key Value → Dialect
  | .keywords, r => { d with keywords := r }
  | .clauses, r => { d with clauses := r }
  | .statements, r => { d with statements := r }
  | .typeAliases, r => { d with typeAliases := r }

theorem registry_setRegistry (d : Dialect) (t : Table) (r : Registry t.Key Value) :
    (d.setRegistry t r).registry t = r := by
  cases t <;> rfl

theorem registry_setRegistry_of_ne (d : Dialect) {t other : Table} (h : t ≠ other)
    (r : Registry t.Key Value) : (d.setRegistry t r).registry other = d.registry other := by
  cases t <;> cases other <;> first | exact absurd rfl h | rfl

/-- What holds of all registries still does if it holds of the new one. -/
theorem forall_registry_setRegistry {P : ∀ t : Table, Registry t.Key Value → Prop} {d : Dialect}
    (h : ∀ t, P t (d.registry t)) {t : Table} {r : Registry t.Key Value} (hr : P t r)
    (other : Table) : P other ((d.setRegistry t r).registry other) := by
  by_cases ht : t = other
  · subst ht
    rw [registry_setRegistry]
    exact hr
  · rw [registry_setRegistry_of_ne d ht]
    exact h other

/-- A registration is one in the registry of its table. -/
theorem register_eq (d : Dialect) (w : Write) :
    d.register w = (do
      return d.setRegistry w.table (← (d.registry w.table).register w.key w.item)) := by
  obtain ⟨table, key, item⟩ := w
  cases table <;> rfl

/-- What a dialect with a name is after registrations: open, with the last of them for each key. -/
structure Composed (name : String) (writes : List Write) (d : Dialect) : Prop where
  isOpen : ∀ t, (d.registry t).frozen = false
  owner : ∀ t, (d.registry t).owner = .text name
  item : ∀ t key, (d.registry t).item? key = lastItem? t key writes

section

variable {name : String} {before : List Write} {d : Dialect}

/-- One registration: an open dialect takes it if its key fits, and refuses it otherwise. -/
theorem Composed.register (h : Composed name before d) (w : Write) :
    (w.fits = true ∧ ∃ d', d.register w = .ok d' ∧ Composed name (before ++ [w]) d') ∨
      (w.fits = false ∧ ∃ e, d.register w = .error e) := by
  have hkey : w.key? w.table = RegistryKey.ofValue? w.key := if_pos rfl
  rw [register_eq, Registry.register_of_open (h.isOpen _), Write.fits, hkey]
  cases hk : (RegistryKey.ofValue? w.key : Option w.table.Key) with
  | none => exact .inr ⟨rfl, _, rfl⟩
  | some k =>
    have hopen := @forall_registry_setRegistry (fun _ r => r.frozen = false) d h.isOpen w.table
      ((d.registry w.table).put k w.item) (h.isOpen w.table)
    have howner := @forall_registry_setRegistry (fun _ r => r.owner = .text name) d h.owner w.table
      ((d.registry w.table).put k w.item) (h.owner w.table)
    refine .inl ⟨rfl, _, rfl, hopen, howner, fun t key => ?_⟩
    rw [lastItem?_append, lastItem?_singleton]
    by_cases ht : w.table = t
    · subst ht
      rw [registry_setRegistry, hkey, hk, Registry.item?, Registry.put, Assoc.get?_put]
      by_cases heq : k = key
      · simp [heq]
      · have hitem := h.item w.table key
        rw [Registry.item?] at hitem
        simpa [heq] using hitem
    · rw [registry_setRegistry_of_ne d ht, Write.key?, if_neg ht]
      exact h.item t key

/-- A run of registrations goes through exactly if every key fits. -/
theorem Composed.registerAll (h : Composed name before d) (writes : List Write) :
    ((∀ w ∈ writes, w.fits = true) ∧
        ∃ d', d.registerAll writes = .ok d' ∧ Composed name (before ++ writes) d') ∨
      ((¬ ∀ w ∈ writes, w.fits = true) ∧ ∃ e, d.registerAll writes = .error e) := by
  induction writes generalizing before d with
  | nil => exact .inl ⟨by simp, d, rfl, by simpa using h⟩
  | cons w rest ih =>
    have hstep : d.registerAll (w :: rest) = d.register w >>= fun d => d.registerAll rest :=
      List.foldlM_cons ..
    rw [hstep, List.forall_mem_cons]
    rcases h.register w with ⟨hfits, d', hd', h'⟩ | ⟨hfits, e, he⟩
    · rw [hd']
      rcases ih h' with ⟨hrest, d'', hd'', h''⟩ | ⟨hrest, e, he⟩
      · exact .inl ⟨⟨hfits, hrest⟩, d'', hd'', by simpa using h''⟩
      · exact .inr ⟨fun hall => hrest hall.2, e, he⟩
    · rw [he]
      exact .inr ⟨fun hall => by simp [hfits] at hall, e, rfl⟩

end

/-! ## Building -/

/-- The registrations of the baseline. -/
def baselineWrites : List Write := baseline.map Entry.toWrite

/-- To write an entry is to register it, as long as the dialect is open. -/
theorem register_toWrite {d : Dialect} (hopen : ∀ t, (d.registry t).frozen = false)
    (entry : Entry) : d.register entry.toWrite = .ok (d.put entry) := by
  have hfrozen := hopen entry.toWrite.table
  rw [register_eq, Registry.register_of_open hfrozen]
  cases entry <;> rfl

theorem Composed.putAll {name : String} {before : List Write} {d : Dialect}
    (h : Composed name before d) (entries : List Entry) :
    Composed name (before ++ entries.map Entry.toWrite) (d.putAll entries) := by
  induction entries generalizing before d with
  | nil => simpa [Dialect.putAll] using h
  | cons entry rest ih =>
    have hput := register_toWrite h.isOpen entry
    rcases h.register entry.toWrite with ⟨-, d', hd', h'⟩ | ⟨-, e, he⟩
    · cases hput.symm.trans hd'
      simpa [Dialect.putAll] using ih h'
    · cases hput.symm.trans he

theorem composed_base (name mark : String) (types : TypeCatalogue) :
    Composed name baselineWrites (base name mark types) := by
  have hblank : Composed name [] (blank name mark types) :=
    ⟨fun t => by cases t <;> rfl, fun t => by cases t <;> rfl, fun t key => by cases t <;> rfl⟩
  exact hblank.putAll baseline

/-- Overlays one after the other are one run of registrations. -/
theorem result_foldlM_overlays (d : Dialect) (overlays : List (List Write)) :
    ((overlays.map fun writes d => Dialect.registerAll d writes).foldlM
      (fun d initializer => (initializer d : Traced Dialect)) d).result =
      d.registerAll overlays.flatten := by
  induction overlays generalizing d with
  | nil => rfl
  | cons writes rest ih =>
    rw [List.map_cons, List.foldlM_cons, Traced.result_bind, List.flatten_cons, registerAll,
      List.foldlM_append]
    exact bind_congr ih

theorem result_build_eq (name mark : String) (types : TypeCatalogue)
    (overlays : List (List Write)) :
    (build name mark types overlays).result =
      (base name mark types).registerAll overlays.flatten >>= fun d => .ok d.freeze := by
  rw [build, buildWith, Traced.result_bind, ← result_foldlM_overlays]
  rfl

/-- No table of the dialect can be written to, and each of them names the owner. -/
structure FrozenFor (name : String) (d : Dialect) : Prop where
  frozen : ∀ t, (d.registry t).frozen = true
  owner : ∀ t, (d.registry t).owner = .text name

theorem registry_freeze (d : Dialect) (t : Table) :
    d.freeze.registry t = (d.registry t).freeze := by
  cases t <;> rfl

/-- A dialect can be built exactly if every key fits, and then it is what the overlays make of the
baseline, frozen. -/
theorem result_build_cases (name mark : String) (types : TypeCatalogue)
    (overlays : List (List Write)) :
    ((∀ w ∈ overlays.flatten, w.fits = true) ∧
        ∃ d, (build name mark types overlays).result = .ok d.freeze ∧
          Composed name (baselineWrites ++ overlays.flatten) d) ∨
      ((¬ ∀ w ∈ overlays.flatten, w.fits = true) ∧
        ∃ e, (build name mark types overlays).result = .error e) := by
  rw [result_build_eq]
  rcases (composed_base name mark types).registerAll overlays.flatten with
    ⟨hfits, d, hd, h⟩ | ⟨hfits, e, he⟩
  · exact .inl ⟨hfits, d, by rw [hd]; rfl, h⟩
  · exact .inr ⟨hfits, e, by rw [he]; rfl⟩

/-! ## What can be done with a dialect -/

/-- The dialect after registrations up to the first that is refused; those before it stay. -/
def written (d : Dialect) : List Write → Dialect
  | [] => d
  | w :: rest =>
    match d.register w with
    | .ok d' => d'.written rest
    | .error _ => d

/-- What can be done with a dialect that has been built. -/
inductive Use where
  | register (w : Write)
  /-- Lays an overlay over the dialect again. -/
  | overlay (writes : List Write)
  | compile (q : Query)

namespace Use

/-- The registrations that a use asks for. -/
def writes : Use → List Write
  | .register w => [w]
  | .overlay writes => writes
  | .compile _ => []

/-- The dialect after a use. -/
def next (d : Dialect) : Use → Dialect
  | .compile q => d.after (q.compile d).events
  | use => d.written use.writes

/-- How a use ends. -/
def outcome (d : Dialect) : Use → Except Error Unit
  | .register w => (fun _ => ()) <$> d.register w
  | .overlay writes => (fun _ => ()) <$> d.registerAll writes
  | .compile q => (fun _ => ()) <$> (q.compile d).result

end Use

/-- The dialect after uses. -/
def run (d : Dialect) (uses : List Use) : Dialect := uses.foldl Use.next d

section

variable {name : String} {d : Dialect}

theorem register_of_frozen (h : d.FrozenFor name) (w : Write) :
    d.register w = .error (Error.frozen w.key (.text name)).raised := by
  rw [register_eq, Registry.register, h.frozen, if_pos rfl, h.owner]
  rfl

theorem written_of_frozen (h : d.FrozenFor name) (writes : List Write) : d.written writes = d := by
  cases writes with
  | nil => rfl
  | cons w rest => rw [written, register_of_frozen h w]

/-- Whoever writes to a frozen dialect is refused at the first key. -/
theorem Use.refused (h : d.FrozenFor name) {use : Use} {w : Write} {rest : List Write}
    (hwrites : use.writes = w :: rest) :
    use.outcome d = .error (Error.frozen w.key (.text name)).raised := by
  cases use with
  | register w' =>
    cases hwrites
    rw [outcome, register_of_frozen h w]
    rfl
  | overlay given =>
    have hgiven : given = w :: rest := hwrites
    rw [outcome, hgiven, registerAll, List.foldlM_cons, register_of_frozen h w]
    rfl
  | compile q => cases hwrites

namespace FrozenFor

theorem grow (h : d.FrozenFor name) (g : WordGrowth) : (d.grow g).FrozenFor name := by
  unfold Dialect.grow
  split
  · refine ⟨fun t => ?_, fun t => ?_⟩
    · cases t with
      | typeAliases => exact h.frozen .typeAliases
      | keywords => exact h.frozen .keywords
      | clauses => exact h.frozen .clauses
      | statements => exact h.frozen .statements
    · cases t with
      | typeAliases => exact h.owner .typeAliases
      | keywords => exact h.owner .keywords
      | clauses => exact h.owner .clauses
      | statements => exact h.owner .statements
  · exact h

theorem after (h : d.FrozenFor name) (events : List Event) : (d.after events).FrozenFor name := by
  induction events generalizing d with
  | nil => exact h
  | cons e rest ih =>
    cases e with
    | grown g => exact ih (h.grow g)
    | notice n => exact ih h
    | started label => exact ih h
    | finished label => exact ih h

/-- A frozen dialect stays frozen, whatever is done with it. -/
theorem next (h : d.FrozenFor name) (use : Use) : (use.next d).FrozenFor name := by
  cases use with
  | compile q => exact h.after _
  | register w =>
    have hnext : Use.next d (.register w) = d := written_of_frozen h _
    rwa [hnext]
  | overlay writes =>
    have hnext : Use.next d (.overlay writes) = d := written_of_frozen h _
    rwa [hnext]

theorem run (h : d.FrozenFor name) (uses : List Use) : (d.run uses).FrozenFor name := by
  induction uses generalizing d with
  | nil => exact h
  | cons use rest ih => exact ih (h.next use)

end FrozenFor

/-! ## Words that are lists -/

/-- Only a word that is a list takes in a length. -/
theorem exists_list_of_columnGrowth? {name options : Value} {g : WordGrowth}
    (h : d.columnGrowth? name options = some g) :
    ∃ items, d.typeAliases.item? g.typeName = some (.list items) := by
  unfold columnGrowth? at h
  split at h
  · split at h
    · next type merged _ typeName _ _ =>
      split at h
      · next items text hword _ =>
        cases h
        refine ⟨items, ?_⟩
        unfold typeWord at hword
        split at hword
        · cases hword
        · cases hword
        · next word hitem => rw [hitem, hword]
      · cases h
    · cases h
  · cases h

theorem exists_list_of_columnsGrowth? {columns : List (Value × Mapping)} {g : WordGrowth}
    (h : d.columnsGrowth? columns = some g) :
    ∃ items, d.typeAliases.item? g.typeName = some (.list items) := by
  fun_induction columnsGrowth? d columns with
  | case1 => cases h
  | case2 name options rest growth hgrowth =>
    cases h
    exact exists_list_of_columnGrowth? hgrowth
  | case3 name options rest line hline hgrowth ih => exact ih h
  | case4 => cases h

theorem after_eq_self {events : List Event} (h : ∀ g, .grown g ∉ events) : d.after events = d := by
  induction events with
  | nil => rfl
  | cons e rest ih =>
    have hrest : ∀ g, .grown g ∉ rest := fun g hg => h g (List.mem_cons_of_mem e hg)
    cases e with
    | notice n => exact ih hrest
    | started label => exact ih hrest
    | finished label => exact ih hrest
    | grown g => exact absurd List.mem_cons_self (h g)

theorem next_eq_self (hfrozen : d.FrozenFor name)
    (hlists : ∀ name items, d.typeAliases.item? name ≠ some (.list items)) (use : Use) :
    use.next d = d := by
  cases use with
  | compile q =>
    refine after_eq_self fun g hg => ?_
    obtain ⟨columns, hcolumns⟩ := Query.exists_growth q hg
    obtain ⟨items, hitems⟩ := exists_list_of_columnsGrowth? hcolumns
    exact hlists _ items hitems
  | register w => exact written_of_frozen hfrozen _
  | overlay writes => exact written_of_frozen hfrozen _

theorem run_eq_self (hfrozen : d.FrozenFor name)
    (hlists : ∀ name items, d.typeAliases.item? name ≠ some (.list items)) (uses : List Use) :
    d.run uses = d := by
  induction uses with
  | nil => rfl
  | cons use rest ih => rw [run, List.foldl_cons, next_eq_self hfrozen hlists, ← run, ih]

end

/-- What a composed dialect gives for a symbol, after the freeze as before. -/
theorem Composed.lookup_freeze {name : String} {writes : List Write} {d : Dialect}
    (h : Composed name writes d) (t : Table) (key : t.Key) (missing : Value → Value → Error) :
    (d.freeze.registry t).lookup missing (RegistryKey.toValue key) =
      (lastItem? t key writes).elim
        (.error (missing (RegistryKey.toValue key) (.text name)).raised) .ok := by
  rw [Registry.lookup_eq _ missing _ (RegistryKey.ofValue?_toValue key), registry_freeze,
    ← h.item t key, ← h.owner t]
  rfl

/-- The words of the baseline are texts. -/
theorem lastItem?_baselineWrites_ne_list {key : Table.Key .typeAliases} {items : List Value} :
    lastItem? .typeAliases key baselineWrites ≠ some (.list items) := by
  intro h
  obtain ⟨w, hw, hitem⟩ := List.exists_of_findSome?_eq_some h
  obtain ⟨entry, -, rfl⟩ := List.mem_map.mp (List.mem_reverse.mp hw)
  split at hitem
  · cases entry <;> cases hitem
  · cases hitem

/-- Overlays compose in order, and what they compose stays. A dialect can be built exactly if every
key fits its table. Then each table gives for a symbol what the last overlay that names it gives,
otherwise what the baseline gives, and otherwise knows no such symbol. Whatever is done with the
dialect afterwards, whoever writes to it is refused by an error that names the first key, as far as
it has a text. Where the words for types that overlays give are texts, the dialect stays as it
was. -/
theorem last_overlay_decides_and_stays (name mark : String) (types : TypeCatalogue)
    (overlays : List (List Write)) :
    ((∃ d, (build name mark types overlays).result = .ok d) ↔
        ∀ writes ∈ overlays, ∀ w ∈ writes, w.fits = true) ∧
      ∀ d, (build name mark types overlays).result = .ok d →
        (∀ t key, (d.registry t).item? key =
          (lastItem? t key overlays.flatten).or (lastItem? t key baselineWrites)) ∧
        (∀ t key missing, (d.registry t).lookup missing (RegistryKey.toValue key) =
          ((lastItem? t key overlays.flatten).or (lastItem? t key baselineWrites)).elim
            (.error (missing (RegistryKey.toValue key) (.text name)).raised) .ok) ∧
        ∀ uses,
          (∀ (use : Use) w rest, use.writes = w :: rest →
            use.outcome (d.run uses) = .error (Error.frozen w.key (.text name)).raised) ∧
          ((∀ key item, lastItem? .typeAliases key overlays.flatten = some item →
              ∃ word, item = .text word) → d.run uses = d) := by
  have hflatten : (∀ writes ∈ overlays, ∀ w ∈ writes, w.fits = true) ↔
      ∀ w ∈ overlays.flatten, w.fits = true := List.forall_mem_flatten.symm
  rw [hflatten]
  rcases result_build_cases name mark types overlays with
    ⟨hfits, d, hd, hcomposed⟩ | ⟨hfits, e, he⟩
  · refine ⟨iff_of_true ⟨_, hd⟩ hfits, fun d' hd' => ?_⟩
    cases hd.symm.trans hd'
    have hfrozen : d.freeze.FrozenFor name := by
      refine ⟨fun t => ?_, fun t => ?_⟩
      · rw [registry_freeze]
        rfl
      · rw [registry_freeze]
        exact hcomposed.owner t
    have hitem : ∀ t key, (d.freeze.registry t).item? key =
        (lastItem? t key overlays.flatten).or (lastItem? t key baselineWrites) := by
      intro t key
      rw [registry_freeze, ← lastItem?_append, ← hcomposed.item]
      rfl
    refine ⟨hitem, fun t key missing => ?_,
      fun uses => ⟨fun use w rest hwrites => Use.refused (hfrozen.run uses) hwrites,
        fun htexts => ?_⟩⟩
    · rw [hcomposed.lookup_freeze, lastItem?_append]
    · refine run_eq_self hfrozen (fun key items hlist => ?_) uses
      have hword := (hitem .typeAliases key).symm.trans hlist
      rcases Option.or_eq_some_iff.mp hword with hlast | ⟨-, hbase⟩
      · obtain ⟨word, hword⟩ := htexts key _ hlast
        cases hword
      · exact lastItem?_baselineWrites_ne_list hbase
  · refine ⟨iff_of_false ?_ hfits, fun d hd => ?_⟩
    · rintro ⟨d, hd⟩
      cases he.symm.trans hd
    · cases he.symm.trans hd

/-- Two overlays that both name one keyword. -/
def houseOverlays : List (List Write) :=
  [[⟨.keywords, .keyword .and, .text "&&"⟩, ⟨.typeAliases, .text "int", .text "int4"⟩],
   [⟨.clauses, .clause .limit, .text "FETCH %s"⟩, ⟨.keywords, .keyword .and, .text "AND ALSO"⟩]]

/-- A table with a column that has a length. -/
def lengthQuery : Query :=
  .single (Statement.createTable
    { table := "t"
      columns := [(.text "c", [(.text "type", .text "int"), (.text "length", .int 5)])] })

theorem houseOverlays_decide_and_stay :
    ∃ d, (build "house" "\"" .standard houseOverlays).result = .ok d ∧
      d.keyword .and = .ok (.text "AND ALSO") ∧ d.keyword .or = .ok (.text "OR") ∧
      d.keyword .only = .error (.unknownSymbol (.keyword .only) (.text "house")) ∧
      (Use.overlay houseOverlays.flatten).outcome (d.run [.compile lengthQuery]) =
        .error (.frozen (.keyword .and) (.text "house")) ∧
      d.run [.compile lengthQuery, .overlay houseOverlays.flatten] = d := by
  obtain ⟨hbuilt, hdialect⟩ := last_overlay_decides_and_stays "house" "\"" .standard houseOverlays
  obtain ⟨d, hd⟩ := hbuilt.mpr (by decide)
  obtain ⟨-, hlookup, hruns⟩ := hdialect d hd
  have htexts : ∀ key item, lastItem? .typeAliases key houseOverlays.flatten = some item →
      ∃ word, item = .text word := by
    intro key item h
    obtain ⟨w, hw, hitem⟩ := List.exists_of_findSome?_eq_some h
    simp [houseOverlays] at hw
    rcases hw with rfl | rfl | rfl | rfl <;> split at hitem <;> cases hitem <;> exact ⟨_, rfl⟩
  have hrefused := (hruns [.compile lengthQuery]).1 (.overlay houseOverlays.flatten) _ _ rfl
  exact ⟨d, hd, hlookup .keywords .and .unknownSymbol, hlookup .keywords .or .unknownSymbol,
    hlookup .keywords .only .unknownSymbol, hrefused, (hruns _).2 htexts⟩

set_option maxRecDepth 40000 in
/-- A word for a type that is a list gets longer when a table is compiled. -/
theorem listWord_grows :
    ∃ d, (build "x" "\"" .standard
        [[⟨.typeAliases, .text "int", .list [.text "a"]⟩]]).result = .ok d ∧
      d.typeAliases.item? "int" = some (.list [.text "a"]) ∧
      (d.run [.compile lengthQuery]).typeAliases.item? "int" =
        some (.list [.text "a", .text "(", .text "5", .text ")"]) :=
  ⟨_, rfl, rfl, rfl⟩

end Dialect

end SqlRender
