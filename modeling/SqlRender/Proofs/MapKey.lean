import SqlRender.Assoc.Text
import SqlRender.Registry

/-!
# Values as keys of maps

Equality of values is not reflexive, and for maps that hold a key twice it is not even symmetric. Of
the values that can be keys of a map it is an equivalence, but for those that equal nothing: each of
the others has a form, and equal values are those of one form.

* `Value.beq_iff_form`: equality of keys is equality of their forms.
* `LawfulRegistryKey`: the keys of a registry are told apart as their values are.
* `Registry.register_of_open`: what a registry that is not frozen makes of a pair.
* `SymbolKey`, `Registry.find?_eq`: where a key equals itself only, a search is one by type.
-/

namespace SqlRender

/-! ## Forms -/

/-- What equal keys have in common. -/
inductive KeyForm where
  | symbol (v : Value)
  | number (x : Amount)
  | tuple (items : List KeyForm)

namespace Value

mutual

/-- The form of a value that can be a key. One that equals nothing has none. -/
def form? : Value → Option KeyForm
  | .tuple items => (forms? items).map .tuple
  | v =>
    match v.amount? with
    | some .nan => none
    | some x => some (.number x)
    | none => if v.isSymbol then some (.symbol v) else none

def forms? : List Value → Option (List KeyForm)
  | [] => some []
  | item :: rest => do return (← form? item) :: (← forms? rest)

end

theorem isSignalling_eq_false {a : Value} {x : Amount} (ha : a.amount? = some x)
    (hx : x ≠ .nan) : a.isSignalling = false := by
  cases a with
  | decimal d =>
    cases d with
    | nan negative signalling payload => exact absurd (Option.some.inj ha).symm hx
    | _ => rfl
  | _ => rfl

theorem number_beq {a : Value} {x : Amount} (ha : a.amount? = some x) (b : Value) :
    (a == b) = true ↔ x ≠ .nan ∧ b.amount? = some x := by
  have hdefault : (a == b) = (sameAmount? a b == some true) := by
    cases a with
    | bool _ | int _ | real _ | decimal _ => cases b <;> rfl
    | _ => cases ha
  rw [hdefault, sameAmount?, ha]
  cases hb : b.amount? with
  | none => simp
  | some y =>
    by_cases hx : x = .nan
    · subst hx
      by_cases hsign : (a.isSignalling || b.isSignalling) = true <;> simp [hsign, Amount.same]
    · by_cases hxy : x = y
      · subst hxy
        simp [isSignalling_eq_false ha hx, isSignalling_eq_false hb hx, Amount.same, hx]
      · by_cases hsign : (a.isSignalling || b.isSignalling) = true <;>
          simp [hsign, Amount.same, hxy, Ne.symm hxy]

theorem tuple_beq (as : List Value) (b : Value) :
    (.tuple as == b) = true ↔ ∃ bs, b = .tuple bs ∧ sameAll as bs = true := by
  show (same? (.tuple as) b == some true) = true ↔ _
  cases b <;> simp [sameAll, same?, sameAmount?, amount?]

theorem sameAll_nil (bs : List Value) : sameAll [] bs = true ↔ bs = [] := by
  cases bs <;> simp [sameAll, sameAll?]

theorem sameAll_cons (a : Value) (as bs : List Value) :
    sameAll (a :: as) bs = true ↔
      ∃ b rest, bs = b :: rest ∧ (a == b) = true ∧ sameAll as rest = true := by
  cases bs with
  | nil => simp [sameAll, sameAll?]
  | cons b rest =>
    have hcons : sameAll (a :: as) (b :: rest) = ((a == b) && sameAll as rest) := by
      show (sameAll? (a :: as) (b :: rest) == some true) =
        ((same? a b == some true) && (sameAll? as rest == some true))
      rw [sameAll?]
      rcases same? a b with _ | _ | _ <;> rfl
    rw [hcons, Bool.and_eq_true]
    constructor
    · exact fun h => ⟨b, rest, rfl, h⟩
    · rintro ⟨_, _, heq, h⟩
      cases heq
      exact h

theorem form?_eq_number {a : Value} {x : Amount} :
    form? a = some (.number x) ↔ x ≠ .nan ∧ a.amount? = some x := by
  fun_cases form? a <;> simp_all [amount?]
  · rintro hx rfl
    exact hx rfl
  · rintro rfl
    assumption

theorem form?_of_isSymbol {v : Value} (h : v.isSymbol = true) : form? v = some (.symbol v) := by
  cases v with
  | null | text s | raw sql | keyword k | clause c | kind k => rfl
  | _ => cases h

theorem form?_eq_symbol {a v : Value} :
    form? a = some (.symbol v) ↔ v.isSymbol = true ∧ a = v := by
  constructor
  · fun_cases form? a <;> simp_all
    rintro rfl
    assumption
  · rintro ⟨h, rfl⟩
    exact form?_of_isSymbol h

theorem form?_eq_tuple {a : Value} {fs : List KeyForm} :
    form? a = some (.tuple fs) ↔ ∃ items, a = .tuple items ∧ forms? items = some fs := by
  fun_cases form? a <;> simp_all

theorem forms?_cons {a : Value} {as : List Value} {fs : List KeyForm} :
    forms? (a :: as) = some fs ↔
      ∃ f rest, fs = f :: rest ∧ form? a = some f ∧ forms? as = some rest := by
  rw [forms?]
  cases form? a <;> cases forms? as <;> simp [eq_comm]

mutual

theorem beq_of_form {a b : Value} :
    (f : KeyForm) → form? a = some f → form? b = some f → (a == b) = true
  | .symbol v, ha, hb => by
    obtain ⟨hv, rfl⟩ := form?_eq_symbol.mp ha
    exact (symbol_beq hv b).mpr (form?_eq_symbol.mp hb).2
  | .number x, ha, hb => by
    obtain ⟨hx, hamount⟩ := form?_eq_number.mp ha
    exact (number_beq hamount b).mpr (form?_eq_number.mp hb)
  | .tuple fs, ha, hb => by
    obtain ⟨as, rfl, has⟩ := form?_eq_tuple.mp ha
    obtain ⟨bs, rfl, hbs⟩ := form?_eq_tuple.mp hb
    exact (tuple_beq as _).mpr ⟨bs, rfl, sameAll_of_forms fs has hbs⟩

theorem sameAll_of_forms {as bs : List Value} :
    (fs : List KeyForm) → forms? as = some fs → forms? bs = some fs → sameAll as bs = true
  | [], has, hbs => by
    cases as with
    | cons a as =>
      obtain ⟨_, _, h, -⟩ := forms?_cons.mp has
      cases h
    | nil =>
      cases bs with
      | cons b bs =>
        obtain ⟨_, _, h, -⟩ := forms?_cons.mp hbs
        cases h
      | nil => rfl
  | f :: fs, has, hbs => by
    cases as with
    | nil => cases has
    | cons a as =>
      cases bs with
      | nil => cases hbs
      | cons b bs =>
        obtain ⟨_, _, h, ha, has⟩ := forms?_cons.mp has
        cases h
        obtain ⟨_, _, h, hb, hbs⟩ := forms?_cons.mp hbs
        cases h
        exact (sameAll_cons a as _).mpr
          ⟨b, bs, rfl, beq_of_form f ha hb, sameAll_of_forms fs has hbs⟩

end

/-- A key that is no tuple has the form of whatever it equals. -/
theorem form_of_beq_of_ne_tuple {a b : Value} (ha : a.isKey = true)
    (hne : ∀ items, a ≠ .tuple items) (h : (a == b) = true) :
    ∃ f, form? a = some f ∧ form? b = some f := by
  cases hamount : a.amount? with
  | some x =>
    obtain ⟨hx, hb⟩ := (number_beq hamount b).mp h
    exact ⟨.number x, form?_eq_number.mpr ⟨hx, hamount⟩, form?_eq_number.mpr ⟨hx, hb⟩⟩
  | none =>
    cases hsymbol : a.isSymbol with
    | true =>
      obtain rfl := (symbol_beq hsymbol b).mp h
      exact ⟨_, form?_of_isSymbol hsymbol, form?_of_isSymbol hsymbol⟩
    | false =>
      -- what is left are the defaults that are asked for later, and they equal nothing
      cases a with
      | tuple items => exact absurd rfl (hne items)
      | computed result => cases b <;> cases h
      | computedName name => cases b <;> cases h
      | list items | map entries | predicate children connector negated => cases ha
      | bool _ | int _ | real _ | decimal _ => cases hamount
      | _ => cases hsymbol

mutual

theorem form_of_beq {b : Value} (a : Value) (ha : a.isKey = true) (h : (a == b) = true) :
    ∃ f, form? a = some f ∧ form? b = some f := by
  by_cases htuple : ∃ as, a = .tuple as
  · obtain ⟨as, rfl⟩ := htuple
    obtain ⟨bs, rfl, hall⟩ := (tuple_beq as b).mp h
    obtain ⟨fs, has, hbs⟩ := forms_of_sameAll as ha hall
    exact ⟨.tuple fs, form?_eq_tuple.mpr ⟨as, rfl, has⟩, form?_eq_tuple.mpr ⟨bs, rfl, hbs⟩⟩
  · exact form_of_beq_of_ne_tuple ha (fun items heq => htuple ⟨items, heq⟩) h

theorem forms_of_sameAll {bs : List Value} : (as : List Value) → areKeys as = true →
    sameAll as bs = true → ∃ fs, forms? as = some fs ∧ forms? bs = some fs
  | [], _, h => by
    obtain rfl := (sameAll_nil bs).mp h
    exact ⟨[], rfl, rfl⟩
  | a :: as, ha, h => by
    obtain ⟨b, rest, rfl, hb, hrest⟩ := (sameAll_cons a as bs).mp h
    obtain ⟨hkey, hkeys⟩ : a.isKey = true ∧ areKeys as = true := by simpa [areKeys] using ha
    obtain ⟨f, hfa, hfb⟩ := form_of_beq a hkey hb
    obtain ⟨fs, hfas, hfbs⟩ := forms_of_sameAll as hkeys hrest
    exact ⟨f :: fs, forms?_cons.mpr ⟨f, fs, rfl, hfa, hfas⟩,
      forms?_cons.mpr ⟨f, fs, rfl, hfb, hfbs⟩⟩

end

/-- Equal keys are those of one form. -/
theorem beq_iff_form {a : Value} (ha : a.isKey = true) (b : Value) :
    (a == b) = true ↔ ∃ f, form? a = some f ∧ form? b = some f :=
  ⟨form_of_beq a ha, fun ⟨f, hfa, hfb⟩ => beq_of_form f hfa hfb⟩

section

variable {a b c : Value}

theorem beq_symm (ha : a.isKey = true) (h : (a == b) = true) : (b == a) = true := by
  obtain ⟨f, hfa, hfb⟩ := (beq_iff_form ha b).mp h
  exact beq_of_form f hfb hfa

theorem beq_trans (ha : a.isKey = true) (hb : b.isKey = true) (h : (a == b) = true)
    (h' : (b == c) = true) : (a == c) = true := by
  obtain ⟨f, hfa, hfb⟩ := (beq_iff_form ha b).mp h
  obtain ⟨g, hgb, hgc⟩ := (beq_iff_form hb c).mp h'
  cases hfb.symm.trans hgb
  exact (beq_iff_form ha c).mpr ⟨f, hfa, hgc⟩

end

theorem isKey_of_isSymbol {v : Value} (h : v.isSymbol = true) : v.isKey = true := by
  cases v with
  | null | text s | raw sql | keyword k | clause c | kind k => rfl
  | _ => cases h

end Value

/-! ## Keys of registries -/

/-- The keys of a registry are values of its type that can be keys of a map, and are told apart as
such. -/
class LawfulRegistryKey (κ : Type) [BEq κ] [RegistryKey κ] : Prop where
  ofValue?_eq_some {v : Value} {key : κ} :
    RegistryKey.ofValue? v = some key ↔ v = RegistryKey.toValue key
  isSome_ofValue? (v : Value) :
    (RegistryKey.ofValue? v : Option κ).isSome = (RegistryKey.isTyped κ v && v.isKey)
  beq_eq (a b : κ) : (a == b) = (RegistryKey.toValue a == RegistryKey.toValue b)

/-- Keys that equal nothing but themselves. -/
class SymbolKey (κ : Type) [BEq κ] [RegistryKey κ] : Prop extends LawfulRegistryKey κ where
  isSymbol_toValue (key : κ) : (RegistryKey.toValue key : Value).isSymbol = true

namespace RegistryKey

variable {κ : Type} [BEq κ] [RegistryKey κ]

theorem ofValue?_toValue [LawfulRegistryKey κ] (key : κ) :
    (ofValue? (toValue key) : Option κ) = some key :=
  LawfulRegistryKey.ofValue?_eq_some.mpr rfl

theorem isKey_toValue [LawfulRegistryKey κ] (key : κ) : (toValue key : Value).isKey = true := by
  have hsome : (ofValue? (toValue key) : Option κ).isSome = _ :=
    LawfulRegistryKey.isSome_ofValue? (toValue key)
  rw [ofValue?_toValue, Option.isSome_some] at hsome
  exact (Bool.and_eq_true_iff.mp hsome.symm).2

instance [LawfulRegistryKey κ] : PartialEquivBEq κ where
  symm {a b} h := by
    rw [LawfulRegistryKey.beq_eq] at h ⊢
    exact Value.beq_symm (isKey_toValue a) h
  trans {a b c} h h' := by
    rw [LawfulRegistryKey.beq_eq] at h h' ⊢
    exact Value.beq_trans (isKey_toValue a) (isKey_toValue b) h h'

end RegistryKey

/-- Types that are told apart like their values, by symbols, and are known by these. -/
theorem SymbolKey.of_symbols {κ : Type} [BEq κ] [LawfulBEq κ] [RegistryKey κ]
    (hofValue : ∀ (v : Value) (key : κ),
      RegistryKey.ofValue? v = some key ↔ v = RegistryKey.toValue key)
    (htyped : ∀ v, RegistryKey.isTyped κ v = (RegistryKey.ofValue? v : Option κ).isSome)
    (hsymbol : ∀ key : κ, (RegistryKey.toValue key : Value).isSymbol = true) : SymbolKey κ where
  ofValue?_eq_some {v key} := hofValue v key
  isSome_ofValue? v := by
    rw [htyped]
    cases hv : (RegistryKey.ofValue? v : Option κ) with
    | none => rfl
    | some key =>
      rw [(hofValue v key).mp hv, Value.isKey_of_isSymbol (hsymbol key)]
      rfl
  beq_eq a b := by
    rw [Bool.eq_iff_iff, beq_iff_eq, Value.symbol_beq (hsymbol a), ← hofValue,
      (hofValue _ b).mpr rfl]
    simp [eq_comm]
  isSymbol_toValue := hsymbol

instance : SymbolKey Keyword :=
  .of_symbols (fun v _ => by cases v <;> simp [RegistryKey.ofValue?, RegistryKey.toValue])
    (fun _ => rfl) (fun _ => rfl)

instance : SymbolKey Clause :=
  .of_symbols (fun v _ => by cases v <;> simp [RegistryKey.ofValue?, RegistryKey.toValue])
    (fun _ => rfl) (fun _ => rfl)

instance : SymbolKey StatementKind :=
  .of_symbols (fun v _ => by cases v <;> simp [RegistryKey.ofValue?, RegistryKey.toValue])
    (fun _ => rfl) (fun _ => rfl)

instance : SymbolKey String :=
  .of_symbols (fun v _ => by cases v <;> simp [RegistryKey.ofValue?, RegistryKey.toValue])
    (fun _ => rfl) (fun _ => rfl)

namespace Registry

/-- The error for a key that a registry does not take though it is not frozen. -/
def refusal (κ : Type) [RegistryKey κ] (key : Value) : Error :=
  if RegistryKey.isTyped κ key then .wrongType else .keyType (RegistryKey.typeName κ) key

/-- A registry that is not frozen takes a pair if its key is one. -/
theorem register_of_open {κ ν : Type} [BEq κ] [RegistryKey κ] [LawfulRegistryKey κ]
    {r : Registry κ ν} (h : r.frozen = false) (key : Value) (item : ν) :
    r.register key item =
      match RegistryKey.ofValue? key with
      | some k => .ok (r.put k item)
      | none => .error (refusal κ key) := by
  have hsome : (RegistryKey.ofValue? key : Option κ).isSome = _ :=
    LawfulRegistryKey.isSome_ofValue? key
  rw [register, h, if_neg Bool.false_ne_true]
  cases hkey : (RegistryKey.ofValue? key : Option κ) with
  | none => cases htyped : RegistryKey.isTyped κ key <;> simp [refusal, htyped]
  | some k =>
    rw [hkey] at hsome
    rw [(Bool.and_eq_true_iff.mp hsome.symm).1]
    rfl

variable {κ ν : Type} [BEq κ] [RegistryKey κ] [SymbolKey κ] (r : Registry κ ν)

/-- Where a key equals itself only, a search is one by type. -/
theorem find?_eq (key : Value) :
    r.find? key = (do return (RegistryKey.ofValue? (← key.asKey)).bind r.item?) := by
  rw [find?]
  refine bind_congr fun v => congrArg Except.ok ?_
  cases hv : (RegistryKey.ofValue? v : Option κ) with
  | none =>
    have hnone : r.entries.find? (fun entry => RegistryKey.toValue entry.1 == v) = none := by
      refine List.find?_eq_none.mpr fun entry _ hentry => ?_
      rw [Value.symbol_beq (SymbolKey.isSymbol_toValue entry.1)] at hentry
      rw [hentry, RegistryKey.ofValue?_toValue] at hv
      cases hv
    rw [hnone]
    rfl
  | some k =>
    rw [LawfulRegistryKey.ofValue?_eq_some.mp hv, Option.bind_some, item?, Assoc.get?_eq_find?]
    simp only [LawfulRegistryKey.beq_eq]

/-- The item under a value, or the error for an absent one. -/
theorem lookup_of_isKey (missing : Value → Value → Error) {key : Value} (h : key.isKey = true) :
    r.lookup missing key =
      ((RegistryKey.ofValue? key).bind r.item?).elim (.error (missing key r.owner).raised) .ok := by
  have hfind : r.find? key = .ok ((RegistryKey.ofValue? key).bind r.item?) := by
    rw [find?_eq, Value.asKey, if_pos h]
    rfl
  rw [lookup, hfind]
  cases (RegistryKey.ofValue? key).bind r.item? <;> rfl

/-- The item under the value of a key, or the error for an absent one. -/
theorem lookup_eq (missing : Value → Value → Error) (key : Value) {k : κ}
    (hk : RegistryKey.ofValue? key = some k) :
    r.lookup missing key = (r.item? k).elim (.error (missing key r.owner).raised) .ok := by
  have hkey : key.isKey = true := by
    rw [LawfulRegistryKey.ofValue?_eq_some.mp hk]
    exact RegistryKey.isKey_toValue k
  rw [lookup_of_isKey r missing hkey, hk, Option.bind_some]

/-- A value that is no key of a registry has no item there. -/
theorem lookup_fault (missing : Value → Value → Error) {key : Value}
    (hkey : (RegistryKey.ofValue? key : Option κ) = none) :
    r.lookup missing key =
      if key.isKey then .error (missing key r.owner).raised else .error .wrongType := by
  cases h : key.isKey with
  | true =>
    rw [lookup_of_isKey r missing h, hkey]
    rfl
  | false =>
    have hfault : key.asKey = .error .wrongType := if_neg (by simp [h])
    rw [lookup, find?, hfault]
    rfl

/-- Whatever is found in a registry is found under a key. -/
theorem key_of_lookup {r : Registry κ ν} {missing : Value → Value → Error} {key : Value} {item : ν}
    (h : r.lookup missing key = .ok item) : ∃ k : κ, RegistryKey.ofValue? key = some k := by
  cases hk : (RegistryKey.ofValue? key : Option κ) with
  | some k => exact ⟨k, rfl⟩
  | none =>
    rw [lookup_fault r missing hk] at h
    split at h <;> cases h

end Registry

end SqlRender
