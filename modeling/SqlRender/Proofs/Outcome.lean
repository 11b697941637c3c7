import Mathlib.Data.List.Forall2
import SqlRender.Log.Trace

/-!
# Outcomes

A computation ends with a result or with an error. Two computations have the same outcome when
both end with results that a given relation holds between, or both end with errors of one family.

* `bind_eq_ok`, `map_eq_ok`, `mapM_eq_ok`: how a result comes about.
* `SameOutcome.bind`, `SameOutcome.mapM`: computations that go on alike end alike.
* `Traced.result_bind`: the events of a traced computation have no part in its result.
-/

namespace SqlRender

variable {α β γ δ : Type}

/-! ## Results -/

theorem bind_eq_ok {x : Except Error α} {f : α → Except Error β} {b : β} :
    (x >>= f) = .ok b ↔ ∃ a, x = .ok a ∧ f a = .ok b := by
  cases x with
  | error e =>
    constructor
    · intro h
      cases h
    · rintro ⟨a, h, _⟩
      cases h
  | ok a =>
    constructor
    · intro h
      exact ⟨a, rfl, h⟩
    · rintro ⟨a', h, hf⟩
      cases h
      exact hf

theorem toOption_eq_some {x : Except Error α} {a : α} : x.toOption = some a ↔ x = .ok a := by
  cases x <;> simp [Except.toOption]

theorem map_eq_ok {x : Except Error α} {f : α → β} {b : β} :
    (f <$> x) = .ok b ↔ ∃ a, x = .ok a ∧ f a = b := by
  rw [map_eq_pure_bind, bind_eq_ok]
  constructor
  · rintro ⟨a, ha, hb⟩
    cases hb
    exact ⟨a, ha, rfl⟩
  · rintro ⟨a, ha, rfl⟩
    exact ⟨a, ha, rfl⟩

/-- A list is worked off with success exactly if every item is. -/
theorem mapM_eq_ok {f : α → Except Error β} {as : List α} {bs : List β} :
    as.mapM f = .ok bs ↔ List.Forall₂ (fun a b => f a = .ok b) as bs := by
  induction as generalizing bs with
  | nil =>
    rw [List.mapM_nil, List.forall₂_nil_left_iff]
    constructor
    · intro h
      cases h
      rfl
    · rintro rfl
      rfl
  | cons a as ih =>
    rw [List.mapM_cons, bind_eq_ok]
    constructor
    · rintro ⟨b, hb, h⟩
      obtain ⟨rest, hrest, h⟩ := bind_eq_ok.mp h
      cases h
      exact .cons hb (ih.mp hrest)
    · rintro (_ | ⟨hb, hrest⟩)
      exact ⟨_, hb, bind_eq_ok.mpr ⟨_, ih.mpr hrest, rfl⟩⟩

theorem forall_of_mapM_eq_ok {f : α → Except Error β} {as : List α} {bs : List β} {Q : β → Prop}
    (h : as.mapM f = .ok bs) (hf : ∀ a ∈ as, ∀ b, f a = .ok b → Q b) : ∀ b ∈ bs, Q b := by
  have hall := mapM_eq_ok.mp h
  clear h
  induction hall with
  | nil =>
    intro b hb
    cases hb
  | @cons a b as bs hab _ ih =>
    intro b' hb'
    rcases List.mem_cons.mp hb' with rfl | hb'
    · exact hf a (by simp) b' hab
    · exact ih (fun a' ha' => hf a' (List.mem_cons_of_mem a ha')) b' hb'

/-! ## Same outcomes -/

/-- Both computations end with results that `R` relates, or both with errors of one family. -/
def SameOutcome (R : α → β → Prop) : Except Error α → Except Error β → Prop
  | .ok a, .ok b => R a b
  | .error e, .error e' => e.family = e'.family
  | _, _ => False

namespace SameOutcome

variable {R : α → β → Prop} {S : γ → δ → Prop}

theorem ok {a : α} {b : β} (h : R a b) : SameOutcome R (.ok a) (.ok b) := h

theorem pure {a : α} {b : β} (h : R a b) :
    SameOutcome R (Pure.pure a : Except Error α) (Pure.pure b : Except Error β) := h

theorem error (e : Error) : SameOutcome R (.error e : Except Error α) (.error e) := rfl

/-- One computation has the same outcome as itself if its result is related to itself. -/
theorem refl {R : α → α → Prop} {x : Except Error α} (h : ∀ a, x = .ok a → R a a) :
    SameOutcome R x x := by
  cases x with
  | error e => rfl
  | ok a => exact h a rfl

theorem bind {x : Except Error α} {y : Except Error β} {f : α → Except Error γ}
    {g : β → Except Error δ} (h : SameOutcome R x y)
    (hfg : ∀ a b, R a b → SameOutcome S (f a) (g b)) : SameOutcome S (x >>= f) (y >>= g) := by
  cases x with
  | error e =>
    cases y with
    | error e' => exact h
    | ok b => cases h
  | ok a =>
    cases y with
    | error e' => cases h
    | ok b => exact hfg a b h

/-- Two computations that begin in the same way. -/
theorem bind_same {x : Except Error α} {f : α → Except Error γ} {g : α → Except Error δ}
    (h : ∀ a, x = .ok a → SameOutcome S (f a) (g a)) : SameOutcome S (x >>= f) (x >>= g) := by
  cases x with
  | error e => rfl
  | ok a => exact h a rfl

theorem imp {Q : α → β → Prop} {x : Except Error α} {y : Except Error β} (h : SameOutcome R x y)
    (hRQ : ∀ a b, R a b → Q a b) : SameOutcome Q x y := by
  cases x with
  | error e => cases y <;> exact h
  | ok a =>
    cases y with
    | error e => exact h
    | ok b => exact hRQ a b h

theorem map {x : Except Error α} {y : Except Error β} {f : α → γ} {g : β → δ}
    (h : SameOutcome R x y) (hfg : ∀ a b, R a b → S (f a) (g b)) :
    SameOutcome S (f <$> x) (g <$> y) := by
  rw [map_eq_pure_bind, map_eq_pure_bind]
  exact h.bind fun a b hab => SameOutcome.pure (hfg a b hab)

theorem isSome_eq {x : Except Error α} {y : Except Error β} (h : SameOutcome R x y) :
    x.toOption.isSome = y.toOption.isSome := by
  cases x <;> cases y <;> first | rfl | cases h

theorem mapM {f : α → Except Error γ} {g : β → Except Error δ} {as : List α} {bs : List β}
    (h : List.Forall₂ (fun a b => SameOutcome S (f a) (g b)) as bs) :
    SameOutcome (List.Forall₂ S) (as.mapM f) (bs.mapM g) := by
  induction h with
  | nil => exact .nil
  | cons hab _ ih =>
    rw [List.mapM_cons, List.mapM_cons]
    refine hab.bind fun c d hcd => ih.bind fun cs ds hcds => ?_
    exact SameOutcome.pure (.cons hcd hcds)

/-- What holds of the result of the first computation may be used of it. -/
theorem and_left {x : Except Error α} {y : Except Error β} (h : SameOutcome R x y) {Q : α → Prop}
    (hx : ∀ a, x = .ok a → Q a) : SameOutcome (fun a b => R a b ∧ Q a) x y := by
  cases x with
  | error e => cases y <;> exact h
  | ok a =>
    cases y with
    | error e => exact h
    | ok b => exact ⟨h, hx a rfl⟩

/-- Where the first computation has a result, the second has a related one. -/
theorem exists_ok {x : Except Error α} {y : Except Error β} (h : SameOutcome R x y) {a : α}
    (hx : x = .ok a) : ∃ b, y = .ok b ∧ R a b := by
  subst hx
  cases y with
  | error e => cases h
  | ok b => exact ⟨b, rfl, h⟩

end SameOutcome

/-! ## Results of traced computations -/

namespace Traced

theorem result_bind (x : Traced α) (f : α → Traced β) :
    (x >>= f).result = x.result >>= fun a => (f a).result := by
  cases hx : x.result with
  | error e => exact (bind_error f hx).1
  | ok a => exact (bind_ok f hx).1

theorem result_map (f : α → β) (x : Traced α) : (f <$> x).result = f <$> x.result := by
  rw [map_eq_pure_bind, map_eq_pure_bind, result_bind]
  rfl

theorem result_mapM (f : α → Traced β) (as : List α) :
    (as.mapM f).result = as.mapM fun a => (f a).result := by
  induction as with
  | nil => rfl
  | cons a as ih =>
    simp only [List.mapM_cons, result_bind, ih]
    rfl

theorem result_timed (label : String) (x : Traced α) : (timed label x).result = x.result := rfl

end Traced

end SqlRender
