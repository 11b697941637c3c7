import Mathlib.Data.List.Induction
import Mathlib.Data.List.TakeWhile
import SqlRender.Proofs.MapKey
import SqlRender.Registry.Operation

/-!
# What a registry holds after a run of operations

A pair is accepted if it is written before the first freeze, its key has the type of the keys and
can be the key of a map, and no pair before it in the same write was refused. The accepted pairs
alone decide what a registry holds, where equal keys are one, and a search fails exactly for values
that no accepted key equals.

* `TypedKey`: any test of values makes a type of keys.
* `Registry.accepted`: the accepted pairs of a run.
* `Registry.Reached.step`: what a registry holds after one more operation.
* `Registry.run_eq_accepted`: what it holds after a run, and what the next operation does.
* `Registry.longKey_not_named`: a key without a text is refused by an error that does not name it.
-/

namespace SqlRender

/-! ## Keys of any type -/

/-- The values that pass a test, as far as they can be keys of a map. The test stands for a type
with a name. -/
structure TypedKey (name : String) (test : Value → Bool) where
  value : Value
  typed : test value = true
  isKey : value.isKey = true

namespace TypedKey

variable {name : String} {test : Value → Bool}

instance : BEq (TypedKey name test) := ⟨fun a b => a.value == b.value⟩

instance : RegistryKey (TypedKey name test) where
  ofValue? v := if h : test v = true ∧ v.isKey = true then some ⟨v, h.1, h.2⟩ else none
  toValue := value
  typeName := name
  isTyped := test

instance : LawfulRegistryKey (TypedKey name test) where
  ofValue?_eq_some {v key} := by
    obtain ⟨value, htyped, hkey⟩ := key
    simp only [RegistryKey.ofValue?, RegistryKey.toValue, Option.dite_none_right_eq_some]
    constructor
    · rintro ⟨_, h⟩
      cases h
      rfl
    · rintro rfl
      exact ⟨⟨htyped, hkey⟩, rfl⟩
  isSome_ofValue? v := by
    by_cases h : test v = true ∧ v.isKey = true
    · simp [RegistryKey.ofValue?, RegistryKey.isTyped, h]
    · have hfalse : (test v && v.isKey) = false := by simpa using h
      simp [RegistryKey.ofValue?, RegistryKey.isTyped, h, hfalse]
  beq_eq _ _ := rfl

end TypedKey

namespace Registry

/-! ## Accepted pairs -/

namespace Operation

/-- The pairs that an operation writes. -/
def pairs : Operation → List (Value × Item)
  | .register key item => [(key, item)]
  | .registerAll pairs => pairs
  | _ => []

def isFreeze : Operation → Bool
  | .freeze => true
  | _ => false

def isRead : Operation → Bool
  | .lookup _ | .get _ _ | .contains _ | .keys => true
  | _ => false

end Operation

/-- A registry that is not frozen takes the pair: its key has the type of the keys and can be the
key of a map. -/
def isTaken (κ : Type) [RegistryKey κ] (pair : Value × Item) : Bool :=
  RegistryKey.isTyped κ pair.1 && pair.1.isKey

/-- What a registry keeps of a pair that it takes. -/
def kept? (κ : Type) [RegistryKey κ] (kind : Kind) (pair : Value × Item) : Option (κ × Item) :=
  (RegistryKey.ofValue? pair.1).map fun key => (key, kind.coerce pair.2)

/-- The accepted pairs of operations on a registry that is not frozen. -/
def accepted (κ : Type) [RegistryKey κ] (ops : List Operation) : List (Value × Item) :=
  (ops.takeWhile (!·.isFreeze)).flatMap fun op => op.pairs.takeWhile (isTaken κ)

/-- The accepted pairs as the registry keeps them. -/
def acceptedEntries (κ : Type) [RegistryKey κ] (kind : Kind) (ops : List Operation) :
    List (κ × Item) :=
  (accepted κ ops).filterMap (kept? κ kind)

/-- The read that fails if the key has no item. -/
def Kind.search : Kind → Value → Operation
  | .symbols, key => .lookup key
  | .statements, key => .get key .null

variable {κ : Type} [RegistryKey κ]

theorem accepted_concat (ops : List Operation) (op : Operation) :
    accepted κ (ops ++ [op]) =
      if ops.any Operation.isFreeze then accepted κ ops
      else accepted κ ops ++ op.pairs.takeWhile (isTaken κ) := by
  induction ops with
  | nil => cases op <;> simp [accepted, Operation.isFreeze, Operation.pairs]
  | cons first rest ih =>
    cases hfirst : first.isFreeze with
    | true => simp [accepted, hfirst]
    | false =>
      simp only [accepted, List.cons_append, List.takeWhile_cons, hfirst, Bool.not_false, if_true,
        List.flatMap_cons, List.any_cons, Bool.false_or] at ih ⊢
      rw [ih]
      split <;> simp

theorem isTaken_of_mem_accepted {ops : List Operation} {pair : Value × Item}
    (h : pair ∈ accepted κ ops) : isTaken κ pair = true := by
  obtain ⟨op, _, hpair⟩ := List.mem_flatMap.mp h
  exact List.mem_takeWhile_imp hpair

section

variable [BEq κ] [LawfulRegistryKey κ] {kind : Kind}

theorem exists_kept? {pair : Value × Item} (h : isTaken κ pair = true) :
    ∃ key : κ, RegistryKey.toValue key = pair.1 ∧
      kept? κ kind pair = some (key, kind.coerce pair.2) := by
  rw [isTaken, ← LawfulRegistryKey.isSome_ofValue?] at h
  obtain ⟨key, hkey⟩ := Option.isSome_iff_exists.mp h
  refine ⟨key, (LawfulRegistryKey.ofValue?_eq_some.mp hkey).symm, ?_⟩
  rw [kept?, hkey]
  rfl

/-- What is found under a value among the entries, is found under it among the pairs. -/
theorem find?_kept {pairs : List (Value × Item)} (h : ∀ pair ∈ pairs, isTaken κ pair = true)
    (key : Value) :
    ((pairs.filterMap (kept? κ kind)).find? (RegistryKey.toValue ·.1 == key)).map Prod.snd =
      (pairs.find? (·.1 == key)).map (kind.coerce ·.2) := by
  induction pairs with
  | nil => rfl
  | cons pair rest ih =>
    obtain ⟨hpair, hrest⟩ := List.forall_mem_cons.mp h
    obtain ⟨k, hk, hkept⟩ : ∃ k : κ, RegistryKey.toValue k = pair.1 ∧
        kept? κ kind pair = some (k, kind.coerce pair.2) := exists_kept? hpair
    rw [List.filterMap_cons_some hkept, List.find?_cons, List.find?_cons, hk]
    cases pair.1 == key with
    | true => rfl
    | false => exact ih hrest

end

/-! ## Writes -/

variable [BEq κ]

theorem write_cons (kind : Kind) (r : Registry κ Item) (pair : Value × Item)
    (rest : List (Value × Item)) :
    r.write kind (pair :: rest) =
      match r.register pair.1 (kind.coerce pair.2) with
      | .ok r => r.write kind rest
      | .error e => (r, .error e) := by
  simp only [write, List.map_cons, registerAll]
  cases r.register pair.1 (kind.coerce pair.2) <;> rfl

/-- A frozen registry refuses a write at its first pair, whatever the key. -/
theorem write_of_frozen (kind : Kind) {r : Registry κ Item} (h : r.frozen = true)
    (pairs : List (Value × Item)) :
    r.write kind pairs =
      (r, match pairs with
        | [] => .ok .done
        | (key, _) :: _ => .error (Error.frozen key r.owner).raised) := by
  cases pairs with
  | nil => rfl
  | cons pair rest => rw [write_cons, register, if_pos h]

/-- A registry that is not frozen keeps the pairs before the first one that it refuses. -/
theorem write_of_open [LawfulRegistryKey κ] (kind : Kind) {r : Registry κ Item}
    (h : r.frozen = false) (pairs : List (Value × Item)) :
    r.write kind pairs =
      ({ r with
          entries := Assoc.putAll r.entries
            ((pairs.takeWhile (isTaken κ)).filterMap (kept? κ kind)) },
        match pairs.find? (!isTaken κ ·) with
        | none => .ok .done
        | some (key, _) => .error (refusal κ key)) := by
  induction pairs generalizing r with
  | nil => rfl
  | cons pair rest ih =>
    have htaken : isTaken κ pair = (RegistryKey.ofValue? pair.1 : Option κ).isSome :=
      (LawfulRegistryKey.isSome_ofValue? pair.1).symm
    rw [write_cons, register_of_open h]
    cases hkey : (RegistryKey.ofValue? pair.1 : Option κ) with
    | none => simp [htaken, hkey, Assoc.putAll]
    | some key =>
      have hput : (r.put key (kind.coerce pair.2)).frozen = false := h
      simp only [ih hput]
      simp [htaken, hkey, kept?, put, Assoc.putAll]

/-! ## Runs -/

/-- What a registry holds after operations on an empty one. -/
structure Reached (kind : Kind) (owner : Value) (ops : List Operation) (r : Registry κ Item) :
    Prop where
  owner_eq : r.owner = owner
  frozen_eq : r.frozen = ops.any Operation.isFreeze
  entries_eq : r.entries = Assoc.ofPairs (acceptedEntries κ kind ops)

/-- All but a freeze are writes, if of no pairs, as far as the registry goes. -/
theorem step_of_not_isFreeze (kind : Kind) (r : Registry κ Item) {op : Operation}
    (h : op.isFreeze = false) : (r.step kind op).1 = (r.write kind op.pairs).1 := by
  cases op with
  | freeze => cases h
  | _ => rfl

theorem step_of_pairs (kind : Kind) (r : Registry κ Item) {op : Operation} (h : op.pairs ≠ []) :
    r.step kind op = r.write kind op.pairs := by
  cases op with
  | register key item => rfl
  | registerAll pairs => rfl
  | _ => exact absurd rfl h

variable [LawfulRegistryKey κ]
variable {kind : Kind} {owner : Value} {ops : List Operation} {r : Registry κ Item}

theorem Reached.step (h : Reached kind owner ops r) (op : Operation) :
    Reached kind owner (ops ++ [op]) (r.step kind op).1 := by
  obtain ⟨howner, hfrozen, hentries⟩ := h
  cases hfreeze : op.isFreeze with
  | true =>
    cases op with
    | freeze =>
      refine ⟨howner, by simp [Registry.step, freeze, Operation.isFreeze], ?_⟩
      rw [acceptedEntries, accepted_concat]
      simpa [Operation.pairs, Registry.step, freeze, acceptedEntries] using hentries
    | _ => cases hfreeze
  | false =>
    rw [step_of_not_isFreeze kind r hfreeze]
    cases hany : ops.any Operation.isFreeze with
    | true =>
      rw [hany] at hfrozen
      rw [write_of_frozen kind hfrozen]
      refine ⟨howner, by simp [hfrozen, hany], ?_⟩
      rw [hentries, acceptedEntries, acceptedEntries, accepted_concat, if_pos hany]
    | false =>
      rw [hany] at hfrozen
      rw [write_of_open kind hfrozen]
      refine ⟨howner, by simp [hfrozen, hany, hfreeze], ?_⟩
      rw [acceptedEntries, accepted_concat, hany, if_neg Bool.false_ne_true, List.filterMap_append,
        ← Assoc.putAll_ofPairs, hentries, acceptedEntries]

theorem reached_run (kind : Kind) (owner : Value) (ops : List Operation) :
    Reached kind owner ops (run kind ({ owner } : Registry κ Item) ops) := by
  induction ops using List.reverseRecOn with
  | nil => exact ⟨rfl, rfl, rfl⟩
  | append_singleton ops op ih =>
    rw [run, List.foldl_append]
    exact ih.step op

/-! ## Reads -/

omit [LawfulRegistryKey κ] in
theorem step_of_isRead (kind : Kind) (r : Registry κ Item) {op : Operation}
    (h : op.isRead = true) : (r.step kind op).1 = r := by
  cases op <;> first | rfl | cases h

omit [LawfulRegistryKey κ] in
theorem step_search (kind : Kind) (r : Registry κ Item) (key : Value) :
    (r.step kind (kind.search key)).2 = r.require kind key := by
  cases kind <;> rfl

/-- What a value finds: the item that was accepted last under a key that equals it. -/
theorem Reached.find?_eq (h : Reached kind owner ops r) {key : Value} (hkey : key.isKey = true) :
    r.find? key =
      .ok (((accepted κ ops).reverse.find? (·.1 == key)).map (kind.coerce ·.2)) := by
  have hsame : ∀ a b : κ, (a == b) = true →
      (RegistryKey.toValue a == key) = (RegistryKey.toValue b == key) := by
    intro a b hab
    rw [LawfulRegistryKey.beq_eq] at hab
    have hba := Value.beq_symm (RegistryKey.isKey_toValue a) hab
    rw [Bool.eq_iff_iff]
    exact ⟨Value.beq_trans (RegistryKey.isKey_toValue b) (RegistryKey.isKey_toValue a) hba,
      Value.beq_trans (RegistryKey.isKey_toValue a) (RegistryKey.isKey_toValue b) hab⟩
  have hone : ∀ a b : κ, (RegistryKey.toValue a == key) = true →
      (RegistryKey.toValue b == key) = true → (a == b) = true := by
    intro a b ha hb
    rw [LawfulRegistryKey.beq_eq]
    exact Value.beq_trans (RegistryKey.isKey_toValue a) hkey ha
      (Value.beq_symm (RegistryKey.isKey_toValue b) hb)
  have htaken : ∀ pair ∈ (accepted κ ops).reverse, isTaken κ pair = true := fun pair hpair =>
    isTaken_of_mem_accepted (List.mem_reverse.mp hpair)
  have hfound : (r.entries.find? (RegistryKey.toValue ·.1 == key)).map Prod.snd =
      ((accepted κ ops).reverse.find? (·.1 == key)).map (kind.coerce ·.2) := by
    rw [h.entries_eq, Assoc.ofPairs, Assoc.find?_putAll hsame hone, List.find?_nil, Option.map_none,
      Option.or_none, acceptedEntries, ← List.filterMap_reverse, find?_kept htaken]
  rw [Registry.find?, Value.asKey, if_pos hkey, ← hfound]
  rfl

/-- A search gives what was accepted last, and fails if there is nothing. -/
theorem Reached.search_eq (h : Reached kind owner ops r) {key : Value} (hkey : key.isKey = true) :
    (r.step kind (kind.search key)).2 =
      match (accepted κ ops).reverse.find? (·.1 == key) with
      | some pair => .ok (.item (kind.coerce pair.2))
      | none => .error (kind.missing key owner).raised := by
  rw [step_search, require, lookup, h.find?_eq hkey, ← h.owner_eq]
  cases (accepted κ ops).reverse.find? (·.1 == key) <;> rfl

/-! ## The law of runs -/

/-- After any run a registry holds the accepted pairs, each key at its first place with its last
item. Before a freeze a write is refused at its first key that has a wrong type or cannot be the key
of a map, after one at its first pair, and then it changes nothing, as no read does. A search for a
value that can be a key gives the item that was accepted last under an equal key, and fails exactly
if there is none. The errors name the key, as far as it has a text. -/
theorem run_eq_accepted (kind : Kind) (owner : Value) (ops : List Operation) :
    let r := run kind ({ owner } : Registry κ Item) ops
    (r.entries = Assoc.ofPairs (acceptedEntries κ kind ops) ∧
      r.entries.map Prod.fst = ((acceptedEntries κ kind ops).map Prod.fst).eraseDups ∧
      ∀ key, r.item? key =
        ((acceptedEntries κ kind ops).reverse.find? (·.1 == key)).map Prod.snd) ∧
    (∀ op : Operation, op.pairs ≠ [] → ops.any Operation.isFreeze = false →
      accepted κ (ops ++ [op]) = accepted κ ops ++ op.pairs.takeWhile (isTaken κ) ∧
      (r.step kind op).2 =
        match op.pairs.find? (!isTaken κ ·) with
        | none => .ok .done
        | some (key, _) => .error (refusal κ key)) ∧
    (∀ op : Operation, ∀ key item rest, op.pairs = (key, item) :: rest →
      ops.any Operation.isFreeze = true →
        r.step kind op = (r, .error (Error.frozen key owner).raised)) ∧
    (∀ op : Operation, op.isRead = true → (r.step kind op).1 = r) ∧
    ∀ key : Value, key.isKey = true →
      (∀ item, (r.step kind (kind.search key)).2 = .ok (.item item) ↔
        ((accepted κ ops).reverse.find? (·.1 == key)).map (kind.coerce ·.2) = some item) ∧
      ∀ e, (r.step kind (kind.search key)).2 = .error e ↔
        e = (kind.missing key owner).raised ∧
          ∀ pair ∈ accepted κ ops, (pair.1 == key) = false := by
  intro r
  have hr : Reached kind owner ops r := reached_run kind owner ops
  refine ⟨⟨hr.entries_eq, ?_, ?_⟩, ?_, ?_, fun op => step_of_isRead kind r, ?_⟩
  · rw [hr.entries_eq, Assoc.keys_ofPairs]
  · intro key
    rw [item?, hr.entries_eq, Assoc.get?_ofPairs]
  · intro op hpairs hany
    rw [step_of_pairs kind r hpairs, write_of_open kind (hr.frozen_eq.trans hany), accepted_concat,
      hany]
    exact ⟨rfl, rfl⟩
  · intro op key item rest hpairs hany
    rw [step_of_pairs kind r (by simp [hpairs]), hpairs,
      write_of_frozen kind (hr.frozen_eq.trans hany), hr.owner_eq]
  · intro key hkey
    have hnone : (accepted κ ops).reverse.find? (·.1 == key) = none ↔
        ∀ pair ∈ accepted κ ops, (pair.1 == key) = false := by
      simp [List.find?_eq_none]
    rw [hr.search_eq hkey, ← hnone]
    cases (accepted κ ops).reverse.find? (·.1 == key) <;> simp [eq_comm]

/-- The second batch stops at its second pair, and the last write is too late. -/
def keywordOps : List Operation :=
  [.registerAll [(.keyword .asc, .value (.text "ASC")), (.keyword .desc, .value (.text "DESC"))],
   .registerAll [(.keyword .all, .value (.text "ALL")), (.text "only", .value (.text "ONLY")),
     (.keyword .forUpdateLock, .value (.text "FOR UPDATE"))],
   .register (.keyword .asc) (.value (.text "")),
   .freeze,
   .register (.keyword .asc) (.value (.text "ASC"))]

/-- Numbers and lists as keys: true is one, and a list cannot be the key of a map. -/
def mixedOps : List Operation :=
  [.registerAll [(.int 1, .value (.text "one")), (.bool true, .value (.text "true"))],
   .registerAll [(.list [.int 1], .value (.text "list")), (.int 2, .value (.text "two"))]]

theorem keyOps_accepted :
    (let r := run .symbols ({ owner := .text "ansi" } : Registry Keyword Item) keywordOps;
      r.entries.map Prod.fst = [.asc, .desc, .all] ∧
        r.item? .asc = some (.value (.text "")) ∧
        r.step .symbols (.register (.int 1) (.value .null)) =
          (r, .error (.frozen (.int 1) (.text "ansi"))) ∧
        (r.step .symbols (.lookup (.keyword .forUpdateLock))).2 =
          .error (.unknownSymbol (.keyword .forUpdateLock) (.text "ansi"))) ∧
    let r := run .symbols ({ owner := .null } : Registry (TypedKey "object" fun _ => true) Item)
      mixedOps;
    (r.step .symbols (.lookup (.decimal (.finite false 10 (-1))))).2 =
        .ok (.item (.value (.text "true"))) ∧
      (r.step .symbols (.lookup (.int 2))).2 = .error (.unknownSymbol (.int 2) .null) ∧
      (r.step .symbols (.register (.list []) (.value .null))).2 = .error .wrongType := by
  constructor
  · intro r
    obtain ⟨⟨-, hkeys, hitem⟩, -, hfrozen, -, hsearch⟩ :=
      @run_eq_accepted Keyword _ _ _ .symbols (.text "ansi") keywordOps
    have hone : (Error.frozen (.int 1) (.text "ansi")).raised = .frozen (.int 1) (.text "ansi") :=
      Error.raised_eq_self (by decide +kernel)
    refine ⟨hkeys.trans (by decide), (hitem .asc).trans rfl, hone ▸ hfrozen _ _ _ _ rfl rfl, ?_⟩
    refine ((hsearch (.keyword .forUpdateLock) rfl).2 _).mpr ⟨rfl, ?_⟩
    have haccepted : (accepted Keyword keywordOps).map Prod.fst =
        [.keyword .asc, .keyword .desc, .keyword .all, .keyword .asc] := rfl
    intro pair hpair
    have hkey := List.mem_map_of_mem (f := Prod.fst) hpair
    rw [haccepted] at hkey
    simp only [List.mem_cons, List.not_mem_nil, or_false] at hkey
    rcases hkey with h | h | h | h <;> rw [h] <;> rfl
  · intro r
    obtain ⟨-, hopen, -, -, hsearch⟩ :=
      @run_eq_accepted (TypedKey "object" fun _ => true) _ _ _ .symbols .null mixedOps
    have htwo : (Error.unknownSymbol (.int 2) .null).raised = .unknownSymbol (.int 2) .null :=
      Error.raised_eq_self (by decide +kernel)
    have hlist := (hopen (.register (.list []) (.value .null)) (List.cons_ne_nil _ _) rfl).2
    refine ⟨((hsearch _ rfl).1 _).mpr rfl, ?_, hlist⟩
    refine ((hsearch (.int 2) rfl).2 _).mpr ⟨htwo.symm, ?_⟩
    decide +kernel

/-- A key that has no text is refused, but no error can name it. -/
theorem longKey_not_named :
    let key := Value.int (Nat.pow 10 Text.maxDigits)
    let r := run .symbols ({ owner := .text "ansi" } : Registry Keyword Item) [.freeze]
    key.isKey = true ∧ (∀ item, (key, item) ∉ accepted Keyword [.freeze]) ∧
      (r.step .symbols (.register key (.value .null))).2 = .error .badValue ∧
      (r.step .symbols (.lookup key)).2 = .error .badValue := by
  intro key r
  have hlong : key.isWritable = false := by decide +kernel
  have hr : Reached .symbols (.text "ansi") [.freeze] r := reached_run _ _ _
  refine ⟨rfl, by simp [accepted, Operation.isFreeze], ?_, ?_⟩
  · rw [Registry.step, write_of_frozen .symbols hr.frozen_eq]
    exact congrArg Except.error (Error.raised_eq_badValue (by simp [Error.named, hlong]))
  · have hkey : key.isKey = true := rfl
    refine (hr.search_eq hkey).trans (congrArg Except.error ?_)
    exact Error.raised_eq_badValue (by simp [Kind.missing, Error.named, hlong])

end Registry

end SqlRender
