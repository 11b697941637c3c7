/-!
# Ordered tables

A table is a list of pairs in the order in which its keys first came. Writing a key again changes
its value and keeps its place.

* `Assoc.find?_put`: what a test of keys finds after a write.
* `Assoc.get?_ofPairs`, `Assoc.keys_ofPairs`: the table that pairs give.
* `Assoc.Exact`: keys that equal themselves only, whatever the equality of other keys is.
-/

namespace SqlRender.Assoc

variable {κ ν : Type} [BEq κ]

/-- The value of a key. -/
def get? (key : κ) : List (κ × ν) → Option ν
  | [] => none
  | (k, v) :: rest => if k == key then some v else get? key rest

/-- Writes a value: in the place of the key if it is there, otherwise at the end. -/
def put (key : κ) (value : ν) : List (κ × ν) → List (κ × ν)
  | [] => [(key, value)]
  | (k, v) :: rest => if k == key then (k, value) :: rest else (k, v) :: put key value rest

/-- Writes pairs in order. -/
def putAll (table pairs : List (κ × ν)) : List (κ × ν) :=
  pairs.foldl (fun table pair => put pair.1 pair.2 table) table

/-- The table that pairs give: a repeated key keeps its first place and takes its last value. -/
def ofPairs (pairs : List (κ × ν)) : List (κ × ν) := putAll [] pairs

/-! ## Reads -/

theorem get?_eq_find? (key : κ) (table : List (κ × ν)) :
    get? key table = (table.find? (·.1 == key)).map Prod.snd := by
  induction table with
  | nil => rfl
  | cons pair rest ih =>
    rw [get?, ih, List.find?_cons]
    cases pair.1 == key <;> rfl

theorem mem_of_get? {key : κ} {value : ν} {table : List (κ × ν)}
    (h : get? key table = some value) : ∃ k, (k == key) = true ∧ (k, value) ∈ table := by
  rw [get?_eq_find?, Option.map_eq_some_iff] at h
  obtain ⟨pair, hfind, rfl⟩ := h
  have hkey := List.find?_some hfind
  exact ⟨pair.1, hkey, List.mem_of_find?_eq_some hfind⟩

/-! ## Writes -/

/-- What a test of keys finds after a write, if it holds of the keys that equal the written one or
of none of them, and of no others. -/
theorem find?_put {p : κ → Bool} {key : κ} (hsame : ∀ k, (k == key) = true → p k = p key)
    (hone : ∀ k, p k = true → p key = true → (k == key) = true) (value : ν)
    (table : List (κ × ν)) :
    ((put key value table).find? (p ·.1)).map Prod.snd =
      if p key then some value else (table.find? (p ·.1)).map Prod.snd := by
  induction table with
  | nil => cases hp : p key <;> simp [put, hp]
  | cons pair rest ih =>
    obtain ⟨k, v⟩ := pair
    by_cases hk : (k == key) = true
    · cases hp : p key <;> simp [put, hk, hsame k hk, hp]
    · cases hp : p k with
      | true =>
        have hkey : p key = false := Bool.eq_false_iff.mpr fun hkey => hk (hone k hp hkey)
        simp [put, hk, hp, hkey]
      | false => simpa [put, hk, hp] using ih

/-- A write adds its key at the end, unless an equal one is there. -/
theorem keys_put (key : κ) (value : ν) (table : List (κ × ν)) :
    (put key value table).map Prod.fst =
      if (table.map Prod.fst).any (· == key) then table.map Prod.fst
      else table.map Prod.fst ++ [key] := by
  induction table with
  | nil => rfl
  | cons pair rest ih =>
    obtain ⟨k, v⟩ := pair
    cases hk : k == key with
    | true => simp [put, hk]
    | false =>
      simp only [put, hk, Bool.false_eq_true, if_false, List.map_cons, ih, List.any_cons,
        Bool.false_or]
      split <;> rfl

theorem putAll_cons (table : List (κ × ν)) (pair : κ × ν) (pairs : List (κ × ν)) :
    putAll table (pair :: pairs) = putAll (put pair.1 pair.2 table) pairs := rfl

theorem putAll_ofPairs (before after : List (κ × ν)) :
    putAll (ofPairs before) after = ofPairs (before ++ after) := by
  simp [ofPairs, putAll, List.foldl_append]

/-- A test that holds of one class of equal keys finds what came last. -/
theorem find?_putAll {p : κ → Bool} (hsame : ∀ a b, (a == b) = true → p a = p b)
    (hone : ∀ a b, p a = true → p b = true → (a == b) = true) (table pairs : List (κ × ν)) :
    ((putAll table pairs).find? (p ·.1)).map Prod.snd =
      ((pairs.reverse.find? (p ·.1)).map Prod.snd).or
        ((table.find? (p ·.1)).map Prod.snd) := by
  induction pairs generalizing table with
  | nil => rfl
  | cons pair rest ih =>
    rw [putAll_cons, ih, find?_put (fun k => hsame k pair.1) (fun k => hone k pair.1),
      List.reverse_cons, List.find?_append]
    cases List.find? (p ·.1) rest.reverse with
    | some found => rfl
    | none => cases hp : p pair.1 <;> simp [hp]

section Equivalence

variable [PartialEquivBEq κ]

/-- What a key holds after a write. -/
theorem get?_put (key other : κ) (value : ν) (table : List (κ × ν)) :
    get? other (put key value table) = if key == other then some value else get? other table := by
  rw [get?_eq_find?, get?_eq_find?]
  refine find?_put (p := (· == other)) (fun k hk => BEq.congr_left hk) (fun k hk hkey => ?_) value
    table
  exact BEq.trans hk (BEq.symm hkey)

/-- A key has the value that came last. -/
theorem get?_ofPairs (key : κ) (pairs : List (κ × ν)) :
    get? key (ofPairs pairs) = (pairs.reverse.find? (·.1 == key)).map Prod.snd := by
  rw [get?_eq_find?, ofPairs, find?_putAll (p := (· == key)) (fun a b hab => BEq.congr_left hab)
    (fun a b ha hb => BEq.trans ha (BEq.symm hb))]
  exact Option.or_none

/-- A key stands where it first came. -/
theorem keys_ofPairs (pairs : List (κ × ν)) :
    (ofPairs pairs).map Prod.fst = (pairs.map Prod.fst).eraseDups := by
  -- the keys of the table so far, turned round, are what the search for duplicates has kept
  have hloop : ∀ table : List (κ × ν), (putAll table pairs).map Prod.fst =
      List.eraseDupsBy.loop (· == ·) (pairs.map Prod.fst) (table.map Prod.fst).reverse := by
    induction pairs with
    | nil => intro table; simp [putAll, List.eraseDupsBy.loop]
    | cons pair rest ih =>
      intro table
      have hany : (table.map Prod.fst).reverse.any (pair.1 == ·) =
          (table.map Prod.fst).any (· == pair.1) := by
        rw [List.any_reverse]
        exact congrArg _ (funext fun k => BEq.comm)
      rw [putAll_cons, ih, keys_put, List.map_cons, List.eraseDupsBy.loop, hany]
      cases (table.map Prod.fst).any (· == pair.1) <;> simp
  exact hloop []

end Equivalence

/-- First occurrences, with one more item at the end. -/
theorem eraseDups_concat [LawfulBEq κ] (keys : List κ) (key : κ) :
    (keys ++ [key]).eraseDups =
      if key ∈ keys.eraseDups then keys.eraseDups else keys.eraseDups ++ [key] := by
  rw [List.eraseDups_append]
  by_cases h : key ∈ keys
  · simp [List.removeAll, List.mem_eraseDups, h]
  · simp [List.removeAll, List.mem_eraseDups, h, List.eraseDups_cons]

/-! ## Keys that equal themselves only -/

/-- The key equals itself, and no other key equals it or is equal to it. -/
structure Exact (key : κ) : Prop where
  beq_iff : ∀ k, (k == key) = true ↔ k = key
  iff_beq : ∀ k, (key == k) = true ↔ k = key

theorem exact [LawfulBEq κ] (key : κ) : Exact key :=
  ⟨fun _ => beq_iff_eq, fun _ => beq_iff_eq.trans eq_comm⟩

namespace Exact

variable {key : κ} {value : ν} {table : List (κ × ν)}

theorem mem_of_get? (hkey : Exact key) (h : get? key table = some value) :
    (key, value) ∈ table := by
  obtain ⟨k, hk, hmem⟩ := Assoc.mem_of_get? h
  rwa [(hkey.beq_iff k).mp hk] at hmem

theorem get?_eq_none (hkey : Exact key) (h : key ∉ table.map Prod.fst) :
    get? key table = none := by
  cases hget : get? key table with
  | none => rfl
  | some value => exact absurd (List.mem_map.mpr ⟨_, hkey.mem_of_get? hget, rfl⟩) h

theorem get?_of_mem (hkey : Exact key) (hnodup : (table.map Prod.fst).Nodup)
    (h : (key, value) ∈ table) : get? key table = some value := by
  induction table with
  | nil => cases h
  | cons pair rest ih =>
    obtain ⟨k, v⟩ := pair
    obtain ⟨hk, hrest⟩ := List.nodup_cons.mp hnodup
    rcases List.mem_cons.mp h with heq | hmem
    · cases heq
      rw [get?, if_pos ((hkey.beq_iff key).mpr rfl)]
    · have hne : ¬(k == key) = true := by
        rw [hkey.beq_iff]
        rintro rfl
        exact hk (List.mem_map.mpr ⟨_, hmem, rfl⟩)
      rw [get?, if_neg hne, ih hrest hmem]

/-- What the key holds after a write under any key. -/
theorem get?_put (hkey : Exact key) (other : κ) (value : ν) (table : List (κ × ν)) :
    get? key (put other value table) = if other == key then some value else get? key table := by
  rw [get?_eq_find?, get?_eq_find?]
  refine find?_put (p := (· == key)) (fun k hk => ?_) (fun k hk hother => ?_) value table
  · rw [Bool.eq_iff_iff, hkey.beq_iff, hkey.beq_iff]
    constructor
    · rintro rfl
      exact (hkey.iff_beq other).mp hk
    · rintro rfl
      exact (hkey.beq_iff k).mp hk
  · rw [(hkey.beq_iff other).mp hother]
    exact hk

/-- A write under the key keeps keys apart. -/
theorem nodup_put (hkey : Exact key) (value : ν) (h : (table.map Prod.fst).Nodup) :
    ((put key value table).map Prod.fst).Nodup := by
  rw [keys_put]
  split
  · exact h
  · next hany =>
    rw [List.any_eq_true] at hany
    refine List.nodup_append.mpr ⟨h, by simp, fun k hk other hother => ?_⟩
    rintro rfl
    exact hany ⟨k, hk, (hkey.beq_iff k).mpr (List.mem_singleton.mp hother)⟩

/-- Pairs with different keys stand over what was there. -/
theorem get?_putAll (hkey : Exact key) (table : List (κ × ν)) {pairs : List (κ × ν)}
    (h : (pairs.map Prod.fst).Nodup) :
    get? key (putAll table pairs) = (get? key pairs).or (get? key table) := by
  induction pairs generalizing table with
  | nil => rfl
  | cons pair rest ih =>
    obtain ⟨hk, hrest⟩ := List.nodup_cons.mp h
    rw [putAll_cons, ih _ hrest, hkey.get?_put, get?]
    by_cases heq : (pair.1 == key) = true
    · rw [(hkey.beq_iff _).mp heq] at hk
      simp [heq, hkey.get?_eq_none hk]
    · simp [heq]

end Exact

end SqlRender.Assoc
