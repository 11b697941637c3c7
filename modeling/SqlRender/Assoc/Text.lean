import SqlRender.Assoc
import SqlRender.Value.Equality

/-!
# Tables under texts

The keys of a table are values. A text equals nothing but itself, so what stands under texts can be
told without the equality of other values.
-/

namespace SqlRender

theorem Value.exact_of_isSymbol {v : Value} (h : v.isSymbol = true) : Assoc.Exact v :=
  ⟨fun k => k.beq_symbol h, Value.symbol_beq h⟩

theorem Value.exact_text (s : String) : Assoc.Exact (Value.text s) := exact_of_isSymbol rfl

namespace Assoc

variable {ν : Type}

theorem get?_put_text (key other : String) (value : ν) (table : List (Value × ν)) :
    get? (.text other) (put (.text key) value table) =
      if key = other then some value else get? (.text other) table := by
  rw [(Value.exact_text other).get?_put]
  by_cases h : key = other <;> simp [Value.beq_text, h]

/-- A write under a text adds the text at the end, unless it is there. -/
theorem keys_put_text (key : String) (value : ν) {table : List (Value × ν)} {names : List String}
    (h : table.map Prod.fst = names.map .text) :
    (put (.text key) value table).map Prod.fst =
      (if key ∈ names then names else names ++ [key]).map .text := by
  rw [keys_put, h]
  by_cases hmem : key ∈ names <;> simp [List.any_eq_true, Value.beq_text, hmem]

theorem get?_map_text (names : List String) (f : String → ν) (name : String) :
    get? (.text name) (names.map fun name => (Value.text name, f name)) =
      if name ∈ names then some (f name) else none := by
  induction names with
  | nil => rfl
  | cons first names ih =>
    by_cases h : first = name
    · simp [get?, Value.text_beq, h]
    · simp [get?, Value.text_beq, Ne.symm h, ih]

/-- A write into a table that a function gives is a change of the function at one name. -/
theorem put_map_text {names : List String} (hnames : names.Nodup) {key : String}
    {f g : String → ν} (hother : ∀ name ∈ names, name ≠ key → g name = f name) :
    put (.text key) (g key) (names.map fun name => (Value.text name, f name)) =
      (if key ∈ names then names else names ++ [key]).map fun name => (.text name, g name) := by
  induction names with
  | nil => simp [put]
  | cons name names ih =>
    obtain ⟨hname, hrest⟩ := List.nodup_cons.mp hnames
    by_cases hkey : name = key
    · subst hkey
      have hsame : ∀ other ∈ names, g other = f other := fun other hmem =>
        hother other (List.mem_cons_of_mem _ hmem) fun heq => hname (heq ▸ hmem)
      rw [if_pos (List.mem_cons_self ..), List.map_cons, put, if_pos ((Value.text_beq ..).mpr rfl),
        List.map_cons]
      exact congrArg _ (List.map_congr_left fun other hmem => by rw [hsame other hmem])
    · have hbeq : ¬(Value.text name == Value.text key) = true := by
        simp [Value.text_beq, Ne.symm hkey]
      rw [List.map_cons, put, if_neg hbeq,
        ih hrest fun other h => hother other (List.mem_cons_of_mem _ h),
        ← hother name (List.mem_cons_self ..) hkey]
      by_cases hin : key ∈ names <;> simp [hin, Ne.symm hkey]

end Assoc

end SqlRender
