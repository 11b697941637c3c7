import SqlRender.Format
import SqlRender.Proofs.Outcome

/-!
# Formats without other directives than `%s`

Such a format is a text, and behind each place one more text. What it gives is written out in
`write`: the arguments between the texts, as many as there are places.
-/

namespace SqlRender

/-- A whole number is shown as its numeral. -/
theorem Value.eq_ofInt_of_shown {n : Int} {s : String}
    (h : (Value.int n).shown Value.display = .ok s) : s = Text.ofInt n := by
  rw [shown] at h
  by_cases hn : (Value.int n).isWritable = true
  · rw [if_pos hn] at h
    exact (Except.ok.inj h).symm
  · rw [if_neg hn] at h
    cases h

/-- A numeral is made of digits, with a minus in front if the number is negative. -/
theorem Text.mem_ofInt {n : Int} {c : Char} (h : c ∈ (ofInt n).toList) :
    c = '-' ∨ c.isDigit = true := by
  rw [ofInt, String.toList_ofList] at h
  rcases List.mem_append.mp h with hsign | hdigits
  · split at hsign
    · exact .inl (List.mem_singleton.mp hsign)
    · cases hsign
  · exact .inr (Nat.isDigit_of_mem_toDigits (by decide) (by decide) hdigits)

namespace Format

/-- The text in front of the first place of a format, and the texts behind its places. A format
with another directive than `%s` has none. -/
def texts? : List Char → Option (List Char × List (List Char))
  | [] => some ([], [])
  | '%' :: 's' :: cs => (texts? cs).map fun texts => ([], texts.1 :: texts.2)
  | c :: cs => if c = '%' then none else (texts? cs).map fun texts => (c :: texts.1, texts.2)

/-- The arguments between the texts. -/
def write (text : List Char) : List (List Char) → List Value → Except Error (List Char)
  | [], [] => .ok text
  | [], _ :: _ => .error .wrongType
  | _ :: _, [] => .error .wrongType
  | next :: texts, arg :: args => do
    let shown ← arg.shown Value.display
    return text ++ shown.toList ++ (← write next texts args)

/-- Texts as arguments between the texts of a format. -/
def weave (text : List Char) (texts args : List (List Char)) : List Char :=
  text ++ (List.zipWith (· ++ ·) args texts).flatten

/-- A place takes the next argument as it is shown. -/
theorem step_place (arg : Value) (args : List Value) :
    Directive.step {} 's' (.ofList (arg :: args)) =
      (arg.shown Value.display).map fun s => .done s.toList (.ofList args) := by
  cases h : arg.shown Value.display with
  | error e =>
    simp [Directive.step, Directive.step.flag, Directive.step.point, Directive.step.size,
      Directive.finish, Supply.next, Supply.ofList, Directive.convert, h, bind, Except.bind,
      Except.map, Functor.map]
  | ok s =>
    simp [Directive.step, Directive.step.flag, Directive.step.point, Directive.step.size,
      Directive.finish, Supply.next, Supply.ofList, Directive.convert, h, bind, Except.bind,
      Except.map, Functor.map, Directive.textPiece, Directive.put?, Directive.pad, noRoom,
      maxLength, pure, Except.pure]

theorem step_place_nil :
    Directive.step {} 's' (.ofList []) = .error .wrongType := rfl

theorem fill_place (cs : List Char) (arg : Value) (args : List Value) :
    fill none ('%' :: 's' :: cs) (.ofList (arg :: args)) = do
      let shown ← arg.shown Value.display
      return shown.toList ++ (← fill none cs (.ofList args)) := by
  rw [fill, if_pos rfl, fill, step_place]
  cases arg.shown Value.display <;> rfl

theorem fill_place_nil (cs : List Char) :
    fill none ('%' :: 's' :: cs) (.ofList []) = .error .wrongType := by
  rw [fill, if_pos rfl, fill, step_place_nil]
  rfl

theorem fill_text {c : Char} (hc : c ≠ '%') (cs : List Char) (supply : Supply) :
    fill none (c :: cs) supply = do return c :: (← fill none cs supply) := by
  rw [fill, if_neg hc]

/-- A character in front of a format stands in front of what the format gives. -/
theorem write_cons (c : Char) (text : List Char) (texts : List (List Char)) (args : List Value) :
    write (c :: text) texts args = do return c :: (← write text texts args) := by
  cases texts with
  | nil => cases args <;> rfl
  | cons next texts =>
    cases args with
    | nil => rfl
    | cons arg args =>
      rw [write, write]
      cases arg.shown Value.display with
      | error e => rfl
      | ok s =>
        simp only [bind, Except.bind]
        cases write next texts args <;> rfl

theorem fill_eq_write {cs text : List Char} {texts : List (List Char)}
    (h : texts? cs = some (text, texts)) (args : List Value) :
    fill none cs (.ofList args) = write text texts args := by
  fun_induction texts? cs generalizing text texts args with
  | case1 =>
    cases h
    cases args <;> rfl
  | case2 cs ih =>
    obtain ⟨⟨next, rest⟩, hrest, heq⟩ := Option.map_eq_some_iff.mp h
    cases heq
    cases args with
    | nil => exact fill_place_nil cs
    | cons arg args =>
      rw [fill_place, ih hrest]
      rfl
  | case3 => cases h
  | case4 c cs _ hc ih =>
    obtain ⟨⟨first, rest⟩, hrest, heq⟩ := Option.map_eq_some_iff.mp h
    cases heq
    rw [fill_text hc, ih hrest, write_cons]

/-- With texts as arguments only their number can be wrong. -/
theorem write_texts (text : List Char) (texts : List (List Char)) (args : List String) :
    write text texts (args.map .text) =
      if args.length = texts.length then .ok (weave text texts (args.map String.toList))
      else .error .wrongType := by
  induction texts generalizing text args with
  | nil => cases args <;> simp [write, weave]
  | cons next texts ih =>
    cases args with
    | nil => simp [write]
    | cons arg args =>
      have hshown : (Value.text arg).shown Value.display = .ok arg := rfl
      rw [List.map_cons, write, hshown, ih]
      by_cases hlen : args.length = texts.length
      · simp [hlen, weave, bind, Except.bind, pure, Except.pure]
      · simp [hlen, bind, Except.bind]

theorem apply_texts {format : String} {text : List Char} {texts : List (List Char)}
    (h : texts? format.toList = some (text, texts)) (args : List String) :
    apply format (.ofList (args.map .text)) =
      if args.length = texts.length then
        .ok (String.ofList (weave text texts (args.map String.toList)))
      else .error .wrongType := by
  rw [apply, fill_eq_write h, write_texts]
  split <;> rfl

end Format

end SqlRender
