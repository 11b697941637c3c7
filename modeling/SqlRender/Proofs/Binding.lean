import SqlRender.Proofs.Parameter

/-!
# Binding values to the markers of a clause

A clause with one place is a text, what fills the place, and a text behind it. The values of a
comparison are bound to the markers of the text behind, one to each and in order. Markers in the
text in front, in what fills the place, and in raw SQL that stands where a marker was, are none of
the clause's own and stay as they are.

* `Format.apply_place`: a format with one place.
* `Fragment.bindFrom_weave`: as many values as a text has markers.
* `Dialect.clause_binds_own_markers`: both together, for a clause of any dialect.
-/

namespace SqlRender

namespace Format

theorem texts?_append {text : List Char} (h : '%' ∉ text) (cs : List Char) :
    texts? (text ++ cs) = (texts? cs).map fun texts => (text ++ texts.1, texts.2) := by
  induction text with
  | nil => simp
  | cons c text ih =>
    rw [List.mem_cons, not_or] at h
    have hc : c ≠ '%' := Ne.symm h.1
    rw [List.cons_append, texts?, if_neg hc, ih h.2, Option.map_map]
    · rfl
    · exact fun _ heq => absurd heq hc

/-- A format with one place and no other per cent sign takes one text, whatever is in it. -/
theorem apply_place {pre suf : String} (hpre : '%' ∉ pre.toList) (hsuf : '%' ∉ suf.toList)
    (column : String) :
    apply (pre ++ "%s" ++ suf) (.ofList [.text column]) = .ok (pre ++ column ++ suf) := by
  have hback : texts? suf.toList = some (suf.toList, []) := by
    have happend := texts?_append hsuf []
    simpa [texts?] using happend
  have htexts : texts? (pre ++ "%s" ++ suf).toList = some (pre.toList, [suf.toList]) := by
    have hchars : (pre ++ "%s" ++ suf).toList = pre.toList ++ '%' :: 's' :: suf.toList := by simp
    rw [hchars, texts?_append hpre, texts?, hback]
    simp
  simpa [weave, String.append_assoc] using apply_texts htexts [column]

theorem weave_cons (text next arg : List Char) (texts args : List (List Char)) :
    weave text (next :: texts) (arg :: args) = text ++ (arg ++ weave next texts args) := by
  simp [weave]

/-- A text as its pieces between the occurrences of a sign. -/
theorem exists_weave (sign : Char) (cs : List Char) :
    ∃ first rest, sign ∉ first ∧ (∀ piece ∈ rest, sign ∉ piece) ∧ rest.length = cs.count sign ∧
      cs = weave first rest (rest.map fun _ => [sign]) := by
  induction cs with
  | nil => exact ⟨[], [], by simp, by simp, rfl, rfl⟩
  | cons c cs ih =>
    obtain ⟨first, rest, hfirst, hrest, hlength, hcs⟩ := ih
    by_cases hc : c = sign
    · subst hc
      refine ⟨[], first :: rest, by simp, List.forall_mem_cons.mpr ⟨hfirst, hrest⟩, ?_, ?_⟩
      · rw [List.count_cons_self, List.length_cons, hlength]
      · rw [List.map_cons, weave_cons, ← hcs]
        rfl
    · refine ⟨c :: first, rest, ?_, hrest, ?_, congrArg (c :: ·) hcs⟩
      · rw [List.mem_cons, not_or]
        exact ⟨Ne.symm hc, hfirst⟩
      · rw [List.count_cons_of_ne hc, hlength]

end Format

namespace Fragment

open Format (weave)

/-- As many values as there are markers: each stands in the place of its own. -/
theorem bindFrom_weave {first : List Char} {rest : List (List Char)} {values : List Value}
    (hfirst : '?' ∉ first) (hrest : ∀ piece ∈ rest, '?' ∉ piece)
    (hlength : rest.length = values.length) :
    bindFrom 0 values (weave first rest (rest.map fun _ => ['?'])) =
      (weave first rest (values.map (·.place.toList)), values.filter Value.isBound) := by
  induction values generalizing first rest with
  | nil =>
    obtain rfl := List.length_eq_zero_iff.mp hlength
    exact bindFrom_text hfirst [] []
  | cons value values ih =>
    obtain ⟨next, rest, rfl⟩ := List.exists_cons_of_length_eq_add_one hlength
    obtain ⟨hnext, hrest⟩ := List.forall_mem_cons.mp hrest
    have hback := ih hnext hrest (Nat.succ.inj hlength)
    rw [List.map_cons, Format.weave_cons, bindFrom_text hfirst, List.singleton_append,
      bindFrom_marker, hback, List.map_cons, Format.weave_cons, sql_ofValue, params_ofValue,
      ← List.filter_append]
    rfl

end Fragment

open Format (weave)

/-- Where the format of a clause is a text, its one place and a text with as many markers as there
are values, the values are bound to these markers in order. All else is written as it is. -/
theorem Dialect.clause_binds_own_markers (d : Dialect) (c : Clause) {pre suf : String}
    (hformat : d.formatOf (.clause c) = .ok (.text (pre ++ "%s" ++ suf)))
    (hpre : '%' ∉ pre.toList) (hsuf : '%' ∉ suf.toList) (column : String) (values : List Value)
    (hcount : suf.toList.count '?' = values.length) :
    ∃ first rest, '?' ∉ first ∧ (∀ piece ∈ rest, '?' ∉ piece) ∧ rest.length = values.length ∧
      suf.toList = weave first rest (rest.map fun _ => ['?']) ∧
      (do return .bind (← d.clause c [column]) values : Except Error Fragment) =
        .ok ⟨pre ++ column ++ String.ofList (weave first rest (values.map (·.place.toList))),
          values.filter Value.isBound⟩ := by
  obtain ⟨first, rest, hfirst, hrest, hlength, hpieces⟩ := Format.exists_weave '?' suf.toList
  rw [hcount] at hlength
  refine ⟨first, rest, hfirst, hrest, hlength, hpieces, ?_⟩
  have hclause : d.clause c [column] = .ok (pre ++ column ++ suf) := by
    rw [Dialect.clause, Dialect.clauseOf, hformat]
    exact Format.apply_place hpre hsuf column
  -- the markers in front of the last ones are those of `pre` and of the column
  have hbind := Fragment.bind_append (pre ++ column) hcount
  rw [String.ofList_toList, hpieces, Fragment.bindFrom_weave hfirst hrest hlength] at hbind
  rw [hclause]
  exact congrArg Except.ok hbind

/-- A dialect whose clause for a range has a marker in front of its place. -/
def roundedDialect : Dialect :=
  (Dialect.base "rounded" "\"" .standard).put (.clause .between "round(?, %s) BETWEEN ? AND ?")

def roundedBounds : List Value := [.raw "least(?, 1)", .int 5]

theorem roundedDialect_binds_own_markers :
    roundedDialect.formatOf (.clause .between) =
        .ok (.text ("round(?, " ++ "%s" ++ ") BETWEEN ? AND ?")) ∧
      (∃ first rest, '?' ∉ first ∧ (∀ piece ∈ rest, '?' ∉ piece) ∧ rest.length = 2 ∧
        ") BETWEEN ? AND ?".toList = weave first rest (rest.map fun _ => ['?']) ∧
        (do return .bind (← roundedDialect.clause .between ["\"a?%s\""]) roundedBounds :
            Except Error Fragment) =
          .ok ⟨"round(?, " ++ "\"a?%s\"" ++
            String.ofList (weave first rest ["least(?, 1)".toList, ['?']]), [.int 5]⟩) ∧
      (do return .bind (← roundedDialect.clause .between ["\"a?%s\""]) roundedBounds :
          Except Error Fragment) =
        .ok ⟨"round(?, \"a?%s\") BETWEEN least(?, 1) AND ?", [.int 5]⟩ := by
  have hformat : roundedDialect.formatOf (.clause .between) =
      .ok (.text ("round(?, " ++ "%s" ++ ") BETWEEN ? AND ?")) := rfl
  refine ⟨hformat, ?_, rfl⟩
  exact roundedDialect.clause_binds_own_markers .between hformat (by decide) (by decide)
    "\"a?%s\"" roundedBounds (by decide)

end SqlRender
