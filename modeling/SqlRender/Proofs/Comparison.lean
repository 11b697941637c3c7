import SqlRender.Proofs.Bundled
import SqlRender.Proofs.Lookup

/-!
# Comparisons

What a comparison of a bundled dialect writes behind its column: a sign, and operands in the places
that the sign gives them. An operand is a marker with the value as parameter, or raw SQL.

* `Fragment.bind_append`: values are bound to the markers behind a column, never to those in it.
* `Backend.comparison_eq`: a comparison is its column followed by its tail.
* `Backend.tail_spec`: the operands of the tail are those of the lookup.
* `Backend.comparison_text`: both at once, for the text alone.
-/

namespace SqlRender

/-! ## Binding values to markers -/

namespace Fragment

/-- As many markers as there are in the front are passed over in it. -/
theorem bindFrom_append (skip : Nat) (values : List Value) (front back : List Char) :
    bindFrom (front.count '?' + skip) values (front ++ back) =
      (front ++ (bindFrom skip values back).1, (bindFrom skip values back).2) := by
  induction front with
  | nil => simp
  | cons c front ih =>
    by_cases hc : c = '?'
    · subst hc
      have hcount : ('?' :: front).count '?' + skip = front.count '?' + skip + 1 := by
        rw [List.count_cons_self]
        omega
      rw [hcount, List.cons_append, bindFrom, if_pos rfl, ih]
      rfl
    · have hcount : (c :: front).count '?' = front.count '?' := by
        rw [List.count_cons_of_ne hc]
      rw [hcount, List.cons_append, bindFrom.eq_def]
      simp only [hc, if_false, ih, List.cons_append]

/-- A text without markers stays as it is. -/
theorem bindFrom_text {text : List Char} (h : '?' ∉ text) (values : List Value)
    (back : List Char) :
    bindFrom 0 values (text ++ back) =
      (text ++ (bindFrom 0 values back).1, (bindFrom 0 values back).2) := by
  have happend := bindFrom_append 0 values text back
  rw [List.count_eq_zero.mpr h] at happend
  exact happend

theorem bindFrom_marker (value : Value) (values : List Value) (back : List Char) :
    bindFrom 0 (value :: values) ('?' :: back) =
      ((ofValue value).sql.toList ++ (bindFrom 0 values back).1,
        (ofValue value).params ++ (bindFrom 0 values back).2) := by
  rw [bindFrom, if_pos rfl]

/-- Values are bound to the markers behind a column, never to those in it. -/
theorem bind_append (column : String) {back : List Char} {values : List Value}
    (h : back.count '?' = values.length) :
    bind (column ++ String.ofList back) values =
      ⟨column ++ String.ofList (bindFrom 0 values back).1, (bindFrom 0 values back).2⟩ := by
  have hskip : (column.toList ++ back).count '?' - values.length = column.toList.count '?' + 0 := by
    rw [List.count_append, h]
    omega
  rw [bind, String.toList_append, String.toList_ofList, hskip, bindFrom_append]
  simp [String.ofList_append]

end Fragment

/-! ## Tails -/

/-- What stands behind the column of a comparison, with operands of a type. -/
inductive Tail (α : Type) where
  | test (sign : String)
  | single (sign : String) (operand : α)
  | range (sign : String) (low high : α)
  | list (sign : String) (items : List α)

namespace Tail

variable {α β : Type}

def sign : Tail α → String
  | test sign => sign
  | single sign _ => sign
  | range sign _ _ => sign
  | list sign _ => sign

def operands : Tail α → List α
  | test _ => []
  | single _ operand => [operand]
  | range _ low high => [low, high]
  | list _ items => items

def map (f : α → β) : Tail α → Tail β
  | test sign => test sign
  | single sign operand => single sign (f operand)
  | range sign low high => range sign (f low) (f high)
  | list sign items => list sign (items.map f)

/-- The text of a tail with texts as operands. -/
def text : Tail String → String
  | test sign => sign
  | single sign operand => sign ++ operand
  | range sign low high => sign ++ low ++ " AND " ++ high
  | list sign items => sign ++ Text.joined ", " items ++ ")"

/-- A tail behind a column. -/
def fragment (column : String) (t : Tail Value) : Fragment :=
  ⟨column ++ (t.map fun v => (Fragment.ofValue v).sql).text,
    t.operands.flatMap fun v => (Fragment.ofValue v).params⟩

theorem operands_map (f : α → β) (t : Tail α) : (t.map f).operands = t.operands.map f := by
  cases t <;> rfl

end Tail

namespace Backend

/-- The text between a column and its first operand. -/
def sign (b : Backend) : Lookup → String
  | .exact => " = "
  | .ne => " != "
  | .gt => " > "
  | .gte => " >= "
  | .lt => " < "
  | .lte => " <= "
  | .like | .contains => " LIKE "
  | .notLike => " NOT LIKE "
  | .regexp => if b = .postgresql then " ~* " else " REGEXP "
  | .notRegexp => if b = .postgresql then " !~* " else " NOT REGEXP "
  | .inList => " IN ("
  | .notInList => " NOT IN ("
  | .between => " BETWEEN "
  | .notBetween => " NOT BETWEEN "
  | .isNull => " IS NULL"

/-- The texts that can stand between a column and the operands of a tail of the same form. -/
def signs {α : Type} (b : Backend) : Tail α → List String
  | .test _ => [" IS NULL", " IS NOT NULL"]
  | .single _ _ =>
    [.exact, .ne, .gt, .gte, .lt, .lte, .like, .notLike, .contains, .regexp, .notRegexp].map b.sign
  | .range _ _ _ => [.between, .notBetween].map b.sign
  | .list _ _ => [.inList, .notInList].map b.sign

/-- The tail of a comparison with null. -/
def nullTail : Lookup → Except Error (Tail Value)
  | .exact => .ok (.test " IS NULL")
  | .ne => .ok (.test " IS NOT NULL")
  | _ => .error .nullComparison

/-- The tail of a comparison with a value, or the reason why there is none. -/
def tail (b : Backend) (l : Lookup) (v : Value) : Except Error (Tail Value) :=
  match l, v with
  | .isNull, v => .ok (.test (if v.isTrue then " IS NULL" else " IS NOT NULL"))
  | l, .null => nullTail l
  | .inList, v | .notInList, v => do
    let items ← v.asItems
    if items.isEmpty then throw (.emptyLookup l.name)
    return .list (b.sign l) items
  | .between, v | .notBetween, v => do
    let (low, high) ← v.asPair
    return .range (b.sign l) low high
  | .contains, v => do return .single (b.sign l) (← v.shown containsPattern)
  | l, v => .ok (.single (b.sign l) v)

theorem tail_single {b : Backend} {l : Lookup} {v : Value} (hl : l.isSingle = true)
    (hv : v ≠ .null) : b.tail l v = .ok (.single (b.sign l) v) := by
  cases l <;> first
    | exact absurd hl (by decide)
    | rw [tail] <;> first | exact hv | nofun

/-! ## The formats of comparisons -/

variable (b : Backend)

theorem format_isNull : b.formatTexts? .isNull = some ("".toList, [" IS NULL".toList]) := by
  cases b <;> decide

theorem format_isNotNull :
    b.formatTexts? .isNotNull = some ("".toList, [" IS NOT NULL".toList]) := by
  cases b <;> decide

theorem format_list {l : Lookup} (hl : l = .inList ∨ l = .notInList) :
    b.formatTexts? l.clause = some ("".toList, [(b.sign l).toList, ")".toList]) := by
  rcases hl with rfl | rfl <;> cases b <;> decide

theorem format_range {l : Lookup} (hl : l = .between ∨ l = .notBetween) :
    b.formatTexts? l.clause = some ("".toList, [(b.sign l ++ "? AND ?").toList]) := by
  rcases hl with rfl | rfl <;> cases b <;> decide

theorem format_single {l : Lookup}
    (hl : l ∉ [.isNull, .inList, .notInList, .between, .notBetween]) :
    b.formatTexts? l.clause = some ("".toList, [(b.sign l ++ "?").toList]) := by
  cases l <;> first
    | exact absurd (by decide) hl
    | cases b <;> decide

theorem sign_no_marker (l : Lookup) : '?' ∉ (b.sign l).toList := by
  cases l <;> cases b <;> decide

variable {b} (types : TypeCatalogue)

theorem bind_single (column : String) (l : Lookup) (v : Value) :
    Fragment.bind (column ++ (b.sign l ++ "?")) [v] =
      Tail.fragment column (.single (b.sign l) v) := by
  have hback : b.sign l ++ "?" = String.ofList ((b.sign l).toList ++ ['?']) := by
    simp [String.ofList_append]
  have hcount : ((b.sign l).toList ++ ['?']).count '?' = [v].length := by
    rw [List.count_append, List.count_eq_zero.mpr (b.sign_no_marker l)]
    rfl
  rw [hback, Fragment.bind_append column hcount, Fragment.bindFrom_text (b.sign_no_marker l),
    Fragment.bindFrom_marker]
  simp [Fragment.bindFrom, Tail.fragment, Tail.map, Tail.text, Tail.operands, String.ofList_append]

theorem bind_range (column : String) (l : Lookup) (low high : Value) :
    Fragment.bind (column ++ (b.sign l ++ "? AND ?")) [low, high] =
      Tail.fragment column (.range (b.sign l) low high) := by
  have hback : b.sign l ++ "? AND ?" =
      String.ofList ((b.sign l).toList ++ '?' :: (" AND ".toList ++ ['?'])) := by
    simp [String.ofList_append]
  have hcount : ((b.sign l).toList ++ '?' :: (" AND ".toList ++ ['?'])).count '?' =
      [low, high].length := by
    rw [List.count_append, List.count_eq_zero.mpr (b.sign_no_marker l)]
    rfl
  have hand : '?' ∉ " AND ".toList := by decide
  rw [hback, Fragment.bind_append column hcount, Fragment.bindFrom_text (b.sign_no_marker l),
    Fragment.bindFrom_marker, Fragment.bindFrom_text hand, Fragment.bindFrom_marker]
  simp only [Fragment.bindFrom, Tail.fragment, Tail.map, Tail.text, Tail.operands, List.append_nil,
    List.flatMap_cons, List.flatMap_nil, String.ofList_append, String.ofList_toList,
    String.append_assoc]

/-- A list in parentheses behind its sign. -/
theorem clause_list {l : Lookup} (hl : l = .inList ∨ l = .notInList) (column : String)
    (items : List Value) :
    (do return (⟨← (b.dialect types).clause l.clause
        [column, Text.joined ", " ((items.map Fragment.ofValue).map Fragment.sql)],
      (items.map Fragment.ofValue).flatMap Fragment.params⟩ : Fragment)) =
      .ok (Tail.fragment column (.list (b.sign l) items)) := by
  rw [clause_two types (b.format_list hl)]
  show Except.ok _ = _
  rw [List.map_map, List.flatMap_map]
  simp [Tail.fragment, Tail.map, Tail.text, Tail.operands, String.append_assoc]
  rfl

/-- A comparison is its column followed by its tail. -/
theorem comparison_eq (l : Lookup) (column : String) (v : Value) :
    comparison (b.dialect types) l column v = Tail.fragment column <$> b.tail l v := by
  fun_cases comparison (b.dialect types) l column v with
  | case1 v =>
    rw [tail]
    by_cases hv : v.isTrue = true
    · rw [if_pos hv, if_pos hv, clause_one types b.format_isNull]
      simp [Tail.fragment, Tail.map, Tail.text, Tail.operands, Fragment.ofSql]
    · rw [if_neg hv, if_neg hv, clause_one types b.format_isNotNull]
      simp [Tail.fragment, Tail.map, Tail.text, Tail.operands, Fragment.ofSql]
  | case2 l hl =>
    cases l with
    | exact =>
      rw [nullCondition, clause_one types b.format_isNull]
      simp [tail, nullTail, Tail.fragment, Tail.map, Tail.text, Tail.operands, Fragment.ofSql]
    | ne =>
      rw [nullCondition, clause_one types b.format_isNotNull]
      simp [tail, nullTail, Tail.fragment, Tail.map, Tail.text, Tail.operands, Fragment.ofSql]
    | isNull => exact absurd rfl hl
    | _ => rfl
  | case3 v hv | case4 v hv =>
    simp only [tail, map_bind]
    cases v.asItems with
    | error e => rfl
    | ok items =>
      cases items with
      | nil => rfl
      | cons item items => exact clause_list types (by simp) column (item :: items)
  | case5 v hv | case6 v hv =>
    simp only [tail, map_bind]
    cases v.asPair with
    | error e => rfl
    | ok pair =>
      obtain ⟨low, high⟩ := pair
      simp only [bind, Except.bind]
      rw [clause_one types (b.format_range (by simp))]
      exact congrArg Except.ok (bind_range column _ low high)
  | case7 v hv =>
    simp only [tail, map_bind]
    cases v.shown containsPattern with
    | error e => rfl
    | ok pattern =>
      simp only [bind, Except.bind]
      rw [clause_one types (b.format_single (by decide))]
      exact congrArg Except.ok (bind_single column .contains pattern)
  -- the lookups that no rule of their own reads: one format, one operand
  | case8 l v =>
    have htail : b.tail l v = .ok (.single (b.sign l) v) := by
      rw [tail] <;> assumption
    rw [htail, clause_one types (b.format_single (by simp; tauto))]
    exact congrArg Except.ok (bind_single column l v)

/-- A tail has the operands of the lookup, behind one of the signs for its form. -/
theorem tail_spec {l : Lookup} {v : Value} {t : Tail Value} (h : b.tail l v = .ok t) :
    t.operands = l.operands v ∧ t.sign ∈ b.signs t := by
  induction l, v using Lookup.cases_value with
  | isNull v =>
    cases h
    refine ⟨rfl, ?_⟩
    rw [Tail.sign, signs]
    split <;> simp
  | null l hl =>
    rw [tail] at h
    · unfold nullTail at h
      split at h
      · cases h
        exact ⟨rfl, by simp [Tail.sign, signs]⟩
      · cases h
        exact ⟨rfl, by simp [Tail.sign, signs]⟩
      · cases h
    · exact hl
  | inList v hv | notInList v hv =>
    rw [tail] at h
    · obtain ⟨items, hitems, h⟩ := bind_eq_ok.mp h
      rw [Lookup.operands, Value.asItems_eq_ok.mp hitems]
      · cases items with
        | nil => cases h
        | cons item items =>
          cases h
          exact ⟨rfl, by simp [Tail.sign, signs]⟩
      · exact hv
    · exact hv
  | between v hv | notBetween v hv =>
    rw [tail] at h
    · obtain ⟨⟨low, high⟩, hpair, h⟩ := bind_eq_ok.mp h
      cases h
      rw [Lookup.operands, Value.asPair_eq_ok.mp hpair]
      · exact ⟨rfl, by simp [Tail.sign, signs]⟩
      · exact hv
    · exact hv
  | contains v hv =>
    rw [tail] at h
    · obtain ⟨pattern, hpattern, h⟩ := bind_eq_ok.mp h
      cases h
      rw [Lookup.operands, (Value.shown_eq_ok.mp hpattern).2]
      · exact ⟨rfl, by simp [Tail.sign, signs]⟩
      · exact hv
    · exact hv
  | single l v hl hv =>
    rw [tail_single hl hv] at h
    cases h
    refine ⟨(Lookup.operands_single hl hv).symm, List.mem_map_of_mem ?_⟩
    cases l <;> first | exact absurd hl (by decide) | simp

/-- The text of a comparison: its column, a sign and the texts of its operands. -/
theorem comparison_text {l : Lookup} {column : String} {v : Value} {f : Fragment}
    (h : comparison (b.dialect types) l column v = .ok f) :
    ∃ t : Tail String, f.sql = column ++ t.text ∧ t.sign ∈ b.signs t ∧
      ∀ s ∈ t.operands, ∃ w ∈ l.operands v, s = (Fragment.ofValue w).sql := by
  rw [comparison_eq] at h
  obtain ⟨t, ht, rfl⟩ := map_eq_ok.mp h
  obtain ⟨hoperands, hsign⟩ := tail_spec ht
  refine ⟨t.map fun w => (Fragment.ofValue w).sql, rfl, ?_, fun s hs => ?_⟩
  · cases t <;> exact hsign
  · rw [Tail.operands_map, hoperands] at hs
    obtain ⟨w, hw, rfl⟩ := List.mem_map.mp hs
    exact ⟨w, hw, rfl⟩

end Backend

end SqlRender
