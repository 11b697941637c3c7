import SqlRender.Proofs.PrimaryColumn
import SqlRender.Proofs.QuotedName

/-!
# Literals of defaults

The default of a column stands as a literal at the end of its line: the word for null, a truth
value, the numeral of a whole number, or a text between single quotes. A line is joined from its
parts and then stripped, and a text may hold anything, but nothing is lost. What a literal stands
for can be seen: its first character says of which kind it is, and each kind can be told apart
within itself. A whole number with too many digits has no literal, and its column no line.

* `Text.quotation?_textLiteral`: a text is read back from its literal.
* `literalText_injective`: different values have different literals.
* `Backend.columnLine_default`: the line of a column ends in the literal of its default.
* `default_literals_lossless`: all of it, and what follows for columns that differ in a default.
* `longColumn_no_line`: a default can have too many digits.
-/

namespace SqlRender

/-! ## Numerals -/

namespace Text

/-- The sign and the digits of a numeral. -/
theorem takeSign_ofInt (n : Int) :
    takeSign (ofInt n).toList = (decide (n < 0), Nat.toDigits 10 n.natAbs) := by
  rw [ofInt, String.toList_ofList]
  by_cases hn : n < 0
  · rw [if_pos hn, decide_eq_true hn]
    rfl
  · rw [if_neg hn, decide_eq_false hn, List.nil_append]
    have hdigits : ∀ c cs, Nat.toDigits 10 n.natAbs = c :: cs → c.isDigit = true := by
      intro c cs hcs
      have hmem : c ∈ Nat.toDigits 10 n.natAbs := hcs ▸ List.mem_cons_self
      exact Nat.isDigit_of_mem_toDigits (by decide) (by decide) hmem
    rw [takeSign]
    · intro cs hcs
      exact absurd (hdigits _ _ hcs) (by decide)
    · intro cs hcs
      exact absurd (hdigits _ _ hcs) (by decide)

theorem ofInt_injective : Function.Injective ofInt := by
  intro m n heq
  have hparts := takeSign_ofInt m
  rw [heq, takeSign_ofInt] at hparts
  obtain ⟨hsign, hdigits⟩ := Prod.mk.inj hparts
  have habs := congrArg (fun digits => Nat.ofDigitChars 10 digits 0) hdigits
  simp only [Nat.ofDigitChars_ten_toDigits] at habs
  simp only [decide_eq_decide] at hsign
  omega

theorem ofInt_ne_nil (n : Int) : (ofInt n).toList ≠ [] := by
  rw [ofInt, String.toList_ofList]
  exact List.append_ne_nil_of_right_ne_nil _ Nat.toDigits_ne_nil

theorem isBlank_of_isDigit {c : Char} (h : c.isDigit = true) : isBlank c = false := by
  simp only [Char.isDigit, Bool.and_eq_true, decide_eq_true_eq] at h
  have hlow : 48 ≤ c.toNat := h.1
  have hhigh : c.toNat ≤ 57 := h.2
  simp only [isBlank, blankRanges, inRanges]
  rw [if_neg (by omega), if_neg (by omega), if_pos (by omega)]
  simp
  omega

/-! ## Texts -/

/-- A text is read back from its literal, up to where the literal ends. -/
theorem quotation?_textLiteral (s : String) {rest : List Char} (h : rest.head? ≠ some '\'') :
    quotation? '\'' ((Dialect.textLiteral s).toList ++ rest) = some (s.toList, rest) := by
  rw [Dialect.textLiteral, String.toList_ofList, quotation?_quoteChars _ h]

theorem textLiteral_injective : Function.Injective Dialect.textLiteral := by
  have hread : ∀ s, identifier? '\'' (Dialect.textLiteral s).toList = some (s, []) := by
    intro s
    have hquoted : quotation? '\'' ((Dialect.textLiteral s).toList ++ []) = some (s.toList, []) :=
      quotation?_textLiteral s nofun
    rw [List.append_nil] at hquoted
    rw [identifier?, hquoted, Option.map_some, String.ofList_toList]
  exact injective_of_read (fun text => identifier? '\'' text.toList) hread

end Text

/-! ## Kinds of literals -/

/-- The kinds of values that are written as literals of their own. -/
inductive LiteralKind where
  | null | truth | number | text
deriving DecidableEq

/-- The kind of the literal that begins with a character. -/
def LiteralKind.ofFirst (c : Char) : LiteralKind :=
  if c = 'N' then .null
  else if c = 'T' ∨ c = 'F' then .truth
  else if c = '\'' then .text
  else .number

namespace Value

/-- The kind of the literal of a value. -/
def literalKind? : Value → Option LiteralKind
  | .null => some .null
  | .bool _ => some .truth
  | .int _ => some .number
  | .text _ => some .text
  | _ => none

/-- The value is null, a truth value, a whole number or a text. -/
def isLiteral (v : Value) : Bool := v.literalKind?.isSome

end Value

/-- The first character of a literal says of which kind it is. -/
theorem head?_literalText {v : Value} {k : LiteralKind} (h : v.literalKind? = some k) :
    (literalText v).toList.head?.map LiteralKind.ofFirst = some k := by
  cases v with
  | null =>
    cases h
    rfl
  | bool truth =>
    cases h
    cases truth <;> rfl
  | int n =>
    cases h
    obtain ⟨c, cs, hcs⟩ := List.exists_cons_of_ne_nil (Text.ofInt_ne_nil n)
    have hdigit := Text.mem_ofInt (hcs ▸ List.mem_cons_self : c ∈ (Text.ofInt n).toList)
    have hkind : LiteralKind.ofFirst c = .number := by
      rw [LiteralKind.ofFirst, if_neg, if_neg, if_neg]
      · rintro rfl
        exact absurd hdigit (by decide)
      · rintro (rfl | rfl) <;> exact absurd hdigit (by decide)
      · rintro rfl
        exact absurd hdigit (by decide)
    show (Text.ofInt n).toList.head?.map _ = _
    rw [hcs, List.head?_cons, Option.map_some, hkind]
  | text s =>
    cases h
    show (Dialect.textLiteral s).toList.head?.map _ = _
    rw [Dialect.textLiteral, String.toList_ofList]
    rfl
  | _ => cases h

theorem literalKind?_eq {v w : Value} (hv : v.isLiteral = true) (hw : w.isLiteral = true)
    (h : literalText v = literalText w) : v.literalKind? = w.literalKind? := by
  obtain ⟨k, hk⟩ := Option.isSome_iff_exists.mp hv
  obtain ⟨k', hk'⟩ := Option.isSome_iff_exists.mp hw
  have hfirst := head?_literalText hk
  rw [h, head?_literalText hk'] at hfirst
  rw [hk, hk', hfirst]

/-- Different values have different literals. -/
theorem literalText_injective {v w : Value} (hv : v.isLiteral = true) (hw : w.isLiteral = true)
    (h : literalText v = literalText w) : v = w := by
  have hkind := literalKind?_eq hv hw h
  cases v with
  | null =>
    cases w with
    | null => rfl
    | _ => cases hkind
  | bool truth =>
    cases w with
    | bool truth' => cases truth <;> cases truth' <;> first | rfl | exact absurd h (by decide)
    | _ => cases hkind
  | int n =>
    cases w with
    | int m => exact congrArg Value.int (Text.ofInt_injective h)
    | _ => cases hkind
  | text s =>
    cases w with
    | text t => exact congrArg Value.text (Text.textLiteral_injective h)
    | _ => cases hkind
  | _ => cases hv

/-- No literal ends in a blank. -/
theorem endsSolid_literalText {v : Value} (h : v.isLiteral = true) :
    Text.endsSolid (literalText v) = true := by
  cases v with
  | null => decide
  | bool truth => cases truth <;> decide
  | int n =>
    have hlast := List.getLast?_eq_some_getLast (Text.ofInt_ne_nil n)
    have hsolid : Text.isBlank ((Text.ofInt n).toList.getLast (Text.ofInt_ne_nil n)) = false := by
      rcases Text.mem_ofInt (List.getLast_mem (Text.ofInt_ne_nil n)) with hsign | hdigit
      · rw [hsign]
        decide
      · exact Text.isBlank_of_isDigit hdigit
    show (Text.ofInt n).toList.getLast?.any _ = true
    rw [hlast, Option.any_some, hsolid]
    rfl
  | text s =>
    show (Dialect.textLiteral s).toList.getLast?.any _ = true
    rw [Dialect.textLiteral, String.toList_ofList, Dialect.quoteChars, List.getLast?_concat]
    decide
  | _ => cases h

/-! ## Columns with defaults -/

theorem Text.stripRight_of_endsSolid {s : String} (h : endsSolid s = true) :
    stripRight s.toList = s.toList := by
  refine stripRight_eq_self fun c hc => ?_
  rw [endsSolid, Option.mem_def.mp hc] at h
  simpa using h

/-- The options of a column of a known type that can be written, but perhaps for the default. -/
structure Mapping.HasDefault (own : Mapping) (types : TypeCatalogue) (type : ColumnType)
    (v : Value) : Prop where
  keys : (own.map Prod.fst).Nodup
  known : types.resolve (own.find "type") = .ok type
  length : ((type.effective own).find "length").isShowable = true
  collate : ((type.effective own).find "collate").isShowable = true
  constraint : ((type.effective own).find "constraint").isOptionalName = true
  default : Assoc.get? (.text "default") (type.effective own) = some v

/-- The options are the same under all names but one. -/
def Mapping.AgreesBut (name : String) (own own' : Mapping) : Prop :=
  ∀ key : String, key ≠ name → Assoc.get? (.text key) own = Assoc.get? (.text key) own'

namespace Backend

variable (b : Backend) {types : TypeCatalogue} {type : ColumnType} {own own' : Mapping}
  {v w : Value}

theorem defaultValue_literal (hv : v.isLiteral = true) :
    (b.dialect types).defaultValue v = v := by
  cases v with
  | null | bool | int | text => rfl
  | _ => cases hv

theorem literal_eq_ok {text : Value} (hv : (b.dialect types).literal v = .ok text) :
    v.isWritable = true ∧ text = .text (literalText v) := by
  rw [literal_eq] at hv
  split at hv
  · next hwritable => exact ⟨hwritable, (Except.ok.inj hv).symm⟩
  · cases hv

theorem endsSolid_nullWord (options : Mapping) : Text.endsSolid (nullWord options) = true := by
  rw [nullWord]
  split <;> decide

/-- The line of a column up to its default. -/
def lineFront (types : TypeCatalogue) (name : String) (type : ColumnType) (own : Mapping) :
    String :=
  Text.joined " " (b.lineHead types name (own.find "type").display type (type.effective own)) ++
    " " ++ nullWord (type.effective own)

/-- The literal of a default at the end of a line is not changed when the line is stripped. -/
theorem lineText_default (name : String) (h : own.HasDefault types type v)
    (hv : v.isLiteral = true) :
    b.lineText types name (own.find "type").display type (type.effective own)
        (nullWord (type.effective own)) =
      b.lineFront types name type own ++ " DEFAULT " ++ literalText v := by
  have hparts : b.defaultParts types (type.effective own) = ["DEFAULT " ++ literalText v] := by
    rw [defaultParts, h.default, Option.toList_some, List.map_singleton, b.defaultValue_literal hv]
  have hback : Text.joined "" ((b.defaultParts types (type.effective own)).map (" " ++ ·)) =
      " DEFAULT " ++ literalText v := by
    rw [hparts]
    show " " ++ ("DEFAULT " ++ literalText v) = _
    rw [← String.append_assoc]
    rfl
  have hsolid := Text.endsSolid_append " DEFAULT " (endsSolid_literalText hv)
  apply String.toList_inj.mp
  rw [b.toList_lineText types _ (endsSolid_nullWord _), hback, Text.stripRight_of_endsSolid hsolid,
    lineFront]
  simp only [String.toList_append, List.append_assoc]
  rfl

/-- The line of a column ends in the literal of its default, unless there is no such literal. -/
theorem columnLine_default (name : String) (h : own.HasDefault types type v)
    (hv : v.isLiteral = true) :
    (b.dialect types).columnLine (.text name) (.map own) =
      if v.isWritable then
        .ok (b.lineFront types name type own ++ " DEFAULT " ++ literalText v)
      else .error .badValue := by
  have hshown : b.isDefaultShown types (type.effective own) = v.isWritable := by
    rw [isDefaultShown, h.default, Option.all_some, b.defaultValue_literal hv]
  have hfault : b.optionsFault? types (type.effective own) =
      if v.isWritable then none else some .badValue := by
    rw [optionsFault?, h.length, h.collate, h.constraint, hshown]
    cases v.isWritable <;> rfl
  rw [b.columnLine_of_resolve name h.keys h.known, hfault, b.lineText_default name h hv]
  split <;> rfl

/-- What stands in front of a default does not depend on it. -/
theorem lineFront_congr (types : TypeCatalogue) (name : String) (type : ColumnType)
    (hown : (own.map Prod.fst).Nodup) (hown' : (own'.map Prod.fst).Nodup)
    (h : own.AgreesBut "default" own') :
    b.lineFront types name type own = b.lineFront types name type own' := by
  have htype : own.find "type" = own'.find "type" := by
    rw [Mapping.find, Mapping.find, h "type" (by decide)]
  have hfind : ∀ key : String, key ≠ "default" →
      (type.effective own).find key = (type.effective own').find key := by
    intro key hkey
    rw [type.find_effective hown, type.find_effective hown', h key hkey]
  unfold lineFront lineHead nullWord
  rw [htype, hfind "length" (by decide), hfind "collate" (by decide),
    hfind "constraint" (by decide), hfind "primary" (by decide), hfind "unique" (by decide),
    hfind "nullable" (by decide)]

/-- Columns that agree but for their defaults have different lines. -/
theorem columnLine_ne (name : String) (h : own.HasDefault types type v) (hv : v.isLiteral = true)
    {type' : ColumnType} (h' : own'.HasDefault types type' w) (hw : w.isLiteral = true)
    (hagree : own.AgreesBut "default" own') (hne : v ≠ w) {line : String}
    (hline : (b.dialect types).columnLine (.text name) (.map own) = .ok line) :
    (b.dialect types).columnLine (.text name) (.map own') ≠ .ok line := by
  have htype : type = type' := by
    have hknown := h.known
    rw [Mapping.find, hagree "type" (by decide), ← Mapping.find, h'.known] at hknown
    exact (Except.ok.inj hknown).symm
  subst htype
  intro hline'
  rw [b.columnLine_default name h hv] at hline
  rw [b.columnLine_default name h' hw,
    ← b.lineFront_congr types name type h.keys h'.keys hagree] at hline'
  split at hline
  · split at hline'
    · have hlines := (Except.ok.inj hline).trans (Except.ok.inj hline').symm
      exact hne (literalText_injective hv hw ((String.append_right_inj _).mp hlines))
    · cases hline'
  · cases hline

end Backend

/-- The line of a column with a literal as default ends in that literal as it is. A text is read
back from its literal, whatever stands behind it but a quote. Different values have different
literals, and so columns that differ in their defaults alone have different lines. The one exception
is a whole number with too many digits: it has no literal, and a column with it as default no
line. -/
theorem default_literals_lossless (b : Backend) (types : TypeCatalogue) :
    (∀ (name : String) (own : Mapping) (type : ColumnType) (v : Value),
      own.HasDefault types type v → v.isLiteral = true →
        (v.isWritable = true → ∃ front literal,
          (b.dialect types).literal v = .ok (.text literal) ∧
          (b.dialect types).columnLine (.text name) (.map own) =
            .ok (front ++ " DEFAULT " ++ literal)) ∧
        (v.isWritable = false →
          (b.dialect types).literal v = .error .badValue ∧
          (b.dialect types).columnLine (.text name) (.map own) = .error .badValue)) ∧
    (∀ (s : String) (rest : List Char), rest.head? ≠ some '\'' →
      ∃ literal, (b.dialect types).literal (.text s) = .ok (.text literal) ∧
        Text.quotation? '\'' (literal.toList ++ rest) = some (s.toList, rest)) ∧
    (∀ v w text : Value, v.isLiteral = true → w.isLiteral = true →
      (b.dialect types).literal v = .ok text → (b.dialect types).literal w = .ok text → v = w) ∧
    (∀ (name : String) (own own' : Mapping) (type type' : ColumnType) (v w : Value) (line : String),
      own.HasDefault types type v → own'.HasDefault types type' w →
      v.isLiteral = true → w.isLiteral = true → own.AgreesBut "default" own' → v ≠ w →
      (b.dialect types).columnLine (.text name) (.map own) = .ok line →
        (b.dialect types).columnLine (.text name) (.map own') ≠ .ok line) := by
  refine ⟨?_, ?_, ?_, ?_⟩
  · intro name own type v hdefault hv
    rw [b.columnLine_default name hdefault hv, Backend.literal_eq]
    constructor
    · intro hwritable
      rw [if_pos hwritable, if_pos hwritable]
      exact ⟨_, _, rfl, rfl⟩
    · intro hlong
      rw [hlong]
      exact ⟨rfl, rfl⟩
  · intro s rest hrest
    exact ⟨_, b.literal_eq types (.text s), Text.quotation?_textLiteral s hrest⟩
  · intro v w text hv hw hliteral hliteral'
    obtain ⟨-, htext⟩ := b.literal_eq_ok hliteral
    obtain ⟨-, htext'⟩ := b.literal_eq_ok hliteral'
    exact literalText_injective hv hw (Value.text.inj (htext.symm.trans htext'))
  · intro name own own' type type' v w line h h' hv hw hagree hne hline
    exact b.columnLine_ne name h hv h' hw hagree hne hline

/-- A column of whole numbers with a default. -/
def countOptions (v : Value) : Mapping := [(.text "type", .text "int"), (.text "default", v)]

theorem hasDefault_countOptions (v : Value) :
    (countOptions v).HasDefault .standard { name := "int" } v :=
  ⟨by simp [countOptions], rfl, rfl, rfl, rfl, rfl⟩

theorem countOptions_lossless :
    (countOptions (.text "1' ")).HasDefault .standard { name := "int" } (.text "1' ") ∧
      (countOptions (.int (-1))).AgreesBut "default" (countOptions (.text "-1")) ∧
      (∃ front, (Backend.mysql.dialect .standard).columnLine (.text "n")
        (.map (countOptions (.text "1' "))) = .ok (front ++ " DEFAULT " ++ "'1'' '")) ∧
      (Backend.mysql.dialect .standard).columnLine (.text "n") (.map (countOptions (.int (-1)))) =
        .ok "\x60n\x60 integer NOT NULL DEFAULT -1" ∧
      (Backend.mysql.dialect .standard).columnLine (.text "n")
        (.map (countOptions (.text "-1"))) ≠ .ok "\x60n\x60 integer NOT NULL DEFAULT -1" ∧
      [','].head? ≠ some '\'' ∧
      Text.quotation? '\'' ("'1'' '".toList ++ [',']) = some ("1' ".toList, [',']) := by
  obtain ⟨hline, hread, -, hne⟩ := default_literals_lossless .mysql .standard
  have hagree : (countOptions (.int (-1))).AgreesBut "default" (countOptions (.text "-1")) := by
    intro key hkey
    have hother : (Value.text "default" == .text key) = false :=
      Bool.eq_false_iff.mpr fun heq => hkey (Value.text.inj ((Value.text_beq _ _).mp heq))
    simp [countOptions, Assoc.get?, hother]
  have hquoted := hasDefault_countOptions (.text "1' ")
  obtain ⟨front, literal, hliteral, hfront⟩ := (hline "n" _ _ _ hquoted rfl).1 rfl
  obtain ⟨literal', hliteral', hrest⟩ := hread "1' " [','] (by decide)
  have htext : (Backend.mysql.dialect .standard).literal (.text "1' ") =
      .ok (.text "'1'' '") := by
    rw [Backend.literal_eq]
    exact congrArg (fun text => Except.ok (Value.text text)) (by decide +kernel)
  cases htext.symm.trans hliteral
  cases htext.symm.trans hliteral'
  have hnumber : (Backend.mysql.dialect .standard).columnLine (.text "n")
      (.map (countOptions (.int (-1)))) = .ok "\x60n\x60 integer NOT NULL DEFAULT -1" := by
    rw [Backend.columnLine_default _ _ (hasDefault_countOptions _) rfl, if_pos (by decide +kernel)]
    exact congrArg Except.ok (by decide +kernel)
  have hdiffer : Value.int (-1) ≠ .text "-1" := by
    intro heq
    cases heq
  refine ⟨hquoted, hagree, ⟨front, hfront⟩, hnumber, ?_, by decide, hrest⟩
  exact hne "n" _ _ _ _ _ _ _ (hasDefault_countOptions _) (hasDefault_countOptions _) rfl rfl hagree
    hdiffer hnumber

/-- A column whose default has one digit too many has no line. -/
theorem longColumn_no_line :
    (countOptions (.int (Nat.pow 10 Text.maxDigits))).HasDefault .standard { name := "int" }
        (.int (Nat.pow 10 Text.maxDigits)) ∧
      (Value.int (Nat.pow 10 Text.maxDigits)).isLiteral = true ∧
      (Backend.ansi.dialect .standard).literal (.int (Nat.pow 10 Text.maxDigits)) =
        .error .badValue ∧
      (Backend.ansi.dialect .standard).columnLine (.text "a")
        (.map (countOptions (.int (Nat.pow 10 Text.maxDigits)))) = .error .badValue := by
  have hlong : (Value.int (Nat.pow 10 Text.maxDigits)).isWritable = false := by decide +kernel
  generalize hv : Value.int (Nat.pow 10 Text.maxDigits) = v at hlong
  have hliteral : v.isLiteral = true := hv ▸ rfl
  refine ⟨hasDefault_countOptions v, hliteral, ?_, ?_⟩
  · rw [Backend.literal_eq, hlong]
    rfl
  · rw [Backend.columnLine_default _ _ (hasDefault_countOptions v) hliteral, hlong]
    rfl

end SqlRender
