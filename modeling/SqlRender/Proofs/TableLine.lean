import SqlRender.Proofs.Declared
import SqlRender.Proofs.WellTyped

/-!
# The lines of a table

A table is created from lines: one for each column and one for each key. On the bundled backends
every line is a fixed text around what the schema says, and this module writes these texts out.

The options of a column stand over those that its type has by default. A line cannot be written if
the type is unknown, if the name of the constraint is no text, or if a value that is shown in it has
a whole number with too many digits.

* `ColumnType.effective`: the options that a line is written from.
* `Backend.columnLine_eq`: the line of a column, or why it has none.
* `Backend.keyLine_eq`, `Backend.foreignLine_eq`: the lines of keys.
-/

namespace SqlRender

theorem ok_bind {α β : Type} (a : α) (f : α → Except Error β) : (Except.ok a >>= f) = f a := rfl

theorem error_bind {α β : Type} (e : Error) (f : α → Except Error β) :
    ((Except.error e : Except Error α) >>= f) = .error e := rfl

theorem mapM_eq_map {α β : Type} {f : α → Except Error β} {g : α → β} {as : List α}
    (h : ∀ a ∈ as, f a = .ok (g a)) : as.mapM f = .ok (as.map g) := by
  rw [mapM_eq_ok, List.forall₂_map_right_iff]
  exact List.forall₂_same.mpr h

/-- Of items that may be faulty, the first faulty one decides. -/
theorem mapM_eq_elim {α β : Type} {f : α → Except Error β} {g : α → β} {fault? : α → Option Error}
    {as : List α} (h : ∀ a ∈ as, f a = (fault? a).elim (.ok (g a)) .error) :
    as.mapM f = (as.findSome? fault?).elim (.ok (as.map g)) .error := by
  induction as with
  | nil => rfl
  | cons a as ih =>
    rw [List.mapM_cons, h a (by simp), ih fun a' ha' => h a' (List.mem_cons_of_mem a ha'),
      List.findSome?_cons]
    cases fault? a with
    | some e => rfl
    | none => cases as.findSome? fault? <;> rfl

namespace Text

theorem joined_empty_cons (text : String) (texts : List String) :
    joined "" (text :: texts) = text ++ joined "" texts := by
  cases texts <;> simp [joined]

theorem joined_empty_append (front back : List String) :
    joined "" (front ++ back) = joined "" front ++ joined "" back := by
  induction front with
  | nil => simp [joined]
  | cons text front ih =>
    rw [List.cons_append, joined_empty_cons, joined_empty_cons, ih, String.append_assoc]

/-- A separator between texts is one in front of each text but the first. -/
theorem joined_cons (sep text : String) (texts : List String) :
    joined sep (text :: texts) = text ++ joined "" (texts.map (sep ++ ·)) := by
  induction texts generalizing text with
  | nil => simp [joined]
  | cons next texts ih =>
    rw [joined, ih, List.map_cons, joined_empty_cons]
    · simp only [String.append_assoc]
    · simp

/-- Texts that bring their separators go behind others. -/
theorem joined_append {front : List String} (h : front ≠ []) (sep : String) (back : List String) :
    joined sep (front ++ back) = joined sep front ++ joined "" (back.map (sep ++ ·)) := by
  obtain ⟨text, front, rfl⟩ := List.exists_cons_of_ne_nil h
  rw [List.cons_append, joined_cons, joined_cons, List.map_append, joined_empty_append,
    String.append_assoc]

end Text

/-! ## Options that stand over others -/

/-- The options of a column of this type: its own stand over the defaults. -/
def ColumnType.effective (type : ColumnType) (own : Mapping) : Mapping :=
  Assoc.putAll type.defaults own

theorem ColumnType.find_effective (type : ColumnType) {own : Mapping}
    (h : (own.map Prod.fst).Nodup) (key : String) :
    (type.effective own).find key =
      ((Assoc.get? (.text key) own).or (Assoc.get? (.text key) type.defaults)).getD .null := by
  rw [Mapping.find, effective, (Value.exact_text key).get?_putAll _ h]

namespace TypeCatalogue

/-- The type that a catalogue with names in small letters finds under a value. -/
def found? (types : TypeCatalogue) : Value → Option ColumnType
  | .text name => if name = "" then none else Assoc.get? (types.keyOf name) types.types
  | _ => none

/-- A type that is not found is reported by the name under which it was asked for. -/
theorem resolve_eq {types : TypeCatalogue} (hfolded : types.folded = true) (v : Value) :
    types.resolve v =
      (types.found? v).elim (.error (Error.invalidColumnType v .null).raised) .ok := by
  obtain ⟨folded, entries⟩ := types
  cases hfolded
  cases v with
  | text name =>
    by_cases hname : name = ""
    · subst hname
      rfl
    · simp only [resolve, found?, missing, hname, and_false, if_false, if_true]
      cases Assoc.get? _ entries <;> rfl
  | _ => simp [resolve, found?, missing, throw, throwThe, MonadExceptOf.throw]

theorem folded_standard : standard.folded = true := by
  decide +kernel

/-- A type that was found was asked for by a text. -/
theorem exists_text_of_resolve {types : TypeCatalogue} {v : Value} {type : ColumnType}
    (h : types.resolve v = .ok type) : ∃ name, v = .text name := by
  by_contra hnone
  rw [resolve] at h
  · split at h
    · obtain ⟨_, -, h⟩ := bind_eq_ok.mp h
      cases h
    · cases h
  · exact fun name hname => hnone ⟨name, hname⟩

end TypeCatalogue

/-! ## Parts of a column -/

namespace Value

/-- A name, or a value that stands for none. -/
def isOptionalName (v : Value) : Bool := !v.isTrue || v.isText

/-- A value that can be shown, or one that is not shown at all. -/
def isShowable (v : Value) : Bool := !v.isTrue || v.isWritable

theorem exists_text_of_isOptionalName {v : Value} (h : v.isOptionalName = true)
    (htrue : v.isTrue = true) : ∃ s, v = .text s := by
  cases v with
  | text s => exact ⟨s, rfl⟩
  | _ => simp [isOptionalName, htrue, isText] at h

end Value

/-- A part of a line that is written if its value counts as true. -/
def partIf (v : Value) (text : String) : List String := if v.isTrue then [text] else []

/-- The length behind the word for a type. -/
def lengthPart (length : Value) : String :=
  if length.isTrue then "(" ++ length.display ++ ")" else ""

/-- The text of a literal. -/
def literalText : Value → String
  | .null => "NULL"
  | v => Dialect.plainLiteral v

/-- What a line says about null: primary and unique columns cannot be null, others only if they
say so. -/
def nullWord (options : Mapping) : String :=
  if (options.find "primary").isTrue || (options.find "unique").isTrue ||
    !(options.find "nullable").isTrue then "NOT NULL" else "NULL"

theorem Dialect.types_putAll (d : Dialect) (entries : List Dialect.Entry) :
    (d.putAll entries).types = d.types := by
  induction entries generalizing d with
  | nil => rfl
  | cons entry entries ih =>
    refine (ih (d.put entry)).trans ?_
    cases entry <;> rfl

namespace Backend

variable (b : Backend) (types : TypeCatalogue)

theorem types_dialect : (b.dialect types).types = types := by
  show (b.openDialect types).types = types
  rw [openDialect_eq, Dialect.types_putAll]
  rfl

/-- The word for a type: that of the backend for its name, otherwise its own. -/
def typeWord (name : String) (type : ColumnType) : String :=
  (b.typeAliasText? (Text.lower name)).getD type.sqlToken

theorem typeWord_eq (name : String) (type : ColumnType) :
    (b.dialect types).typeWord name type = .text (b.typeWord name type) := by
  rw [Dialect.typeWord, typeAliases_item?, typeWord]
  cases b.typeAliasText? (Text.lower name) <;> rfl

theorem typeText_eq (name : String) (type : ColumnType) (options : Mapping) :
    (b.dialect types).typeText (.text name) type options =
      if (options.find "length").isShowable then
        .ok (.text (b.typeWord name type ++ lengthPart (options.find "length")))
      else .error .badValue := by
  show (if (options.find "length").isTrue then _ else _) = _
  rw [typeWord_eq]
  by_cases htrue : (options.find "length").isTrue = true
  · rw [if_pos htrue, Dialect.lengthText, Value.shown]
    by_cases hshown : (options.find "length").isWritable = true
    · simp [hshown, htrue, Value.isShowable, lengthPart, Dialect.extend, bind, Except.bind, pure,
        Except.pure]
    · simp [hshown, htrue, Value.isShowable, bind, Except.bind]
  · simp [htrue, Value.isShowable, lengthPart, pure, Except.pure]

theorem collation_eq (options : Mapping) :
    Dialect.optionalPart options "collate"
        (fun v => (b.dialect types).clauseOf (.clause .collate) [v]) =
      if (options.find "collate").isShowable then
        .ok (partIf (options.find "collate") ("COLLATE " ++ (options.find "collate").display))
      else .error .badValue := by
  have hformat : b.formatTexts? .collate = some ("COLLATE ".toList, ["".toList]) := by
    cases b <;> decide +kernel
  rw [Dialect.optionalPart, clauseOf_one types hformat, Value.shown]
  by_cases htrue : (options.find "collate").isTrue = true
  · by_cases hshown : (options.find "collate").isWritable = true
    · simp [hshown, htrue, Value.isShowable, partIf, bind, Except.bind, pure, Except.pure,
        Functor.map, Except.map]
    · simp [hshown, htrue, Value.isShowable, bind, Except.bind, Functor.map, Except.map]
  · simp [htrue, Value.isShowable, partIf]

theorem clause_constraint (name : String) :
    (b.dialect types).clause .constraint [name] = .ok ("CONSTRAINT " ++ name) := by
  have hformat : b.formatTexts? .constraint = some ("CONSTRAINT ".toList, ["".toList]) := by
    cases b <;> decide +kernel
  rw [clause_one types hformat, String.append_empty]

theorem constraint_eq (options : Mapping) :
    Dialect.optionalPart options "constraint" (fun v => do
        (b.dialect types).clause .constraint [← (b.dialect types).quoteIdentifierOf v]) =
      if (options.find "constraint").isOptionalName then
        .ok (partIf (options.find "constraint")
          ("CONSTRAINT " ++ (b.dialect types).quoteIdentifier (options.find "constraint").display))
      else .error .noMember := by
  rw [Dialect.optionalPart]
  generalize options.find "constraint" = v
  by_cases htrue : v.isTrue = true
  · cases v with
    | text s =>
      have hquote : (b.dialect types).quoteIdentifierOf (.text s) =
        .ok ((b.dialect types).quoteIdentifier s) := rfl
      simp [htrue, hquote, clause_constraint, Value.isOptionalName, Value.isText, partIf,
        Value.display, bind, Except.bind, pure, Except.pure]
    | _ => simp [htrue, Value.isOptionalName, Value.isText, Dialect.quoteIdentifierOf,
        Value.asText, bind, Except.bind]
  · simp [htrue, Value.isOptionalName, partIf]

theorem literal_eq (v : Value) :
    (b.dialect types).literal v =
      if v.isWritable then .ok (.text (literalText v)) else .error .badValue := by
  have hnull : (b.dialect types).keyword .null = .ok (.text "NULL") :=
    keyword_eq b types (by cases b <;> decide)
  cases v with
  | null => exact hnull
  | _ =>
    rw [Dialect.literal, Value.shown]
    · split <;> rfl
    · simp

theorem defaultClause_eq (v : Value) :
    (b.dialect types).defaultClause v =
      if ((b.dialect types).defaultValue v).isWritable then
        .ok ("DEFAULT " ++ literalText ((b.dialect types).defaultValue v))
      else .error .badValue := by
  have hformat : b.formatTexts? .defaultValue = some ("DEFAULT ".toList, ["".toList]) := by
    cases b <;> decide +kernel
  rw [Dialect.defaultClause, literal_eq]
  split
  · show (b.dialect types).clause .defaultValue [_] = _
    rw [clause_one types hformat, String.append_empty]
  · rfl

/-- What a line says about the default of a column. -/
def defaultParts (options : Mapping) : List String :=
  (Assoc.get? (.text "default") options).toList.map fun v =>
    "DEFAULT " ++ literalText ((b.dialect types).defaultValue v)

/-- The default of a column has a text. -/
def isDefaultShown (options : Mapping) : Bool :=
  (Assoc.get? (.text "default") options).all fun v =>
    ((b.dialect types).defaultValue v).isWritable

theorem keyword_nullability (options : Mapping) :
    (b.dialect types).keyword (Dialect.nullability options) = .ok (.text (nullWord options)) := by
  have hnull : b.keywordText? .null = some "NULL" := by cases b <;> decide
  have hnotNull : b.keywordText? .notNull = some "NOT NULL" := by cases b <;> decide
  rw [Dialect.nullability, nullWord]
  cases (options.find "primary").isTrue || (options.find "unique").isTrue with
  | true => exact keyword_eq b types hnotNull
  | false =>
    cases (options.find "nullable").isTrue with
    | true => exact keyword_eq b types hnull
    | false => exact keyword_eq b types hnotNull

/-! ## Columns -/

/-- The parts of a line in front of what it says about null. -/
def lineHead (name typeName : String) (type : ColumnType) (options : Mapping) : List String :=
  [(b.dialect types).quoteIdentifier name,
      b.typeWord typeName type ++ lengthPart (options.find "length")] ++
    partIf (options.find "collate") ("COLLATE " ++ (options.find "collate").display) ++
    partIf (options.find "constraint")
      ("CONSTRAINT " ++ (b.dialect types).quoteIdentifier (options.find "constraint").display)

/-- The line of a column of a known type. `word` is what it says about null. -/
def lineText (name typeName : String) (type : ColumnType) (options : Mapping) (word : String) :
    String :=
  let line := Text.joined " "
    (b.lineHead types name typeName type options ++ [word] ++ b.defaultParts types options)
  String.ofList (Text.strip line.toList)

/-- Why the options of a column of a known type cannot be written. -/
def optionsFault? (options : Mapping) : Option Error :=
  if !(options.find "length").isShowable || !(options.find "collate").isShowable then some .badValue
  else if !(options.find "constraint").isOptionalName then some .noMember
  else if !b.isDefaultShown types options then some .badValue
  else none

/-- Why a column has no line. -/
def columnFault? (name : String) (options : Mapping) : Option Error :=
  match types.resolve (options.find "type") with
  | .error _ => some (Error.invalidColumnType (options.find "type") (.text name)).raised
  | .ok type => b.optionsFault? types (type.effective options)

/-- The line of a column, if it has one. -/
def columnText (name : String) (options : Mapping) : String :=
  match types.resolve (options.find "type") with
  | .error _ => ""
  | .ok type =>
    b.lineText types name (options.find "type").display type (type.effective options)
      (nullWord (type.effective options))

variable {types}

theorem columnOptions_eq (hfolded : types.folded = true) (name : String) (options : Mapping) :
    (b.dialect types).columnOptions (.text name) (.map options) =
      match types.resolve (options.find "type") with
      | .error _ => .error (Error.invalidColumnType (options.find "type") (.text name)).raised
      | .ok type => .ok (type, type.effective options) := by
  have hresolve := TypeCatalogue.resolve_eq hfolded (options.find "type")
  show ((b.dialect types).columnType (.text name) (options.find "type") >>= _) = _
  rw [Dialect.columnType, types_dialect, hresolve]
  cases types.found? (options.find "type") with
  | some type => rfl
  | none =>
    -- a type without a text fails in the catalogue, before the column is named
    cases hwritable : (options.find "type").isWritable with
    | true => simp [Error.raised, Error.named, Value.isWritable, hwritable, bind, Except.bind]
    | false => simp [Error.raised, Error.named, hwritable, bind, Except.bind]

/-- The line of a column of a known type, or why its options cannot be written. -/
theorem columnLine_of_options {name typeName : String} {options merged : Mapping}
    {type : ColumnType}
    (h : (b.dialect types).columnOptions (.text name) (.map options) = .ok (type, merged))
    (htype : merged.find "type" = .text typeName) :
    (b.dialect types).columnLine (.text name) (.map options) =
      (b.optionsFault? types merged).elim
        (.ok (b.lineText types name typeName type merged (nullWord merged))) .error := by
  have hname : (b.dialect types).quoteIdentifierOf (.text name) =
    .ok ((b.dialect types).quoteIdentifier name) := rfl
  have hpart : ∀ text : String, (Value.text text).asPart = .ok text := fun _ => rfl
  rw [Dialect.columnLine, h, ok_bind]
  simp only [htype, typeText_eq, hname, ok_bind, collation_eq, constraint_eq,
    keyword_nullability, optionsFault?]
  -- the parts are written in order, so the first that cannot be written decides
  by_cases hlength : (merged.find "length").isShowable = true
  · by_cases hcollate : (merged.find "collate").isShowable = true
    · by_cases hconstraint : (merged.find "constraint").isOptionalName = true
      · simp only [hlength, hcollate, hconstraint, if_true, ok_bind]
        cases hdefault : Assoc.get? (.text "default") merged with
        | none =>
          simp [isDefaultShown, hdefault, hpart, lineText, lineHead, defaultParts, ok_bind, pure,
            Except.pure]
        | some v =>
          simp only [defaultClause_eq]
          by_cases hshown : ((b.dialect types).defaultValue v).isWritable = true
          · simp [isDefaultShown, hdefault, hshown, hpart, lineText, lineHead, defaultParts,
              ok_bind, pure, Except.pure]
          · simp [isDefaultShown, hdefault, hshown, error_bind]
      · simp [hlength, hcollate, hconstraint, ok_bind, error_bind]
    · simp [hlength, hcollate, ok_bind, error_bind]
  · simp [hlength, error_bind]

theorem columnLine_of_resolve (name : String) {options : Mapping}
    (hoptions : (options.map Prod.fst).Nodup) {type : ColumnType}
    (htype : types.resolve (options.find "type") = .ok type) :
    (b.dialect types).columnLine (.text name) (.map options) =
      (b.optionsFault? types (type.effective options)).elim
        (.ok (b.lineText types name (options.find "type").display type (type.effective options)
          (nullWord (type.effective options)))) .error := by
  obtain ⟨typeName, htypeName⟩ := TypeCatalogue.exists_text_of_resolve htype
  have hown : Assoc.get? (.text "type") options = some (.text typeName) := by
    rw [Mapping.find] at htypeName
    cases hget : Assoc.get? (.text "type") options with
    | none =>
      rw [hget] at htypeName
      cases htypeName
    | some v =>
      rw [hget] at htypeName
      exact congrArg some htypeName
  have hmerged : (type.effective options).find "type" = .text typeName := by
    rw [type.find_effective hoptions, hown]
    rfl
  have hcolumn : (b.dialect types).columnOptions (.text name) (.map options) =
      .ok (type, type.effective options) := by
    show ((b.dialect types).columnType (.text name) (options.find "type") >>= _) = _
    rw [Dialect.columnType, types_dialect, htype]
    rfl
  rw [columnLine_of_options b hcolumn hmerged, htypeName]
  rfl

theorem columnLine_eq (hfolded : types.folded = true) (name : String) {options : Mapping}
    (hoptions : (options.map Prod.fst).Nodup) :
    (b.dialect types).columnLine (.text name) (.map options) =
      (b.columnFault? types name options).elim (.ok (b.columnText types name options)) .error := by
  rw [columnFault?, columnText]
  cases hresolve : types.resolve (options.find "type") with
  | error e =>
    have hcolumn := columnOptions_eq b hfolded name options
    rw [hresolve] at hcolumn
    rw [Dialect.columnLine, hcolumn]
    rfl
  | ok type => exact columnLine_of_resolve b name hoptions hresolve

end Backend

/-! ## Keys -/

/-- The columns of the key are names, and so is its constraint if it has one. -/
structure Key.WellTyped (key : Key) : Prop where
  columns : ∀ column ∈ key.columns, column.isText = true
  constraint : key.constraint.isOptionalName = true

/-- What a table does with its rows when a row that they refer to goes. -/
def actionWord? : Keyword → Option String
  | .cascade => some "CASCADE"
  | .restrict => some "RESTRICT"
  | .setNull => some "SET NULL"
  | .noAction => some "NO ACTION"
  | _ => none

/-- An action that every bundled backend knows, or none. -/
def Value.isAction : Value → Bool
  | .null => true
  | .keyword k => (actionWord? k).isSome
  | _ => false

/-- The key has names for its columns and for what it refers to, says nothing about partial matches,
and its actions are known to every bundled backend. -/
structure ForeignKey.WellTyped (key : ForeignKey) : Prop where
  columns : ∀ column ∈ key.columns, column.isText = true
  references : key.references.isText = true
  referenceColumns : ∀ column ∈ key.referenceColumns, column.isText = true
  onDelete : key.onDelete.isAction = true
  onUpdate : key.onUpdate.isAction = true
  matching : key.matching = .null
  constraint : key.constraint.isOptionalName = true

namespace Backend

section Text

variable (b : Backend) (types : TypeCatalogue)

/-- The name of a constraint in front of a key. -/
def constraintText (constraint : Value) : String :=
  if constraint.isTrue then
    "CONSTRAINT " ++ (b.dialect types).quoteIdentifier constraint.display ++ " "
  else ""

/-- Quoted names with a comma and a space between them. -/
def namesText (names : List Value) : String :=
  Text.joined ", " (names.map fun name => (b.dialect types).quote name.display)

/-- The words in front of the columns of a unique key. -/
def uniqueWord : Backend → String
  | .mysql => "UNIQUE KEY"
  | _ => "UNIQUE"

/-- The line of a primary or unique key. -/
def keyText (word : String) (key : Key) : String :=
  b.constraintText types key.constraint ++ word ++ " (" ++ b.namesText types key.columns ++ ")"

/-- An action of a foreign key. -/
def actionParts (word : String) : Value → List String
  | .keyword k => (actionWord? k).toList.map fun action => word ++ " " ++ action
  | _ => []

/-- The line of a foreign key. -/
def foreignText (key : ForeignKey) : String :=
  let reference := "FOREIGN KEY (" ++ b.namesText types key.columns ++ ") REFERENCES " ++
    (b.dialect types).quote key.references.display ++ "(" ++
    b.namesText types key.referenceColumns ++ ")"
  b.constraintText types key.constraint ++ Text.joined " "
    ([reference] ++ actionParts "ON DELETE" key.onDelete ++ actionParts "ON UPDATE" key.onUpdate)

/-- The lines of the keys of a table: the primary key, then unique keys, then foreign keys. -/
def keyTexts (s : Schema) : List String :=
  s.primaryKey.toList.map (b.keyText types "PRIMARY KEY") ++
    s.uniqueKeys.map (fun entry => b.keyText types b.uniqueWord entry.2) ++
    s.foreignKeys.map (b.foreignText types)

end Text

variable {b : Backend} (types : TypeCatalogue)

theorem quoteName_eq {name : Value} (h : name.isText = true) :
    (b.dialect types).quoteName name = .ok ((b.dialect types).quote name.display) := by
  cases name with
  | text s => rfl
  | _ => cases h

theorem quoteNames_eq {names : List Value} (h : ∀ name ∈ names, name.isText = true) :
    (b.dialect types).quoteNames names = .ok (b.namesText types names) := by
  have hnames : names.mapM (b.dialect types).quoteName =
      .ok (names.map fun name => (b.dialect types).quote name.display) :=
    mapM_eq_map fun name hname => quoteName_eq types (h name hname)
  rw [Dialect.quoteNames, hnames]
  rfl

theorem withConstraint_eq {constraint : Value} (h : constraint.isOptionalName = true)
    (text : String) :
    (b.dialect types).withConstraint text constraint =
      .ok (b.constraintText types constraint ++ text) := by
  rw [Dialect.withConstraint, constraintText]
  by_cases htrue : constraint.isTrue = true
  · obtain ⟨name, rfl⟩ := Value.exists_text_of_isOptionalName h htrue
    have hquote : (b.dialect types).quoteIdentifierOf (.text name) =
      .ok ((b.dialect types).quoteIdentifier name) := rfl
    simp [htrue, hquote, clause_constraint, Value.display, bind, Except.bind, pure, Except.pure]
  · simp [htrue]

theorem keyLine_eq {c : Clause} {word : String}
    (hformat : b.formatTexts? c = some ((word ++ " (").toList, [")".toList])) {key : Key}
    (h : key.WellTyped) :
    (b.dialect types).keyLine c key = .ok (b.keyText types word key) := by
  rw [Dialect.keyLine, quoteNames_eq types h.columns]
  show ((b.dialect types).clause c [_] >>= _) = _
  rw [clause_one types hformat]
  show (b.dialect types).withConstraint _ _ = _
  rw [withConstraint_eq types h.constraint, keyText]
  simp only [String.append_assoc]

theorem primaryLine_eq {key : Key} (h : key.WellTyped) :
    (b.dialect types).keyLine .primaryKey key = .ok (b.keyText types "PRIMARY KEY" key) :=
  keyLine_eq types (by cases b <;> decide +kernel) h

theorem uniqueLine_eq {key : Key} (h : key.WellTyped) :
    (b.dialect types).keyLine .uniqueKey key = .ok (b.keyText types b.uniqueWord key) :=
  keyLine_eq types (by cases b <;> decide +kernel) h

theorem keywordText?_action {k : Keyword} {word : String} (h : actionWord? k = some word) :
    b.keywordText? k = some word := by
  cases k with
  | cascade | restrict | setNull | noAction =>
    cases h
    cases b <;> decide
  | _ => cases h

theorem foreignAction_eq {c : Clause} (word : String)
    (hformat : b.formatTexts? c = some ((word ++ " ").toList, ["".toList])) {action : Value}
    (h : action.isAction = true) :
    (b.dialect types).foreignAction c action = .ok (actionParts word action) := by
  cases action with
  | null => rfl
  | keyword k =>
    obtain ⟨text, htext⟩ := Option.isSome_iff_exists.mp h
    have hkeyword : (b.dialect types).keywordOf (.keyword k) = .ok (.text text) :=
      keyword_eq b types (keywordText?_action htext)
    have hclause : (b.dialect types).clauseOf (.clause c) [.text text] =
        .ok (word ++ " " ++ text) := by
      rw [clauseOf_one types hformat]
      exact congrArg Except.ok String.append_empty
    have htrue : (Value.keyword k).isTrue = true := rfl
    rw [Dialect.foreignAction, if_pos htrue, hkeyword, actionParts, htext]
    show ((b.dialect types).clauseOf (.clause c) [.text text] >>= _) = _
    rw [hclause]
    rfl
  | _ => cases h

theorem clause_foreignKey (columns references referenceColumns : String) :
    (b.dialect types).clause .foreignKey [columns, references, referenceColumns] =
      .ok ("FOREIGN KEY (" ++ columns ++ ") REFERENCES " ++ references ++ "(" ++
        referenceColumns ++ ")") := by
  have hformat : b.formatTexts? .foreignKey =
      some ("FOREIGN KEY (".toList, [") REFERENCES ".toList, "(".toList, ")".toList]) := by
    cases b <;> decide +kernel
  exact clause_three types hformat columns references referenceColumns

theorem foreignLine_eq {key : ForeignKey} (h : key.WellTyped) :
    (b.dialect types).foreignLine key = .ok (b.foreignText types key) := by
  have hmatching : (b.dialect types).foreignAction .matchType key.matching = .ok [] := by
    rw [h.matching]
    rfl
  have hdelete := foreignAction_eq (b := b) (c := .onDelete) types "ON DELETE"
    (by cases b <;> decide +kernel) h.onDelete
  have hupdate := foreignAction_eq (b := b) (c := .onUpdate) types "ON UPDATE"
    (by cases b <;> decide +kernel) h.onUpdate
  rw [Dialect.foreignLine]
  simp only [quoteNames_eq types h.columns, quoteName_eq types h.references,
    quoteNames_eq types h.referenceColumns, clause_foreignKey, hmatching, hdelete, hupdate, ok_bind,
    withConstraint_eq types h.constraint, List.append_nil]
  rfl

theorem keyLines_eq {s : Schema} (hprimary : ∀ key ∈ s.primaryKey, key.WellTyped)
    (hunique : ∀ entry ∈ s.uniqueKeys, entry.2.WellTyped)
    (hforeign : ∀ key ∈ s.foreignKeys, key.WellTyped) :
    (b.dialect types).keyLines s =
      .ok (Text.joined "" ((b.keyTexts types s).map (",\n" ++ ·))) := by
  have hprimaryLines : s.primaryKey.toList.mapM ((b.dialect types).keyLine .primaryKey) =
      .ok (s.primaryKey.toList.map (b.keyText types "PRIMARY KEY")) :=
    mapM_eq_map fun key hkey => primaryLine_eq types (hprimary key (Option.mem_toList.mp hkey))
  have huniqueLines :
      s.uniqueKeys.mapM (fun entry => (b.dialect types).keyLine .uniqueKey entry.2) =
        .ok (s.uniqueKeys.map fun entry => b.keyText types b.uniqueWord entry.2) :=
    mapM_eq_map fun entry hentry => uniqueLine_eq types (hunique entry hentry)
  have hforeignLines : s.foreignKeys.mapM (b.dialect types).foreignLine =
      .ok (s.foreignKeys.map (b.foreignText types)) :=
    mapM_eq_map fun key hkey => foreignLine_eq types (hforeign key hkey)
  rw [Dialect.keyLines, hprimaryLines, ok_bind, huniqueLines, ok_bind, hforeignLines, ok_bind]
  rfl

end Backend

end SqlRender
