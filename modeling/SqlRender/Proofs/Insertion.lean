import SqlRender.Proofs.Failure
import SqlRender.Proofs.PrimaryColumn
import SqlRender.Proofs.QuotedName

/-!
# Inserted rows and their columns

An insert names its columns once and then gives the values of each row in parentheses. The columns
are read off the first row in one slot and all rows are compared with them in another one, and still
the two always fit: where every row has the columns that are named, in their order, each value
stands in the place of its column, and where one row has not, there is no SQL at all.

* `Value.HasColumns`: rows that have the same columns; `Value.hasColumns_or` says that all others
  lack a row or differ.
* `Statement.insertFields_eq`, `Statement.valuesFragment_eq`: the two slots of such rows.
* `inserted_rows_aligned`: the SQL and the parameters of an insert, and when there are none.
-/

namespace SqlRender

namespace Value

/-! ## Rows as they are written -/

/-- The value of a row under a column. -/
def cell (row : Value) (column : String) : Value :=
  match row with
  | .map entries => Mapping.find column entries
  | _ => .null

/-- The values of a row in the order of columns, in parentheses. -/
def group (columns : List String) (row : Value) : String :=
  "(" ++ Text.joined ", " (columns.map fun column => (row.cell column).place) ++ ")"

/-- The values of a row that are bound, in the order of columns. -/
def boundCells (columns : List String) (row : Value) : List Value :=
  (columns.map row.cell).filter isBound

/-- There are rows, and each of them has the same columns in the same order, one at least. -/
structure HasColumns (v : Value) (columns : List String) : Prop where
  given : v.rows ≠ []
  named : columns ≠ []
  same : ∀ row ∈ v.rows, row.columns = columns.map .text

theorem HasColumns.not_lacksRow {v : Value} {columns : List String} (h : v.HasColumns columns) :
    ¬v.LacksRow := by
  rintro (hrows | ⟨row, hrow, hcolumns⟩)
  · exact h.given hrows
  · rw [h.same row hrow, List.map_eq_nil_iff] at hcolumns
    exact h.named hcolumns

/-- Rows that do not have the same columns lack a row or differ. -/
theorem hasColumns_or {v : Value} (hrows : v.isRows = true) :
    (∃ columns, v.HasColumns columns) ∨ v.LacksRow ∨ v.RowsDiffer := by
  by_contra hnone
  rw [not_or, not_or] at hnone
  obtain ⟨hcolumns, hlacks, hdiffer⟩ := hnone
  cases hv : v.rows with
  | nil => exact hlacks (.inl hv)
  | cons first rest =>
    have hfirst : first ∈ v.rows := hv ▸ List.mem_cons_self
    have htexts : (first.columns.map display).map .text = first.columns := by
      rw [List.map_map]
      refine (List.map_congr_left fun name hname => ?_).trans (List.map_id _)
      have htext := isText_of_isRow (Statement.isRow_of_mem_rows hrows hfirst) name hname
      obtain ⟨s, rfl⟩ := exists_text htext
      rfl
    refine hcolumns ⟨first.columns.map display, by simp [hv], ?_, fun row hrow => ?_⟩
    · intro hnil
      exact hlacks (.inr ⟨first, hfirst, List.map_eq_nil_iff.mp hnil⟩)
    · rw [htexts]
      by_contra hne
      exact hdiffer ⟨row, hrow, first, hfirst, hne⟩

/-- Each value of a row stands under its column. -/
theorem map_cell {entries : Mapping} {columns : List String} (hnodup : columns.Nodup)
    (h : (Value.map entries).columns = columns.map .text) :
    columns.map (Value.map entries).cell = entries.map Prod.snd := by
  have hkeys : (entries.map Prod.fst).Nodup := by
    show (Value.map entries).columns.Nodup
    rw [h]
    exact List.Pairwise.map Value.text (fun _ _ hne heq => hne (Value.text.inj heq)) hnodup
  have hcells : columns.map (Value.map entries).cell =
      (entries.map Prod.fst).map fun key => (Assoc.get? key entries).getD .null := by
    show _ = (Value.map entries).columns.map _
    rw [h, List.map_map]
    rfl
  rw [hcells, List.map_map]
  refine List.map_congr_left fun entry hentry => ?_
  have hkey : entry.1 ∈ (Value.map entries).columns := List.mem_map_of_mem hentry
  rw [h] at hkey
  obtain ⟨column, -, hcolumn⟩ := List.mem_map.mp hkey
  obtain ⟨key, value⟩ := entry
  subst hcolumn
  show (Assoc.get? (.text column) entries).getD .null = value
  rw [(Value.exact_text column).get?_of_mem hkeys hentry]
  rfl

end Value

namespace Statement

/-! ## The slots of an insert -/

theorem rowFragment_eq {entries : Mapping} {columns : List String} (hnodup : columns.Nodup)
    (h : (Value.map entries).columns = columns.map .text) :
    rowFragment entries =
      ⟨(Value.map entries).group columns, (Value.map entries).boundCells columns⟩ := by
  have hsql : (entries.map fun entry => Fragment.ofValue entry.2).map Fragment.sql =
      (columns.map (Value.map entries).cell).map Value.place := by
    rw [Value.map_cell hnodup h, List.map_map, List.map_map]
    exact List.map_congr_left fun entry _ => Fragment.sql_ofValue entry.2
  have hparams : (rowFragment entries).params = (Value.map entries).boundCells columns := by
    rw [rowFragment_params, Value.boundCells, Value.map_cell hnodup h]
    rfl
  rw [← hparams, Value.group, rowFragment, hsql, List.map_map]
  rfl

variable {v : Value} {columns : List String}

theorem insertRows_eq_rows (hrows : v.isRows = true) (h : v.HasColumns columns) :
    insertRows v = .ok v.rows := by
  rcases insertRows_cases hrows with ⟨heq, -⟩ | ⟨-, hlacks⟩
  · exact heq
  · exact absurd hlacks h.not_lacksRow

theorem insertFields_eq (b : Backend) (types : TypeCatalogue) (hrows : v.isRows = true)
    (h : v.HasColumns columns) :
    insertFields (b.dialect types) v =
      .ok (.ofSql ("(" ++ Text.joined ", " (columns.map (b.dialect types).quote) ++ ")")) := by
  have hinsert := insertRows_eq_rows hrows h
  obtain ⟨entries, rest, -, hv⟩ := exists_rows hrows hinsert
  have hfirst : entries.map Prod.fst = columns.map .text :=
    h.same (.map entries) (hv ▸ List.mem_cons_self)
  have htexts : ∀ name ∈ columns.map Value.text, name.isText = true := by
    intro name hname
    obtain ⟨column, -, rfl⟩ := List.mem_map.mp hname
    rfl
  have hnames : (b.dialect types).quoteNames (columns.map .text) =
      .ok (Text.joined ", " (columns.map (b.dialect types).quote)) := by
    rw [Backend.quoteNames_eq types htexts, Backend.namesText, List.map_map]
    rfl
  rw [insertFields, hinsert, hv]
  show ((b.dialect types).quoteNames (entries.map Prod.fst) >>= _) = _
  rw [hfirst, hnames]
  rfl

theorem matchingRow_eq (hnodup : columns.Nodup) {row : Value} (hrow : row.isRow = true)
    (h : row.columns = columns.map .text) :
    matchingRow (columns.map .text) row =
      .ok ⟨row.group columns, row.boundCells columns⟩ := by
  obtain ⟨entries, rfl⟩ := Value.exists_map_of_isRow hrow
  have htexts := Value.isText_of_isRow hrow
  have hsame : Value.sameAll (entries.map Prod.fst) (columns.map .text) = true :=
    (Value.sameAll_iff_eq htexts (h ▸ htexts)).mpr h
  show (if _ then _ else _) = _
  rw [if_pos hsame, rowFragment_eq hnodup h]
  rfl

theorem valuesFragment_eq (hrows : v.isRows = true) (hnodup : columns.Nodup)
    (h : v.HasColumns columns) :
    valuesFragment v = .ok ⟨Text.joined ", " (v.rows.map (Value.group columns)),
      v.rows.flatMap (Value.boundCells columns)⟩ := by
  have hinsert := insertRows_eq_rows hrows h
  obtain ⟨entries, rest, -, hv⟩ := exists_rows hrows hinsert
  have hfirst : (Value.map entries).columns = columns.map .text :=
    h.same (.map entries) (hv ▸ List.mem_cons_self)
  have hrest : rest.mapM (matchingRow (columns.map .text)) =
      .ok (rest.map fun row => ⟨row.group columns, row.boundCells columns⟩) := by
    refine mapM_eq_map fun row hrow => ?_
    have hmem : row ∈ v.rows := hv ▸ List.mem_cons_of_mem _ hrow
    exact matchingRow_eq hnodup (isRow_of_mem_rows hrows hmem) (h.same row hmem)
  rw [valuesFragment, hinsert, hv]
  show (rest.mapM (matchingRow (Value.map entries).columns) >>= _) = _
  rw [hfirst, hrest, ok_bind, rowFragment_eq hnodup hfirst]
  simp only [List.map_cons, List.map_map, List.flatMap_cons, List.flatMap_map]
  rfl

end Statement

/-! ## Templates of inserts -/

theorem Text.isStripped_parenthesized (inner : String) :
    ("(" ++ inner ++ ")").toList ≠ [] ∧ IsStripped ("(" ++ inner ++ ")").toList := by
  rw [String.toList_append, String.toList_append]
  exact ⟨by simp, isStripped_of_ends (c := '(') (d := ')') rfl rfl (by decide) (by decide) _⟩

/-- Groups begin and end with their parentheses. -/
theorem Value.isStripped_groups {rows : List Value} (h : rows ≠ []) (columns : List String) :
    (Text.joined ", " (rows.map (Value.group columns))).toList ≠ [] ∧
      Text.IsStripped (Text.joined ", " (rows.map (Value.group columns))).toList := by
  rw [Text.toList_joined, List.map_map]
  refine Text.isStripped_join (by simpa using h) fun piece hpiece => ?_
  obtain ⟨row, -, rfl⟩ := List.mem_map.mp hpiece
  exact Text.isStripped_parenthesized _

namespace Backend

/-- An insert up to the end of its rows. -/
def insertText (front fields values : String) : String :=
  "INSERT INTO " ++ front ++ fields ++ " VALUES " ++ values

theorem toList_insertText (front fields values : String) :
    (insertText front fields values).toList =
      "INSERT INTO ".toList ++ front.toList ++ fields.toList ++ " VALUES ".toList ++
        values.toList := by
  show ("INSERT INTO " ++ front ++ fields ++ " VALUES " ++ values).toList = _
  simp only [String.toList_append]

theorem isStripped_insertText (front fields : String) {values : String}
    (h : values.toList ≠ [] ∧ Text.IsStripped values.toList) :
    (insertText front fields values).toList ≠ [] ∧
      Text.IsStripped (insertText front fields values).toList := by
  have hfirst : (insertText front fields values).toList.head? = some 'I' := by
    rw [toList_insertText, List.append_assoc, List.append_assoc, List.append_assoc]
    rfl
  refine ⟨List.ne_nil_of_mem (List.mem_of_mem_head? hfirst), ?_, ?_⟩
  · rw [hfirst]
    rintro c ⟨⟩
    decide
  · rw [toList_insertText, List.getLast?_append_of_ne_nil _ h.1]
    exact h.2.last

/-- What the slots for the table, the columns and the rows of an insert make of their texts. -/
theorem glue_insert {table front fields values : String} (htable : Text.IsStripped table.toList)
    (hfront : front = if table = "" then "" else table ++ " ")
    (hfields : fields.toList ≠ [] ∧ Text.IsStripped fields.toList)
    (hvalues : Text.IsStripped values.toList) :
    Template.glue (Template.glue (Template.glue (Template.glue (Template.glue
      "INSERT INTO ".toList table.toList) " ".toList) fields.toList) " VALUES ".toList)
      values.toList = (insertText front fields values).toList := by
  have hspace : Template.glue ("INSERT INTO ".toList ++ table.toList) " ".toList =
      "INSERT INTO ".toList ++ front.toList ++ [] :=
    Template.glue_name (by decide) htable hfront nofun
  have hclose : ∀ out : List Char, (out ++ fields.toList).getLast? ≠ some ' ' := by
    intro out
    rw [List.getLast?_append_of_ne_nil _ hfields.1]
    exact hfields.2.getLast?_ne
  rw [Template.glue_eq htable.head?_ne, hspace, List.append_nil,
    Template.glue_eq hfields.2.head?_ne, Template.glue_of_solid (hclose _),
    Template.glue_eq hvalues.head?_ne, toList_insertText]

/-- What fills the slots of an insert. Only one backend has a slot for what is returned. -/
def insertParts (b : Backend) (table fields values : String) (params : List Value)
    (returned : String) : List Fragment :=
  [.ofSql table, .ofSql fields, ⟨values, params⟩] ++
    if b = .postgresql then [.ofSql returned] else []

/-- What is laid behind the rows of an insert. -/
def insertBack (b : Backend) (returned : String) : String :=
  if b = .postgresql then " " ++ returned else ""

theorem fragment_insert (b : Backend) {table front fields values returned : String}
    (htable : Text.IsStripped table.toList)
    (hfront : front = if table = "" then "" else table ++ " ")
    (hfields : fields.toList ≠ [] ∧ Text.IsStripped fields.toList)
    (hvalues : values.toList ≠ [] ∧ Text.IsStripped values.toList) (params : List Value)
    (hreturned : returned.toList.head? ≠ some ' ') :
    (b.template .insert).fragment (b.insertParts table fields values params returned) =
      ⟨insertText front fields values ++
        String.ofList (Text.stripRight (b.insertBack returned).toList), params⟩ := by
  have hglue := glue_insert htable hfront hfields hvalues.2
  obtain ⟨hne, hstripped⟩ := isStripped_insertText front fields hvalues
  have hlay : Template.lay (b.template .insert).head (b.template .insert).slots
      ((b.insertParts table fields values params returned).map Fragment.sql) =
      (insertText front fields values).toList ++ (b.insertBack returned).toList := by
    rw [b.template_eq rfl]
    cases b with
    | postgresql =>
      show Template.glue (Template.glue (Template.glue (Template.glue (Template.glue (Template.glue
        (Template.glue (Template.glue "INSERT INTO ".toList table.toList) " ".toList)
        fields.toList) " VALUES ".toList) values.toList) " ".toList) returned.toList) [] = _
      rw [hglue, Template.glue_nil, Template.glue_eq hreturned,
        Template.glue_of_solid hstripped.getLast?_ne, List.append_assoc, ← String.toList_append]
      rfl
    | _ =>
      show Template.glue (Template.glue (Template.glue (Template.glue (Template.glue (Template.glue
        "INSERT INTO ".toList table.toList) " ".toList) fields.toList) " VALUES ".toList)
        values.toList) [] = _
      rw [hglue, Template.glue_nil]
      exact (List.append_nil _).symm
  have hparams :
      (b.insertParts table fields values params returned).flatMap Fragment.params = params := by
    cases b <;> simp [insertParts, Fragment.ofSql]
  rw [Template.fragment, hlay, hparams, Text.strip_append hne hstripped, String.ofList_append,
    String.ofList_toList]

/-! ## Compiled inserts -/

/-- What stands behind the rows of an insert: what it returns, where that is asked for and the
backend has a clause for it. Blanks at its end go with those of the SQL. -/
def Returns (b : Backend) (types : TypeCatalogue) (v : Value) (back : String) : Prop :=
  if b = .postgresql ∧ v.isTrue = true then
    ∃ fields, Statement.fieldList (b.dialect types) v = .ok fields ∧
      back = String.ofList (Text.stripRight (" RETURNING " ++ fields).toList)
  else back = ""

variable {b : Backend} (types : TypeCatalogue)

theorem exists_returned {v : Value}
    (h : b = .postgresql → v.isListOf Value.isField = true) :
    ∃ returned : String, returned.toList.head? ≠ some ' ' ∧
      (b = .postgresql →
        Statement.returningFragment (b.dialect types) v = .ok (.ofSql returned)) ∧
      b.Returns types v (String.ofList (Text.stripRight (b.insertBack returned).toList)) := by
  by_cases hb : b = .postgresql
  · by_cases hv : v.isTrue = true
    · obtain ⟨fields, hfields⟩ := exists_ok_fieldList (b := b) types (h hb)
      have hclause : (b.dialect types).clause .returning [fields] =
          .ok ("RETURNING " ++ fields ++ "") := by
        subst hb
        exact clause_one types (by decide) fields
      refine ⟨"RETURNING " ++ fields, ?_, fun _ => ?_, ?_⟩
      · simp [String.toList_append]
      · rw [Statement.returningFragment, if_pos hv, hfields, ok_bind, hclause, String.append_empty]
        rfl
      · rw [Returns, if_pos ⟨hb, hv⟩, insertBack, if_pos hb, ← String.append_assoc]
        exact ⟨fields, hfields, rfl⟩
    · refine ⟨"", by simp, fun _ => ?_, ?_⟩
      · rw [Statement.returningFragment, if_neg hv]
        rfl
      · rw [Returns, if_neg (fun hboth => hv hboth.2), insertBack, if_pos hb]
        decide
  · refine ⟨"", by simp, fun heq => absurd heq hb, ?_⟩
    rw [Returns, if_neg (fun hboth => hb hboth.1), insertBack, if_neg hb]
    rfl

variable (operands : Traced Fragment) {s : Statement} {table : String} {columns : List String}

/-- What an insert puts into the slot for its table. -/
theorem slotFilling_table (htable : s.table = .text table) :
    s.slotFilling (b.dialect types) operands "table" =
      .ok (Fragment.ofSql (nameText (b.dialect types) table)).toFilling := by
  show Fragment.toFilling <$> Statement.nameFragment _ s.table = _
  rw [htable, nameFragment_eq]
  rfl

/-- What an insert puts into the slot for its columns. -/
theorem slotFilling_fields (hkind : s.kind = .kind .insert) :
    s.slotFilling (b.dialect types) operands "fields" =
      Fragment.toFilling <$> Statement.insertFields (b.dialect types) s.fields := by
  show Fragment.toFilling <$> Statement.fieldsFragment _ s = _
  rw [Statement.fieldsFragment, hkind]

/-- An insert of rows with the same columns. -/
theorem result_insert (hkind : s.kind = .kind .insert) (htable : s.table = .text table)
    (hrows : s.fields.isRows = true) (hnodup : columns.Nodup) (h : s.fields.HasColumns columns)
    (hreturning : b = .postgresql → s.returning.isListOf Value.isField = true) :
    ∃ back, (s.compile (b.dialect types) operands).result =
      .ok ⟨insertText (if table = "" then "" else (b.dialect types).quote table ++ " ")
          ("(" ++ Text.joined ", " (columns.map (b.dialect types).quote) ++ ")")
          (Text.joined ", " (s.fields.rows.map (Value.group columns))) ++ back,
        s.fields.rows.flatMap (Value.boundCells columns)⟩ ∧
      b.Returns types s.returning back := by
  obtain ⟨returned, hhead, hreturned, hback⟩ := exists_returned types hreturning
  obtain ⟨hname, hfront⟩ := b.nameText_front types table
  have htableSlot := slotFilling_table (b := b) types operands htable
  have hfieldsSlot := slotFilling_fields (b := b) types operands hkind
  rw [Statement.insertFields_eq b types hrows h] at hfieldsSlot
  have hvaluesSlot : s.slotFilling (b.dialect types) operands "values" = _ :=
    congrArg (Fragment.toFilling <$> ·) (Statement.valuesFragment_eq hrows hnodup h)
  have hreturnedSlot : b = .postgresql → s.slotFilling (b.dialect types) operands "returning" = _ :=
    fun hb => congrArg (Fragment.toFilling <$> ·) (hreturned hb)
  have hfills : Fills b types operands s (b.template .insert).names
      (b.insertParts (nameText (b.dialect types) table)
        ("(" ++ Text.joined ", " (columns.map (b.dialect types).quote) ++ ")")
        (Text.joined ", " (s.fields.rows.map (Value.group columns)))
        (s.fields.rows.flatMap (Value.boundCells columns)) returned) := by
    rw [b.template_eq rfl, Template.names_ofPlan]
    cases b with
    | postgresql =>
      exact .cons htableSlot (.cons hfieldsSlot (.cons hvaluesSlot
        (.cons (hreturnedSlot rfl) .nil)))
    | _ => exact .cons htableSlot (.cons hfieldsSlot (.cons hvaluesSlot .nil))
  refine ⟨_, ?_, hback⟩
  rw [result_compile_of_fills hkind rfl hfills,
    b.fragment_insert hname hfront (Text.isStripped_parenthesized _)
      (Value.isStripped_groups h.given columns) _ hhead]

/-- An insert without rows, with an empty row or with rows of different columns. The slots for its
columns and rows come before all that could fail for another reason. -/
theorem result_insert_error (hkind : s.kind = .kind .insert) (htable : s.table = .text table)
    (hrows : s.fields.isRows = true) (h : ¬∃ columns, s.fields.HasColumns columns) :
    ∃ e, (s.compile (b.dialect types) operands).result = .error e ∧ e.family = .value := by
  have hfault := (Value.hasColumns_or hrows).resolve_left h
  obtain ⟨rest, hnames⟩ :
      ∃ rest, (b.template .insert).names = "table" :: "fields" :: "values" :: rest := by
    rw [b.template_eq rfl, Template.names_ofPlan]
    cases b <;> exact ⟨_, rfl⟩
  have hvaluesSlot : s.slotFilling (b.dialect types) operands "values" =
    Fragment.toFilling <$> Statement.valuesFragment s.fields := rfl
  have hfields := Statement.failsWith_insertFields (b := b) types hrows
  have hvalues := Statement.failsWith_valuesFragment hrows
  rw [result_compile types hkind rfl, hnames, List.mapM_cons,
    slotFilling_table types operands htable, ok_bind, List.mapM_cons,
    slotFilling_fields types operands hkind, List.mapM_cons, hvaluesSlot]
  generalize Statement.insertFields (b.dialect types) s.fields = x at hfields ⊢
  generalize Statement.valuesFragment s.fields = y at hvalues ⊢
  cases hfields with
  | error e he => exact ⟨e, rfl, he.1⟩
  | ok fields hno =>
    cases hvalues with
    | error e he => exact ⟨e, rfl, he.1⟩
    | ok values hnone => exact absurd ⟨rfl, hfault⟩ (hnone .value)

end Backend

/-- An insert of rows with the same columns names these columns once and then gives one group a row,
in which each value stands in the place of its column: raw SQL as it is, a marker for any other
value, and the values behind the markers are the parameters, row by row. An insert of any other rows
is refused. -/
theorem inserted_rows_aligned (b : Backend) (types : TypeCatalogue) {s : Statement}
    (compounds : List (Value × Query)) {table : String} (hkind : s.kind = .kind .insert)
    (htable : s.table = .text table) (hrows : s.fields.isRows = true) :
    (∀ columns : List String, columns.Nodup → s.fields.HasColumns columns →
      (b = .postgresql → s.returning.isListOf Value.isField = true) →
      ∃ back, ((Query.mk s compounds).compile (b.dialect types)).result =
        .ok ⟨"INSERT INTO " ++ (if table = "" then "" else (b.dialect types).quote table ++ " ") ++
            ("(" ++ Text.joined ", " (columns.map (b.dialect types).quote) ++ ")") ++ " VALUES " ++
            Text.joined ", " (s.fields.rows.map (Value.group columns)) ++ back,
          s.fields.rows.flatMap (Value.boundCells columns)⟩ ∧
        b.Returns types s.returning back) ∧
    ((¬∃ columns, s.fields.HasColumns columns) →
      ∃ e, ((Query.mk s compounds).compile (b.dialect types)).result = .error e ∧
        e.family = .value) := by
  constructor
  · intro columns hnodup hcolumns hreturning
    exact Backend.result_insert types _ hkind htable hrows hnodup hcolumns hreturning
  · intro hnone
    exact Backend.result_insert_error types _ hkind htable hrows hnone

/-- An insert of two rows with raw SQL in one of them. -/
def loginRows : Statement :=
  { Statement.insert (.text "log") (.list
      [.map [(.text "at", .raw "now()"), (.text "who", .text "?")],
        .map [(.text "at", .int 7), (.text "who", .null)]]) with
    returning := .list [.text "id"] }

/-- Two rows with the same columns in another order. -/
def swappedRows : Statement :=
  Statement.insert (.text "log") (.tuple
    [.map [(.text "at", .int 1), (.text "who", .null)],
      .map [(.text "who", .null), (.text "at", .int 1)]])

theorem loginRows_aligned :
    ["at", "who"].Nodup ∧ loginRows.fields.HasColumns ["at", "who"] ∧
      loginRows.returning.isListOf Value.isField = true ∧
      (∃ back, ((Query.mk loginRows []).compile (Backend.postgresql.dialect .standard)).result =
          .ok ⟨"INSERT INTO \"log\" (\"at\", \"who\") VALUES (now(), ?), (?, ?)" ++ back,
            [.text "?", .int 7, .null]⟩ ∧
        Backend.postgresql.Returns .standard loginRows.returning back) ∧
      (¬∃ columns, swappedRows.fields.HasColumns columns) ∧
      ∃ e, ((Query.mk swappedRows []).compile (Backend.mysql.dialect .standard)).result =
        .error e ∧ e.family = .value := by
  have hcolumns : loginRows.fields.HasColumns ["at", "who"] := by
    refine ⟨nofun, nofun, fun row hrow => ?_⟩
    rcases List.mem_cons.mp hrow with rfl | hrow
    · rfl
    · cases List.mem_singleton.mp hrow
      rfl
  have hswapped : ¬∃ columns, swappedRows.fields.HasColumns columns := by
    rintro ⟨columns, h⟩
    have hfirst := h.same _ List.mem_cons_self
    have hsecond := h.same _ (List.mem_cons_of_mem _ List.mem_cons_self)
    have hname := (List.cons.inj (hfirst.trans hsecond.symm)).1
    exact absurd (Value.text.inj hname) (by decide)
  obtain ⟨back, hresult, hback⟩ := (inserted_rows_aligned .postgresql .standard [] (s := loginRows)
    rfl rfl rfl).1 ["at", "who"] (by decide) hcolumns fun _ => rfl
  have hsql : "INSERT INTO " ++ (if "log" = "" then "" else
      (Backend.postgresql.dialect .standard).quote "log" ++ " ") ++ ("(" ++ Text.joined ", "
      (["at", "who"].map (Backend.postgresql.dialect .standard).quote) ++ ")") ++ " VALUES " ++
      Text.joined ", " (loginRows.fields.rows.map (Value.group ["at", "who"])) =
      "INSERT INTO \"log\" (\"at\", \"who\") VALUES (now(), ?), (?, ?)" := by
    decide +kernel
  rw [hsql] at hresult
  exact ⟨by decide, hcolumns, rfl, ⟨back, hresult, hback⟩, hswapped,
    (inserted_rows_aligned .mysql .standard [] (s := swappedRows) rfl rfl rfl).2 hswapped⟩

end SqlRender
