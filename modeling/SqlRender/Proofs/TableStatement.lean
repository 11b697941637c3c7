import SqlRender.Proofs.Respacing
import SqlRender.Proofs.TableLine
import SqlRender.Schema.Definition

/-!
# Statements that create tables and indexes

The templates for these statements have slots for attributes, which differ from backend to backend
and stay empty here, and slots for the lines of the table. The lines may be any text: only the
template and the quoted names decide about the spaces around them.

* `Backend.isStripped_quote`: a quoted name neither begins nor ends with a blank.
* `Backend.createTable_result`, `Backend.createIndex_result`: the statements around their parts.
* `Backend.createTable_all_or_nothing`: the statement with all its lines, or the fault of the first
  column that has none.
-/

namespace SqlRender

/-! ## Quoted names -/

theorem Text.isStripped_join {sep : List Char} {pieces : List (List Char)} (hne : pieces ≠ [])
    (h : ∀ piece ∈ pieces, piece ≠ [] ∧ Text.IsStripped piece) :
    Text.join sep pieces ≠ [] ∧ Text.IsStripped (Text.join sep pieces) := by
  induction pieces with
  | nil => exact absurd rfl hne
  | cons piece pieces ih =>
    obtain ⟨hpiece, hstripped⟩ := h piece (by simp)
    cases pieces with
    | nil => exact ⟨hpiece, hstripped⟩
    | cons next pieces =>
      obtain ⟨hrest, hback⟩ :=
        ih (by simp) fun piece' hmem => h piece' (List.mem_cons_of_mem _ hmem)
      have hjoin : Text.join sep (piece :: next :: pieces) =
        piece ++ sep ++ Text.join sep (next :: pieces) := rfl
      rw [hjoin]
      refine ⟨by simp [hpiece], ?_, ?_⟩
      · rw [List.append_assoc, List.head?_append_of_ne_nil _ hpiece]
        exact hstripped.first
      · rw [List.getLast?_append_of_ne_nil _ hrest]
        exact hback.last

namespace Backend

theorem isStripped_quoteSegment (b : Backend) (segment : List Char) :
    Dialect.quoteSegment [b.markChar] segment ≠ [] ∧
      Text.IsStripped (Dialect.quoteSegment [b.markChar] segment) := by
  have hmark := b.markChar_not_blank
  rw [Dialect.quoteSegment]
  split
  · next hstar =>
    subst hstar
    exact ⟨by simp, by decide⟩
  · refine ⟨by simp [Dialect.quoteChars], ?_, ?_⟩
    · simpa [Dialect.quoteChars] using hmark
    · rw [Dialect.quoteChars, List.getLast?_concat]
      simpa using hmark

/-- A quoted name neither begins nor ends with a blank. -/
theorem isStripped_quote (b : Backend) (types : TypeCatalogue) (name : String) :
    ((b.dialect types).quote name).toList ≠ [] ∧
      Text.IsStripped ((b.dialect types).quote name).toList := by
  rw [Dialect.quote, String.toList_ofList, mark_dialect]
  refine Text.isStripped_join (by simp [Text.split]) fun piece hpiece => ?_
  obtain ⟨segment, -, rfl⟩ := List.mem_map.mp hpiece
  exact b.isStripped_quoteSegment segment

end Backend

theorem Text.IsStripped.head?_ne {cs : List Char} (h : Text.IsStripped cs) :
    cs.head? ≠ some ' ' := by
  intro hspace
  exact absurd (h.first ' ' hspace) (by decide)

theorem Text.IsStripped.getLast?_ne {cs : List Char} (h : Text.IsStripped cs) :
    cs.getLast? ≠ some ' ' := by
  intro hspace
  exact absurd (h.last ' ' hspace) (by decide)

theorem Text.isStripped_of_ends {front back : List Char} {c d : Char}
    (hfront : front.head? = some c) (hback : back.getLast? = some d) (hc : isBlank c = false)
    (hd : isBlank d = false) (middle : List Char) : Text.IsStripped (front ++ middle ++ back) := by
  refine ⟨?_, ?_⟩
  · simpa [List.append_assoc, hfront] using hc
  · simpa [hback] using hd

/-- The space behind a name stands only where there is a name. -/
theorem Template.glue_name {out piece : List Char} {name front : String}
    (hout : out.getLast? = some ' ') (hname : Text.IsStripped name.toList)
    (hfront : front = if name = "" then "" else name ++ " ") (hpiece : piece.head? ≠ some ' ') :
    glue (out ++ name.toList) (' ' :: piece) = out ++ front.toList ++ piece := by
  by_cases hempty : name = ""
  · rw [if_pos hempty] at hfront
    subst hempty hfront
    have hdrop : glue out (' ' :: piece) = glue out piece := by
      rw [glue_of_space hout, glue_of_space hout, List.dropWhile_cons_of_pos (by decide)]
    simpa [hdrop] using glue_eq hpiece out
  · rw [if_neg hempty] at hfront
    subst hfront
    have hne : name.toList ≠ [] := by simpa using hempty
    rw [glue_of_solid]
    · simp
    · rw [List.getLast?_append_of_ne_nil _ hne]
      exact hname.getLast?_ne

/-! ## Templates -/

/-- Statements that create a table or an index. -/
def StatementKind.isDefinition : StatementKind → Bool
  | .createTable | .createIndex => true
  | _ => false

namespace Backend

/-- The templates for creating tables and indexes, slot by slot. -/
def definitionPlan : Backend → StatementKind → String × List (String × String)
  | .postgresql, .createTable =>
    ("CREATE ", [("type", " "), ("temporary", " "), ("unlogged", " TABLE IF NOT EXISTS "),
      ("table", " (\n"), ("columns", ""), ("keys", "\n) "), ("options", "")])
  | _, .createTable =>
    ("CREATE ", [("temporary", " TABLE IF NOT EXISTS "), ("table", " (\n"), ("columns", ""),
      ("keys", "\n) "), ("options", "")])
  | .postgresql, .createIndex =>
    ("CREATE ", [("type", " INDEX "), ("concurrently", " "), ("index", " ON "), ("table", " ("),
      ("fields", ")")])
  | _, .createIndex =>
    ("CREATE ", [("type", " INDEX "), ("index", " ON "), ("table", " ("), ("fields", ")")])
  | _, _ => ("", [])

variable {b : Backend} {k : StatementKind}

theorem definitionText?_isSome (hk : k.isDefinition = true) :
    (b.templateText? k).isSome = true := by
  cases k with
  | createTable | createIndex => cases b <;> decide
  | _ => cases hk

theorem definition_eq (b : Backend) (hk : k.isDefinition = true) :
    b.template k = .ofPlan (b.definitionPlan k) := by
  cases k with
  | createTable =>
    cases b with
    | postgresql => exact (template_of_text rfl (Template.ofText_append _ _)).trans (by decide)
    | _ => exact (template_of_text rfl (Template.ofText_ofList _)).trans (by decide)
  | createIndex =>
    cases b <;> exact (template_of_text rfl (Template.ofText_ofList _)).trans (by decide)
  | _ => cases hk

/-- The slots that stay empty where no attributes and no options are given. -/
def isSpareSlot (name : String) : Bool :=
  name ∈ ["type", "temporary", "unlogged", "concurrently", "options"]

theorem eq_of_isSpareSlot {name : String} (h : isSpareSlot name = true) :
    name = "type" ∨ name = "temporary" ∨ name = "unlogged" ∨ name = "concurrently" ∨
      name = "options" := by
  simpa [isSpareSlot] using h

/-- What is left of the templates without the slots that stay empty: the backends no longer
differ. -/
def sparePlan : StatementKind → String × List (String × String)
  | .createTable =>
    ("CREATE TABLE IF NOT EXISTS ", [("table", " (\n"), ("columns", ""), ("keys", "\n)")])
  | .createIndex => ("CREATE INDEX ", [("index", " ON "), ("table", " ("), ("fields", ")")])
  | _ => ("", [])

theorem thin_definition (b : Backend) (hk : k.isDefinition = true) :
    (b.template k).thin isSpareSlot = .ofPlan (sparePlan k) := by
  rw [b.definition_eq hk]
  cases k with
  | createTable | createIndex => cases b <;> decide
  | _ => cases hk

theorem names_definition (b : Backend) (hk : k.isDefinition = true) :
    (b.template k).names.Nodup ∧
      (b.template k).names.filter (!isSpareSlot ·) = (sparePlan k).2.map Prod.fst := by
  rw [b.definition_eq hk, Template.names_ofPlan]
  cases k with
  | createTable | createIndex => cases b <;> decide
  | _ => cases hk

/-- A statement that creates something is the template without its spare slots, with what fills the
others. -/
theorem result_definition (types : TypeCatalogue) {s : Statement} (hs : s.kind = .kind k)
    (hk : k.isDefinition = true) (operands : Traced Fragment) (texts : Except Error (List String))
    (hspare : ∀ name, isSpareSlot name = true →
      s.slotFilling (b.dialect types) operands name = .ok Fragment.empty.toFilling)
    (htexts : ((sparePlan k).2.map Prod.fst).mapM (s.slotFilling (b.dialect types) operands) =
      List.map (fun text => (Fragment.ofSql text).toFilling) <$> texts)
    (hlength : ∀ ts, texts = .ok ts → ts.length = (sparePlan k).2.length) :
    (s.compile (b.dialect types) operands).result =
      (fun ts => (Template.ofPlan (sparePlan k)).fragment (ts.map .ofSql)) <$> texts := by
  obtain ⟨text, htext⟩ := Option.isSome_iff_exists.mp (definitionText?_isSome (b := b) hk)
  obtain ⟨hnodup, hnames⟩ := b.names_definition hk
  have hcompile : (s.compile (b.dialect types) operands).result = (do
      let fillings ← (b.template k).names.mapM (s.slotFilling (b.dialect types) operands)
      Statement.assemble (b.template k) ((b.template k).names.zip fillings)) := by
    rw [Statement.result_compile, hs, templateOf_eq, template, htext]
    rfl
  rw [hcompile, mapM_spread fun name _ => hspare name, hnames, htexts]
  cases texts with
  | error e => rfl
  | ok ts =>
    have hparts : (ts.map Fragment.ofSql).length =
        ((b.template k).names.filter (!isSpareSlot ·)).length := by
      rw [hnames, List.length_map, List.length_map, hlength ts rfl]
    have hassemble := Statement.assemble_spread hnodup hparts
    rw [List.map_map, b.thin_definition hk] at hassemble
    exact hassemble

/-! ## Tables -/

theorem fragment_of_lay {t : Template} {texts : List String} {text : String}
    (hlay : Template.lay t.head t.slots texts = text.toList) (hends : Text.IsStripped text.toList) :
    t.fragment (texts.map Fragment.ofSql) = .ofSql text := by
  have hsql : (texts.map Fragment.ofSql).map Fragment.sql = texts :=
    List.map_map.trans (List.map_id texts)
  have hparams : (texts.map Fragment.ofSql).flatMap Fragment.params = [] := by
    simp [Fragment.ofSql]
  have hstrip : Text.strip ([] ++ text.toList ++ []) = text.toList :=
    hends.strip_eq (by simp) (by simp)
  rw [List.nil_append, List.append_nil] at hstrip
  rw [Template.fragment, hsql, hlay, hstrip, hparams, String.ofList_toList]
  rfl

theorem fragment_createTable {table keys : String} (columns : String) (htable : table.toList ≠ [])
    (hstripped : Text.IsStripped table.toList) (hkeys : keys.toList.head? ≠ some ' ') :
    (Template.ofPlan (sparePlan .createTable)).fragment
        ([table, columns, keys].map Fragment.ofSql) =
      .ofSql ("CREATE TABLE IF NOT EXISTS " ++ table ++ " (\n" ++ columns ++ keys ++ "\n)") := by
  have hopen : ∀ out : List Char, (out ++ table.toList).getLast? ≠ some ' ' := fun out => by
    rw [List.getLast?_append_of_ne_nil _ htable]
    exact hstripped.getLast?_ne
  have hlines : ∀ out : List Char, (out ++ " (\n".toList).getLast? ≠ some ' ' := fun out => by
    rw [List.getLast?_append_of_ne_nil _ (by decide)]
    decide
  have htext :
      ("CREATE TABLE IF NOT EXISTS " ++ table ++ " (\n" ++ columns ++ keys ++ "\n)").toList =
      "CREATE TABLE IF NOT EXISTS ".toList ++
        (table.toList ++ " (\n".toList ++ columns.toList ++ keys.toList) ++ "\n)".toList := by
    simp only [String.toList_append, List.append_assoc]
  apply fragment_of_lay
  · show Template.glue (Template.glue (Template.glue (Template.glue (Template.glue
      (Template.glue _ table.toList) " (\n".toList) columns.toList) []) keys.toList)
      "\n)".toList = _
    rw [Template.glue_eq hstripped.head?_ne, Template.glue_of_solid (hopen _),
      Template.glue_of_solid (hlines _), Template.glue_nil, Template.glue_eq hkeys,
      Template.glue_eq (by decide), htext]
    simp only [List.append_assoc]
    rfl
  · rw [htext]
    exact Text.isStripped_of_ends (c := 'C') (d := ')') rfl rfl (by decide) (by decide) _

theorem head?_keyLines {d : Dialect} {s : Schema} {keys : String} (h : d.keyLines s = .ok keys) :
    keys.toList.head? ≠ some ' ' := by
  obtain ⟨_, -, h⟩ := bind_eq_ok.mp h
  obtain ⟨_, -, h⟩ := bind_eq_ok.mp h
  obtain ⟨_, -, h⟩ := bind_eq_ok.mp h
  cases h
  generalize (_ : List String) ++ _ ++ _ = lines
  cases lines with
  | nil => simp [Text.joined]
  | cons line lines =>
    cases lines <;> simp [Text.joined]

theorem result_render (d : Dialect) (s : Statement) :
    ((Query.single s).render d).result = Fragment.sql <$> (s.compile d (pure .empty)).result := by
  rw [Query.render, Traced.result_bind, map_eq_pure_bind]
  rfl

/-- A name in its slot: nothing if it is empty. -/
def nameText (d : Dialect) (name : String) : String := if name = "" then "" else d.quote name

theorem nameFragment_eq (d : Dialect) (name : String) :
    Statement.nameFragment d (.text name) = .ok (.ofSql (nameText d name)) := by
  by_cases hname : name = ""
  · subst hname
    rfl
  · have htrue : (Value.text name).isTrue = true := by simpa [Value.isTrue] using hname
    rw [Statement.nameFragment, if_pos htrue, nameText, if_neg hname]
    rfl

theorem nameText_of_ne {d : Dialect} {name : String} (h : name ≠ "") :
    nameText d name = d.quote name := if_neg h

/-- What a part of a schema puts into its slot. -/
theorem result_schemaFragment (s : Schema) (write : Schema → Traced String) :
    (Fragment.toFilling <$> Statement.schemaFragment (some s) write).result =
      (fun text => (Fragment.ofSql text).toFilling) <$> (write s).result := by
  rw [Traced.result_map, Statement.schemaFragment, Traced.result_bind]
  cases (write s).result <;> rfl

theorem result_writeColumns (d : Dialect) (s : Schema) :
    (d.writeColumns s).result = d.columnLines s := by
  rw [Dialect.writeColumns, Traced.result_bind]
  cases d.columnsGrowth? s.columns <;> rfl

/-- The statement that creates a table without options, around the lines of the table. -/
theorem createTable_result (types : TypeCatalogue) {s : Schema} (htable : s.table ≠ "")
    (hoptions : s.options = []) :
    (s.createTable (b.dialect types) []).result = (do
      let columns ← (b.dialect types).columnLines s
      let keys ← (b.dialect types).keyLines s
      return "CREATE TABLE IF NOT EXISTS " ++ (b.dialect types).quote s.table ++ " (\n" ++
        columns ++ keys ++ "\n)") := by
  have hcompile := result_definition (b := b) (k := .createTable) types
    (s := .createTable s []) rfl rfl (pure .empty) (do
      let columns ← (b.dialect types).columnLines s
      let keys ← (b.dialect types).keyLines s
      return [(b.dialect types).quote s.table, columns, keys]) ?_ ?_ ?_
  · show ((Query.single _).render _).result = _
    rw [result_render, hcompile]
    cases hcolumns : (b.dialect types).columnLines s with
    | error e => rfl
    | ok columns =>
      cases hkeys : (b.dialect types).keyLines s with
      | error e => rfl
      | ok keys =>
        obtain ⟨hne, hstripped⟩ := b.isStripped_quote types s.table
        have hfragment := fragment_createTable columns hne hstripped
          (head?_keyLines hkeys)
        exact congrArg (fun f => Except.ok (Fragment.sql f)) hfragment
  · intro name hname
    rcases eq_of_isSpareSlot hname with rfl | rfl | rfl | rfl | rfl
    · rfl
    · rfl
    · rfl
    · rfl
    · have hnone : (b.dialect types).tableOptions s = .ok "" := by
        rw [Dialect.tableOptions, hoptions]
        rfl
      exact (result_schemaFragment s _).trans (congrArg _ hnone)
  · have hname : (Statement.createTable s []).slotFilling (b.dialect types) (pure .empty)
        "table" = .ok (Fragment.ofSql ((b.dialect types).quote s.table)).toFilling := by
      show Fragment.toFilling <$> Statement.nameFragment _ (.text s.table) = _
      rw [nameFragment_eq, nameText_of_ne htable]
      rfl
    have hcolumns : (Statement.createTable s []).slotFilling (b.dialect types) (pure .empty)
        "columns" =
          (fun text => (Fragment.ofSql text).toFilling) <$> (b.dialect types).columnLines s :=
      (result_schemaFragment s _).trans (congrArg _ (result_writeColumns _ s))
    have hkeys : (Statement.createTable s []).slotFilling (b.dialect types) (pure .empty)
        "keys" = (fun text => (Fragment.ofSql text).toFilling) <$> (b.dialect types).keyLines s :=
      result_schemaFragment s fun schema => (b.dialect types).keyLines schema
    show ["table", "columns", "keys"].mapM _ = _
    rw [List.mapM_cons, hname, List.mapM_cons, hcolumns, List.mapM_cons, hkeys]
    cases (b.dialect types).columnLines s with
    | error e => rfl
    | ok columns => cases (b.dialect types).keyLines s <;> rfl
  · intro ts hts
    obtain ⟨columns, -, hts⟩ := bind_eq_ok.mp hts
    obtain ⟨keys, -, hts⟩ := bind_eq_ok.mp hts
    cases hts
    rfl

/-! ## Indexes -/

/-- The statement that creates an index which is not unique. Without a name for the table it has
no space there either. -/
def indexText (b : Backend) (types : TypeCatalogue) (table name : String) (columns : List Value) :
    String :=
  "CREATE INDEX " ++ (b.dialect types).quote name ++ " ON " ++
    (if table = "" then "" else (b.dialect types).quote table ++ " ") ++ "(" ++
    b.namesText types columns ++ ")"

theorem fragment_createIndex {index front table : String} (fields : String)
    (hindex : index.toList ≠ []) (hindexStripped : Text.IsStripped index.toList)
    (htable : Text.IsStripped table.toList)
    (hfront : front = if table = "" then "" else table ++ " ") :
    (Template.ofPlan (sparePlan .createIndex)).fragment
        ([index, table, fields].map Fragment.ofSql) =
      .ofSql ("CREATE INDEX " ++ index ++ " ON " ++ front ++ "(" ++ fields ++ ")") := by
  have hon : ∀ out : List Char, (out ++ index.toList).getLast? ≠ some ' ' := fun out => by
    rw [List.getLast?_append_of_ne_nil _ hindex]
    exact hindexStripped.getLast?_ne
  have hopen : ∀ out : List Char, Template.glue (out ++ " ON ".toList ++ table.toList) " (".toList =
      out ++ " ON ".toList ++ front.toList ++ "(".toList := fun out =>
    Template.glue_name (by simp) htable hfront (by decide)
  have hfields : ∀ out : List Char, (out ++ "(".toList).getLast? ≠ some ' ' := fun out => by
    rw [List.getLast?_append_of_ne_nil _ (by decide)]
    decide
  have htext : ("CREATE INDEX " ++ index ++ " ON " ++ front ++ "(" ++ fields ++ ")").toList =
      "CREATE INDEX ".toList ++ (index.toList ++ " ON ".toList ++ front.toList ++ "(".toList ++
        fields.toList) ++ ")".toList := by
    simp only [String.toList_append, List.append_assoc]
  apply fragment_of_lay
  · show Template.glue (Template.glue (Template.glue (Template.glue (Template.glue
      (Template.glue _ index.toList) " ON ".toList) table.toList) " (".toList) fields.toList)
      ")".toList = _
    rw [Template.glue_eq hindexStripped.head?_ne, Template.glue_of_solid (hon _),
      Template.glue_eq htable.head?_ne, hopen, Template.glue_of_solid (hfields _),
      Template.glue_eq (by decide), htext]
    simp only [List.append_assoc]
    rfl
  · rw [htext]
    exact Text.isStripped_of_ends (c := 'C') (d := ')') rfl rfl (by decide) (by decide) _

/-- The name of a table in its slot, and with the space behind it. -/
theorem nameText_front (b : Backend) (types : TypeCatalogue) (table : String) :
    Text.IsStripped (nameText (b.dialect types) table).toList ∧
      (if table = "" then "" else (b.dialect types).quote table ++ " ") =
        if nameText (b.dialect types) table = "" then ""
        else nameText (b.dialect types) table ++ " " := by
  by_cases hempty : table = ""
  · subst hempty
    have hnone : nameText (b.dialect types) "" = "" := if_pos rfl
    rw [hnone, if_pos rfl, if_pos rfl]
    exact ⟨Text.IsStripped.nil, rfl⟩
  · obtain ⟨hne, hstripped⟩ := b.isStripped_quote types table
    have hquote : (b.dialect types).quote table ≠ "" := by simpa using hne
    rw [nameText_of_ne hempty, if_neg hempty, if_neg hquote]
    exact ⟨hstripped, rfl⟩

theorem fieldList_eq (types : TypeCatalogue) {columns : List Value}
    (h : ∀ column ∈ columns, column.isText = true) :
    Statement.fieldList (b.dialect types) (.tuple columns) = .ok (b.namesText types columns) := by
  have hfields : columns.mapM (Statement.fieldText (b.dialect types)) =
      .ok (columns.map fun column => (b.dialect types).quote column.display) :=
    mapM_eq_map fun column hcolumn => by
      have htext := h column hcolumn
      cases column with
      | text name => rfl
      | _ => cases htext
  show (columns.mapM (Statement.fieldText (b.dialect types)) >>= _) = _
  rw [hfields]
  rfl

theorem createIndex_result (types : TypeCatalogue) (s : Schema) {name : String} (hname : name ≠ "")
    {columns : List Value} (hcolumns : ∀ column ∈ columns, column.isText = true) :
    (s.createIndex (b.dialect types) ⟨.text name, columns, .bool false⟩).result =
      .ok (b.indexText types s.table name columns) := by
  have hcompile := result_definition (b := b) (k := .createIndex) types
    (s := .createIndex (.text s.table) (.text name) (.tuple columns) []) rfl rfl (pure .empty)
    (.ok [(b.dialect types).quote name, nameText (b.dialect types) s.table,
      b.namesText types columns]) ?_ ?_ ?_
  · show ((Query.single (.createIndex (.text s.table) (.text name) (.tuple columns) [])).render
      _).result = _
    rw [result_render, hcompile]
    obtain ⟨hne, hstripped⟩ := b.isStripped_quote types name
    obtain ⟨htable, hfront⟩ := b.nameText_front types s.table
    have hfragment := fragment_createIndex (b.namesText types columns) hne hstripped htable
      hfront
    exact congrArg (fun f => Except.ok (Fragment.sql f)) hfragment
  · intro slot hslot
    rcases eq_of_isSpareSlot hslot with rfl | rfl | rfl | rfl | rfl <;> rfl
  · refine mapM_eq_ok.mpr (.cons ?_ (.cons ?_ (.cons ?_ .nil)))
    · show Fragment.toFilling <$> Statement.nameFragment _ (.text name) = _
      rw [nameFragment_eq, nameText_of_ne hname]
      rfl
    · show Fragment.toFilling <$> Statement.nameFragment _ (.text s.table) = _
      rw [nameFragment_eq]
      rfl
    · show Fragment.toFilling <$> (Fragment.ofSql <$> Statement.fieldList _ (.tuple columns)) = _
      rw [fieldList_eq types hcolumns]
      rfl
  · intro ts hts
    cases hts
    rfl

end Backend

/-! ## Whole tables -/

/-- Types are found by their names in small letters, and the name of a constraint that a type has by
default is a text. -/
structure TypeCatalogue.WellTyped (types : TypeCatalogue) : Prop where
  folded : types.folded = true
  constraints : ∀ entry ∈ types.types,
    (entry.2.defaults.find "constraint").isOptionalName = true

/-- Columns have names, their options are maps, and names of constraints are texts; the keys are
well-typed. What else the options are does not matter. -/
structure Schema.WellTyped (s : Schema) : Prop where
  names : ∀ column ∈ s.columns, column.1.isText = true
  options : ∀ column ∈ s.columns, (column.2.map Prod.fst).Nodup
  constraints : ∀ column ∈ s.columns, (column.2.find "constraint").isOptionalName = true
  primary : ∀ key ∈ s.primaryKey, key.WellTyped
  unique : ∀ entry ∈ s.uniqueKeys, entry.2.WellTyped
  foreign : ∀ key ∈ s.foreignKeys, key.WellTyped

theorem TypeCatalogue.mem_of_resolve {types : TypeCatalogue} (hfolded : types.folded = true)
    {v : Value} {type : ColumnType} (h : types.resolve v = .ok type) :
    ∃ name, (name, type) ∈ types.types := by
  rw [resolve_eq hfolded] at h
  cases hfound : types.found? v with
  | none =>
    rw [hfound] at h
    cases h
  | some found =>
    rw [hfound] at h
    cases h
    cases v with
    | text name =>
      rw [found?] at hfound
      split at hfound
      · cases hfound
      · obtain ⟨key, -, hmem⟩ := Assoc.mem_of_get? hfound
        exact ⟨key, hmem⟩
    | _ => cases hfound

namespace Backend

variable {b : Backend} {types : TypeCatalogue} {s : Schema}

/-- The values that a line shows: a length and a collation that count as true, and the default. -/
def shownValues (b : Backend) (types : TypeCatalogue) (options : Mapping) : List Value :=
  [options.find "length", options.find "collate"].filter Value.isTrue ++
    (Assoc.get? (.text "default") options).toList.map (b.dialect types).defaultValue

/-- Why a well-typed column cannot be defined: its type is unknown, or a value that its line shows
has a whole number with too many digits. -/
def definitionFault? (b : Backend) (types : TypeCatalogue) (column : Value × Mapping) :
    Option Error :=
  match types.resolve (column.2.find "type") with
  | .error _ => some (Error.invalidColumnType (column.2.find "type") column.1).raised
  | .ok type =>
    if (b.shownValues types (type.effective column.2)).all Value.isWritable then none
    else some .badValue

/-- The lines of a table: its columns, then its keys. -/
def tableLines (b : Backend) (types : TypeCatalogue) (s : Schema) : List String :=
  s.columns.map (fun column => b.columnText types column.1.display column.2) ++ b.keyTexts types s

theorem optionsFault?_eq {options : Mapping}
    (h : (options.find "constraint").isOptionalName = true) :
    b.optionsFault? types options =
      if (b.shownValues types options).all Value.isWritable then none else some .badValue := by
  have hvalues :
      ([options.find "length", options.find "collate"].filter Value.isTrue).all Value.isWritable =
        ((options.find "length").isShowable && (options.find "collate").isShowable) := by
    rw [List.all_filter]
    simp [Value.isShowable]
  have hdefault : ((Assoc.get? (.text "default") options).toList.map
      (b.dialect types).defaultValue).all Value.isWritable = b.isDefaultShown types options := by
    rw [isDefaultShown]
    cases Assoc.get? (.text "default") options <;> simp
  rw [optionsFault?, shownValues, List.all_append, hvalues, hdefault, h]
  cases (options.find "length").isShowable <;> cases (options.find "collate").isShowable <;>
    cases b.isDefaultShown types options <;> rfl

theorem isOptionalName_effective {type : ColumnType} {own : Mapping}
    (hown : (own.map Prod.fst).Nodup) (h : (own.find "constraint").isOptionalName = true)
    (hdefault : (type.defaults.find "constraint").isOptionalName = true) :
    ((type.effective own).find "constraint").isOptionalName = true := by
  rw [type.find_effective hown]
  rw [Mapping.find] at h hdefault
  cases hget : Assoc.get? (.text "constraint") own with
  | none => exact hdefault
  | some v =>
    rw [hget] at h
    exact h

theorem columnLines_eq (htypes : types.WellTyped) (hs : s.WellTyped) :
    (b.dialect types).columnLines s =
      (s.columns.findSome? (b.definitionFault? types)).elim
        (.ok (Text.joined ",\n"
          (s.columns.map fun column => b.columnText types column.1.display column.2))) .error := by
  have hlines : s.columns.mapM (fun column =>
      (b.dialect types).columnLine column.1 (.map column.2)) =
      (s.columns.findSome? (b.definitionFault? types)).elim
        (.ok (s.columns.map fun column => b.columnText types column.1.display column.2))
        .error := by
    refine mapM_eq_elim fun column hcolumn => ?_
    obtain ⟨name, options⟩ := column
    have hoptions := hs.options _ hcolumn
    obtain ⟨text, rfl⟩ := Value.exists_text (hs.names _ hcolumn)
    rw [columnLine_eq b htypes.folded text hoptions, columnFault?, definitionFault?]
    cases hresolve : types.resolve (options.find "type") with
    | error e => rfl
    | ok type =>
      obtain ⟨typeName, hentry⟩ := TypeCatalogue.mem_of_resolve htypes.folded hresolve
      have hconstraint := isOptionalName_effective hoptions (hs.constraints _ hcolumn)
        (htypes.constraints _ hentry)
      dsimp only
      rw [optionsFault?_eq hconstraint]
      rfl
  show (s.columns.mapM (fun column =>
    (b.dialect types).columnLine column.1 (.map column.2)) >>= _) = _
  rw [hlines]
  cases s.columns.findSome? (b.definitionFault? types) <;> rfl

/-- A table is defined by all its lines or not at all: if a column is faulty, the fault of the first
such column is all there is. -/
theorem createTable_all_or_nothing (htypes : types.WellTyped) (hs : s.WellTyped)
    (htable : s.table ≠ "") (hcolumns : s.columns ≠ []) (hoptions : s.options = []) :
    (s.createTable (b.dialect types) []).result =
      (s.columns.findSome? (b.definitionFault? types)).elim
        (.ok ("CREATE TABLE IF NOT EXISTS " ++ (b.dialect types).quote s.table ++ " (\n" ++
          Text.joined ",\n" (b.tableLines types s) ++ "\n)"))
        .error := by
  have hne : (s.columns.map fun column => b.columnText types column.1.display column.2) ≠ [] := by
    simpa using hcolumns
  have hjoined := Text.joined_append hne ",\n" (b.keyTexts types s)
  rw [createTable_result types htable hoptions, columnLines_eq htypes hs,
    keyLines_eq types hs.primary hs.unique hs.foreign, tableLines, hjoined]
  cases s.columns.findSome? (b.definitionFault? types) with
  | some e => rfl
  | none =>
    refine congrArg Except.ok ?_
    simp only [String.append_assoc]

/-- A table with keys of all kinds and a default of two lines. -/
def paymentsSchema : Schema where
  table := "app.payments"
  columns :=
    [(.text "id", [(.text "type", .text "serial")]),
     (.text "note", [(.text "type", .text "VarChar"), (.text "nullable", .bool true),
       (.text "default", .text "it's\n  open")])]
  primaryKey := some ⟨[.text "id"], .text "pk"⟩
  uniqueKeys := [(.text "note", ⟨[.text "note", .text "id"], .null⟩)]
  foreignKeys :=
    [⟨[.text "id"], .text "app.users", [.text "id"], .keyword .setNull, .null, .null, .null⟩]

theorem wellTyped_standard : TypeCatalogue.standard.WellTyped :=
  ⟨TypeCatalogue.folded_standard, by decide +kernel⟩

theorem paymentsSchema_defined :
    TypeCatalogue.standard.WellTyped ∧ paymentsSchema.WellTyped ∧
      (paymentsSchema.createTable (postgresql.dialect .standard) []).result =
        .ok ("CREATE TABLE IF NOT EXISTS \"app\".\"payments\" (\n" ++
          "\"id\" serial NOT NULL,\n" ++
          "\"note\" varchar(255) NULL DEFAULT 'it''s\n  open',\n" ++
          "CONSTRAINT \"pk\" PRIMARY KEY (\"id\"),\n" ++
          "UNIQUE (\"note\", \"id\"),\n" ++
          "FOREIGN KEY (\"id\") REFERENCES \"app\".\"users\"(\"id\") ON DELETE SET NULL\n)") := by
  have htyped : paymentsSchema.WellTyped := by
    refine ⟨by decide, ?_, by decide +kernel, ?_, ?_, ?_⟩
    · simp [paymentsSchema]
    · rintro key ⟨⟩
      exact ⟨by decide, rfl⟩
    · simp only [paymentsSchema, List.forall_mem_singleton]
      exact ⟨by decide, rfl⟩
    · simp only [paymentsSchema, List.forall_mem_singleton]
      exact ⟨by decide, rfl, by decide, rfl, rfl, rfl, rfl⟩
  have hfault : (paymentsSchema.columns.findSome? (postgresql.definitionFault? .standard)).isNone =
      true := by decide +kernel
  refine ⟨wellTyped_standard, htyped, ?_⟩
  rw [createTable_all_or_nothing wellTyped_standard htyped (by decide) nofun rfl,
    Option.isNone_iff_eq_none.mp hfault]
  refine congrArg Except.ok ?_
  decide +kernel

/-- A table with a column whose default has one digit too many. -/
def longDefault : Schema where
  table := "t"
  columns := [(.text "a",
    [(.text "type", .text "int"), (.text "default", .int (Nat.pow 10 Text.maxDigits))])]

/-- A table of columns with known types may still have no definition. -/
theorem longDefault_not_defined :
    TypeCatalogue.standard.WellTyped ∧ longDefault.WellTyped ∧ longDefault.table ≠ "" ∧
      longDefault.columns ≠ [] ∧ longDefault.options = [] ∧
      (∀ column ∈ longDefault.columns,
        (TypeCatalogue.standard.resolve (column.2.find "type")).toOption.isSome = true) ∧
      (longDefault.createTable (ansi.dialect .standard) []).result = .error .badValue := by
  have hkeys : [Value.text "type", Value.text "default"].Nodup := by simp
  have htyped : longDefault.WellTyped :=
    ⟨by decide, List.forall_mem_singleton.mpr hkeys, by decide +kernel, nofun, nofun, nofun⟩
  have hfault : ∀ v : Value, v.isWritable = false → (ansi.dialect .standard).defaultValue v = v →
      ansi.definitionFault? .standard (.text "a", [(.text "type", .text "int"),
        (.text "default", v)]) = some .badValue := by
    intro v hv hdefault
    have hresolve : TypeCatalogue.standard.resolve (Mapping.find "type"
      [(.text "type", .text "int"), (.text "default", v)]) = .ok { name := "int" } := rfl
    have hall : (ansi.shownValues .standard (ColumnType.effective { name := "int" }
        [(.text "type", .text "int"), (.text "default", v)])).all Value.isWritable = false := by
      show (((ansi.dialect .standard).defaultValue v).isWritable && true) = false
      rw [hdefault, hv]
      rfl
    simp only [definitionFault?, hresolve, hall, Bool.false_eq_true, if_false]
  have hfirst : longDefault.columns.findSome? (ansi.definitionFault? .standard) =
      some .badValue := by
    rw [longDefault, List.findSome?_cons, hfault _ (by decide +kernel) rfl]
  refine ⟨wellTyped_standard, htyped, by decide, nofun, rfl, by decide +kernel, ?_⟩
  rw [createTable_result .standard (by decide) rfl, columnLines_eq wellTyped_standard htyped,
    hfirst]
  rfl

end Backend

end SqlRender
