import SqlRender.Proofs.TableStatement

/-!
# Columns of the primary key

Two places decide about a column of the primary key. The schema puts a column into the key when a
call makes it primary, by its own options alone. The line of the column says whether it may be null,
and is written later, from its last options with the defaults of its type behind them. The two agree
about a column unless a call makes it primary and its options in the end let it be null, or its type
makes it primary and no call does.

* `Schema.Call.MakesPrimary`: a call makes a column primary.
* `Schema.Holds.lists_iff`: the columns of the primary key.
* `Backend.lineText_ne`: what a line says about null can be read off it.
* `primary_column_agrees_iff`: when the line of a column and the primary key agree.
-/

namespace SqlRender

namespace Schema

/-! ## What calls make primary -/

/-- The column stands in the primary key. -/
def Lists (s : Schema) (name : String) : Prop := ∃ key ∈ s.primaryKey, .text name ∈ key.columns

namespace Call

/-- Options are maps: each key stands in them once. -/
def HasMaps : Call → Prop
  | .addColumn _ options _ => ∀ own ∈ options, (own.map Prod.fst).Nodup
  | .addColumns columns => ∀ column ∈ columns, ∀ own ∈ column.2, (own.map Prod.fst).Nodup
  | _ => True

/-- The call makes a column primary: by a key, or by an option of the column that counts as true. -/
def MakesPrimary (name : String) : Call → Prop
  | .addColumn column options extra =>
    column = name ∧ ((givenOptions options extra).find "primary").isTrue = true
  | .addColumns columns =>
    ∃ column ∈ columns, column.1 = name ∧
      ((givenOptions column.2 []).find "primary").isTrue = true
  | .addPrimary columns _ => name ∈ columns.names
  | _ => False

end Call

/-- Declarations that make a column primary. -/
def Declared.MakesPrimary (name : String) (d : Declared) : Prop :=
  ∃ key ∈ d.primary, name ∈ key.columns

theorem Declared.makesPrimary_append {name : String} {d d' : Declared} :
    (d ++ d').MakesPrimary name ↔ d.MakesPrimary name ∨ d'.MakesPrimary name := by
  simp [MakesPrimary, List.mem_append, or_and_right, exists_or]

theorem columnDeclared_primary (name : String) (options : Mapping) :
    (columnDeclared name options).primary =
      if (options.find "primary").isTrue then [⟨[name], group? (options.find "primary")⟩]
      else [] := by
  simp only [columnDeclared, Declared.primary_append, declaredBy]
  by_cases hprimary : (options.find "primary").isTrue = true <;>
    by_cases hunique : (options.find "unique").isTrue = true <;>
    by_cases hindex : (options.find "index").isTrue = true <;>
    simp [hprimary, hunique, hindex]

theorem makesPrimary_columnDeclared {name column : String} {options : Mapping} :
    (columnDeclared column options).MakesPrimary name ↔
      column = name ∧ (options.find "primary").isTrue = true := by
  rw [Declared.MakesPrimary, columnDeclared_primary]
  split
  · next hprimary =>
    simp only [List.mem_singleton, exists_eq_left, hprimary, and_true]
    exact eq_comm
  · next hprimary => simp [hprimary]

theorem makesPrimary_columnsDeclared {name : String} {columns : List (String × Option Mapping)} :
    (columnsDeclared columns).MakesPrimary name ↔
      ∃ column ∈ columns, column.1 = name ∧
        ((givenOptions column.2 []).find "primary").isTrue = true := by
  induction columns with
  | nil => simp [columnsDeclared, Declared.MakesPrimary]
  | cons column columns ih =>
    obtain ⟨column, options⟩ := column
    rw [columnsDeclared, Declared.makesPrimary_append, makesPrimary_columnDeclared, ih]
    simp

theorem Call.makesPrimary_declared {name : String} {call : Call} :
    call.declared.MakesPrimary name ↔ call.MakesPrimary name := by
  cases call with
  | addColumn column options extra => exact makesPrimary_columnDeclared
  | addColumns columns => exact makesPrimary_columnsDeclared
  | addPrimary columns constraint => simp [Call.declared, Declared.MakesPrimary, Call.MakesPrimary]
  | _ => simp [Call.declared, Declared.MakesPrimary, Call.MakesPrimary]

theorem Call.makesPrimary_declaredAll {name : String} {calls : List Call} :
    (Call.declaredAll calls).MakesPrimary name ↔ ∃ call ∈ calls, call.MakesPrimary name := by
  induction calls with
  | nil => simp [Call.declaredAll, Declared.MakesPrimary]
  | cons call calls ih =>
    rw [Call.declaredAll, Declared.makesPrimary_append, Call.makesPrimary_declared, ih]
    simp

theorem mem_mergedColumns {name : String} {declared : List (List String)} :
    .text name ∈ mergedColumns declared ↔ ∃ columns ∈ declared, name ∈ columns := by
  simp [mergedColumns, List.mem_eraseDups]

variable {table : String} {d : Declared} {s : Schema}

/-- The columns of the primary key are those that declarations make primary. -/
theorem Holds.lists_iff (h : Holds table d s) (name : String) :
    s.Lists name ↔ d.MakesPrimary name := by
  rw [Lists, h.primary, primaryKeyOf, Declared.MakesPrimary]
  split
  · next hempty =>
    rw [List.isEmpty_iff.mp hempty]
    simp
  · simp [mem_mergedColumns]

/-- The primary key of declarations consists of names. -/
theorem Holds.wellTyped_primary (h : Holds table d s) : ∀ key ∈ s.primaryKey, key.WellTyped := by
  intro key hkey
  rw [h.primary, primaryKeyOf] at hkey
  split at hkey
  · cases hkey
  · cases hkey
    refine ⟨?_, ?_⟩
    · intro column hcolumn
      obtain ⟨name, -, rfl⟩ := List.mem_map.mp hcolumn
      rfl
    · cases lastName? d.primary with
      | none => rfl
      | some name => simp [textOrNull, Value.isOptionalName, Value.isText]

/-! ## The options that stand in the end -/

/-- Every column that a call declares has a map of options, and is primary if they say so. -/
structure Declared.Sound (d : Declared) : Prop where
  maps : ∀ column ∈ d.columns, (column.2.map Prod.fst).Nodup
  primary : ∀ column ∈ d.columns, (column.2.find "primary").isTrue = true → d.MakesPrimary column.1

theorem Declared.Sound.append {d d' : Declared} (h : d.Sound) (h' : d'.Sound) :
    (d ++ d').Sound where
  maps column hcolumn := by
    rcases List.mem_append.mp hcolumn with hmem | hmem
    · exact h.maps column hmem
    · exact h'.maps column hmem
  primary column hcolumn hprimary := by
    rw [Declared.makesPrimary_append]
    rcases List.mem_append.mp hcolumn with hmem | hmem
    · exact .inl (h.primary column hmem hprimary)
    · exact .inr (h'.primary column hmem hprimary)

theorem Declared.sound_nothing : ({} : Declared).Sound := ⟨by simp, by simp⟩

theorem nodup_givenOptions {options : Option Mapping}
    (h : ∀ own ∈ options, (own.map Prod.fst).Nodup) (extra : List (String × Value)) :
    ((givenOptions options extra).map Prod.fst).Nodup := by
  have hstart : ((options.getD []).map Prod.fst).Nodup := by
    cases options with
    | none => simp
    | some own => exact h own rfl
  rw [givenOptions]
  generalize options.getD [] = own at hstart
  induction extra generalizing own with
  | nil => exact hstart
  | cons entry extra ih => exact ih _ ((Value.exact_text entry.1).nodup_put entry.2 hstart)

theorem columnDeclared_columns (name : String) (options : Mapping) :
    (columnDeclared name options).columns = [(name, options)] := by
  simp only [columnDeclared, Declared.columns_append, declaredBy]
  by_cases hprimary : (options.find "primary").isTrue = true <;>
    by_cases hunique : (options.find "unique").isTrue = true <;>
    by_cases hindex : (options.find "index").isTrue = true <;>
    simp [hprimary, hunique, hindex]

theorem sound_columnDeclared {options : Mapping} (h : (options.map Prod.fst).Nodup)
    (name : String) : (columnDeclared name options).Sound where
  maps := by
    rw [columnDeclared_columns, List.forall_mem_singleton]
    exact h
  primary := by
    rw [columnDeclared_columns, List.forall_mem_singleton]
    intro hprimary
    exact makesPrimary_columnDeclared.mpr ⟨rfl, hprimary⟩

theorem Call.sound_declared {call : Call} (h : call.HasMaps) : call.declared.Sound := by
  cases call with
  | addColumn column options extra => exact sound_columnDeclared (nodup_givenOptions h extra) column
  | addColumns columns =>
    show (columnsDeclared columns).Sound
    have hcolumns : ∀ column ∈ columns, ∀ own ∈ column.2, (own.map Prod.fst).Nodup := h
    clear h
    induction columns with
    | nil => exact Declared.sound_nothing
    | cons column columns ih =>
      obtain ⟨hcolumn, hrest⟩ := List.forall_mem_cons.mp hcolumns
      exact (sound_columnDeclared (nodup_givenOptions hcolumn []) column.1).append (ih hrest)
  | _ => exact ⟨by simp [Call.declared], by simp [Call.declared]⟩

theorem Call.sound_declaredAll {calls : List Call} (h : ∀ call ∈ calls, call.HasMaps) :
    (Call.declaredAll calls).Sound := by
  induction calls with
  | nil => exact Declared.sound_nothing
  | cons call calls ih =>
    obtain ⟨hcall, hrest⟩ := List.forall_mem_cons.mp h
    exact (Call.sound_declared hcall).append (ih hrest)

/-- The columns of a schema stand there with options that were declared for them. -/
theorem Holds.mem_columns {table : String} {d : Declared} {s : Schema} (h : Holds table d s)
    {column : Value × Mapping} (hcolumn : column ∈ s.columns) :
    ∃ name, column.1 = .text name ∧ (name, column.2) ∈ d.columns := by
  obtain ⟨key, options⟩ := column
  have hkey : key ∈ s.columns.map Prod.fst := List.mem_map.mpr ⟨_, hcolumn, rfl⟩
  rw [h.names] at hkey
  obtain ⟨name, -, rfl⟩ := List.mem_map.mp hkey
  have hnodup : (s.columns.map Prod.fst).Nodup := by
    rw [h.names]
    exact List.Pairwise.map Value.text (fun _ _ hne heq => hne (Value.text.inj heq))
      (nodup_eraseDups _)
  have hlast := (h.options name).symm.trans ((Value.exact_text name).get?_of_mem hnodup hcolumn)
  obtain ⟨⟨name', options'⟩, hmem, rfl⟩ := Option.map_eq_some_iff.mp hlast
  obtain ⟨hmem, hname⟩ := List.mem_filter.mp (List.mem_of_getLast? hmem)
  refine ⟨name, rfl, ?_⟩
  rwa [← of_decide_eq_true hname]

end Schema

/-! ## What a line says about null -/

/-- The options say that the column may be null, and nothing in them stands against it. -/
def mayBeNull (options : Mapping) : Bool :=
  (options.find "nullable").isTrue && !(options.find "primary").isTrue &&
    !(options.find "unique").isTrue

theorem nullWord_eq (options : Mapping) :
    nullWord options = if mayBeNull options then "NULL" else "NOT NULL" := by
  rw [nullWord, mayBeNull]
  cases (options.find "nullable").isTrue <;> cases (options.find "primary").isTrue <;>
    cases (options.find "unique").isTrue <;> rfl

namespace Backend

variable (b : Backend) (types : TypeCatalogue)

theorem head?_lineHead (name typeName : String) (type : ColumnType) (options : Mapping) :
    (Text.joined " " (b.lineHead types name typeName type options)).toList.head? =
      some b.markChar := by
  have hquote : ((b.dialect types).quoteIdentifier name).toList =
      b.markChar :: (Text.double [b.markChar] name.toList ++ [b.markChar]) := by
    rw [Dialect.quoteIdentifier, String.toList_ofList, mark_dialect]
    rfl
  rw [lineHead, List.append_assoc, List.cons_append, Text.joined_cons, String.toList_append, hquote]
  rfl

/-- What a line says about null stands between texts that do not depend on it. -/
theorem toList_lineText (word : String) (hword : Text.endsSolid word = true)
    (name typeName : String) (type : ColumnType) (options : Mapping) :
    (b.lineText types name typeName type options word).toList =
      (Text.joined " " (b.lineHead types name typeName type options)).toList ++
        (' ' :: word.toList) ++
        Text.stripRight
          (Text.joined "" ((b.defaultParts types options).map (" " ++ ·))).toList := by
  have hline : (Text.joined " " (b.lineHead types name typeName type options ++ [word] ++
      b.defaultParts types options)).toList =
      (Text.joined " " (b.lineHead types name typeName type options)).toList ++
        (' ' :: word.toList) ++
        (Text.joined "" ((b.defaultParts types options).map (" " ++ ·))).toList := by
    have hhead : b.lineHead types name typeName type options ≠ [] := by simp [lineHead]
    rw [Text.joined_append (by simp), Text.joined_append hhead]
    simp [Text.joined]
  obtain ⟨c, hc, hsolid⟩ : ∃ c, word.toList.getLast? = some c ∧ Text.isBlank c = false := by
    simpa [Text.endsSolid, Option.any_eq_true] using hword
  have hfirst := b.head?_lineHead types name typeName type options
  rw [lineText, String.toList_ofList, hline]
  generalize
    (Text.joined " " (b.lineHead types name typeName type options)).toList = front at hfirst
  obtain ⟨rest, rfl⟩ : ∃ rest, front = b.markChar :: rest := List.head?_eq_some_iff.mp hfirst
  have hlast : (b.markChar :: rest ++ (' ' :: word.toList)).getLast? = some c := by
    simp [List.getLast?_cons, hc]
  refine Text.strip_append (by simp) ⟨?_, ?_⟩ _
  · simpa using b.markChar_not_blank
  · rw [hlast]
    simpa using hsolid

/-- What a line says about null can be read off it. -/
theorem lineText_ne (name typeName : String) (type : ColumnType) (options : Mapping) :
    b.lineText types name typeName type options "NULL" ≠
      b.lineText types name typeName type options "NOT NULL" := by
  intro heq
  have hlength := congrArg (fun text : String => text.toList.length) heq
  simp only [b.toList_lineText types "NULL" (by decide),
    b.toList_lineText types "NOT NULL" (by decide), List.length_append,
    List.length_cons] at hlength
  have hnull : "NULL".toList.length = 4 := rfl
  have hnotNull : "NOT NULL".toList.length = 8 := rfl
  omega

end Backend

/-! ## Agreement -/

/-- In the standard catalogue one type makes its columns primary. -/
theorem standard_primary : ∀ entry ∈ TypeCatalogue.standard.types,
    (entry.2.defaults.find "primary").isTrue = true ↔ entry.2.name = "serial" := by
  decide +kernel

/-- A column of a standard type is primary by its own options, or it is of the one type that makes
it so and says nothing itself. -/
theorem isTrue_primary_iff {type : ColumnType} {own : Mapping} (hown : (own.map Prod.fst).Nodup)
    (htype : TypeCatalogue.standard.resolve (own.find "type") = .ok type) :
    ((type.effective own).find "primary").isTrue = true ↔
      (own.find "primary").isTrue = true ∨
        type.name = "serial" ∧ Assoc.get? (.text "primary") own = none := by
  obtain ⟨name, hentry⟩ := TypeCatalogue.mem_of_resolve TypeCatalogue.folded_standard htype
  have hserial := standard_primary _ hentry
  rw [type.find_effective hown, Mapping.find, ← hserial, Mapping.find]
  cases Assoc.get? (.text "primary") own with
  | none => simp [Value.isTrue]
  | some v => simp

namespace Backend

/-- The line of the primary key is the first of the keys. -/
theorem primary_first {b : Backend} {types : TypeCatalogue} {s : Schema} {key : Key}
    (hkey : key ∈ s.primaryKey) (htyped : key.WellTyped) {keys : String}
    (h : (b.dialect types).keyLines s = .ok keys) :
    (",\n" ++ b.keyText types "PRIMARY KEY" key).toList <+: keys.toList := by
  have hprimary : s.primaryKey = some key := hkey
  obtain ⟨primary, hlines, h⟩ := bind_eq_ok.mp h
  obtain ⟨unique, -, h⟩ := bind_eq_ok.mp h
  obtain ⟨foreign, -, h⟩ := bind_eq_ok.mp h
  have hline : s.primaryKey.toList.mapM ((b.dialect types).keyLine .primaryKey) =
      .ok [b.keyText types "PRIMARY KEY" key] := by
    rw [hprimary]
    exact mapM_eq_map (g := b.keyText types "PRIMARY KEY") fun key' hkey' => by
      rw [List.mem_singleton.mp hkey']
      exact primaryLine_eq types htyped
  cases hline.symm.trans hlines
  cases h
  rw [List.append_assoc, List.singleton_append, List.map_cons, Text.joined_empty_cons,
    String.toList_append (s := ",\n" ++ _)]
  exact List.prefix_append _ _

end Backend

/-- The primary key is written in front of the other keys, with the columns that a call makes
primary. A column that is primary by its effective options is among them unless only its type makes
it so, and a column among them has a line that says `NOT NULL` unless its effective options let it
be null. -/
theorem primary_column_agrees_iff (b : Backend) (table : String) (tableOptions : Mapping)
    (calls : List Schema.Call) (hcalls : ∀ call ∈ calls, call.HasMaps) :
    ∃ s, (calls.forM Schema.Call.run).run { table, options := tableOptions } = .ok () s ∧
      (∀ key ∈ s.primaryKey,
        (b.dialect .standard).keyLine .primaryKey key =
          .ok (b.keyText .standard "PRIMARY KEY" key) ∧
        ∀ keys, (b.dialect .standard).keyLines s = .ok keys →
          (",\n" ++ b.keyText .standard "PRIMARY KEY" key).toList <+: keys.toList) ∧
      ∀ column ∈ s.columns, ∃ name, column.1 = .text name ∧
        (s.Lists name ↔ ∃ call ∈ calls, call.MakesPrimary name) ∧
        ∀ type, TypeCatalogue.standard.resolve (column.2.find "type") = .ok type →
          ((((type.effective column.2).find "primary").isTrue = true → s.Lists name) ↔
            ¬(type.name = "serial" ∧ Assoc.get? (.text "primary") column.2 = none ∧
              ¬∃ call ∈ calls, call.MakesPrimary name)) ∧
          (b.optionsFault? .standard (type.effective column.2) = none →
            ∃ line, (b.dialect .standard).columnLine column.1 (.map column.2) = .ok line ∧
              ((s.Lists name → line = b.lineText .standard name (column.2.find "type").display type
                  (type.effective column.2) "NOT NULL") ↔
                ¬((∃ call ∈ calls, call.MakesPrimary name) ∧
                  mayBeNull (type.effective column.2) = true))) := by
  obtain ⟨s, hrun, hs⟩ := (Schema.Holds.fresh table tableOptions).calls calls
  have hnothing : ({} : Schema.Declared) ++ Schema.Call.declaredAll calls =
      Schema.Call.declaredAll calls := by
    ext1 <;> simp
  rw [hnothing] at hs
  have hsound := Schema.Call.sound_declaredAll hcalls
  refine ⟨s, hrun, fun key hkey => ?_, fun column hcolumn => ?_⟩
  · have htyped := hs.wellTyped_primary key hkey
    exact ⟨Backend.primaryLine_eq _ htyped, fun _ hkeys => Backend.primary_first hkey htyped hkeys⟩
  · obtain ⟨name, hname, hdeclared⟩ := hs.mem_columns hcolumn
    have hlists : s.Lists name ↔ ∃ call ∈ calls, call.MakesPrimary name :=
      (hs.lists_iff name).trans Schema.Call.makesPrimary_declaredAll
    have hmaps : (column.2.map Prod.fst).Nodup := hsound.maps _ hdeclared
    refine ⟨name, hname, hlists, fun type htype => ⟨?_, fun hfault => ?_⟩⟩
    · have hown : (column.2.find "primary").isTrue = true → s.Lists name := fun hprimary =>
        (hs.lists_iff name).mpr (hsound.primary _ hdeclared hprimary)
      rw [isTrue_primary_iff hmaps htype, ← hlists]
      tauto
    · have hline := b.columnLine_of_resolve name hmaps htype
      rw [hfault, nullWord_eq] at hline
      refine ⟨_, hname ▸ hline, ?_⟩
      rw [← hlists]
      cases mayBeNull (type.effective column.2) with
      | false => simp
      | true =>
        have hne := b.lineText_ne .standard name (column.2.find "type").display type
          (type.effective column.2)
        simp only [if_true, and_true]
        exact ⟨fun h hlisted => hne (h hlisted), fun h hlisted => absurd hlisted h⟩

/-- A primary column that says it may be null. -/
def memberOptions : Mapping :=
  [(.text "type", .text "int"), (.text "nullable", .bool true), (.text "primary", .text "pk")]

/-- Two columns that say they may be null, of which one is primary. -/
def memberCalls : List Schema.Call :=
  [.addColumn "id" (some (memberOptions.take 2)) [("primary", .text "pk")],
   .addColumn "nick" (some [(.text "type", .text "text"), (.text "nullable", .bool true)]) []]

theorem memberCalls_agree :
    (∀ call ∈ memberCalls, call.HasMaps) ∧
      ∃ s, (memberCalls.forM Schema.Call.run).run { table := "members" } = .ok () s ∧
        s.Lists "id" ∧ ¬s.Lists "nick" ∧
        (Backend.mysql.dialect .standard).columnLine (.text "id") (.map memberOptions) =
          .ok "\x60id\x60 integer NOT NULL" := by
  have hmaps : ∀ call ∈ memberCalls, call.HasMaps := by
    simp [memberCalls, memberOptions, Schema.Call.HasMaps]
  obtain ⟨s, hrun, -, hcolumns⟩ := primary_column_agrees_iff .mysql "members" [] memberCalls hmaps
  have hfields : s.columns = [(.text "id", memberOptions),
      (.text "nick", [(.text "type", .text "text"), (.text "nullable", .bool true)])] := by
    cases hrun
    rfl
  rw [hfields, List.forall_mem_cons, List.forall_mem_singleton] at hcolumns
  obtain ⟨⟨id, hid, hlists, htypes⟩, nick, hnick, hnickLists, -⟩ := hcolumns
  cases hid
  cases hnick
  have hprimary : ∃ call ∈ memberCalls, call.MakesPrimary "id" :=
    ⟨_, List.mem_cons_self, rfl, by decide +kernel⟩
  obtain ⟨line, hline, hsays⟩ := (htypes { name := "int" } rfl).2 (by rfl)
  refine ⟨hmaps, s, hrun, hlists.mpr hprimary, ?_, ?_⟩
  · rw [hnickLists]
    rintro ⟨call, hcall, hmakes⟩
    rcases List.mem_pair.mp hcall with rfl | rfl
    · exact absurd hmakes.1 (by decide)
    · exact absurd hmakes.2 (by decide +kernel)
  · have hnull : ¬((∃ call ∈ memberCalls, call.MakesPrimary "id") ∧
        mayBeNull (ColumnType.effective { name := "int" } memberOptions) = true) := by
      rintro ⟨-, hnull⟩
      exact absurd hnull (by decide +kernel)
    rw [hline, hsays.mpr hnull (hlists.mpr hprimary)]
    refine congrArg Except.ok ?_
    decide +kernel

/-- A column that may be null and that a key makes primary. -/
def nullableKeyCalls : List Schema.Call :=
  [.addColumn "a" (some [(.text "type", .text "int"), (.text "nullable", .bool true)]) [],
   .addPrimary (.one "a") none]

/-- A column that its type makes primary. -/
def serialCalls : List Schema.Call := [.addColumn "id" (some [(.text "type", .text "serial")]) []]

/-- A column of the primary key may say that it can be null, and a primary column need not be in
it. -/
theorem primary_column_disagrees :
    (∃ s, (nullableKeyCalls.forM Schema.Call.run).run { table := "t" } = .ok () s ∧
      (Backend.ansi.dialect .standard).keyLines s = .ok ",\nPRIMARY KEY (\"a\")" ∧
      (Backend.ansi.dialect .standard).columnLines s = .ok "\"a\" integer NULL") ∧
    ∃ s, (serialCalls.forM Schema.Call.run).run { table := "t" } = .ok () s ∧
      (Backend.ansi.dialect .standard).keyLines s = .ok "" ∧
      (Backend.ansi.dialect .standard).columnLines s = .ok "\"id\" serial NOT NULL" :=
  ⟨⟨_, rfl, rfl, rfl⟩, _, rfl, rfl, rfl⟩

end SqlRender
