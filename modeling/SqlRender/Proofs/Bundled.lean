import SqlRender.Backend
import SqlRender.Proofs.Format
import SqlRender.Proofs.MapKey
import SqlRender.Template

/-!
# The tables of the bundled backends

A table holds for each key what the last entry for it says. For a bundled backend the entries are
those of the baseline, followed by its own, so every question about its keywords, clauses and
templates is one about a fixed list.

* `item?_putAll`: the last entry decides.
* `Backend.clause_eq`, `Backend.keywordText_eq`, `Backend.templateOf_eq`: what a bundled dialect
  gives for a symbol.
-/

namespace SqlRender

/-! ## The last entry decides -/

namespace Dialect

namespace Entry

def asKeyword? : Entry → Option (Keyword × String)
  | .keyword key text => some (key, text)
  | _ => none

def asClause? : Entry → Option (Clause × String)
  | .clause key text => some (key, text)
  | _ => none

def asStatement? : Entry → Option (StatementKind × String)
  | .statement key text => some (key, text)
  | _ => none

def asTypeAlias? : Entry → Option (String × String)
  | .typeAlias key text => some (key, text)
  | _ => none

end Entry

variable {κ : Type} [DecidableEq κ]

/-- What the last entry for a key says, where `pick` finds the entries of one table. -/
def lastText? (pick : Entry → Option (κ × String)) (key : κ) (entries : List Entry) :
    Option String :=
  entries.reverse.findSome? fun entry =>
    (pick entry).bind fun pair => if pair.1 = key then some pair.2 else none

theorem lastText?_mem {pick : Entry → Option (κ × String)} {key : κ} {entries : List Entry}
    {text : String} (h : lastText? pick key entries = some text) :
    ∃ entry ∈ entries, pick entry = some (key, text) := by
  obtain ⟨entry, hmem, hpick⟩ := List.exists_of_findSome?_eq_some h
  obtain ⟨⟨k, t⟩, hk, ht⟩ := Option.bind_eq_some_iff.mp hpick
  refine ⟨entry, List.mem_reverse.mp hmem, ?_⟩
  by_cases heq : k = key
  · rw [if_pos heq] at ht
    cases ht
    rw [hk, heq]
  · rw [if_neg heq] at ht
    cases ht

/-- `pick` finds the entries that are written into the table that `table` selects. -/
def Picks (pick : Entry → Option (κ × String)) (table : Dialect → Registry κ Value) : Prop :=
  ∀ d entry, table (d.put entry) =
    match pick entry with
    | some (key, text) => (table d).put key (.text text)
    | none => table d

theorem picks_keywords : Picks Entry.asKeyword? Dialect.keywords := by
  intro d entry
  cases entry <;> rfl

theorem picks_clauses : Picks Entry.asClause? Dialect.clauses := by
  intro d entry
  cases entry <;> rfl

theorem picks_statements : Picks Entry.asStatement? Dialect.statements := by
  intro d entry
  cases entry <;> rfl

theorem picks_typeAliases : Picks Entry.asTypeAlias? Dialect.typeAliases := by
  intro d entry
  cases entry <;> rfl

/-- What a table holds after entries have been written: the last one for the key, otherwise what
was there. -/
theorem item?_putAll {pick : Entry → Option (κ × String)} {table : Dialect → Registry κ Value}
    (hpick : Picks pick table) (d : Dialect) (entries : List Entry) (key : κ) :
    (table (d.putAll entries)).item? key =
      ((lastText? pick key entries).map .text).or ((table d).item? key) := by
  induction entries generalizing d with
  | nil => rfl
  | cons entry rest ih =>
    have hput : d.putAll (entry :: rest) = (d.put entry).putAll rest := rfl
    rw [hput, ih, hpick d entry, lastText?, lastText?, List.reverse_cons, List.findSome?_append]
    cases hlast : rest.reverse.findSome? _ with
    | some text => rfl
    | none =>
      cases hp : pick entry with
      | none => simp [hp]
      | some pair =>
        obtain ⟨k, text⟩ := pair
        by_cases hk : k = key
        · simp [hp, hk, Registry.item?, Registry.put, Assoc.get?_put]
        · simp [hp, hk, Registry.item?, Registry.put, Assoc.get?_put]

theorem owner_putAll {pick : Entry → Option (κ × String)} {table : Dialect → Registry κ Value}
    (hpick : Picks pick table) (d : Dialect) (entries : List Entry) :
    (table (d.putAll entries)).owner = (table d).owner := by
  induction entries generalizing d with
  | nil => rfl
  | cons entry rest ih =>
    have hput : d.putAll (entry :: rest) = (d.put entry).putAll rest := rfl
    rw [hput, ih, hpick d entry]
    cases pick entry <;> rfl

end Dialect

/-! ## Bundled backends -/

namespace Backend

/-- The entries of a backend, those of the baseline first. -/
def entries (b : Backend) : List Dialect.Entry := Dialect.baseline ++ b.overlay

def keywordText? (b : Backend) (k : Keyword) : Option String :=
  Dialect.lastText? Dialect.Entry.asKeyword? k b.entries

def clauseText? (b : Backend) (c : Clause) : Option String :=
  Dialect.lastText? Dialect.Entry.asClause? c b.entries

def templateText? (b : Backend) (k : StatementKind) : Option String :=
  Dialect.lastText? Dialect.Entry.asStatement? k b.entries

def typeAliasText? (b : Backend) (name : String) : Option String :=
  Dialect.lastText? Dialect.Entry.asTypeAlias? name b.entries

/-- What holds of all entries of the baseline and of the overlays holds of all entries. -/
theorem entries_all {P : Dialect.Entry → Bool} (hbase : Dialect.baseline.all P = true)
    (hoverlay : ∀ b : Backend, b.overlay.all P = true) (b : Backend) :
    ∀ entry ∈ b.entries, P entry = true := by
  intro entry hmem
  rcases List.mem_append.mp hmem with hmem | hmem
  · exact List.all_eq_true.mp hbase entry hmem
  · exact List.all_eq_true.mp (hoverlay b) entry hmem

theorem openDialect_eq (b : Backend) (types : TypeCatalogue) :
    b.openDialect types = (Dialect.blank b.name b.mark types).putAll b.entries :=
  (List.foldl_append ..).symm

variable (b : Backend) (types : TypeCatalogue)

theorem keywords_item? (k : Keyword) :
    (b.dialect types).keywords.item? k = (b.keywordText? k).map .text := by
  have h := Dialect.item?_putAll Dialect.picks_keywords (Dialect.blank b.name b.mark types)
    b.entries k
  rw [← openDialect_eq] at h
  exact h.trans (Option.or_none ..)

theorem clauses_item? (c : Clause) :
    (b.dialect types).clauses.item? c = (b.clauseText? c).map .text := by
  have h := Dialect.item?_putAll Dialect.picks_clauses (Dialect.blank b.name b.mark types)
    b.entries c
  rw [← openDialect_eq] at h
  exact h.trans (Option.or_none ..)

theorem statements_item? (k : StatementKind) :
    (b.dialect types).statements.item? k = (b.templateText? k).map .text := by
  have h := Dialect.item?_putAll Dialect.picks_statements (Dialect.blank b.name b.mark types)
    b.entries k
  rw [← openDialect_eq] at h
  exact h.trans (Option.or_none ..)

theorem typeAliases_item? (name : String) :
    (b.dialect types).typeAliases.item? name = (b.typeAliasText? name).map .text := by
  have h := Dialect.item?_putAll Dialect.picks_typeAliases (Dialect.blank b.name b.mark types)
    b.entries name
  rw [← openDialect_eq] at h
  exact h.trans (Option.or_none ..)

/-- The tables of a bundled dialect have its name. -/
theorem owner_eq {κ : Type} [DecidableEq κ] {pick : Dialect.Entry → Option (κ × String)}
    {table : Dialect → Registry κ Value} (hpick : Dialect.Picks pick table)
    (hfreeze : ∀ d : Dialect, (table d.freeze).owner = (table d).owner)
    (hblank : (table (Dialect.blank b.name b.mark types)).owner = .text b.name) :
    (table (b.dialect types)).owner = .text b.name := by
  have hopen : (table (b.dialect types)).owner = (table (b.openDialect types)).owner := hfreeze _
  rw [hopen, openDialect_eq, Dialect.owner_putAll hpick, hblank]

theorem keyword_eq {k : Keyword} {text : String} (h : b.keywordText? k = some text) :
    (b.dialect types).keyword k = .ok (.text text) := by
  have hlookup := (b.dialect types).keywords.lookup_eq .unknownSymbol (.keyword k) rfl
  rw [keywords_item?, h] at hlookup
  exact hlookup

theorem keywordText_eq (k : Keyword) :
    (b.dialect types).keywordText k =
      (b.keywordText? k).elim
        (.error (.unknownSymbol (.keyword k) (.text b.name))) .ok := by
  have hlookup := (b.dialect types).keywords.lookup_eq .unknownSymbol (.keyword k) rfl
  rw [keywords_item?, b.owner_eq types Dialect.picks_keywords (fun _ => rfl) rfl] at hlookup
  rw [Dialect.keywordText, Dialect.keyword, Dialect.keywordOf, hlookup]
  cases b.keywordText? k <;> rfl

theorem formatOf_eq (c : Clause) :
    (b.dialect types).formatOf (.clause c) =
      (b.clauseText? c).elim
        (.error (.unknownSymbol (.clause c) (.text b.name))) (.ok ∘ .text) := by
  have hlookup := (b.dialect types).clauses.lookup_eq .unknownSymbol (.clause c) rfl
  rw [clauses_item?, b.owner_eq types Dialect.picks_clauses (fun _ => rfl) rfl] at hlookup
  rw [Dialect.formatOf, hlookup]
  cases b.clauseText? c <;> rfl

theorem templateOf_eq (k : StatementKind) :
    (b.dialect types).templateOf (.kind k) =
      (b.templateText? k).elim
        (.error (.unsupportedStatement (.kind k) (.text b.name))) (.ok ∘ .text) := by
  have hlookup := (b.dialect types).statements.lookup_eq .unsupportedStatement (.kind k) rfl
  rw [statements_item?, b.owner_eq types Dialect.picks_statements (fun _ => rfl) rfl] at hlookup
  rw [Dialect.templateOf, hlookup]
  cases b.templateText? k <;> rfl

/-! ## Formats -/

/-- The texts of the format of a clause. -/
def formatTexts? (c : Clause) : Option (List Char × List (List Char)) :=
  (b.clauseText? c).bind fun format => Format.texts? format.toList

/-- The formats of the bundled backends have no directive but `%s`. -/
theorem formatTexts?_isSome {c : Clause} {format : String} (h : b.clauseText? c = some format) :
    ∃ text texts, b.formatTexts? c = some (text, texts) := by
  have hall : ∀ entry ∈ b.entries, entry.asClause?.all (fun pair =>
      (Format.texts? pair.2.toList).isSome) = true := by
    refine entries_all ?_ (fun b => ?_) b
    · decide +kernel
    · cases b <;> decide +kernel
  obtain ⟨entry, hmem, hentry⟩ := Dialect.lastText?_mem h
  have hsome := hall entry hmem
  rw [hentry] at hsome
  obtain ⟨⟨text, texts⟩, htexts⟩ := Option.isSome_iff_exists.mp hsome
  refine ⟨text, texts, ?_⟩
  rw [formatTexts?, h]
  exact htexts

variable {b}

/-- A clause of a bundled dialect with texts in its places. -/
theorem clause_eq {c : Clause} {text : List Char} {texts : List (List Char)}
    (h : b.formatTexts? c = some (text, texts)) (args : List String) :
    (b.dialect types).clause c args =
      if args.length = texts.length then
        .ok (String.ofList (Format.weave text texts (args.map String.toList)))
      else .error .wrongType := by
  obtain ⟨format, hformat, htexts⟩ := Option.bind_eq_some_iff.mp h
  rw [Dialect.clause, Dialect.clauseOf, formatOf_eq, hformat]
  exact Format.apply_texts htexts args

/-- A clause with one place and any value in it. -/
theorem clauseOf_one {c : Clause} {before after : String}
    (h : b.formatTexts? c = some (before.toList, [after.toList])) (v : Value) :
    (b.dialect types).clauseOf (.clause c) [v] =
      (fun text => before ++ text ++ after) <$> v.shown Value.display := by
  obtain ⟨format, hformat, htexts⟩ := Option.bind_eq_some_iff.mp h
  rw [Dialect.clauseOf, formatOf_eq, hformat]
  show Format.apply format (.ofList [v]) = _
  rw [Format.apply, Format.fill_eq_write htexts, Format.write]
  cases v.shown Value.display with
  | error e => rfl
  | ok text =>
    simp [Format.write, bind, Except.bind, pure, Except.pure, Functor.map, Except.map,
      String.ofList_append, String.append_assoc]

/-- A clause with one place. -/
theorem clause_one {c : Clause} {before after : String}
    (h : b.formatTexts? c = some (before.toList, [after.toList])) (arg : String) :
    (b.dialect types).clause c [arg] = .ok (before ++ arg ++ after) := by
  rw [clause_eq types h]
  simp [Format.weave, String.ofList_append, String.append_assoc]

/-- A clause with two places. -/
theorem clause_two {c : Clause} {before between after : String}
    (h : b.formatTexts? c = some (before.toList, [between.toList, after.toList]))
    (first second : String) :
    (b.dialect types).clause c [first, second] =
      .ok (before ++ first ++ between ++ second ++ after) := by
  rw [clause_eq types h]
  simp [Format.weave, String.ofList_append, String.append_assoc]

/-- A clause with three places. -/
theorem clause_three {c : Clause} {before between between' after : String}
    (h : b.formatTexts? c =
      some (before.toList, [between.toList, between'.toList, after.toList]))
    (first second third : String) :
    (b.dialect types).clause c [first, second, third] =
      .ok (before ++ first ++ between ++ second ++ between' ++ third ++ after) := by
  rw [clause_eq types h]
  simp [Format.weave, String.ofList_append, String.append_assoc]

end Backend

end SqlRender
