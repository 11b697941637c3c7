import SqlRender.ColumnType
import SqlRender.Format
import SqlRender.Registry
import SqlRender.Text.Pieces

/-!
# Dialects

A dialect is a name, the mark around identifiers, a catalogue of types and four registries:
keywords, clause formats, statement templates and words for types. It is composed by writing
entries on top of each other and then frozen.

The entries of the library are texts. A caller may register any value, and only the use of an entry
shows whether it can stand where a text is needed.
-/

namespace SqlRender

structure Dialect where
  name : String
  /-- The text in front of and behind a quoted identifier. -/
  mark : String
  types : TypeCatalogue
  keywords : Registry Keyword Value
  clauses : Registry Clause Value
  /-- The templates of statements. -/
  statements : Registry StatementKind Value
  typeAliases : Registry String Value

/-- The registries of a dialect. -/
inductive Dialect.Table where
  | keywords | clauses | statements | typeAliases
deriving DecidableEq, Repr

/-- An entry of a dialect. -/
inductive Dialect.Entry where
  | keyword (key : Keyword) (text : String)
  | clause (key : Clause) (text : String)
  | statement (key : StatementKind) (text : String)
  | typeAlias (key text : String)
deriving DecidableEq, Repr

/-- A registration as a caller asks for it, with a key that may be of the wrong type. -/
structure Dialect.Write where
  table : Dialect.Table
  key : Value
  item : Value

def Dialect.Entry.toWrite : Dialect.Entry → Dialect.Write
  | .keyword key text => ⟨.keywords, .keyword key, .text text⟩
  | .clause key text => ⟨.clauses, .clause key, .text text⟩
  | .statement key text => ⟨.statements, .kind key, .text text⟩
  | .typeAlias key text => ⟨.typeAliases, .text key, .text text⟩

namespace Dialect

/-- How a dialect shows itself. -/
def display (d : Dialect) : String := "<Dialect " ++ d.name ++ ">"

/-- A dialect without entries. -/
def blank (name mark : String) (types : TypeCatalogue) : Dialect where
  name := name
  mark := mark
  types := types
  keywords := { owner := .text name }
  clauses := { owner := .text name }
  statements := { owner := .text name }
  typeAliases := { owner := .text name }

/-- The dialect with an entry written over what was there. -/
def put (d : Dialect) : Entry → Dialect
  | .keyword key text => { d with keywords := d.keywords.put key (.text text) }
  | .clause key text => { d with clauses := d.clauses.put key (.text text) }
  | .statement key text => { d with statements := d.statements.put key (.text text) }
  | .typeAlias key text => { d with typeAliases := d.typeAliases.put key (.text text) }

def putAll (d : Dialect) (entries : List Entry) : Dialect := entries.foldl put d

/-- Registers an item in one of the registries. -/
def register (d : Dialect) (w : Write) : Except Error Dialect :=
  match w.table with
  | .keywords => do return { d with keywords := ← d.keywords.register w.key w.item }
  | .clauses => do return { d with clauses := ← d.clauses.register w.key w.item }
  | .statements => do return { d with statements := ← d.statements.register w.key w.item }
  | .typeAliases => do return { d with typeAliases := ← d.typeAliases.register w.key w.item }

def registerAll (d : Dialect) (writes : List Write) : Except Error Dialect :=
  writes.foldlM register d

def freeze (d : Dialect) : Dialect :=
  { d with
    keywords := d.keywords.freeze
    clauses := d.clauses.freeze
    statements := d.statements.freeze
    typeAliases := d.typeAliases.freeze }

/-! ## Symbols -/

/-- What is registered for the keyword that a value names. -/
def keywordOf (d : Dialect) (key : Value) : Except Error Value :=
  d.keywords.lookup .unknownSymbol key

def keyword (d : Dialect) (k : Keyword) : Except Error Value := d.keywordOf (.keyword k)

/-- A keyword inside a longer text. -/
def keywordText (d : Dialect) (k : Keyword) : Except Error String := do
  (← d.keyword k).shown Value.display

/-- What is registered as the format of the clause that a value names. -/
def formatOf (d : Dialect) (key : Value) : Except Error Value :=
  d.clauses.lookup .unknownSymbol key

/-- The clause that a value names, with its arguments, of which there is at least one. -/
def clauseOf (d : Dialect) (key : Value) (args : List Value) : Except Error String := do
  Format.apply (← (← d.formatOf key).asPart) (.ofList args)

/-- The clause that a value names. Without arguments the format stands for itself. -/
def clauseValue (d : Dialect) (key : Value) (args : List Value) : Except Error Value :=
  if args.isEmpty then d.formatOf key else .text <$> d.clauseOf key args

def clause (d : Dialect) (c : Clause) (args : List String) : Except Error String :=
  d.clauseOf (.clause c) (args.map .text)

/-- What is registered as the template for the kind of statement that a value names. -/
def templateOf (d : Dialect) (kind : Value) : Except Error Value :=
  d.statements.lookup .unsupportedStatement kind

/-- The dialect has a template for the kind of statement that a value names. -/
def supports (d : Dialect) (kind : Value) : Except Error Bool := do
  return (← d.statements.find? kind).isSome

/-- The word for a type: the alias of the name under which it was asked for, else its own. An alias
that is null is none. -/
def typeWord (d : Dialect) (name : String) (type : ColumnType) : Value :=
  match d.typeAliases.item? (Text.lower name) with
  | none | some .null => .text type.sqlToken
  | some word => word

/-! ## Identifiers -/

/-- An identifier between marks, with every mark inside it written twice. -/
def quoteChars (mark name : List Char) : List Char :=
  mark ++ Text.double mark name ++ mark

def quoteIdentifier (d : Dialect) (name : String) : String :=
  String.ofList (quoteChars d.mark.toList name.toList)

/-- A segment of a dotted name; a star stays as it is. -/
def quoteSegment (mark segment : List Char) : List Char :=
  if segment = ['*'] then segment else quoteChars mark segment

/-- A dotted name, segment by segment. -/
def quote (d : Dialect) (name : String) : String :=
  String.ofList (Text.join ['.']
    ((Text.split '.' name.toList).map (quoteSegment d.mark.toList)))

def quoteName (d : Dialect) (name : Value) : Except Error String := do
  return d.quote (← name.asText)

/-- Names with a comma and a space between them. -/
def quoteNames (d : Dialect) (names : List Value) : Except Error String := do
  return Text.joined ", " (← names.mapM d.quoteName)

/-- The names that a value gives. -/
def quoteList (d : Dialect) (names : Value) : Except Error String := do
  d.quoteNames (← names.asItems)

/-- An identifier that a value names. -/
def quoteIdentifierOf (d : Dialect) (name : Value) : Except Error String := do
  return d.quoteIdentifier (← name.asText)

end Dialect

end SqlRender
