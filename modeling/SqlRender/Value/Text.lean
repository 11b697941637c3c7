import SqlRender.Number.Shortest
import SqlRender.Text.Pieces
import SqlRender.Text.Quoted
import SqlRender.Value

/-!
# Texts of values

A value is *displayed* when it is put into SQL or at the top of a message, and *inspected* when it
stands inside another value or is quoted in a message. The two differ for texts, raw SQL and
symbols.

A value has no text if a whole number that stands in it has too many digits.
-/

namespace SqlRender.Value

def boolText (b : Bool) : String := if b then "True" else "False"

/-- A symbol with its tag. -/
def symbolText (owner name tag : String) : String :=
  "<" ++ owner ++ "." ++ name ++ ": " ++ Text.quoted tag ++ ">"

def inspectKeyword (k : Keyword) : String := symbolText "Keyword" k.name k.tag

mutual

/-- The text of a value inside another value. -/
def inspect : Value → String
  | .null => "None"
  | .bool b => boolText b
  | .int n => Text.ofInt n
  | .real x => x.text
  | .decimal d => "Decimal(" ++ Text.quoted d.text ++ ")"
  | .text s => Text.quoted s
  | .raw sql => "Raw(sql=" ++ Text.quoted sql ++ ")"
  | .keyword k => inspectKeyword k
  | .clause c => symbolText "Clause" c.name c.tag
  | .kind k => symbolText "QueryKind" k.name k.tag
  | .list items => "[" ++ Text.joined ", " (inspectAll items) ++ "]"
  | .tuple [item] => "(" ++ inspect item ++ ",)"
  | .tuple items => "(" ++ Text.joined ", " (inspectAll items) ++ ")"
  | .map entries => "\x7b" ++ Text.joined ", " (inspectEntries entries) ++ "\x7d"
  | .predicate children connector negated =>
    "Q(children=[" ++ Text.joined ", " (inspectAll children) ++ "], connector=" ++
      inspectKeyword connector ++ ", negated=" ++ boolText negated ++ ")"
  | .computed _ => "<callable>"
  | .computedName _ => "<callable>"

def inspectAll : List Value → List String
  | [] => []
  | item :: rest => inspect item :: inspectAll rest

def inspectEntries : List (Value × Value) → List String
  | [] => []
  | entry :: rest => inspectEntry entry :: inspectEntries rest

def inspectEntry : Value × Value → String
  | (key, value) => inspect key ++ ": " ++ inspect value

end

mutual

/-- No whole number in the value is too long to be written. -/
def isWritable : Value → Bool
  | .int n => Text.isWritable n
  | .list items => areWritable items
  | .tuple items => areWritable items
  | .map entries => areWritableEntries entries
  | .predicate children _ _ => areWritable children
  | _ => true

def areWritable : List Value → Bool
  | [] => true
  | item :: rest => isWritable item && areWritable rest

def areWritableEntries : List (Value × Value) → Bool
  | [] => true
  | entry :: rest => isWritableEntry entry && areWritableEntries rest

def isWritableEntry : Value × Value → Bool
  | (key, value) => isWritable key && isWritable value

end

/-- The text of a value on its own. -/
def display : Value → String
  | .text s => s
  | .raw sql => sql
  | .decimal d => d.text
  | .keyword k => "Keyword." ++ k.name
  | .clause c => "Clause." ++ c.name
  | .kind k => k.name
  | v => inspect v

end SqlRender.Value
