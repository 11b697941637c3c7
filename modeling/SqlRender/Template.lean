import SqlRender.Text.Blank
import SqlRender.Text.Word
import SqlRender.Value.Access

/-!
# Statement templates

A template is text with slots: a word between braces. A brace that does not begin such a group is
text. Rendering puts a fragment into each slot and takes care of the spaces around fragments that
are empty: a piece that begins with spaces loses them where the text so far ends in a space.
-/

namespace SqlRender

/-- A template as its first text and its slots, each with the text behind it. -/
structure Template where
  head : List Char
  slots : List (List Char × List Char)
deriving DecidableEq, Repr

namespace Template

/-- The word in front of a closing brace at the start of a text, and what follows the brace. -/
def closeSlot? (cs : List Char) : Option (List Char × List Char) :=
  match cs.takeWhile Text.isWord, cs.dropWhile Text.isWord with
  | [], _ => none
  | word, c :: rest => if c = '\x7d' then some (word, rest) else none
  | _, [] => none

/-- Puts a character in front of a template. An opening brace makes a slot if a word and a closing
brace follow it in the text in front. -/
def push (c : Char) (t : Template) : Template :=
  if c = '\x7b' then
    match closeSlot? t.head with
    | some (word, rest) => ⟨[], (word, rest) :: t.slots⟩
    | none => ⟨c :: t.head, t.slots⟩
  else ⟨c :: t.head, t.slots⟩

/-- Reads a template, from its last character to its first. -/
def parse (cs : List Char) : Template := cs.foldr push ⟨[], []⟩

def ofText (s : String) : Template := parse s.toList

/-- The template that a value is. -/
def ofValue (v : Value) : Except Error Template := do return ofText (← v.asPart)

/-- The names of the slots, one for each occurrence, in order. -/
def names (t : Template) : List String := t.slots.map fun slot => String.ofList slot.1

/-- The template as text. -/
def toChars (t : Template) : List Char :=
  t.head ++ t.slots.flatMap fun slot => '\x7b' :: slot.1 ++ '\x7d' :: slot.2

/-- Puts a piece behind a text. Where the text ends in a space, the piece loses the spaces that it
begins with. -/
def glue (out piece : List Char) : List Char :=
  if out.getLast? = some ' ' then out ++ piece.dropWhile (· = ' ') else out ++ piece

/-- Something follows in the template: text, or a slot with a value that counts as true. -/
def goesOn (fragment : List Char → Value) (slots : List (List Char × List Char)) : Bool :=
  slots.any fun slot => (fragment slot.1).isTrue || !slot.2.isEmpty

/-- Puts values into slots behind the text `out`. A value that counts as false is empty. Another one
that is no text cannot take part in the care for spaces: it fails where the text in front ends in a
space or something follows, and otherwise at the end, when all pieces become one text. -/
def assembleValues (fragment : List Char → Value) :
    List Char → List (List Char × List Char) → Except Error (List Char)
  | out, [] => .ok out
  | out, (name, text) :: rest =>
    match fragment name with
    | .text s => assembleValues fragment (glue (glue out s.toList) text) rest
    | v =>
      if !v.isTrue then assembleValues fragment (glue out text) rest
      else if out.getLast? = some ' ' || !text.isEmpty || goesOn fragment rest then
        .error .noMember
      else .error .wrongType

/-- The template with a value in each slot. A slot without a value is empty. -/
def renderValues (t : Template) (values : List (String × Value)) : Except Error String := do
  let value (name : List Char) := (Assoc.get? (String.ofList name) values).getD .null
  return String.ofList (Text.strip (← assembleValues value t.head t.slots))

end Template

end SqlRender
