import SqlRender.Value

/-!
# Fragments

A piece of SQL with the values that it binds. Each value that is bound stands as a marker, a
question mark, in the SQL; raw SQL takes the place of a marker and binds nothing.
-/

namespace SqlRender

structure Fragment where
  sql : String
  params : List Value
deriving Repr

/-- What a slot of a template is filled with. A caller may have registered something else than a
text for a keyword or a clause, and then it is a value of another kind. -/
structure Filling where
  item : Value
  params : List Value := []
deriving Repr

namespace Fragment

/-- A fragment as the filling of a slot. -/
def toFilling (f : Fragment) : Filling := ⟨.text f.sql, f.params⟩

def empty : Fragment := ⟨"", []⟩

/-- SQL that binds nothing. -/
def ofSql (sql : String) : Fragment := ⟨sql, []⟩

/-- A value in the place of a marker. -/
def ofValue : Value → Fragment
  | .raw sql => ⟨sql, []⟩
  | v => ⟨"?", [v]⟩

/-- Puts values in the places of the markers of a text, from the left, after passing over the first
`skip` markers. Values without a marker are dropped. -/
def bindFrom : Nat → List Value → List Char → List Char × List Value
  | _, _, [] => ([], [])
  | skip, values, c :: cs =>
    if c = '?' then
      match skip, values with
      | skip + 1, values =>
        let (rest, params) := bindFrom skip values cs
        (c :: rest, params)
      | 0, [] =>
        let (rest, params) := bindFrom 0 [] cs
        (c :: rest, params)
      | 0, value :: values =>
        let (rest, params) := bindFrom 0 values cs
        ((ofValue value).sql.toList ++ rest, (ofValue value).params ++ params)
    else
      let (rest, params) := bindFrom skip values cs
      (c :: rest, params)

/-- Binds values to the last markers of a text. The markers of a clause stand behind its column, so
markers in the name of the column are passed over. -/
def bind (sql : String) (values : List Value) : Fragment :=
  let cs := sql.toList
  let (text, params) := bindFrom (cs.count '?' - values.length) values cs
  ⟨String.ofList text, params⟩

end Fragment

end SqlRender
