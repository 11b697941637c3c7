import SqlRender.Query.Slot
import SqlRender.Template

/-!
# Compiling queries

A query becomes SQL with its parameters: the template of the dialect for the kind of statement, with
every slot filled in the order of the template. Parameters stand in the order of their markers.
-/

namespace SqlRender

namespace Statement

/-- Says so if the template has no place for the lock that was asked for. -/
def checkLock (d : Dialect) (s : Statement) (slots : List String) : Traced Unit :=
  match s.lock with
  | .null => pure ()
  | lock => if "lock" ∈ slots then pure () else Traced.note (.lockIgnored lock d.name s.kind)

/-- Fills the slots of a template in order. -/
def fillSlots (d : Dialect) (operands : Traced Fragment) (s : Statement) :
    List String → Traced (List (String × Filling))
  | [] => pure []
  | name :: rest => do
    let filling ← s.filling d operands (.ofName name)
    return (name, filling) :: (← fillSlots d operands s rest)

/-- Puts fillings into a template. -/
def assemble (t : Template) (fillings : List (String × Filling)) : Except Error Fragment := do
  let sql ← t.renderValues (fillings.map fun entry => (entry.1, entry.2.item))
  return ⟨sql, fillings.flatMap fun entry => entry.2.params⟩

/-- Compiles a statement. -/
def compile (d : Dialect) (operands : Traced Fragment) (s : Statement) : Traced Fragment := do
  let registered ← d.templateOf s.kind
  Traced.timed ("render " ++ s.kind.display) do
    let template ← Template.ofValue registered
    s.checkLock d template.names
    assemble template (← s.fillSlots d operands template.names)

end Statement

namespace Query

mutual

/-- Compiles a query. -/
def compile (d : Dialect) : Query → Traced Fragment
  | .mk statement compounds => statement.compile d (compileOperands d compounds)

/-- Compiles the queries that set operations join to a statement. -/
def compileOperands (d : Dialect) : List (Value × Query) → Traced Fragment
  | [] => pure .empty
  | operand :: rest => do
    let first ← compileOperand d operand
    let others ← compileOperands d rest
    return ⟨if rest.isEmpty then first.sql else first.sql ++ " " ++ others.sql,
      first.params ++ others.params⟩

def compileOperand (d : Dialect) : Value × Query → Traced Fragment
  | (clause, query) => do
    let inner ← compile d query
    return ⟨← d.clauseOf clause [.text inner.sql], inner.params⟩

end

/-- What a query puts into the slot with a name. -/
def filling (d : Dialect) (q : Query) (slot : String) : Traced Filling :=
  q.statement.filling d (compileOperands d q.compounds) (.ofName slot)

/-- The SQL of a query. -/
def render (d : Dialect) (q : Query) : Traced String := do return (← q.compile d).sql

end Query

end SqlRender
