import SqlRender.Proofs.Outcome
import SqlRender.Query.Compile

/-!
# Results of compilations

A compilation is traced. Its result alone, without the events, is the template of the statement with
what the slots are filled with, each for itself.

* `Statement.result_compile`: the result for a statement.
* `Query.result_compileOperands`: the result for the queries that set operations join to one.
-/

namespace SqlRender

/-- A fragment as the operand of a set operation. -/
def Fragment.operand (d : Dialect) (clause : Value) (f : Fragment) : Except Error Fragment := do
  return ⟨← d.clauseOf clause [.text f.sql], f.params⟩

namespace Statement

/-- What a statement puts into the slot with a name. -/
def slotFilling (d : Dialect) (operands : Traced Fragment) (s : Statement) (name : String) :
    Except Error Filling :=
  (s.filling d operands (.ofName name)).result

/-- Each slot is filled for itself. -/
theorem result_fillSlots (d : Dialect) (operands : Traced Fragment) (s : Statement)
    (names : List String) :
    (s.fillSlots d operands names).result = (do
      let fillings ← names.mapM (s.slotFilling d operands)
      return names.zip fillings) := by
  induction names with
  | nil => rfl
  | cons name rest ih =>
    rw [fillSlots, Traced.result_bind, List.mapM_cons, bind_assoc]
    refine bind_congr fun filling => ?_
    rw [Traced.result_bind, ih, bind_assoc, bind_assoc]
    rfl

theorem result_checkLock (d : Dialect) (s : Statement) (slots : List String) :
    (s.checkLock d slots).result = .ok () := by
  unfold checkLock
  split
  · rfl
  · split <;> rfl

theorem result_compile (d : Dialect) (operands : Traced Fragment) (s : Statement) :
    (s.compile d operands).result = (do
      let template ← Template.ofValue (← d.templateOf s.kind)
      let fillings ← template.names.mapM (s.slotFilling d operands)
      assemble template (template.names.zip fillings)) := by
  rw [compile, Traced.result_bind]
  refine bind_congr fun registered => ?_
  rw [Traced.result_timed, Traced.result_bind]
  refine bind_congr fun template => ?_
  rw [Traced.result_bind, result_checkLock]
  show (s.fillSlots d operands template.names >>= _).result = _
  rw [Traced.result_bind, result_fillSlots, bind_assoc]
  rfl

end Statement

namespace Query

theorem result_compileOperand (d : Dialect) (clause : Value) (q : Query) :
    (compileOperand d (clause, q)).result = (q.compile d).result >>= Fragment.operand d clause := by
  rw [compileOperand, Traced.result_bind]
  refine bind_congr fun inner => ?_
  rw [Traced.result_bind]
  rfl

theorem result_compileOperands (d : Dialect) (operand : Value × Query)
    (rest : List (Value × Query)) :
    (compileOperands d (operand :: rest)).result = (do
      let first ← (compileOperand d operand).result
      let others ← (compileOperands d rest).result
      return ⟨if rest.isEmpty then first.sql else first.sql ++ " " ++ others.sql,
        first.params ++ others.params⟩) := by
  rw [compileOperands, Traced.result_bind]
  refine bind_congr fun first => ?_
  rw [Traced.result_bind]
  rfl

end Query

end SqlRender
