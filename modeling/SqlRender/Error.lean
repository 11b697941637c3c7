import SqlRender.Value.Text

/-!
# Errors

Every way in which building a dialect, a query or a schema or rendering one can fail, each with
what it is about. `Error.message?` has the wording. Faults in the use of a value (a number where a
text is needed, a list of the wrong length) carry no wording of their own.
-/

namespace SqlRender

/-- The families of errors. -/
inductive Error.Family where
  | dialect | configuration | frozenRegistry | unknownSymbol | unsupportedStatement
  | invalidColumnType | key | lookup | value | type | member | overflow | invalidOperation | memory
deriving DecidableEq, Repr

/-- The wider families that a family belongs to, itself included. -/
def Error.Family.within : Error.Family → List Error.Family
  | .configuration => [.configuration, .dialect]
  | .frozenRegistry => [.frozenRegistry, .dialect]
  | .unknownSymbol => [.unknownSymbol, .dialect, .key, .lookup]
  | .unsupportedStatement => [.unsupportedStatement, .dialect, .key, .lookup]
  | .invalidColumnType => [.invalidColumnType, .dialect, .value]
  | .key => [.key, .lookup]
  | family => [family]

inductive Error where
  /-- A bare error of a family with the arguments that it was made with. -/
  | plain (family : Error.Family) (args : List Value)
  | unknownBackend (name : String)
  | backendNotSet
  | schemeMissing
  | frozen (key owner : Value)
  | keyType (expected : String) (key : Value)
  | unknownSymbol (symbol dialect : Value)
  | unsupportedStatement (kind dialect : Value)
  /-- The column is null where none is known. -/
  | invalidColumnType (typeName column : Value)
  | unknownColumn (name : Value) (table : String)
  /-- A predicate was given a child that is neither a predicate nor raw SQL. -/
  | predicateChild (child : Value)
  /-- A predicate with such a child was rendered. -/
  | predicateLeaf (child : Value)
  | attributeValue (value : Value) (slot : String)
  | noAssignment
  | noRow
  | rowsDiffer
  | nullComparison
  | emptyLookup (lookup : String)
  /-- A value of another type is needed. -/
  | wrongType
  /-- The value has no such operation. -/
  | noMember
  /-- The type is right and the value is not. -/
  | badValue
  /-- The number is too large. -/
  | outOfRange
  /-- A map has no entry under a key. -/
  | noEntry
  /-- A decimal number cannot be read, or refuses to be compared. -/
  | invalidOperation
  /-- A text would be too long to be held. -/
  | tooLong
deriving Repr

namespace Error

instance : Inhabited Error := ⟨.wrongType⟩

def family : Error → Family
  | .plain family _ => family
  | .unknownBackend _ => .configuration
  | .backendNotSet => .configuration
  | .schemeMissing => .configuration
  | .frozen .. => .frozenRegistry
  | .keyType .. => .type
  | .unknownSymbol .. => .unknownSymbol
  | .unsupportedStatement .. => .unsupportedStatement
  | .invalidColumnType .. => .invalidColumnType
  | .unknownColumn .. => .key
  | .predicateChild _ => .type
  | .predicateLeaf _ => .type
  | .attributeValue .. => .type
  | .noAssignment => .value
  | .noRow => .value
  | .rowsDiffer => .value
  | .nullComparison => .value
  | .emptyLookup _ => .value
  | .wrongType => .type
  | .noMember => .member
  | .badValue => .value
  | .outOfRange => .overflow
  | .noEntry => .key
  | .invalidOperation => .invalidOperation
  | .tooLong => .memory

/-- The values that the wording of an error names. -/
def named : Error → List Value
  | .frozen key owner => [key, owner]
  | .unknownSymbol symbol dialect => [symbol, dialect]
  | .unsupportedStatement kind dialect => [kind, dialect]
  | .invalidColumnType typeName column => [typeName, column]
  | .unknownColumn name _ => [name]
  | .predicateChild child => [child]
  | .predicateLeaf child => [child]
  | .attributeValue value _ => [value]
  | _ => []

/-- An error as it arises. Its wording is written then, and a value in it that has no text is the
error instead. -/
def raised (e : Error) : Error :=
  if e.named.all Value.isWritable then e else .badValue

theorem raised_eq_self {e : Error} (h : e.named.all Value.isWritable = true) : e.raised = e :=
  if_pos h

theorem raised_eq_badValue {e : Error} (h : e.named.all Value.isWritable = false) :
    e.raised = .badValue :=
  if_neg (by simp [h])

/-- A bare error says nothing, its one argument, or all of them. -/
def plainMessage : List Value → String
  | [] => ""
  | [arg] => arg.display
  | args => (Value.tuple args).inspect

/-- The wording of an error. -/
def message? : Error → Option String
  | .plain _ args => some (plainMessage args)
  | .unknownBackend name =>
    some ("Unknown dialect '" ++ name ++ "'. Available: ansi, mysql, postgresql, sqlite")
  | .backendNotSet => some "Environment variable DIALECTKIT_DIALECT is not set"
  | .schemeMissing => some "DSN has no scheme to select a dialect from"
  | .frozen key owner =>
    some ("Cannot register " ++ key.display ++ ": registry for '" ++ owner.display ++ "' is frozen")
  | .keyType expected key =>
    some ("Expected " ++ expected ++ " key, received " ++ key.typeName)
  | .unknownSymbol symbol dialect =>
    let place := if dialect.isTrue then " for dialect '" ++ dialect.display ++ "'" else ""
    some ("Unknown symbol " ++ symbol.display ++ place)
  | .unsupportedStatement kind dialect =>
    let subject := if dialect.isTrue then "Dialect '" ++ dialect.display ++ "'" else "Dialect"
    some (subject ++ " does not support " ++ kind.display ++ " statements")
  | .invalidColumnType typeName column =>
    if column.isTrue then
      some ("Invalid type " ++ typeName.inspect ++ " for column '" ++ column.display ++ "'")
    else some ("Invalid column type " ++ typeName.inspect)
  | .unknownColumn name table =>
    some (Text.quoted ("Unknown column '" ++ name.display ++ "' on table '" ++ table ++ "'"))
  | .predicateChild child => some ("Q children must be Q or Raw, got " ++ child.inspect)
  | .predicateLeaf child => some ("Unsupported predicate " ++ child.inspect)
  | .attributeValue value slot =>
    some ("Unsupported value " ++ value.inspect ++ " for attribute slot '" ++ slot ++ "'")
  | .noAssignment => some "UPDATE requires at least one column assignment."
  | .noRow => some "INSERT requires at least one row with at least one column."
  | .rowsDiffer => some "All inserted rows must provide the same columns in the same order."
  | .nullComparison => some "NULL comparison only supported for equality."
  | .emptyLookup lookup => some ("Lookup '" ++ lookup ++ "' requires at least one value.")
  | .wrongType => none
  | .noMember => none
  | .badValue => none
  | .outOfRange => none
  | .noEntry => none
  | .invalidOperation => none
  | .tooLong => none

end Error

end SqlRender
