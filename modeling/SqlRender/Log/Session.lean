import SqlRender.Format
import SqlRender.Log.Trace

/-!
# Log sessions

The state of logging: the level that the environment asks for, whether a handler is installed, the
level of the root logger and the id that ties records together. The first use of a logger installs
the handler and sets the level; later uses change nothing.
-/

namespace SqlRender

namespace Level

/-- The names of levels that the environment may give. -/
def names : List (String × Level) :=
  [("CRITICAL", critical), ("FATAL", critical), ("ERROR", error), ("WARNING", warning),
   ("WARN", warning), ("INFO", info), ("DEBUG", debug), ("NOTSET", 0)]

/-- Capitals. Beyond ASCII only the dotless i and the long s have an ASCII letter for a capital, and
no name of a level needs another. -/
def capital (c : Char) : Char :=
  if c = 'ı' then 'I' else if c = 'ſ' then 'S' else c.toUpper

/-- The level that a variable asks for: a number, the name of a level, or else the default. Digits
that form no decimal number are a fault. -/
def resolve (setting : Option String) (default : Level) : Except Error Level :=
  let cs := (setting.getD "").toList
  if cs.isEmpty then .ok default
  else if cs.all Text.isDigit then
    match Text.readInt? cs with
    | some level => .ok level
    | none => .error .badValue
  else .ok ((Assoc.get? (String.ofList ((Text.strip cs).map capital)) names).getD default)

/-- A record passes a logger whose level is at most its own. A logger without a level takes that of
warnings. -/
def passes (logger : Level) (r : Record) : Bool :=
  decide ((if logger = 0 then warning else logger) ≤ r.level)

end Level

/-- The id of a chain of calls: given by the caller, or made up and told apart by a number. -/
inductive CorrelationId where
  | given (id : String)
  | generated (number : Nat)
deriving DecidableEq, Repr

structure LogSession where
  setting : Option String := none
  handler : Bool := false
  level : Level := 0
  id? : Option CorrelationId := none
  generated : Nat := 0

/-- A step of a session; what it did stays when it fails. -/
abbrev LogStep := EStateM Error LogSession

namespace LogSession

/-- Installs the handler, if there is none, and sets the level. -/
def configure (level? : Option Level) : LogStep Unit := do
  let s ← get
  if s.handler then return
  set { s with handler := true }
  match level? with
  | some level => modify fun s => { s with level := level }
  | none =>
    match Level.resolve s.setting Level.warning with
    | .ok level => modify fun s => { s with level := level }
    | .error e => throw e

/-- The full name of a logger, which is ready afterwards. -/
def logger (name : String) : LogStep String := do
  configure none
  return loggerName name

/-- Takes the handler away and forgets the level. -/
def reset : LogStep Unit := modify fun s => { s with handler := false, level := 0 }

/-- Sets the id. Without one, or with an empty one, an id is made up. -/
def setId (id? : Option String) : LogStep CorrelationId := do
  let s ← get
  match id? with
  | none | some "" =>
    let id := CorrelationId.generated s.generated
    set { s with id? := some id, generated := s.generated + 1 }
    return id
  | some text =>
    set { s with id? := some (.given text) }
    return .given text

/-- The id; one is made up if there is none. -/
def currentId : LogStep CorrelationId := do
  match (← get).id? with
  | some id => return id
  | none => setId none

/-- A message with its arguments. Without arguments it stands for itself; a single map that is not
empty gives its entries by name. -/
def messageText (message : String) : List Value → Except Error String
  | [] => .ok message
  | [.map (entry :: rest)] => Format.apply message (.ofMapping (entry :: rest))
  | args => Format.apply message (.ofList args)

/-- The line of a record as the handler writes it, behind the time. `idText` writes the id. -/
def formatLine (idText : CorrelationId → String) (logger : String) (level : Level)
    (message : String) (args : List Value) : LogStep String := do
  let id ← currentId
  match messageText message args with
  | .ok text =>
    return Text.joined " | " [Level.name level, idText id, logger, text]
  | .error e => throw e

end LogSession

end SqlRender
