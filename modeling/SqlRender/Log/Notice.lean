import SqlRender.Value.Text

/-!
# Notices

What the library has to say while it works, apart from its results, and the record that each notice
becomes.
-/

namespace SqlRender

/-- Levels of records: the higher, the graver. -/
abbrev Level := Int

namespace Level

def debug : Level := 10
def info : Level := 20
def warning : Level := 30
def error : Level := 40
def critical : Level := 50

/-- The name of a level. -/
def name (level : Level) : String :=
  if level = 0 then "NOTSET"
  else if level = debug then "DEBUG"
  else if level = info then "INFO"
  else if level = warning then "WARNING"
  else if level = error then "ERROR"
  else if level = critical then "CRITICAL"
  else "Level " ++ Text.ofInt level

end Level

/-- A line of the log. -/
structure Record where
  level : Level
  logger : String
  message : String
deriving DecidableEq, Repr

/-- The logger that all others stand under. -/
def rootLogger : String := "dialectkit"

/-- The full name of a logger. -/
def loggerName (name : String) : String := rootLogger ++ "." ++ name

inductive Notice where
  | dialectReady (dialect : String) (keywords clauses statements : Nat)
  /-- The template has no place for the lock that was asked for. -/
  | lockIgnored (lock : Value) (dialect : String) (kind : Value)
  | slotWithoutKeyword (slot : String)
  | keywordMissing (keyword : Value) (slot dialect : String)
  | tableDropped (table : String)
deriving Repr

namespace Notice

def level : Notice → Level
  | .dialectReady .. => .debug
  | _ => .warning

def logger : Notice → String
  | .dialectReady .. => loggerName "dialects"
  | .tableDropped _ => loggerName "schema.builder"
  | _ => loggerName "query.compiler"

def message : Notice → String
  | .dialectReady dialect keywords clauses statements =>
    "Initialized " ++ dialect ++ " dialect (" ++ Text.ofInt keywords ++ " keywords, " ++
      Text.ofInt clauses ++ " clauses, " ++ Text.ofInt statements ++ " statements)"
  | .lockIgnored lock dialect kind =>
    "Lock " ++ lock.display ++ " ignored: dialect " ++ dialect ++ " has no lock slot for " ++
      kind.display ++ " statements"
  | .slotWithoutKeyword slot =>
    "Slot '" ++ slot ++ "' has no keyword of the same name; left empty"
  | .keywordMissing keyword slot dialect =>
    "Keyword " ++ keyword.display ++ " for slot '" ++ slot ++ "' is not registered on dialect " ++
      dialect ++ "; left empty"
  | .tableDropped table =>
    "DROP TABLE generated for " ++ table ++ "; confirm destructive migration before applying."

def record (n : Notice) : Record := ⟨n.level, n.logger, n.message⟩

end Notice

end SqlRender
