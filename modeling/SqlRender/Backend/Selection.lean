import SqlRender.Backend
import SqlRender.DataSource

/-!
# Choosing a backend

A backend is chosen by a name, by the scheme of a data source name, or by the environment. Names
are read in small letters and without blanks around them; what follows a plus sign names a driver
and is passed over. Some names are aliases.
-/

namespace SqlRender

/-- The variables that the library reads. -/
structure Environment where
  dialect : Option String := none
  logLevel : Option String := none

namespace Backend

/-- Other names of backends. -/
def aliases : List (String × String) :=
  [("postgres", "postgresql"), ("pgsql", "postgresql"), ("psql", "postgresql"),
   ("mariadb", "mysql"), ("sqlite3", "sqlite")]

/-- A name as it is compared: small letters, no blanks around it, nothing from a plus sign on. -/
def normalName (name : String) : String :=
  let plain := Text.lowerFrom false (Text.strip name.toList)
  String.ofList (plain.takeWhile (· ≠ '+'))

/-- The backend with a name. -/
def resolve (name : String) : Except Error Backend :=
  let plain := normalName name
  match ofName? ((Assoc.get? plain aliases).getD plain) with
  | some b => .ok b
  | none => .error (.unknownBackend name)

/-- The backend that the environment names. An empty variable counts as none. -/
def ofEnvironment (env : Environment) : Except Error Backend :=
  match env.dialect with
  | none => .error .backendNotSet
  | some name => if name = "" then .error .backendNotSet else resolve name

/-- The backend with a name or, without one, that of the environment. -/
def choose (env : Environment) : Option String → Except Error Backend
  | some name => resolve name
  | none => ofEnvironment env

end Backend

/-- The backend that a data source name asks for. -/
def DataSource.backend (dsn : String) : Except Error Backend := do
  let name ← DataSource.scheme dsn
  if name = "" then throw .schemeMissing
  Backend.resolve name

end SqlRender
