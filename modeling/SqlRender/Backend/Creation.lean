import SqlRender.Backend.Selection
import SqlRender.Log.Session

/-!
# Creating dialects

A dialect brings its loggers with it, that of its compiler and its own. They are made ready before
the first entry is written, so the first dialect of a process is where the level that the
environment asks for is read.
-/

namespace SqlRender

/-- The state of logging in a process that has just begun. -/
def LogSession.start (env : Environment) : LogSession := { setting := env.logLevel }

namespace Backend

/-- Builds the dialect of a backend behind its loggers. -/
def buildLogged (b : Backend) (types : TypeCatalogue) : LogStep (Traced Dialect) := do
  let _ ← LogSession.logger "query.compiler"
  let _ ← LogSession.logger "dialects"
  return b.build types

/-- Creates the dialect of the backend with a name or, without one, of that of the environment. -/
def create (env : Environment) (name? : Option String) (types : TypeCatalogue) :
    LogStep (Traced Dialect) :=
  match choose env name? with
  | .ok b => b.buildLogged types
  | .error e => throw e

end Backend

end SqlRender
