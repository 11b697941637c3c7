import SqlRender.Dialect.Baseline

/-!
# Backends

The bundled backends and the entries by which each differs from the baseline.
-/

namespace SqlRender

inductive Backend where
  | ansi | mysql | postgresql | sqlite
deriving DecidableEq, Repr

namespace Backend

/-- All backends, by name. -/
def values : List Backend := [.ansi, .mysql, .postgresql, .sqlite]

def name : Backend → String
  | .ansi => "ansi"
  | .mysql => "mysql"
  | .postgresql => "postgresql"
  | .sqlite => "sqlite"

def ofName? (name : String) : Option Backend := values.find? (·.name = name)

/-- The mark around identifiers. -/
def mark : Backend → String
  | .mysql => "`"
  | _ => "\""

/-- The entries of PostgreSQL. -/
def postgresqlOverlay : List Dialect.Entry :=
  [.clause .distinctOn "DISTINCT ON (%s)",
   .clause .straightJoin "INNER JOIN %s ON %s",
   .clause .matchType "%s",
   .clause .notRegexp "%s !~* ?",
   .clause .returning "RETURNING %s",
   .clause .regexp "%s ~* ?",
   .clause .rlike "%s ~* ?",
   .clause .withOptions "WITH (%s)",
   .keyword .concurrently "CONCURRENTLY",
   .keyword .continueIdentity "CONTINUE IDENTITY",
   .keyword .deleteRows "DELETE ROWS",
   .keyword .drop "DROP",
   .keyword .forShareLock "FOR SHARE",
   .keyword .forUpdateLock "FOR UPDATE",
   .keyword .inherits "INHERITS",
   .keyword .globalScope "GLOBAL",
   .keyword .localScope "LOCAL",
   .keyword .matchFull "MATCH FULL",
   .keyword .matchPartial "MATCH PARTIAL",
   .keyword .matchSimple "MATCH SIMPLE",
   .keyword .onCommit "ON COMMIT",
   .keyword .only "ONLY",
   .keyword .preserveRows "PRESERVE ROWS",
   .keyword .restartIdentity "RESTART IDENTITY",
   .keyword .setDefault "SET DEFAULT",
   .keyword .tablespace "TABLESPACE",
   .keyword .unique "UNIQUE",
   .keyword .unlogged "UNLOGGED",
   .keyword .withOids "WITH OIDS",
   .keyword .withoutOids "WITHOUT OIDS",
   .statement .insert "INSERT INTO {table} {fields} VALUES {values} {returning}",
   .statement .select
    ("SELECT {distinct} {fields} FROM {table} {joins} {where} {group_by} {having} " ++
     "{compounds} {order_by} {limit} {lock}"),
   .statement .update "UPDATE {only} {table} SET {fields} {where} {returning}",
   .statement .delete "DELETE FROM {only} {table} {joins} {where} {returning}",
   .statement .truncate "TRUNCATE {only} {table} {identity} {action}",
   .statement .createTable
    ("CREATE {type} {temporary} {unlogged} TABLE IF NOT EXISTS {table} " ++
     "(\n{columns}{keys}\n) {options}"),
   .statement .createIndex "CREATE {type} INDEX {concurrently} {index} ON {table} ({fields})",
   .statement .dropTable "DROP TABLE IF EXISTS {table} {action}",
   .statement .dropIndex "DROP INDEX {concurrently} IF EXISTS {index} {action}",
   .typeAlias "blob" "bytea",
   .typeAlias "datetime" "timestamp",
   .typeAlias "double" "double precision"]

/-- The entries of MySQL. It has no offset without a limit, so the limit is the largest number that
it takes. -/
def mysqlOverlay : List Dialect.Entry :=
  [.clause .offset "LIMIT 18446744073709551615 OFFSET %s",
   .clause .uniqueKey "UNIQUE KEY (%s)",
   .keyword .engine "ENGINE",
   .keyword .forShareLock "LOCK IN SHARE MODE",
   .keyword .forUpdateLock "FOR UPDATE",
   .statement .select
    ("SELECT {distinct} {fields} FROM {table} {joins} {where} {group_by} {having} " ++
     "{compounds} {order_by} {limit} {lock}"),
   .statement .update "UPDATE {table} {joins} SET {fields} {where} {order_by} {limit}",
   .statement .delete "DELETE FROM {table} {joins} {where} {order_by} {limit}",
   .statement .truncate "TRUNCATE TABLE {table}",
   .statement .dropTable "DROP {temporary} TABLE IF EXISTS {table} {action}",
   .statement .dropIndex "DROP INDEX {index} ON {table}"]

/-- The entries of SQLite. It neither empties tables nor locks rows. -/
def sqliteOverlay : List Dialect.Entry :=
  [.clause .offset "LIMIT -1 OFFSET %s",
   .typeAlias "serial" "integer"]

def overlay : Backend → List Dialect.Entry
  | .ansi => []
  | .mysql => mysqlOverlay
  | .postgresql => postgresqlOverlay
  | .sqlite => sqliteOverlay

/-- The dialect of a backend, before it is frozen. -/
def openDialect (b : Backend) (types : TypeCatalogue) : Dialect :=
  (Dialect.base b.name b.mark types).putAll b.overlay

/-- The dialect of a backend. -/
def dialect (b : Backend) (types : TypeCatalogue) : Dialect := (b.openDialect types).freeze

/-- Builds the dialect of a backend. -/
def build (b : Backend) (types : TypeCatalogue) : Traced Dialect := (b.openDialect types).finish

theorem result_build (b : Backend) (types : TypeCatalogue) :
    (b.build types).result = .ok (b.dialect types) := rfl

end Backend

end SqlRender
