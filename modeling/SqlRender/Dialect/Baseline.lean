import SqlRender.Dialect
import SqlRender.Log.Trace

/-!
# The baseline, and how a dialect is built

Every dialect begins with the baseline, plain standard SQL. It has no statement that empties a
table; a backend that has one adds it. Overlays are written on top in order, and then the dialect
is frozen, so that it can be shared.
-/

namespace SqlRender.Dialect

/-- The entries that most backends share. -/
def baseline : List Entry :=
  [.keyword .all "ALL",
   .keyword .and "AND",
   .keyword .asc "ASC",
   .keyword .cascade "CASCADE",
   .keyword .desc "DESC",
   .keyword .noAction "NO ACTION",
   .keyword .notNull "NOT NULL",
   .keyword .null "NULL",
   .keyword .or "OR",
   .keyword .restrict "RESTRICT",
   .keyword .setNull "SET NULL",
   .keyword .temporary "TEMPORARY",
   .keyword .unique "UNIQUE",
   .clause .asAlias "%s AS %s",
   .clause .between "%s BETWEEN ? AND ?",
   .clause .characterSet "CHARACTER SET %s",
   .clause .collate "COLLATE %s",
   .clause .constraint "CONSTRAINT %s",
   .clause .defaultValue "DEFAULT %s",
   .clause .distinct "DISTINCT",
   .clause .equals "%s = ?",
   .clause .except "EXCEPT %s",
   .clause .exceptAll "EXCEPT ALL %s",
   .clause .foreignKey "FOREIGN KEY (%s) REFERENCES %s(%s)",
   .clause .greater "%s > ?",
   .clause .greaterEqual "%s >= ?",
   .clause .groupBy "GROUP BY %s",
   .clause .having "HAVING %s",
   .clause .inList "%s IN (%s)",
   .clause .intersect "INTERSECT %s",
   .clause .intersectAll "INTERSECT ALL %s",
   .clause .isNotNull "%s IS NOT NULL",
   .clause .isNull "%s IS NULL",
   .clause .innerJoin "JOIN %s ON %s",
   .clause .leftJoin "LEFT JOIN %s ON %s",
   .clause .less "%s < ?",
   .clause .lessEqual "%s <= ?",
   .clause .like "%s LIKE ?",
   .clause .limit "LIMIT %s",
   .clause .limitOffset "LIMIT %s OFFSET %s",
   .clause .negation "NOT (%s)",
   .clause .notBetween "%s NOT BETWEEN ? AND ?",
   .clause .notEquals "%s != ?",
   .clause .notInList "%s NOT IN (%s)",
   .clause .notLike "%s NOT LIKE ?",
   .clause .notRegexp "%s NOT REGEXP ?",
   .clause .offset "OFFSET %s",
   .clause .onDelete "ON DELETE %s",
   .clause .onUpdate "ON UPDATE %s",
   .clause .orderBy "ORDER BY %s",
   .clause .outerJoin "FULL OUTER JOIN %s ON %s",
   .clause .primaryKey "PRIMARY KEY (%s)",
   .clause .regexp "%s REGEXP ?",
   .clause .rightJoin "RIGHT JOIN %s ON %s",
   .clause .rlike "%s REGEXP ?",
   .clause .straightJoin "STRAIGHT_JOIN %s ON %s",
   .clause .union "UNION %s",
   .clause .unionAll "UNION ALL %s",
   .clause .uniqueKey "UNIQUE (%s)",
   .clause .filter "WHERE %s",
   .statement .insert "INSERT INTO {table} {fields} VALUES {values}",
   .statement .select
    ("SELECT {distinct} {fields} FROM {table} {joins} {where} {group_by} {having} " ++
     "{compounds} {order_by} {limit}"),
   .statement .update "UPDATE {table} SET {fields} {where}",
   .statement .delete "DELETE FROM {table} {where}",
   .statement .createTable
    "CREATE {temporary} TABLE IF NOT EXISTS {table} (\n{columns}{keys}\n) {options}",
   .statement .createIndex "CREATE {type} INDEX {index} ON {table} ({fields})",
   .statement .dropTable "DROP TABLE IF EXISTS {table}",
   .statement .dropIndex "DROP INDEX IF EXISTS {index}",
   .typeAlias "int" "integer"]

/-- The dialect of the baseline alone, still open for entries. -/
def base (name mark : String) (types : TypeCatalogue) : Dialect :=
  (blank name mark types).putAll baseline

/-- What is said when a dialect is ready. -/
def readyNotice (d : Dialect) : Notice :=
  .dialectReady d.name d.keywords.entries.length d.clauses.entries.length
    d.statements.entries.length

/-- Freezes a dialect and says that it is ready. -/
def finish (d : Dialect) : Traced Dialect := do
  Traced.note d.readyNotice
  return d.freeze

/-- Builds a dialect: the baseline, then what the initializers make of it, in order. One that fails
ends the building. -/
def buildWith (name mark : String) (types : TypeCatalogue)
    (initializers : List (Dialect → Except Error Dialect)) : Traced Dialect := do
  finish (← initializers.foldlM (fun d initializer => initializer d) (base name mark types))

/-- Builds a dialect: the baseline, then the overlays in order. A registration that is refused ends
the building. -/
def build (name mark : String) (types : TypeCatalogue) (overlays : List (List Write)) :
    Traced Dialect :=
  buildWith name mark types (overlays.map fun writes d => d.registerAll writes)

end SqlRender.Dialect
