/-!
# Symbols

The closed sets of names that a dialect gives text to. A symbol names an idea of SQL apart from the
way a backend spells it. Every symbol has a tag, its name in small letters, and a name, the tag in
capitals.
-/

namespace SqlRender

/-- The name that belongs to a tag: the same letters as capitals. -/
def nameOfTag (tag : String) : String := String.ofList (tag.toList.map Char.toUpper)

/-- Keywords: a fixed text of one or more words. -/
inductive Keyword where
  | all | and | asc | cascade | concurrently | continueIdentity | deleteRows | desc | drop
  | engine | forShareLock | forUpdateLock | globalScope | inherits | localScope | matchFull
  | matchPartial | matchSimple | noAction | notNull | null | onCommit | only | or | preserveRows
  | restartIdentity | restrict | setDefault | setNull | tablespace | temporary | unique
  | unlogged | withOids | withoutOids
deriving DecidableEq, Repr

namespace Keyword

/-- All keywords, in alphabetical order of their tags. -/
def values : List Keyword :=
  [.all, .and, .asc, .cascade, .concurrently, .continueIdentity, .deleteRows, .desc, .drop,
   .engine, .forShareLock, .forUpdateLock, .globalScope, .inherits, .localScope, .matchFull,
   .matchPartial, .matchSimple, .noAction, .notNull, .null, .onCommit, .only, .or, .preserveRows,
   .restartIdentity, .restrict, .setDefault, .setNull, .tablespace, .temporary, .unique,
   .unlogged, .withOids, .withoutOids]

def tag : Keyword → String
  | .all => "all"
  | .and => "and"
  | .asc => "asc"
  | .cascade => "cascade"
  | .concurrently => "concurrently"
  | .continueIdentity => "continue_identity"
  | .deleteRows => "delete_rows"
  | .desc => "desc"
  | .drop => "drop"
  | .engine => "engine"
  | .forShareLock => "for_share_lock"
  | .forUpdateLock => "for_update_lock"
  | .globalScope => "global"
  | .inherits => "inherits"
  | .localScope => "local"
  | .matchFull => "match_full"
  | .matchPartial => "match_partial"
  | .matchSimple => "match_simple"
  | .noAction => "no_action"
  | .notNull => "not_null"
  | .null => "null"
  | .onCommit => "on_commit"
  | .only => "only"
  | .or => "or"
  | .preserveRows => "preserve_rows"
  | .restartIdentity => "restart_identity"
  | .restrict => "restrict"
  | .setDefault => "set_default"
  | .setNull => "set_null"
  | .tablespace => "tablespace"
  | .temporary => "temporary"
  | .unique => "unique"
  | .unlogged => "unlogged"
  | .withOids => "with_oids"
  | .withoutOids => "without_oids"

def name (symbol : Keyword) : String := nameOfTag symbol.tag

def ofName? (name : String) : Option Keyword := values.find? (·.name = name)

def ofTag? (tag : String) : Option Keyword := values.find? (·.tag = tag)

/-- The list holds every symbol. -/
theorem mem_values (symbol : Keyword) : symbol ∈ values := by
  cases symbol <;> decide

end Keyword

/-- Clauses: a format with a fixed number of places for arguments. -/
inductive Clause where
  | asAlias | between | characterSet | collate | constraint | defaultValue | distinct | distinctOn
  | equals | except | exceptAll | foreignKey | greater | greaterEqual | groupBy | having | inList
  | intersect | intersectAll | isNotNull | isNull | innerJoin | leftJoin | less | lessEqual
  | like | limit | limitOffset | matchType | negation | notBetween | notEquals | notInList
  | notLike | notRegexp | offset | onDelete | onUpdate | orderBy | outerJoin | primaryKey
  | regexp | returning | rightJoin | rlike | straightJoin | union | unionAll | uniqueKey | filter
  | withOptions
deriving DecidableEq, Repr

namespace Clause

/-- All clauses, in alphabetical order of their tags. -/
def values : List Clause :=
  [.asAlias, .between, .characterSet, .collate, .constraint, .defaultValue, .distinct, .distinctOn,
   .equals, .except, .exceptAll, .foreignKey, .greater, .greaterEqual, .groupBy, .having, .inList,
   .intersect, .intersectAll, .isNotNull, .isNull, .innerJoin, .leftJoin, .less, .lessEqual,
   .like, .limit, .limitOffset, .matchType, .negation, .notBetween, .notEquals, .notInList,
   .notLike, .notRegexp, .offset, .onDelete, .onUpdate, .orderBy, .outerJoin, .primaryKey,
   .regexp, .returning, .rightJoin, .rlike, .straightJoin, .union, .unionAll, .uniqueKey, .filter,
   .withOptions]

def tag : Clause → String
  | .asAlias => "as"
  | .between => "between"
  | .characterSet => "character_set"
  | .collate => "collate"
  | .constraint => "constraint"
  | .defaultValue => "default"
  | .distinct => "distinct"
  | .distinctOn => "distinct_on"
  | .equals => "equals"
  | .except => "except"
  | .exceptAll => "except_all"
  | .foreignKey => "foreign_key"
  | .greater => "greater"
  | .greaterEqual => "greater_equal"
  | .groupBy => "group_by"
  | .having => "having"
  | .inList => "in"
  | .intersect => "intersect"
  | .intersectAll => "intersect_all"
  | .isNotNull => "is_not_null"
  | .isNull => "is_null"
  | .innerJoin => "join"
  | .leftJoin => "left_join"
  | .less => "less"
  | .lessEqual => "less_equal"
  | .like => "like"
  | .limit => "limit"
  | .limitOffset => "limit_offset"
  | .matchType => "match"
  | .negation => "not"
  | .notBetween => "not_between"
  | .notEquals => "not_equals"
  | .notInList => "not_in"
  | .notLike => "not_like"
  | .notRegexp => "not_regexp"
  | .offset => "offset"
  | .onDelete => "on_delete"
  | .onUpdate => "on_update"
  | .orderBy => "order_by"
  | .outerJoin => "outer_join"
  | .primaryKey => "primary_key"
  | .regexp => "regexp"
  | .returning => "returning"
  | .rightJoin => "right_join"
  | .rlike => "rlike"
  | .straightJoin => "straight_join"
  | .union => "union"
  | .unionAll => "union_all"
  | .uniqueKey => "unique_key"
  | .filter => "where"
  | .withOptions => "with"

def name (symbol : Clause) : String := nameOfTag symbol.tag

def ofName? (name : String) : Option Clause := values.find? (·.name = name)

/-- The list holds every symbol. -/
theorem mem_values (symbol : Clause) : symbol ∈ values := by
  cases symbol <;> decide

end Clause

/-- The kinds of statements that a dialect may have a template for. -/
inductive StatementKind where
  | select | insert | update | delete | truncate | createTable | createIndex | dropTable
  | dropIndex
deriving DecidableEq, Repr

namespace StatementKind

/-- All kinds. -/
def values : List StatementKind :=
  [.select, .insert, .update, .delete, .truncate, .createTable, .createIndex, .dropTable,
   .dropIndex]

def tag : StatementKind → String
  | .select => "select"
  | .insert => "insert"
  | .update => "update"
  | .delete => "delete"
  | .truncate => "truncate"
  | .createTable => "create_table"
  | .createIndex => "create_index"
  | .dropTable => "drop_table"
  | .dropIndex => "drop_index"

def name (symbol : StatementKind) : String := nameOfTag symbol.tag

def ofName? (name : String) : Option StatementKind := values.find? (·.name = name)

/-- The list holds every symbol. -/
theorem mem_values (symbol : StatementKind) : symbol ∈ values := by
  cases symbol <;> decide

end StatementKind

end SqlRender
