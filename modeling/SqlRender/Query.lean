import SqlRender.Schema

/-!
# Queries

A statement without a backend: its kind, its table and what its slots are filled from. A query is a
statement with further queries that are joined to it by set operations.

The fields are the columns of a select or of an index, and for an insert or an update a map from
columns to values or a list of such maps.
-/

namespace SqlRender

/-- A join with a table, on pairs of columns that have to be equal. -/
structure Join where
  table : String
  on : List (String × String)
  kind : Clause := .innerJoin

structure Statement where
  kind : Value
  table : Value := .null
  fields : Value := .tuple []
  distinct : Value := .bool false
  joins : List Join := []
  filter : Value := .null
  groupBy : Value := .tuple []
  having : Value := .null
  orderBy : Value := .tuple []
  limit : Value := .null
  offset : Value := .null
  lock : Value := .null
  returning : Value := .tuple []
  schema : Option Schema := none
  index : Value := .null
  /-- Values of the slots that are written as keywords. -/
  attributes : Mapping := []

/-- A statement and the queries that set operations join to it. -/
inductive Query where
  | mk (statement : Statement) (compounds : List (Value × Query))

namespace Query

def statement : Query → Statement
  | mk statement _ => statement

def compounds : Query → List (Value × Query)
  | mk _ compounds => compounds

/-- A query of one statement. -/
def single (s : Statement) : Query := mk s []

/-- Joins a query by a set operation. -/
def combine (q : Query) (clause : Value) (other : Query) : Query :=
  mk q.statement (q.compounds ++ [(clause, other)])

/-- The rows of both queries, with or without repetitions. -/
def union (q other : Query) (keepDuplicates : Bool) : Query :=
  q.combine (.clause (if keepDuplicates then .unionAll else .union)) other

end Query

namespace Statement

/-- A select of all columns, unless others are given. -/
def select (table : Value) (fields : Value := .tuple [.text "*"]) : Statement :=
  { kind := .kind .select, table, fields }

def insert (table data : Value) : Statement := { kind := .kind .insert, table, fields := data }

def update (table data : Value) : Statement := { kind := .kind .update, table, fields := data }

def delete (table : Value) : Statement := { kind := .kind .delete, table }

def truncate (table : Value) : Statement := { kind := .kind .truncate, table }

def createTable (schema : Schema) (attributes : Mapping := []) : Statement :=
  { kind := .kind .createTable, table := .text schema.table, schema := some schema, attributes }

def createIndex (table index fields : Value) (attributes : Mapping := []) : Statement :=
  { kind := .kind .createIndex, table, index, fields, attributes }

def dropTable (table : Value) (attributes : Mapping := []) : Statement :=
  { kind := .kind .dropTable, table, attributes }

def dropIndex (index : Value) (table : Value := .null) : Statement :=
  { kind := .kind .dropIndex, table, index }

end Statement

end SqlRender
