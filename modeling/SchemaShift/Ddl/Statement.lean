import SchemaShift.Text.Search

/-!
# DDL statements

A statement is one piece of SQL together with what it does and the table it is about. What
a database cannot do is still a statement: a comment that is written out and never executed.
-/

namespace SchemaShift

inductive StatementKind where
  | alterSchema
  | createTable
  | dropTable
  | alterTable
  | createIndex
  | dropIndex
  | unsupported
deriving DecidableEq

structure Statement where
  kind : StatementKind
  /-- The table concerned; none for a statement about the schema. -/
  table : Option String
  sql : String
deriving DecidableEq

namespace Statement

/-- A comment in the place of a statement that the database lacks. -/
def unsupported (table : Option String) (message : String) : Statement :=
  { kind := .unsupported, table, sql := "-- " ++ message }

def isExecutable (s : Statement) : Bool :=
  s.kind != .unsupported

end Statement

end SchemaShift
