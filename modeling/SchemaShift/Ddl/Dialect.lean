import SchemaShift.Ddl.MySql
import SchemaShift.Ddl.Sqlite
import SchemaShift.Diff.SchemaChange

/-!
# Dialects

A dialect turns schema changes into the statements of one database.
-/

namespace SchemaShift

inductive Dialect where
  | mysql
  | sqlite
deriving DecidableEq

namespace Dialect

def name : Dialect → String
  | .mysql => "mysql"
  | .sqlite => "sqlite"

def quoteIdentifier : Dialect → String → String
  | .mysql => MySql.quoteIdentifier
  | .sqlite => Sqlite.quoteIdentifier

def columnDefinition : Dialect → Column → String
  | .mysql => MySql.columnDefinition
  | .sqlite => Sqlite.columnDefinition

def createTable : Dialect → Table → List Statement
  | .mysql => MySql.createTable
  | .sqlite => Sqlite.createTable

def dropTable (d : Dialect) (t : Table) : List Statement :=
  [{ kind := .dropTable, table := some t.name, sql := "DROP TABLE " ++ d.quoteIdentifier t.name }]

def alterTable : Dialect → String → ChangeSet → List Statement
  | .mysql => MySql.alterTable
  | .sqlite => Sqlite.alterTable

def alterSchema : Dialect → String → SchemaOptions → List Statement
  | .mysql, name, options => MySql.alterSchema name options
  | .sqlite, name, _ => Sqlite.alterSchema name

def emit (d : Dialect) : SchemaChange → List Statement
  | .alterSchema name options => d.alterSchema name options
  | .createTable t => d.createTable t
  | .dropTable t => d.dropTable t
  | .alterTable table changes => d.alterTable table changes

def emitAll (d : Dialect) (changes : List SchemaChange) : List Statement :=
  changes.flatMap d.emit

end Dialect

end SchemaShift
