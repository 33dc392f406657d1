import SchemaShift.Catalog.MySql
import SchemaShift.Catalog.Sqlite
import SchemaShift.Ddl.Dialect

/-!
# Drivers

A driver reads the catalog of one kind of database and knows the dialect of its statements.
A snapshot is the options of a schema and its tables, read in that order.
-/

namespace SchemaShift

structure Driver where
  name : String
  dialect : Dialect
  options : Store → String → Except DatabaseError SchemaOptions
  tables : Store → String → Except DatabaseError (List Table)
  tableExists : Store → String → String → Except DatabaseError Bool

namespace Driver

def mysql : Driver :=
  { name := "mysql"
    dialect := .mysql
    options := Catalog.MySql.options
    tables := Catalog.MySql.tables
    tableExists := Catalog.MySql.tableExists }

def sqlite : Driver :=
  { name := "sqlite"
    dialect := .sqlite
    options := Catalog.Sqlite.options
    tables := Catalog.Sqlite.tables
    tableExists := Catalog.Sqlite.tableExists }

def snapshot (d : Driver) (s : Store) (schema : String) : Except DatabaseError Snapshot := do
  let options ← d.options s schema
  let tables ← d.tables s schema
  return { name := schema, options, tables }

end Driver

end SchemaShift
