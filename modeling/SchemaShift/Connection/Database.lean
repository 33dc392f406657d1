import SchemaShift.Catalog.Driver
import SchemaShift.Connection.Config
import SchemaShift.Migration.Error
import SchemaShift.Output.SourceLiteral
import SchemaShift.Schema.NameMap
import SchemaShift.Text.Search

/-!
# Databases and drivers

Drivers are looked up by name. A database is a driver together with the schema that is
meant; what the database holds is a `Store`, which changes while the database is used.
-/

namespace SchemaShift

open Text

abbrev Drivers := NameMap Driver

namespace Drivers

/-- Adds a driver under its own name, in place of one of that name. -/
def register (ds : Drivers) (d : Driver) : Drivers :=
  ds.insert d.name d

def standard : Drivers :=
  register (register .empty .mysql) .sqlite

def get (ds : Drivers) (name : String) : Except MigrationError Driver :=
  match ds.find? name with
  | some d => .ok d
  | none => .error (.unknownDriver name)

def text (ds : Drivers) : String :=
  "DriverRegistry \x7b drivers: [" ++ Text.join ", " (ds.keys.map Output.sourceLiteral) ++ "] \x7d"

end Drivers

structure Database where
  driver : Driver
  /-- The name of the schema. -/
  name : String

namespace Database

/-- Finds the driver first and then the store, which `reach` looks for at the address. -/
def connect (ds : Drivers) (reach : String → Option Store) (c : ConnectionConfig) :
    Except MigrationError (Database × Store) := do
  let driver ← ds.get c.driver
  match reach c.dsn with
  | some store => return ({ driver, name := c.schemaName }, store)
  | none => throw (.connection c.driver c.schemaName .unreachable)

def asMigrationError {α : Type} (r : Except DatabaseError α) : Except MigrationError α :=
  r.mapError .database

def snapshot (db : Database) (s : Store) : Except MigrationError Snapshot :=
  asMigrationError (db.driver.snapshot s db.name)

def tableExists (db : Database) (s : Store) (table : String) : Except MigrationError Bool :=
  asMigrationError (db.driver.tableExists s db.name table)

def text (db : Database) : String :=
  "Database \x7b driver: " ++ Output.sourceLiteral db.driver.name ++ ", name: " ++
    Output.sourceLiteral db.name ++ ", .. \x7d"

end Database

end SchemaShift
