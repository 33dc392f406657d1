import SchemaShift.Text.Letters

/-!
# The store's catalog

What the store knows about its tables: their columns as they were declared, the indexes on
them, and the text that created them. Letter case does not tell names apart.
-/

namespace SchemaShift.Store

open Text

structure CatalogColumn where
  name : String
  /-- The declared type as it was written. -/
  declared : String
  notNull : Bool
  /-- The text of the default, without parentheses around all of it. -/
  default? : Option String
  /-- The place in the primary key from 1, and 0 outside of it. -/
  keyOrdinal : Nat
  /-- The value follows from other columns. Such a column is not listed with the others. -/
  isGenerated : Bool
deriving DecidableEq

inductive IndexOrigin where
  | statement
  | uniqueConstraint
  | primaryKey
deriving DecidableEq

structure CatalogIndex where
  name : String
  unique : Bool
  origin : IndexOrigin
  /-- The member columns; an expression has no name. -/
  members : List (Option String)
deriving DecidableEq

structure CatalogTable where
  name : String
  /-- The text that created the table, from its name on. -/
  definition : String
  columns : List CatalogColumn
  indexes : List CatalogIndex
deriving DecidableEq

namespace CatalogTable

/-- The declared name of the column that `name` means. -/
def columnName? (t : CatalogTable) (name : String) : Option String :=
  (t.columns.find? fun c => sameLetters c.name name).map (·.name)

def listed (t : CatalogTable) : List CatalogColumn :=
  t.columns.filter fun c => !c.isGenerated

end CatalogTable

/-- The table that counts the keys handed out by self-counting tables. -/
def sequenceTable : CatalogTable :=
  { name := "sqlite_sequence"
    definition := "sqlite_sequence(name,seq)"
    columns := ["name", "seq"].map fun name =>
      { name
        declared := ""
        notNull := false
        default? := none
        keyOrdinal := 0
        isGenerated := false }
    indexes := [] }

/-- The engine's own table of tables, under any of its names. It is not among its rows. -/
def masterTable? (name : String) : Option String :=
  if sameLetters name "sqlite_master" || sameLetters name "sqlite_schema" then
    some "sqlite_master"
  else if sameLetters name "sqlite_temp_master" || sameLetters name "sqlite_temp_schema" then
    some "sqlite_temp_master"
  else none

/-- The name begins like those of the engine's own tables and indexes. -/
def isReservedName (name : String) : Bool :=
  "sqlite_".toList.isPrefixOf (name.toList.map Char.toLower)

def rowNumberNames : List String :=
  ["rowid", "oid", "_rowid_"]

end SchemaShift.Store
