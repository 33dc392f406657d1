import SchemaShift.Schema.Column
import SchemaShift.Schema.Index
import SchemaShift.Schema.NameMap

/-!
# Tables and snapshots

A snapshot is what introspection found in one database: its options and its tables in
catalog order. `Index.group` gathers the index rows of a table under the names they carry.
-/

namespace SchemaShift

open Text

/-- The table in which applied migrations are recorded. It is no part of any diff. -/
def bookkeepingName : String := "ksql_migrate_info"

/-- Adds a row to the index it names, or starts that index with it. -/
def Index.addRow (indexes : NameMap Index) (row : IndexMember) : NameMap Index :=
  match indexes.find? row.indexName with
  | none => indexes.insert row.indexName (.ofMember row)
  | some index =>
    match index.push row with
    | .ok grown => indexes.insert row.indexName grown
    | .error _ => indexes

/-- The indexes made up of `rows`, each under its name. -/
def Index.group (rows : List IndexMember) : NameMap Index :=
  rows.foldl Index.addRow .empty

/-- The character set of a collation: what stands before its first underscore. -/
def charsetOf (collation : String) : String :=
  String.ofList (collation.toList.takeWhile (· != '_'))

structure Table where
  name : String
  /-- The storage engine; empty where the database has none. -/
  engine : String
  collation : String
  comment : String
  /-- The columns in the order of their declaration. -/
  columns : List Column
  indexes : NameMap Index
deriving DecidableEq

namespace Table

def named (name : String) : Table :=
  { name, engine := "", collation := "", comment := "", columns := [], indexes := .empty }

def addColumn (t : Table) (c : Column) : Table :=
  { t with columns := t.columns ++ [c] }

/-- Adds an index under its own name; it replaces one of that name. -/
def addIndex (t : Table) (i : Index) : Table :=
  { t with indexes := t.indexes.insert i.name i }

def charset (t : Table) : String :=
  charsetOf t.collation

def column? (t : Table) (name : String) : Option Column :=
  t.columns.find? fun c => c.name == name

def index? (t : Table) (name : String) : Option Index :=
  t.indexes.find? name

/-- The columns of the first primary index, or without one those whose role is primary. -/
def primaryKey (t : Table) : List String :=
  match t.indexes.values.find? fun i => i.kind == .primary with
  | some index => index.columns
  | none => (t.columns.filter fun c => c.key == .primary).map (·.name)

end Table

structure SchemaOptions where
  charset : String
  collation : String
deriving DecidableEq

structure Snapshot where
  name : String
  options : SchemaOptions
  tables : List Table
deriving DecidableEq

namespace Snapshot

def named (name : String) : Snapshot :=
  { name, options := { charset := "", collation := "" }, tables := [] }

def table? (s : Snapshot) (name : String) : Option Table :=
  s.tables.find? fun t => t.name == name

def tracked (s : Snapshot) : List Table :=
  s.tables.filter fun t => t.name != bookkeepingName

end Snapshot

end SchemaShift
