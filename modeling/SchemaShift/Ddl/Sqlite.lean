import SchemaShift.Ddl.DefaultClause
import SchemaShift.Ddl.Statement
import SchemaShift.Diff.ChangeSet
import SchemaShift.Query.Value

/-!
# DDL for SQLite

A change is one statement per index and column. SQLite cannot alter a column, a primary key
or an option of a table; such a change becomes a comment.
-/

namespace SchemaShift.Sqlite

open Text

def quoteIdentifier (name : String) : String :=
  quote '"' name

def columnList (columns : List String) : String :=
  "(" ++ join ", " (columns.map quoteIdentifier) ++ ")"

def columnDefinition (c : Column) : String :=
  quoteIdentifier c.name ++ " " ++ c.columnType ++ (if c.nullable then "" else " NOT NULL") ++
    match c.defaultValue with
    | none => ""
    | some value => " DEFAULT " ++ defaultText quoteLiteral value

/-! ### Indexes -/

def createIndexText (unique : String) (table : String) (i : Index) : String :=
  "CREATE " ++ unique ++ "INDEX " ++ quoteIdentifier i.name ++ " ON " ++ quoteIdentifier table ++
    " " ++ columnList i.columns

def createIndex (table : String) (i : Index) : Statement :=
  let create (unique : String) : Statement :=
    { kind := .createIndex, table := some table, sql := createIndexText unique table i }
  let missing : Statement :=
    .unsupported (some table) ("SQLite has no " ++ i.kind.label ++ " index, skipped " ++ i.name)
  match i.kind with
  | .unique => create "UNIQUE "
  | .normal => create ""
  | .primary =>
    .unsupported (some table) ("SQLite cannot add a primary key to existing table " ++ table)
  | .fulltext => missing
  | .spatial => missing

def dropIndex (table : String) (i : Index) : Statement :=
  if i.kind = .primary then
    .unsupported (some table) ("SQLite cannot drop the primary key of " ++ table)
  else
    { kind := .dropIndex, table := some table, sql := "DROP INDEX " ++ quoteIdentifier i.name }

/-! ### Tables -/

/-- The only column of the primary key, if it counts up by itself. It has to be declared as
the integer key of the table. -/
def countingKey? (t : Table) : Option String :=
  match t.primaryKey with
  | [only] => ((t.column? only).filter (·.autoIncrement)).map (·.name)
  | _ => none

def createTableText (t : Table) : String :=
  let counting := countingKey? t
  let columns := t.columns.map fun c =>
    if counting = some c.name then quoteIdentifier c.name ++ " INTEGER PRIMARY KEY AUTOINCREMENT"
    else columnDefinition c
  let key :=
    if counting.isNone && !t.primaryKey.isEmpty then ["PRIMARY KEY " ++ columnList t.primaryKey]
    else []
  "CREATE TABLE " ++ quoteIdentifier t.name ++ " (" ++ join ", " (columns ++ key) ++ ")"

def createTable (t : Table) : List Statement :=
  { kind := .createTable, table := some t.name, sql := createTableText t } ::
    (t.indexes.values.filter fun i => i.kind != .primary).map (createIndex t.name)

def addColumn (table : String) (c : Column) : Statement :=
  { kind := .alterTable
    table := some table
    sql := "ALTER TABLE " ++ quoteIdentifier table ++ " ADD COLUMN " ++ columnDefinition c }

def modifyColumn (table : String) (c : ColumnChange) : Statement :=
  .unsupported (some table)
    ("SQLite cannot modify column " ++ table ++ "." ++ c.new.name ++ " to " ++
      columnDefinition c.new ++ ", rebuild the table")

/-- Deleted indexes go first, so that an index that changed can be created anew. -/
def alterTable (table : String) (s : ChangeSet) : List Statement :=
  s.deletedIndexes.map (dropIndex table) ++ s.addedColumns.map (addColumn table) ++
    s.changedColumns.map (modifyColumn table) ++ s.addedIndexes.map (createIndex table) ++
    if s.options.isSome then
      [.unsupported (some table) ("SQLite has no table options, skipped options of " ++ table)]
    else []

def alterSchema (name : String) : List Statement :=
  [.unsupported none ("SQLite has no schema options, skipped options of " ++ name)]

end SchemaShift.Sqlite
