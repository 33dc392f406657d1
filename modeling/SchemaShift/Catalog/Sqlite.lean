import SchemaShift.Connection.Error
import SchemaShift.Schema.Table
import SchemaShift.Store.Basic
import SchemaShift.Text.Blank
import SchemaShift.Text.Like
import SchemaShift.Text.Quoted

/-!
# The catalog of SQLite

Tables as the catalog of a SQLite database describes them. The primary key comes from the
ordinals of the columns, every other index from the list of indexes; the roles of columns in
keys follow from both.
-/

namespace SchemaShift.Catalog.Sqlite

open Text Store

/-! ### Columns -/

/-- The default that a catalog text stands for: a quoted text means its contents, `NULL` means
that there is none, and an expression stays as it is. -/
def normalizeDefault (written : String) : Option String :=
  let cs := strip written.toList
  if sameLetters (String.ofList cs) "NULL" then none
  else
    match cs with
    | '\'' :: rest =>
      if rest.getLast? = some '\'' then some (String.ofList (undouble '\'' rest.dropLast))
      else some (String.ofList cs)
    | _ => some (String.ofList cs)

/-- `counting` tells that the key of the table is counted up. -/
def column (counting : Bool) (c : CatalogColumn) : Column :=
  let found := { Column.ofType c.name c.declared with
    nullable := !c.notNull
    defaultValue := c.default?.bind normalizeDefault }
  if counting && c.keyOrdinal != 0 then found.withAutoIncrement else found

/-! ### Indexes -/

def keyColumns (t : CatalogTable) : List CatalogColumn :=
  (t.listed.filter fun c => c.keyOrdinal != 0).mergeSort fun a b =>
    a.keyOrdinal < b.keyOrdinal || (a.keyOrdinal == b.keyOrdinal && a.name ≤ b.name)

/-- A table with one key column whose definition says so counts that key up. -/
def isCounting (t : CatalogTable) : Bool :=
  (keyColumns t).length == 1 && Text.contains (upper t.definition) "AUTOINCREMENT"

def keyRows (t : CatalogTable) : List IndexMember :=
  (keyColumns t).map fun c =>
    .ofColumn primaryIndexName t.name c.name (Int64.ofNat c.keyOrdinal) false

/-- The rows of one index, numbered from 1. An expression counts as a column without a name. -/
def indexRows (table : String) (i : CatalogIndex) : List IndexMember :=
  i.members.zipIdx.map fun (name, place) =>
    .ofColumn i.name table (name.getD "") (Int64.ofNat (place + 1)) (!i.unique)

/-- The indexes that do not enforce the primary key, by name. -/
def secondaryIndexes (t : CatalogTable) : List CatalogIndex :=
  (t.indexes.filter fun i => i.origin != .primaryKey).mergeSort fun a b => a.name ≤ b.name

def indexes (t : CatalogTable) : NameMap Index :=
  Index.group (keyRows t ++ (secondaryIndexes t).flatMap (indexRows t.name))

/-! ### Key roles -/

/-- Of two roles the one with the higher rank counts. -/
def rank : KeyRole → Nat
  | .primary => 3
  | .unique => 2
  | .multiple => 1
  | .none => 0

def roleOf : IndexKind → KeyRole
  | .primary => .primary
  | .unique => .unique
  | _ => .multiple

/-- The columns that an index gives a role: all of a primary key, and the first of any other. -/
def concerned (i : Index) : List String :=
  if i.kind = .primary then i.columns else i.columns.take 1

def grant (i : Index) (c : Column) : Column :=
  if (concerned i).contains c.name && rank c.key < rank (roleOf i.kind) then
    { c with key := roleOf i.kind }
  else c

def assignKeyRoles (columns : List Column) (indexes : List Index) : List Column :=
  indexes.foldl (fun columns i => columns.map (grant i)) columns

/-! ### Tables -/

def table (t : CatalogTable) : Table :=
  let indexes := indexes t
  { Table.named t.name with
    columns := assignKeyRoles (t.listed.map (column (isCounting t))) indexes.values
    indexes }

/-- The tables of a schema. The temporary schema of the store is empty. -/
def schemaTables (s : Store) (schema : String) : Except DatabaseError (List CatalogTable) :=
  if sameLetters schema "main" then .ok s.tables
  else if sameLetters schema "temp" then .ok []
  else .error (.refused (.noSuchTable (schema ++ ".sqlite_master")))

def isHidden (name : String) : Bool :=
  like "sqlite_%".toList name.toList || name == bookkeepingName

def tables (s : Store) (schema : String) : Except DatabaseError (List Table) := do
  let found ← schemaTables s schema
  let shown := found.filter fun t => !isHidden t.name
  return (shown.mergeSort fun a b => a.name ≤ b.name).map table

/-- The database keeps no options for its schemas. -/
def options (_ : Store) (_ : String) : Except DatabaseError SchemaOptions :=
  .ok { charset := "", collation := "" }

def tableExists (s : Store) (schema name : String) : Except DatabaseError Bool := do
  let found ← schemaTables s schema
  return found.any fun t => t.name == name

end SchemaShift.Catalog.Sqlite
