import SchemaShift.Text.Letters

/-!
# Indexes

An index is built from the rows a catalog reports for it, one per member column. The first
row fixes its name and its kind; `Index.push` refuses a row of another name.
-/

namespace SchemaShift

open Text

inductive IndexKind where
  | primary
  | unique
  | normal
  | fulltext
  | spatial
deriving DecidableEq

def IndexKind.label : IndexKind → String
  | .primary => "Primary"
  | .unique => "Unique"
  | .normal => "Normal"
  | .fulltext => "Fulltext"
  | .spatial => "Spatial"

/-- One row of an index: one member column. -/
structure IndexMember where
  indexName : String
  tableName : String
  nonUnique : Bool
  columnName : String
  /-- The place of the column in the index, from 1. -/
  position : Int64
  /-- The index method, such as `BTREE` or `FULLTEXT`. -/
  method : String
  comment : String
deriving DecidableEq

def primaryIndexName : String := "PRIMARY"

namespace IndexMember

def ofColumn (indexName tableName columnName : String) (position : Int64) (nonUnique : Bool) :
    IndexMember :=
  { indexName, tableName, nonUnique, columnName, position, method := "BTREE", comment := "" }

/-- The kind of an index with this first row: its name tells a primary key, its method the
special kinds, and its uniqueness the rest. -/
def kind (m : IndexMember) : IndexKind :=
  if sameLetters m.indexName primaryIndexName then .primary
  else if upper m.method = "FULLTEXT" then .fulltext
  else if upper m.method = "SPATIAL" then .spatial
  else if m.nonUnique then .normal
  else .unique

end IndexMember

structure Index where
  name : String
  kind : IndexKind
  members : List IndexMember
deriving DecidableEq

/-- A row named `found` was offered to the index `expected`. -/
structure IndexNameMismatch where
  expected : String
  found : String
deriving DecidableEq

def IndexNameMismatch.message (e : IndexNameMismatch) : String :=
  "index row '" ++ e.found ++ "' cannot be added to index '" ++ e.expected ++ "'"

namespace Index

def ofMember (first : IndexMember) : Index :=
  { name := first.indexName, kind := first.kind, members := [first] }

def push (i : Index) (m : IndexMember) : Except IndexNameMismatch Index :=
  if m.indexName = i.name then .ok { i with members := i.members ++ [m] }
  else .error { expected := i.name, found := m.indexName }

def columns (i : Index) : List String :=
  i.members.map (·.columnName)

def comment (i : Index) : String :=
  (i.members.head?.map (·.comment)).getD ""

end Index

end SchemaShift
