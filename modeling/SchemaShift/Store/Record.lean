import SchemaShift.Store.Basic

/-!
# Records of the bookkeeping table

Each operation first looks whether the bookkeeping table is there and has the columns it
needs: the table may have been dropped, or created with other columns.
-/

namespace SchemaShift.Store

open Text Store

def withColumns (s : Store) (missing : String → StoreError) (columns : List String) :
    Except StoreError Unit :=
  match s.table? bookkeepingName with
  | none => .error (.noSuchTable bookkeepingName)
  | some t =>
    match columns.find? fun c => !rowNumberNames.contains (lower c) && (t.columnName? c).isNone with
    | some c => .error (missing c)
    | none => .ok ()

/-- A unique index on the column alone lets no value stand twice. -/
def keepsUnique (s : Store) (column : String) : Bool :=
  match s.table? bookkeepingName with
  | none => false
  | some t => t.indexes.any fun i => i.unique && i.members == [some column]

def repeated : StoreError :=
  .notUnique (bookkeepingName ++ ".migrate_id")

def countRecords (s : Store) (key : Int64) : Except StoreError Nat := do
  s.withColumns .noSuchColumn ["migrate_id"]
  return s.ledger.count key

def insertRecord (s : Store) (key : Int64) (name : String) (status : Int64) (version : String) :
    Except StoreError Store := do
  s.withColumns (.columnMissingFrom bookkeepingName) ["migrate_id", "name", "status", "version"]
  if !s.ledger.hasRoom then throw .full
  else if s.keepsUnique "migrate_id" && s.ledger.holds key then throw repeated
  else return { s with ledger := s.ledger.insert key name status version s.now }

/-- Also tells how many rows there were to delete. -/
def deleteRecord (s : Store) (key : Int64) : Except StoreError (Nat × Store) := do
  s.withColumns .noSuchColumn ["migrate_id"]
  return (s.ledger.count key, { s with ledger := s.ledger.erase key })

def listRecords (s : Store) : Except StoreError (List Row) := do
  s.withColumns .noSuchColumn (Field.all.map Field.column)
  return s.ledger.sorted

/-- Puts a value into one column of the rows of a unit, and tells how many there were. -/
def setRecord (s : Store) (column : String) (key : Int64) (v : Value) :
    Except StoreError (Nat × Store) := do
  s.withColumns .noSuchColumn [column, "migrate_id"]
  let ledger ← match Field.ofName? column with
    | some f => s.ledger.set f key v
    | none => pure s.ledger
  if !(ledger.rows.map (·.id)).Nodup then throw (.sameRowNumber (bookkeepingName ++ ".id"))
  else if s.keepsUnique "migrate_id" && !(ledger.rows.map (·.migrateId)).Nodup then throw repeated
  else return (s.ledger.count key, { s with ledger })

end SchemaShift.Store
