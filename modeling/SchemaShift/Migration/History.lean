import SchemaShift.Calendar.Reader
import SchemaShift.Migration.Registry
import SchemaShift.Migration.SchemaDiff
import SchemaShift.Migration.Server
import SchemaShift.Migration.Session

/-!
# The history of migrations

The bookkeeping table holds one record per applied unit. Every operation first makes sure
that the table is there, and only then looks at the id it was given.
-/

namespace SchemaShift

open Text

def bookkeepingTable : Table :=
  let index (name column : String) : Index :=
    .ofMember (.ofColumn name bookkeepingName column 1 false)
  let columns : List Column := [
    ((Column.ofType "id" "bigint unsigned").notNull.withKey .primary).withAutoIncrement,
    ((Column.ofType "migrate_id" "bigint unsigned").notNull.withKey .unique).withComment
      "migration unit id",
    (Column.ofType "name" "varchar(255)").notNull.withDefault "",
    ((Column.ofType "status" "tinyint").notNull.withDefault "0").withComment
      "0=migrated,1=not migrated",
    (Column.ofType "version" "varchar(64)").notNull.withDefault "",
    (Column.ofType "create_time" "timestamp").notNull.withDefault "CURRENT_TIMESTAMP",
    ((Column.ofType "update_time" "timestamp").notNull.withDefault "CURRENT_TIMESTAMP").withExtra
      "on update CURRENT_TIMESTAMP"]
  { name := bookkeepingName
    engine := "InnoDB"
    collation := "utf8mb4_general_ci"
    comment := "ksql migration history"
    columns
    indexes := (NameMap.empty.insert primaryIndexName (index primaryIndexName "id")).insert
      "uk_migrate_id" (index "uk_migrate_id" "migrate_id") }

structure MigrationRecord where
  id : Int64
  migrateId : UInt64
  name : String
  status : Int64
  version : String
  created : Calendar.Moment
  updated : Calendar.Moment
deriving DecidableEq

namespace MigrationRecord

def migratedStatus : Int64 := 0

def isMigrated (r : MigrationRecord) : Bool :=
  r.status == migratedStatus

/-- Reads a time column; blanks around the time do not count. -/
def readTime (written : String) : Except MigrationError Calendar.Moment :=
  let cs := strip written.toList
  match Calendar.moment? cs with
  | some m => .ok m
  | none => .error (.unreadableTime (String.ofList cs))

/-- The unit id and the status of a row, which have to be integers. -/
def numbers (r : Store.Row) : Except MigrationError (Int64 × Int64) :=
  match r.migrateId.asInteger?, r.status.asInteger? with
  | some migrateId, some status => .ok (migrateId, status)
  | _, _ => .error (.database .noInteger)

def ofRow (r : Store.Row) : Except MigrationError MigrationRecord := do
  let (migrateId, status) ← numbers r
  if migrateId < 0 then throw (.idOutOfRange (intText migrateId.toInt))
  let created ← readTime r.createTime.asText
  let updated ← readTime r.updateTime.asText
  return {
    id := r.id
    migrateId := migrateId.toInt.toNat.toUInt64
    name := r.name
    status
    version := r.version
    created
    updated }

/-- Reads rows. That a number is missing in any of them counts before all else. -/
def ofRows (rows : List Store.Row) : Except MigrationError (List MigrationRecord) := do
  let _ ← rows.mapM numbers
  rows.mapM ofRow

end MigrationRecord

namespace History

open Session

variable {σ : Type} [Server σ]

def refusal {α : Type} (r : Except Store.StoreError α) : Except MigrationError α :=
  r.mapError fun e => .database (.refused e)

def makeTable (db : Database) (store : σ) : Except MigrationError Nat × σ :=
  applyWith Server.execute store (db.driver.dialect.createTable bookkeepingTable)

/-- Creates the bookkeeping table unless it is there. The look is taken once per manager. -/
def ensure (db : Database) : ManagerM σ Unit := do
  let s ← get
  if s.ready then pure ()
  else
    let present ← ask fun store => Server.tableExists db store bookkeepingName
    if present then pure ()
    else
      let _ ← perform (makeTable db)
    modify fun s => { s with ready := true }

def has (db : Database) (id : UInt64) : ManagerM σ Bool := do
  ensure db
  let key ← lift (storedId id)
  let count ← ask fun store => refusal (Server.countRecords store key)
  return count != 0

def insert (db : Database) (id : UInt64) (name version : String) : ManagerM σ Unit := do
  ensure db
  let key ← lift (storedId id)
  perform fun store =>
    let (result, store) :=
      Server.insertRecord store key name MigrationRecord.migratedStatus version
    (refusal result, store)

/-- Removes the record of a unit, and tells whether there was one. -/
def delete (db : Database) (id : UInt64) : ManagerM σ Bool := do
  ensure db
  let key ← lift (storedId id)
  let count ← perform fun store =>
    let (result, store) := Server.deleteRecord store key
    (refusal result, store)
  return count != 0

/-- All records by ascending unit id. The first unreadable one is an error. -/
def list (db : Database) : ManagerM σ (List MigrationRecord) := do
  ensure db
  let rows ← ask fun store => refusal (Server.listRecords store)
  lift (MigrationRecord.ofRows rows)

end History

end SchemaShift
