import SchemaShift.Schema.Table
import SchemaShift.Store.Catalog
import SchemaShift.Store.Cell
import SchemaShift.Store.Error

/-!
# The rows of the bookkeeping table

Rows are numbered from 1 in the order they are written, and no number is used twice. A row
counts for a unit when its unit id is that unit's key.
-/

namespace SchemaShift.Store

open Text

structure Row where
  id : Int64
  migrateId : Cell
  name : String
  status : Cell
  version : String
  createTime : Cell
  updateTime : Cell
deriving DecidableEq

inductive Field where
  | id
  | migrateId
  | name
  | status
  | version
  | createTime
  | updateTime
deriving DecidableEq

namespace Field

def all : List Field :=
  [.id, .migrateId, .name, .status, .version, .createTime, .updateTime]

def column : Field → String
  | .id => "id"
  | .migrateId => "migrate_id"
  | .name => "name"
  | .status => "status"
  | .version => "version"
  | .createTime => "create_time"
  | .updateTime => "update_time"

/-- The column that a name means; letter case does not matter. -/
def ofName? (name : String) : Option Field :=
  if rowNumberNames.contains (lower name) then some .id
  else all.find? fun f => sameLetters f.column name

end Field

structure Ledger where
  /-- The rows in the order they were written. -/
  rows : List Row
  /-- The greatest number handed out. -/
  lastId : Nat
deriving DecidableEq

namespace Ledger

def empty : Ledger :=
  { rows := [], lastId := 0 }

def isFor (key : Int64) (r : Row) : Bool :=
  r.migrateId == .int key

def count (l : Ledger) (key : Int64) : Nat :=
  (l.rows.filter (isFor key)).length

def holds (l : Ledger) (key : Int64) : Bool :=
  l.rows.any (isFor key)

def nextId (l : Ledger) : Nat :=
  l.rows.foldl (fun n r => max n r.id.toInt.toNat) l.lastId + 1

def hasRoom (l : Ledger) : Bool :=
  l.nextId < signedLimit

/-- Writes a row at the time `now`. -/
def insert (l : Ledger) (key : Int64) (name : String) (status : Int64) (version now : String) :
    Ledger :=
  let id := l.nextId
  { rows := l.rows ++
      [{ id := Int64.ofNat id
         migrateId := .int key
         name
         status := .int status
         version
         createTime := .text now
         updateTime := .text now }]
    lastId := id }

def erase (l : Ledger) (key : Int64) : Ledger :=
  { l with rows := l.rows.filter fun r => !isFor key r }

/-- The rows by ascending unit id, and rows of one unit by their numbers. -/
def sorted (l : Ledger) : List Row :=
  (l.rows.mergeSort fun a b => a.id ≤ b.id).mergeSort fun a b => a.migrateId.le b.migrateId

/-! ### Values put into rows by hand -/

/-- The row with another value in one column. No column takes a null, and the number of a
row is an integer. -/
def Row.set (r : Row) (f : Field) (v : Value) : Except StoreError Row :=
  let number (put : Cell → Row) := (Cell.ofValue? v).map put
  let text (put : String → Row) := (Cell.textOf? v).map put
  let changed := match f with
    | .id => none
    | .migrateId => number fun c => { r with migrateId := c }
    | .name => text fun s => { r with name := s }
    | .status => number fun c => { r with status := c }
    | .version => text fun s => { r with version := s }
    | .createTime => number fun c => { r with createTime := c }
    | .updateTime => number fun c => { r with updateTime := c }
  match f, Cell.ofValue? v, changed with
  | .id, some (.int n), _ => .ok { r with id := n }
  | .id, _, _ => .error .mismatch
  | _, _, some r => .ok r
  | _, _, none => .error (.notNull (bookkeepingName ++ "." ++ f.column))

def set (l : Ledger) (f : Field) (key : Int64) (v : Value) : Except StoreError Ledger := do
  let rows ← l.rows.mapM fun r => if isFor key r then Row.set r f v else .ok r
  return { l with rows }

end Ledger

end SchemaShift.Store
