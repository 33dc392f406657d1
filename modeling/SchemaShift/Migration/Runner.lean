import SchemaShift.Migration.History

/-!
# Running units

A batch takes the units of a registry in ascending order of their ids and starts those that
are not in the wanted state. An action and its record are separate: a record that cannot be
written changes nothing about the action's success.
-/

namespace SchemaShift

open Text Session

inductive FailurePolicy where
  /-- The batch goes on with the next unit. -/
  | carryOn
  /-- The batch ends with the failure. -/
  | abort
deriving DecidableEq

structure Report where
  /-- The units whose action succeeded. -/
  applied : List UInt64
  /-- The units that were in the wanted state. -/
  skipped : List UInt64
  /-- The units whose action failed. -/
  failed : List UInt64
deriving DecidableEq

namespace Report

def empty : Report := { applied := [], skipped := [], failed := [] }

def isSuccess (r : Report) : Bool :=
  r.failed.isEmpty

def idsText (ids : List UInt64) : String :=
  "[" ++ Text.join ", " (ids.map fun id => natText id.toNat) ++ "]"

end Report

/-- A registered unit with its record, if it is applied. -/
structure UnitStatus where
  id : UInt64
  name : String
  version : String
  record : Option MigrationRecord
deriving DecidableEq

def UnitStatus.isApplied (s : UnitStatus) : Bool :=
  s.record.isSome

structure Runner (σ : Type := Store) where
  db : Database
  registry : Registry σ
  policy : FailurePolicy

namespace Runner

variable {σ : Type} [Server σ]

def isPending (recorded : Bool) : Direction → Bool
  | .up => !recorded
  | .down => recorded

/-- Writes or removes the record of a unit. Its failure ends nothing. -/
def book (db : Database) (u : MigrationUnit σ) : Direction → ManagerM σ Unit
  | .up => do
    let _ ← attempt (History.insert db u.id u.name u.version)
  | .down => do
    let _ ← attempt (History.delete db u.id)

inductive Turn where
  | applied
  | skipped
  | failed (cause : MigrationError)
deriving DecidableEq

def turn (db : Database) (d : Direction) (u : MigrationUnit σ) : ManagerM σ Turn := do
  let recorded ← History.has db u.id
  if isPending recorded d then
    match ← runAction u d with
    | .ok () =>
      book db u d
      return .applied
    | .error cause => return .failed cause
  else return .skipped

def Turn.report (id : UInt64) (later : Report) : Turn → Report
  | .applied => { later with applied := id :: later.applied }
  | .skipped => { later with skipped := id :: later.skipped }
  | .failed _ => { later with failed := id :: later.failed }

def batch (db : Database) (policy : FailurePolicy) (d : Direction) :
    List (MigrationUnit σ) → ManagerM σ Report
  | [] => return .empty
  | u :: us => do
    let t ← turn db d u
    match t, policy with
    | .failed cause, .abort => throw (.unitFailed u.id u.name cause)
    | t, _ => return t.report u.id (← batch db policy d us)

def run (r : Runner σ) (d : Direction) : ManagerM σ Report := do
  History.ensure r.db
  batch r.db r.policy d r.registry.units

def up (r : Runner σ) : ManagerM σ Report :=
  r.run .up

def down (r : Runner σ) : ManagerM σ Report :=
  r.run .down

def has (r : Runner σ) (id : UInt64) : ManagerM σ Bool :=
  History.has r.db id

/-- Records a unit as applied without running it, unless it has a record. -/
def create (r : Runner σ) (u : MigrationUnit σ) : ManagerM σ Bool := do
  if ← History.has r.db u.id then return false
  else
    History.insert r.db u.id u.name u.version
    return true

/-- Every registered unit with its record. Of several records of a unit the last one counts. -/
def status (r : Runner σ) : ManagerM σ (List UnitStatus) := do
  let records ← History.list r.db
  return r.registry.units.map fun u =>
    { id := u.id
      name := u.name
      version := u.version
      record := (records.filter fun record => record.migrateId == u.id).getLast? }

end Runner

end SchemaShift
