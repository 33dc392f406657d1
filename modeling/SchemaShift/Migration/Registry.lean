import SchemaShift.Migration.Unit
import SchemaShift.Output.SourceLiteral

/-!
# The registry of units

Units are kept in ascending order of their ids. A unit is refused when its id has no room in
the bookkeeping table, and otherwise when the id is taken.
-/

namespace SchemaShift

open Text

/-- The signed number under which the bookkeeping table knows an id. -/
def storedId (id : UInt64) : Except MigrationError Int64 :=
  if id.toNat < signedLimit then .ok (Int64.ofNat id.toNat)
  else .error (.idOutOfRange (natText id.toNat))

structure UnitBundle (σ : Type := Store) where
  name : String
  units : List (MigrationUnit σ)

def UnitBundle.text {σ : Type} (b : UnitBundle σ) : String :=
  "UnitBundle \x7b name: " ++ Output.sourceLiteral b.name ++ ", units: " ++
    natText b.units.length ++ " \x7d"

structure Registry (σ : Type := Store) where
  units : List (MigrationUnit σ)

namespace Registry

variable {σ : Type}

def empty : Registry σ := { units := [] }

def get? (r : Registry σ) (id : UInt64) : Option (MigrationUnit σ) :=
  r.units.find? fun u => u.id == id

/-- Puts a unit before the first one with a greater id. -/
def insertUnit (u : MigrationUnit σ) : List (MigrationUnit σ) → List (MigrationUnit σ)
  | [] => [u]
  | v :: vs => if u.id < v.id then u :: v :: vs else v :: insertUnit u vs

def register (r : Registry σ) (u : MigrationUnit σ) : Except MigrationError (Registry σ) := do
  let _ ← storedId u.id
  if (r.get? u.id).isSome then throw (.duplicateId u.id)
  return { units := insertUnit u r.units }

/-- Registers units until one is refused. Those before it stay. -/
def registerAll (r : Registry σ) :
    List (MigrationUnit σ) → Except MigrationError Unit × Registry σ
  | [] => (.ok (), r)
  | u :: us =>
    match r.register u with
    | .error e => (.error e, r)
    | .ok r => r.registerAll us

def load (r : Registry σ) (b : UnitBundle σ) : Except MigrationError Unit × Registry σ :=
  r.registerAll b.units

def loadAll (r : Registry σ) : List (UnitBundle σ) → Except MigrationError (Registry σ)
  | [] => .ok r
  | b :: bs =>
    match r.load b with
    | (.error e, _) => .error e
    | (.ok (), r) => r.loadAll bs

/-- The form in which a registry is logged: the ids of its units. -/
def text (r : Registry σ) : String :=
  "[" ++ Text.join ", " (r.units.map fun u => natText u.id.toNat) ++ "]"

end Registry

end SchemaShift
