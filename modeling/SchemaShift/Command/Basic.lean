import SchemaShift.Connection.Config

/-!
# Commands

What the tool can be told to do: write or execute the difference between two databases,
print a snapshot, and work with migration units.
-/

namespace SchemaShift

structure DiffRequest where
  /-- The database to change. -/
  source : ConnectionConfig
  /-- The database it should come to match. -/
  target : ConnectionConfig
  outDir : String
  /-- Print the statements and do nothing else. -/
  dryRun : Bool
deriving DecidableEq

/-- A new unit. It is empty unless all four parts of the two addresses are given. -/
structure MakeRequest where
  name : String
  version : String
  outDir : String
  driver : String
  sourceDsn : Option String
  sourceName : Option String
  targetDsn : Option String
  targetName : Option String
deriving DecidableEq

inductive UnitTask where
  | up
  | down
  | list
deriving DecidableEq

inductive Command where
  | diff (request : DiffRequest)
  | migrate (request : DiffRequest)
  | snapshot (config : ConnectionConfig)
  /-- A `strict` task ends with the first unit that fails. -/
  | units (task : UnitTask) (config : ConnectionConfig) (strict : Bool)
  | make (request : MakeRequest)
deriving DecidableEq

structure Invocation where
  verbose : Bool
  command : Command
deriving DecidableEq

end SchemaShift
