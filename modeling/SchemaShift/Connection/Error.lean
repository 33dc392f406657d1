import SchemaShift.Store.Error

/-!
# What goes wrong between tool and database

A database refuses statements, answers with something that cannot be used, or cannot be
reached. `text` is the wording, where there is one to rely on.
-/

namespace SchemaShift

inductive DatabaseError where
  /-- The database refused a statement. -/
  | refused (cause : Store.StoreError)
  /-- The answer was no valid data; `text` says why. -/
  | invalidData (text : String)
  /-- A null stands where a value is needed. -/
  | missingValue
  /-- A text or a fraction stands where an integer is needed. -/
  | noInteger
  /-- All connections are closed. -/
  | closed
  /-- There is no database at the address. -/
  | unreachable
deriving DecidableEq

def DatabaseError.text : DatabaseError → Option String
  | .refused cause => some cause.message
  | .invalidData text => some ("encountered unexpected or invalid data: " ++ text)
  | .missingValue => none
  | .noInteger => none
  | .closed => some "attempted to acquire a connection on a closed pool"
  | .unreachable => none

end SchemaShift
