import SchemaShift.Json.Basic

/-!
# Connection settings

Where a database is found, which driver speaks to it, and the schema that is meant.
-/

namespace SchemaShift

open Json

structure ConnectionConfig where
  driver : String
  dsn : String
  schemaName : String
deriving DecidableEq

namespace ConnectionConfig

def toJson (c : ConnectionConfig) : Json :=
  .object [
    ("driver", .string c.driver),
    ("dsn", .string c.dsn),
    ("db_name", .string c.schemaName)]

def ofJson? (j : Json) : Option ConnectionConfig := do
  let r ← record? ["driver", "dsn", "db_name"] 3 j
  return {
    driver := ← r.field "driver" string?
    dsn := ← r.field "dsn" string?
    schemaName := ← r.field "db_name" string? }

end ConnectionConfig

end SchemaShift
