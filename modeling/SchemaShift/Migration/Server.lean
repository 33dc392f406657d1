import SchemaShift.Connection.Database
import SchemaShift.Migration.Unit
import SchemaShift.Store.Record

/-!
# Servers

A manager does not look into a database. It asks the server for tables, hands it SQL texts, and
reads and writes records through a few queries. `Server` is what it uses of the server; the store
is one.
-/

namespace SchemaShift

/-- A server whose databases have the states `σ`. Whatever a query comes to, it leaves a state. -/
class Server (σ : Type) where
  tableExists : Database → σ → String → Except MigrationError Bool
  execute : Engine σ
  countRecords : σ → Int64 → Except Store.StoreError Nat
  /-- Takes the key, the name, the status and the version of a unit. -/
  insertRecord : σ → Int64 → String → Int64 → String → Except Store.StoreError Unit × σ
  /-- Also tells how many records there were to delete. -/
  deleteRecord : σ → Int64 → Except Store.StoreError Nat × σ
  listRecords : σ → Except Store.StoreError (List Store.Row)

namespace Store

/-- The store as a failed or a finished query leaves it. -/
def settle {α : Type} (s : Store) : Except StoreError (α × Store) → Except StoreError α × Store
  | .ok (a, t) => (.ok a, t)
  | .error e => (.error e, s)

instance : Server Store where
  tableExists db := db.tableExists
  execute := execute
  countRecords := countRecords
  insertRecord s key name status version :=
    s.settle ((s.insertRecord key name status version).map ((), ·))
  deleteRecord s key := s.settle (s.deleteRecord key)
  listRecords := listRecords

end Store

end SchemaShift
