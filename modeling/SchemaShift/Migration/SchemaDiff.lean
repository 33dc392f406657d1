import SchemaShift.Connection.Database
import SchemaShift.Migration.Unit

/-!
# Differences between databases

A diff run reads two databases and finds the changes that turn the first into the second,
with their statements. `applyWith` hands statements to an engine and passes over comments, and
`applyStatements` does so with the store as the engine.
-/

namespace SchemaShift

structure SchemaDiff where
  /-- The schema to change. -/
  source : Snapshot
  /-- The schema it should come to match. -/
  target : Snapshot
  changes : List SchemaChange
  /-- The changes in the dialect of the database to change. -/
  statements : List Statement

namespace SchemaDiff

def isEmpty (d : SchemaDiff) : Bool :=
  d.changes.isEmpty

def executable (d : SchemaDiff) : List Statement :=
  d.statements.filter Statement.isExecutable

/-- The changes that lead back. They are meant for the changed database, so a change of the
schema's options names that one. -/
def reverseChanges (d : SchemaDiff) : List SchemaChange :=
  d.source.changesBack d.target

def ofSnapshots (dialect : Dialect) (source target : Snapshot) : SchemaDiff :=
  let changes := source.changesTo target
  { source, target, changes, statements := dialect.emitAll changes }

/-- Reads the first database, then the second. -/
def ofDatabases (source : Database) (s : Store) (target : Database) (t : Store) :
    Except MigrationError SchemaDiff := do
  let found ← source.snapshot s
  let wanted ← target.snapshot t
  return ofSnapshots source.driver.dialect found wanted

end SchemaDiff

/-- Runs the executable statements until one is refused, and counts those that ran. -/
def applyWith {σ : Type} (engine : Engine σ) (s : σ) :
    List Statement → Except MigrationError Nat × σ
  | [] => (.ok 0, s)
  | statement :: rest =>
    if !statement.isExecutable then applyWith engine s rest
    else
      match engine s statement.sql with
      | (.error e, s) => (.error (.database (.refused e)), s)
      | (.ok (), s) =>
        let (result, s) := applyWith engine s rest
        (result.map (· + 1), s)

section Engine

variable {σ : Type} {engine : Engine σ} {s t : σ}

theorem applyWith_comment {statement : Statement} (comment : statement.isExecutable = false)
    (rest : List Statement) : applyWith engine s (statement :: rest) = applyWith engine s rest := by
  rw [applyWith, comment]
  rfl

variable {kind : StatementKind} {table : Option String} {sql : String}
  (executable : (kind != .unsupported) = true)
include executable

theorem applyWith_refused {e : Store.StoreError} (stop : engine s sql = (.error e, t))
    (rest : List Statement) :
    applyWith engine s ({ kind, table, sql } :: rest) = (.error (.database (.refused e)), t) := by
  rw [applyWith, Statement.isExecutable, executable, stop]
  rfl

theorem applyWith_accepted (accepted : engine s sql = (.ok (), t)) (rest : List Statement) :
    applyWith engine s ({ kind, table, sql } :: rest) =
      ((applyWith engine t rest).1.map (· + 1), (applyWith engine t rest).2) := by
  rw [applyWith, Statement.isExecutable, executable, accepted]
  rfl

end Engine

def applyStatements (s : Store) (statements : List Statement) :
    Except MigrationError Nat × Store :=
  applyWith Store.execute s statements

end SchemaShift
