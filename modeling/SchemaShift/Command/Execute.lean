import SchemaShift.Command.Basic
import SchemaShift.Json.Printer
import SchemaShift.Migration.Runner
import SchemaShift.Output.Folder
import SchemaShift.Schema.Encoding

/-!
# Executing commands

A command works on a host: the databases that can be reached, a folder, and the time. It
prints a text, and what it did before a failure stays done.
-/

namespace SchemaShift

open Text Output

structure Host where
  /-- The databases by their addresses. -/
  databases : NameMap Store
  folder : Folder
  now : Calendar.Civil

inductive CommandError where
  /-- `context` says what was being done. -/
  | migration (context : Option String) (cause : MigrationError)
  /-- A batch went to its end, but these units failed. -/
  | unitsFailed (ids : List UInt64)
deriving DecidableEq

def unitsFailedText (ids : List UInt64) : String :=
  "migrations failed: " ++ Report.idsText ids

def CommandError.text : CommandError → String
  | .migration context cause =>
    let message := cause.message.getD "input or output failed"
    match context with
    | some context => context ++ ": " ++ message
    | none => message
  | .unitsFailed ids => unitsFailedText ids

structure Outcome where
  result : Except CommandError Unit
  printed : String
  host : Host

namespace Host

/-- The address of a database in memory. Each connection has its own. -/
def memoryAddress : String := "sqlite::memory:"

def reach (h : Host) (dsn : String) : Option Store :=
  if dsn = memoryAddress then some (.fresh h.now.spaced)
  else (h.databases.find? dsn).map fun store => { store with now := h.now.spaced }

/-- Keeps what became of the database at an address. One in memory is gone. -/
def keep (h : Host) (dsn : String) (store : Store) : Host :=
  if dsn = memoryAddress then h
  else { h with databases := h.databases.insert dsn store }

def succeed (h : Host) (printed : String) : Outcome :=
  { result := .ok (), printed, host := h }

def fail (h : Host) (e : CommandError) : Outcome :=
  { result := .error e, printed := "", host := h }

def failWith (h : Host) (e : MigrationError) : Outcome :=
  h.fail (.migration none e)

def connect (h : Host) (c : ConnectionConfig) : Except MigrationError (Database × Store) :=
  Database.connect .standard h.reach c

/-- Connects to the database to change and then to the other one. -/
def connectPair (h : Host) (r : DiffRequest) :
    Except CommandError ((Database × Store) × (Database × Store)) := do
  let source ← (h.connect r.source).mapError
    (CommandError.migration (some "connecting to the from database"))
  let target ← (h.connect r.target).mapError
    (CommandError.migration (some "connecting to the to database"))
  return (source, target)

/-- Finds the difference that a request is about, with the store of the database to change. -/
def difference (h : Host) (r : DiffRequest) : Except CommandError (SchemaDiff × Store) := do
  let ((source, s), (target, t)) ← h.connectPair r
  let d ← (SchemaDiff.ofDatabases source s target t).mapError (CommandError.migration none)
  return (d, s)

def written (h : Host) : Option Folder → Outcome
  | some folder => { h with folder }.succeed ""
  | none => h.failWith .file

/-- Writes the difference to a file. Without one there is nothing to write. -/
def diff (h : Host) (r : DiffRequest) : Outcome :=
  match h.difference r with
  | .error e => h.fail e
  | .ok (d, _) =>
    if d.isEmpty then h.succeed ""
    else if r.dryRun then h.succeed (statementLines d.statements)
    else
      let header : DiffHeader :=
        { source := r.source.schemaName
          target := r.target.schemaName
          version := toolVersion
          created := h.now }
      h.written (h.folder.writeDiff r.outDir header d.statements)

def migrate (h : Host) (r : DiffRequest) : Outcome :=
  match h.difference r with
  | .error e => h.fail e
  | .ok (d, s) =>
    if d.isEmpty then h.succeed ""
    else if r.dryRun then h.succeed (statementLines d.statements)
    else
      let (result, s) := applyStatements s d.statements
      let h := h.keep r.source.dsn s
      match result with
      | .ok _ => h.succeed ""
      | .error e => h.failWith e

def snapshot (h : Host) (c : ConnectionConfig) : Outcome :=
  match h.connect c with
  | .error e => h.failWith e
  | .ok (db, s) =>
    match db.snapshot s with
    | .error e => h.failWith e
    | .ok found => h.succeed (found.toJson.pretty ++ "\n")

/-! ### Units -/

def statusLine (s : UnitStatus) : String :=
  let unit := natText s.id.toNat ++ " " ++ s.name ++ " (" ++ s.version ++ ")"
  match s.record with
  | some record => " [X] " ++ unit ++ " applied " ++ record.created.civil.spaced ++ "\n"
  | none => " [ ] " ++ unit ++ "\n"

def statusText (units : List UnitStatus) : String :=
  "\nMigrations:\n" ++ String.ofList (List.replicate 60 '-') ++ "\n" ++
    Text.join "" (units.map statusLine) ++ "\n"

/-- What a batch leads to on the store at an address. -/
def afterBatch (h : Host) (dsn : String) (store : Store) (batch : SessionM Report) : Outcome :=
  let (result, session) := batch (.start store)
  let h := h.keep dsn session.store
  match result with
  | .error e => h.failWith e
  | .ok report => if report.isSuccess then h.succeed "" else h.fail (.unitsFailed report.failed)

/-- Loads the units first and connects then. -/
def units (h : Host) (bundles : List UnitBundle) (task : UnitTask) (c : ConnectionConfig)
    (strict : Bool) : Outcome :=
  let start : Except MigrationError (Runner × Store) := do
    let registry ← Registry.empty.loadAll bundles
    let (db, store) ← h.connect c
    return ({ db, registry, policy := if strict then .abort else .carryOn }, store)
  match start with
  | .error e => h.failWith e
  | .ok (runner, store) =>
    match task with
    | .up => h.afterBatch c.dsn store runner.up
    | .down => h.afterBatch c.dsn store runner.down
    | .list =>
      let (result, session) := runner.status (Session.start store)
      let h := h.keep c.dsn session.store
      match result with
      | .error e => h.failWith e
      | .ok found => h.succeed (statusText found)

/-- The statements of a new unit, there and back. Both ways run on the database to change. -/
def unitStatements (h : Host) (r : MakeRequest) :
    Except MigrationError (List Statement × List Statement) :=
  match r.sourceDsn, r.sourceName, r.targetDsn, r.targetName with
  | some sourceDsn, some sourceName, some targetDsn, some targetName => do
    let (source, s) ← h.connect { driver := r.driver, dsn := sourceDsn, schemaName := sourceName }
    let (target, t) ← h.connect { driver := r.driver, dsn := targetDsn, schemaName := targetName }
    let d ← SchemaDiff.ofDatabases source s target t
    return (d.statements, source.driver.dialect.emitAll d.reverseChanges)
  | _, _, _, _ => return ([], [])

def make (h : Host) (r : MakeRequest) : Outcome :=
  match h.unitStatements r with
  | .error e => h.failWith e
  | .ok (up, down) =>
    h.written (h.folder.writeUnit r.outDir
      { id := idFromTime h.now, name := r.name, version := r.version, up, down })

end Host

def Command.execute (bundles : List UnitBundle) (h : Host) : Command → Outcome
  | .diff request => h.diff request
  | .migrate request => h.migrate request
  | .snapshot config => h.snapshot config
  | .units task config strict => h.units bundles task config strict
  | .make request => h.make request

end SchemaShift
