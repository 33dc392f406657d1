import SchemaShift.Migration.Error
import SchemaShift.Store.Basic

/-!
# Migration units

A unit has an id and two actions, which move a database forward and back. An action may fail
after it has changed the database, of which nothing is known here but the type `σ` of its states.
`runSql` is the action that runs a list of SQL texts; it is `sendAll` with the store as the engine.
-/

namespace SchemaShift

open Text

abbrev Action (σ : Type := Store) := σ → Except MigrationError Unit × σ

/-- What runs SQL texts: a store, or something around it. -/
abbrev Engine (σ : Type) := σ → String → Except Store.StoreError Unit × σ

/-- A comment stands at the front of the text. -/
def opensWithComment (sql : String) : Bool :=
  ['-', '-'].isPrefixOf (stripStart sql.toList)

/-- Hands a SQL text to the engine. A text that opens with a comment is passed over as a
whole. -/
def sendSql {σ : Type} (engine : Engine σ) (sql : String) (s : σ) :
    Except MigrationError Unit × σ :=
  if opensWithComment sql then (.ok (), s)
  else
    let (result, s) := engine s sql
    (result.mapError fun e => .database (.refused e), s)

def sendAll {σ : Type} (engine : Engine σ) : List String → σ → Except MigrationError Unit × σ
  | [], s => (.ok (), s)
  | sql :: rest, s =>
    match sendSql engine sql s with
    | (.error e, s) => (.error e, s)
    | (.ok (), s) => sendAll engine rest s

def executeSql (sql : String) : Action :=
  sendSql Store.execute sql

def runSql (texts : List String) : Action :=
  sendAll Store.execute texts

inductive Direction where
  | up
  | down
deriving DecidableEq

structure MigrationUnit (σ : Type := Store) where
  id : UInt64
  name : String
  version : String
  up : Action σ
  down : Action σ

namespace MigrationUnit

def ofSql (id : UInt64) (name version : String) (up down : List String) : MigrationUnit :=
  { id, name, version, up := runSql up, down := runSql down }

def action {σ : Type} (u : MigrationUnit σ) : Direction → Action σ
  | .up => u.up
  | .down => u.down

end MigrationUnit

end SchemaShift
