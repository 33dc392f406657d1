import SchemaShift.Diff.ChangeSet

/-!
# Changes of a schema

`Snapshot.changesTo src dst` lists the changes that make the schema of `src` look like
that of `dst`: the schema options first, then the tables of `src` in their order, then the
tables that only `dst` has.
-/

namespace SchemaShift

inductive SchemaChange where
  | alterSchema (name : String) (options : SchemaOptions)
  | createTable (table : Table)
  | dropTable (table : Table)
  | alterTable (table : String) (changes : ChangeSet)
deriving DecidableEq

/-- The table a change is about; a change of the schema itself is about none. -/
def SchemaChange.tableName : SchemaChange → Option String
  | .alterSchema .. => none
  | .createTable t => some t.name
  | .dropTable t => some t.name
  | .alterTable name _ => some name

/-- The change from one state of a table to another, where either may be its absence. -/
def tableChange : Option Table → Option Table → Option SchemaChange
  | none, none => none
  | none, some dst => some (.createTable dst)
  | some src, none => some (.dropTable src)
  | some src, some dst =>
    if src.changed dst then some (.alterTable dst.name (src.changesTo dst)) else none

def Snapshot.changesTo (src dst : Snapshot) : List SchemaChange :=
  (if src.options = dst.options then [] else [.alterSchema src.name dst.options]) ++
  (src.tracked.filterMap fun t => tableChange (some t) (dst.table? t.name)) ++
  ((dst.tracked.filter fun t => (src.table? t.name).isNone).filterMap fun t =>
    tableChange none (some t))

/-- The changes that lead back from `dst` to `src` once `src` was changed to look like
`dst`. They run on the database of `src`, whose name they keep. -/
def Snapshot.changesBack (src dst : Snapshot) : List SchemaChange :=
  { dst with name := src.name }.changesTo src

end SchemaShift
