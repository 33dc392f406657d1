import SchemaShift.Store.Command
import SchemaShift.Store.Draft
import SchemaShift.Store.InformationSchema
import SchemaShift.Store.Ledger
import SchemaShift.Text.Blank

/-!
# The store

A database in memory: a catalog of tables, the rows of the bookkeeping table, and, where
the server has them, the tables that describe it. `Store.execute` runs the statements of a
text one after another and stops at the first that is refused.
-/

namespace SchemaShift

open Text Store

structure Store where
  tables : List CatalogTable
  ledger : Ledger
  informationSchema : Option InformationSchema
  /-- What the clock of the server shows. -/
  now : String
deriving DecidableEq

namespace Store

def fresh (now : String) : Store :=
  { tables := [], ledger := .empty, informationSchema := none, now }

def table? (s : Store) (name : String) : Option CatalogTable :=
  s.tables.find? fun t => sameLetters t.name name

def hasTable (s : Store) (name : String) : Bool :=
  (s.table? name).isSome

def index? (s : Store) (name : String) : Option CatalogIndex :=
  (s.tables.flatMap (·.indexes)).find? fun i => sameLetters i.name name

def hasIndex (s : Store) (name : String) : Bool :=
  (s.index? name).isSome

/-- The declared name of the table that `name` means, which may be one of the engine's own. -/
def declaredName? (s : Store) (name : String) : Option String :=
  (s.table? name).map (·.name) <|> masterTable? name

/-! ### What statements are about -/

/-- The store has one schema. -/
def isOwnSchema (name : String) : Bool :=
  sameLetters name "main"

namespace Target

def isOwn (t : Target) : Bool :=
  (t.schema.map fun schema => isOwnSchema schema.content).getD true

/-- The name after that of its schema, if there is one. -/
def path (t : Target) : String :=
  (t.schema.map fun schema => schema.content ++ ".").getD "" ++ t.text

def checkSchema (t : Target) : Except StoreError Unit :=
  match t.schema with
  | some schema =>
    if isOwnSchema schema.content then .ok ()
    else .error (.unknownDatabase (String.ofList schema.text))
  | none => .ok ()

end Target

/-! ### Tables -/

/-- Adds a table, and with the first one that counts its row numbers the table for that. -/
def addTable (s : Store) (d : Draft) (definition : String) : Store :=
  let counts := d.counting && !s.hasTable sequenceTable.name
  { s with
    tables := s.tables ++ [d.table definition] ++ if counts then [sequenceTable] else [] }

/-- A table that is there already is no error when the statement allows for it, but the rest
of the statement still has to make sense. -/
def createTable (s : Store) (target : Target) (unlessThere : Bool) (definition : Definition) :
    Except StoreError Store := do
  let fault : Except StoreError Unit := (definition.fault.map Except.error).getD (.ok ())
  target.checkSchema
  if isReservedName target.text then throw (.reservedName target.text)
  else if s.hasTable target.text then
    if !unlessThere then throw (.tableExists target.written)
    fault
    return s
  else if s.hasIndex target.text then throw (.namedLikeIndex target.text)
  else
    let d ← (Draft.empty target.text).addAll definition.clauses
    fault
    let d ← d.addOptions definition.options
    d.check
    return s.addTable d definition.text

/-- The rows of the bookkeeping table go with it. -/
def dropTable (s : Store) (target : Target) (ifThere : Bool) : Except StoreError Store :=
  match if target.isOwn then s.declaredName? target.text else none with
  | none => if ifThere then .ok s else .error (.noSuchTable target.path)
  | some name =>
    if isReservedName name then .error (.undroppable name)
    else
      .ok { s with
        tables := s.tables.filter fun t => t.name != name
        ledger := if sameLetters name bookkeepingName then .empty else s.ledger }

/-- Replaces the table that is declared as `name` by its image. -/
def updateTable (s : Store) (name : String) (f : CatalogTable → CatalogTable) : Store :=
  { s with tables := s.tables.map fun t => if t.name = name then f t else t }

/-- The definition of the table grows by the text of the column. A new column is neither a
key nor unique. -/
def addColumn (s : Store) (target : Target) (definition : Definition) :
    Except StoreError Store :=
  match if target.isOwn then s.declaredName? target.text else none with
  | none => .error (.noSuchTable target.path)
  | some name =>
    if isReservedName name then .error (.unalterable name)
    else do
      let t ← ((s.table? name).map Except.ok).getD (.error (.noSuchTable name))
      let d ← (Draft.ofTable t).addAll definition.clauses
      match definition.fault with
      | some fault => throw fault
      | none =>
        if (d.last?.map (·.inKey)).getD false then throw .addedKey
        if !d.keys.isEmpty then throw .addedUnique
        return s.updateTable name fun t =>
          { t with
            definition := t.definition ++ ", " ++ definition.text
            columns := t.columns ++ d.last?.toList.map d.catalogColumn }

/-! ### Indexes -/

/-- The column that a member of an index means; an expression has no name. -/
def indexMember (scope : Scope) (m : Member) : Except StoreError (Option String) := do
  let e := m.expr.asMember
  scope.check e
  match e with
  | .collate _ collation => if !isKnownCollation collation then throw (.noSuchCollation collation)
  | _ => pure ()
  match e.bare with
  | .name name _ => return scope.column? name
  | .row _ => throw .rowMisused
  | _ => return none

/-- After an offence in the condition the first member is still looked at. -/
def createIndex (s : Store) (unique : Bool) (target : Target) (unlessThere : Bool)
    (table : String) (members : List Member) (condition : Option Expr) :
    Except StoreError Store := do
  if let some place := members.findSome? Member.nulls then throw (.nullsPlaced place)
  target.checkSchema
  let name := target.text
  match s.declaredName? table with
  | none => throw (.noSuchTable ("main." ++ table))
  | some table =>
    if isReservedName table then throw (.unindexable table)
    else if isReservedName name then throw (.reservedName name)
    else if s.hasTable name then throw (.namedLikeTable name)
    else if s.hasIndex name then
      if unlessThere then return s else throw (.indexExists name)
    else
      let columns := (((s.table? table).map (·.columns)).getD []).map (·.name)
      let scope (place : Place) : Scope := { table, columns, place }
      if let some fault := condition.bind (scope .condition).fault? then
        let later := members.head?.bind fun m =>
          ((scope .index).look m.expr.asMember fault).fault?
        throw (later.getD fault)
      let members ← members.mapM (indexMember (scope .index))
      return s.updateTable table fun t =>
        { t with
          indexes := t.indexes ++ [{ name, unique, origin := .statement, members }] }

def dropIndex (s : Store) (target : Target) (ifThere : Bool) : Except StoreError Store :=
  match if target.isOwn then s.index? target.text else none with
  | none => if ifThere then .ok s else .error (.noSuchIndex target.path)
  | some i =>
    if i.origin = .statement then
      .ok { s with
        tables := s.tables.map fun t =>
          { t with indexes := t.indexes.filter fun j => j.name != i.name } }
    else .error .boundIndex

/-! ### Running statements -/

def run (s : Store) : Command → Except StoreError Store
  | .createTable target unlessThere definition => s.createTable target unlessThere definition
  | .dropTable target ifThere => s.dropTable target ifThere
  | .createIndex unique target unlessThere table members condition =>
    s.createIndex unique target unlessThere table members condition
  | .dropIndex target ifThere => s.dropIndex target ifThere
  | .addColumn target definition => s.addColumn target definition

/-- Runs statements until one is refused. What ran before it stays. -/
def runAll (s : Store) : List (List Token) → Except StoreError Unit × Store
  | [] => (.ok (), s)
  | ts :: rest =>
    match Command.ofTokens ts with
    | .error e => (.error e, s)
    | .ok c =>
      match s.run c with
      | .error e => (.error e, s)
      | .ok s => s.runAll rest

/-- Runs a text of statements. A text of blanks and comments does nothing, and the blanks
around a text do not count, whatever their kind. -/
def execute (s : Store) (sql : String) : Except StoreError Unit × Store :=
  s.runAll (statements (trim sql))

end Store

end SchemaShift
