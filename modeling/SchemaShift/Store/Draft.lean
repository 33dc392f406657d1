import SchemaShift.Store.Definition
import SchemaShift.Store.Scope

/-!
# Tables under construction

A draft is a table whose definition is read so far. Each clause adds to it or is refused.
What can only be judged with all columns at hand waits for the end of the definition.
-/

namespace SchemaShift.Store

open Text

structure DraftColumn where
  name : String
  declared : String
  notNull : Bool
  default? : Option String
  collation : String
  /-- The expression of a generated column, and whether its values are stored. -/
  generated? : Option (Expr × Bool)
  /-- Part of the primary key. -/
  inKey : Bool
deriving DecidableEq

structure DraftKey where
  isPrimary : Bool
  /-- The columns with their collations. -/
  members : List (String × String)
  onConflict : Option Conflict
deriving DecidableEq

structure Draft where
  name : String
  columns : List DraftColumn
  keys : List DraftKey
  hasKey : Bool
  /-- The column that stands for the number of a row. -/
  rowNumber? : Option String
  /-- New row numbers are counted up and never used twice. -/
  counting : Bool
  checks : List Expr
deriving DecidableEq

namespace Draft

def empty (name : String) : Draft :=
  { name, columns := [], keys := [], hasKey := false, rowNumber? := none, counting := false,
    checks := [] }

/-- A draft for one more column of a table. It goes by a name of its own, and of the columns
that are there only the names matter. -/
def ofTable (t : CatalogTable) : Draft :=
  { empty ("sqlite_altertab_" ++ t.name) with
    columns := t.columns.map fun c =>
      { name := c.name, declared := c.declared, notNull := c.notNull, default? := c.default?,
        collation := "BINARY", generated? := none, inKey := false } }

def column? (d : Draft) (name : String) : Option DraftColumn :=
  d.columns.find? fun c => sameLetters c.name name

def scope (d : Draft) (place : Place) : Scope :=
  { table := d.name, columns := d.columns.map (·.name), place }

/-- The column that the clauses are about. -/
def last? (d : Draft) : Option DraftColumn :=
  d.columns.getLast?

def lastName (d : Draft) : String :=
  (d.last?.map (·.name)).getD ""

def change (d : Draft) (name : String) (f : DraftColumn → DraftColumn) : Draft :=
  { d with columns := d.columns.map fun c => if c.name = name then f c else c }

def changeLast (d : Draft) (f : DraftColumn → DraftColumn) : Draft :=
  d.change d.lastName f

/-! ### Columns -/

def addColumn (d : Draft) (name declared : String) : Except StoreError Draft :=
  if (d.column? name).isSome then .error (.duplicateColumn name)
  else
    .ok { d with
      columns := d.columns ++
        [{ name, declared, notNull := false, default? := none, collation := "BINARY",
           generated? := none, inKey := false }] }

def addDefault (d : Draft) (text : String) (value : Expr) : Except StoreError Draft :=
  if !value.isConstant then .error (.defaultNotConstant d.lastName)
  else if (d.last?.bind (·.generated?)).isSome then .error .defaultOfGenerated
  else .ok (d.changeLast fun c => { c with default? := some text })

/-- A name alone counts as the operand of a sign. -/
def addGenerated (d : Draft) (e : Expr) (kind : Option String) : Except StoreError Draft :=
  let isTaken := (d.last?.map fun c => c.default?.isSome || c.generated?.isSome).getD false
  let stored := (kind.map fun k => sameLetters k "STORED").getD false
  if isTaken || !(stored || (kind.map fun k => sameLetters k "VIRTUAL").getD true) then
    .error (.faultyGenerated d.lastName)
  else if (d.last?.map (·.inKey)).getD false then .error .generatedInKey
  else
    let e := match e with
      | .name _ _ => .both .constant e
      | _ => e
    .ok (d.changeLast fun c => { c with generated? := some (e, stored) })

/-- The indexes on the column alone take over its collation. -/
def addCollation (d : Draft) (name : String) : Except StoreError Draft :=
  if !isKnownCollation name then .error (.noSuchCollation name)
  else
    let d := d.changeLast fun c => { c with collation := name }
    .ok { d with
      keys := d.keys.map fun k =>
        { k with
          members := k.members.map fun m => if m.1 = d.lastName then (m.1, name) else m } }

/-! ### Keys -/

def markKey (d : Draft) (name : String) : Except StoreError Draft :=
  match d.column? name with
  | none => .ok d
  | some c =>
    if c.generated?.isSome then .error .generatedInKey
    else .ok (d.change c.name fun c => { c with inKey := true })

def keyMember (d : Draft) (m : Member) : Except StoreError (String × String) := do
  let e := m.expr.asMember
  (d.scope .index).check e
  let column? := match e.bare with
    | .name name _ => d.column? name
    | _ => none
  match column?, e with
  | none, _ => .error .expressionInKey
  | some c, .collate _ collation =>
    if isKnownCollation collation then return (c.name, collation)
    else .error (.noSuchCollation collation)
  | some c, _ => return (c.name, c.collation)

def alike (k l : DraftKey) : Bool :=
  k.members.length == l.members.length &&
    (k.members.zip l.members).all fun (m, n) => m.1 == n.1 && sameLetters m.2 n.2

/-- One index serves two constraints on the same columns. -/
def merge (old new : DraftKey) : Except StoreError DraftKey :=
  match old.onConflict, new.onConflict with
  | some c, some c' =>
    if c = c' then .ok { old with isPrimary := old.isPrimary || new.isPrimary }
    else .error .conflictingClauses
  | c, c' =>
    .ok { old with isPrimary := old.isPrimary || new.isPrimary, onConflict := c <|> c' }

/-- Adds an index, or lets an earlier one like it serve both constraints. -/
def addKeyTo (new : DraftKey) : List DraftKey → Except StoreError (List DraftKey)
  | [] => .ok [new]
  | k :: ks =>
    if alike k new then do return (← merge k new) :: ks
    else do return k :: (← addKeyTo new ks)

def addKey (d : Draft) (isPrimary : Bool) (members : List Member) (onConflict : Option Conflict) :
    Except StoreError Draft := do
  match members.findSome? Member.nulls with
  | some place => throw (.nullsPlaced place)
  | none =>
    let members ← members.mapM d.keyMember
    return { d with keys := ← addKeyTo { isPrimary, members, onConflict } d.keys }

def lastMember (d : Draft) : Member :=
  { expr := .name d.lastName .other, nulls := none }

/-- The columns among some members. -/
def columnsOf (d : Draft) (members : List Member) : List DraftColumn :=
  members.filterMap fun m =>
    match m.expr.bare.asMember with
    | .name name _ => d.column? name
    | _ => none

/-- A key that is an integer column, in ascending order, stands for the number of a row and
needs no index. -/
def addPrimaryKey (d : Draft) (members : List Member) (descending : Bool)
    (onConflict : Option Conflict) (counting : Bool) : Except StoreError Draft := do
  if d.hasKey then throw (.secondKey d.name)
  let columns := d.columnsOf members
  let rowNumber? := match members, columns with
    | [_], [c] => if sameLetters c.declared "INTEGER" && !descending then some c.name else none
    | _, _ => none
  if rowNumber?.isSome then
    if let some place := members.findSome? Member.nulls then throw (.nullsPlaced place)
  else if counting then throw .countingElsewhere
  let d ← columns.foldlM (fun d c => d.markKey c.name) { d with hasKey := true }
  if rowNumber?.isSome then return { d with rowNumber?, counting }
  else d.addKey true members onConflict

/-! ### Clauses -/

def add (d : Draft) : Clause → Except StoreError Draft
  | .column name type => d.addColumn name type
  | .default text value => d.addDefault text value
  | .notNull => .ok (d.changeLast fun c => { c with notNull := true })
  | .collation name => d.addCollation name
  | .generated e kind => d.addGenerated e kind
  | .columnKey descending onConflict counting =>
    d.addPrimaryKey [d.lastMember] descending onConflict counting
  | .columnUnique onConflict => d.addKey false [d.lastMember] onConflict
  | .reference table count =>
    if count.getD 1 = 1 then .ok d else .error (.foreignColumnCount d.lastName table)
  | .key members onConflict counting => d.addPrimaryKey members false onConflict counting
  | .unique members onConflict => d.addKey false members onConflict
  | .foreignKey columns count =>
    if count.getD columns.length ≠ columns.length then .error .foreignCounts
    else
      match columns.find? fun c => (d.column? c).isNone with
      | some c => .error (.unknownForeignColumn c)
      | none => .ok d
  | .check e => .ok { d with checks := d.checks ++ [e] }
  | .idle => .ok d

def addAll (d : Draft) (cs : List Clause) : Except StoreError Draft :=
  cs.foldlM add d

/-! ### The end of a definition -/

/-- The columns without stored values, with their expressions. -/
def computed (d : Draft) : List (String × Expr) :=
  d.columns.filterMap fun c =>
    match c.generated? with
    | some (e, false) => some (c.name, e)
    | _ => none

/-- A column whose value depends on itself, among `names` and the columns they refer to.
`path` holds the columns that wait for these; `fuel` bounds its length. -/
def loop? (computed : List (String × Expr)) : Nat → List String → List String → Option String
  | 0, _, _ => none
  | fuel + 1, path, names =>
    names.findSome? fun name =>
      match computed.find? fun c => sameLetters c.1 name with
      | none => none
      | some (column, e) =>
        if path.contains column then some column
        else loop? computed fuel (column :: path) e.names

def strictTypes : List String :=
  ["INT", "INTEGER", "REAL", "TEXT", "BLOB", "ANY"]

/-- What a strict table does not accept about a column. -/
def strictFault? (d : Draft) (c : DraftColumn) : Option StoreError :=
  if strictTypes.any fun t => sameLetters t c.declared then none
  else if c.declared.isEmpty then some (.missingType d.name c.name)
  else some (.unknownType d.name c.name c.declared)

/-- Settles what an option forbids. The key of a table with an option takes no nulls, unless
it stands for the number of a row. -/
def addOption (d : Draft) (option : TableOption) : Except StoreError Draft :=
  let withKey (exempt : Option String) : Draft :=
    { d with
      columns := d.columns.map fun c =>
        if c.inKey && exempt != some c.name then { c with notNull := true } else c }
  match option with
  | .strict =>
    match d.columns.findSome? d.strictFault? with
    | some fault => .error fault
    | none => .ok (withKey d.rowNumber?)
  | .withoutRowNumbers =>
    if d.counting then .error .countingWithoutRowNumbers
    else if !d.hasKey then .error (.keyMissing d.name)
    else .ok (withKey none)

/-- The strict types are settled first, whatever the order of the options. -/
def addOptions (d : Draft) (options : List TableOption) : Except StoreError Draft :=
  ([.strict, .withoutRowNumbers].filter options.contains).foldlM addOption d

/-- What the expressions of the definition may not contain; of several offences the last one
counts. -/
def expressionFault? (d : Draft) : Option StoreError :=
  let generated := d.columns.filterMap fun c => c.generated?.map (·.1)
  generated.foldl (fun fault? e => ((d.scope .generated).look e fault?).fault?)
    (d.checks.findSome? (d.scope .check).fault?)

def check (d : Draft) : Except StoreError Unit := do
  if !d.columns.isEmpty && d.columns.all fun c => c.generated?.isSome then throw .onlyGenerated
  if let some fault := d.expressionFault? then throw fault
  match loop? d.computed (d.columns.length + 1) [] (d.columns.map (·.name)) with
  | some column => throw (.generatedLoop column)
  | none => return

/-- The place of a column in the primary key, from 1. -/
def keyOrdinal (d : Draft) (c : DraftColumn) : Nat :=
  if !c.inKey then 0
  else
    match d.keys.find? (·.isPrimary) with
    | none => 1
    | some k => k.members.findIdx (fun m => m.1 == c.name) + 1

def indexes (d : Draft) : List CatalogIndex :=
  d.keys.mapIdx fun i k =>
    { name := "sqlite_autoindex_" ++ d.name ++ "_" ++ natText (i + 1)
      unique := true
      origin := if k.isPrimary then .primaryKey else .uniqueConstraint
      members := k.members.map fun m => some m.1 }

def catalogColumn (d : Draft) (c : DraftColumn) : CatalogColumn :=
  { name := c.name
    declared := c.declared
    notNull := c.notNull
    default? := c.default?
    keyOrdinal := d.keyOrdinal c
    isGenerated := c.generated?.isSome }

def table (d : Draft) (definition : String) : CatalogTable :=
  { name := d.name
    definition
    columns := d.columns.map d.catalogColumn
    indexes := d.indexes }

end Draft

end SchemaShift.Store
