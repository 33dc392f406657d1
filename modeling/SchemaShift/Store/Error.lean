import SchemaShift.Text.Integer

/-!
# What the store refuses

Each error names its cause; `code` and `text` are how the engine reports it.
-/

namespace SchemaShift.Store

inductive StoreError where
  /-- The word or mark at which a statement stops making sense. -/
  | syntaxNear (word : String)
  | incomplete
  /-- The text at this place is no token. -/
  | unrecognized (text : String)
  | unknownDatabase (written : String)
  | noSuchTable (name : String)
  | noSuchIndex (name : String)
  | noSuchColumn (name : String)
  | noSuchFunction (name : String)
  | noSuchCollation (name : String)
  | wrongArguments (function : String)
  /-- A function over rows stands where there is one row at most; `kind` says which sort. -/
  | misused (kind function : String)
  /-- The function does not go over the neighbours of a row. -/
  | noWindow (function : String)
  /-- The function does not go over rows, so it cannot choose among them. -/
  | noFilter (function : String)
  /-- A row of several values stands where there is one. -/
  | rowMisused
  /-- The expressions of this place may not contain such a thing. -/
  | prohibited (what place : String)
  /-- A table or index is there already; its name is given as the statement wrote it. -/
  | tableExists (written : String)
  | indexExists (name : String)
  /-- The name of a new table is that of an index. -/
  | namedLikeIndex (name : String)
  /-- The name of a new index is that of a table. -/
  | namedLikeTable (name : String)
  /-- Names that begin like those of the engine's own objects are not for others. -/
  | reservedName (name : String)
  /-- The table is the engine's own. -/
  | undroppable (table : String)
  | unindexable (table : String)
  | unalterable (table : String)
  /-- The index belongs to a constraint of its table. -/
  | boundIndex
  | duplicateColumn (name : String)
  | columnMissingFrom (table column : String)
  | defaultNotConstant (column : String)
  | defaultOfGenerated
  | faultyGenerated (column : String)
  | generatedInKey
  | onlyGenerated
  | generatedLoop (column : String)
  | secondKey (table : String)
  | countingElsewhere
  | conflictingClauses
  | expressionInKey
  /-- The place of nulls in an index cannot be chosen. -/
  | nullsPlaced (place : String)
  | foreignColumnCount (column table : String)
  | foreignCounts
  | unknownForeignColumn (column : String)
  | afterColumnName (column : String)
  | unknownOption (word : String)
  | countingWithoutRowNumbers
  | keyMissing (table : String)
  | unknownType (table column type : String)
  | missingType (table column : String)
  | addedKey
  | addedUnique
  | notUnique (column : String)
  /-- Two rows of one table would have the same number. -/
  | sameRowNumber (column : String)
  | notNull (column : String)
  /-- The number of a row is no integer. -/
  | mismatch
  /-- There is no number left for another row. -/
  | full
deriving DecidableEq

namespace StoreError

def code : StoreError → Nat
  | .notUnique _ => 2067
  | .sameRowNumber _ => 1555
  | .notNull _ => 1299
  | .mismatch => 20
  | .full => 13
  | .noSuchCollation _ => 257
  | _ => 1

def text : StoreError → String
  | .syntaxNear word => "near \"" ++ word ++ "\": syntax error"
  | .incomplete => "incomplete input"
  | .unrecognized text => "unrecognized token: \"" ++ text ++ "\""
  | .unknownDatabase written => "unknown database " ++ written
  | .noSuchTable name => "no such table: " ++ name
  | .noSuchIndex name => "no such index: " ++ name
  | .noSuchColumn name => "no such column: " ++ name
  | .noSuchFunction name => "no such function: " ++ name
  | .noSuchCollation name => "no such collation sequence: " ++ name
  | .wrongArguments function => "wrong number of arguments to function " ++ function ++ "()"
  | .misused kind function => "misuse of " ++ kind ++ " function " ++ function ++ "()"
  | .noWindow function => function ++ "() may not be used as a window function"
  | .noFilter function => "FILTER may not be used with non-aggregate " ++ function ++ "()"
  | .rowMisused => "row value misused"
  | .prohibited what place => what ++ " prohibited in " ++ place
  | .tableExists written => "table " ++ written ++ " already exists"
  | .indexExists name => "index " ++ name ++ " already exists"
  | .namedLikeIndex name => "there is already an index named " ++ name
  | .namedLikeTable name => "there is already a table named " ++ name
  | .reservedName name => "object name reserved for internal use: " ++ name
  | .undroppable table => "table " ++ table ++ " may not be dropped"
  | .unindexable table => "table " ++ table ++ " may not be indexed"
  | .unalterable table => "table " ++ table ++ " may not be altered"
  | .boundIndex =>
    "index associated with UNIQUE or PRIMARY KEY constraint cannot be dropped"
  | .duplicateColumn name => "duplicate column name: " ++ name
  | .columnMissingFrom table column => "table " ++ table ++ " has no column named " ++ column
  | .defaultNotConstant column => "default value of column [" ++ column ++ "] is not constant"
  | .defaultOfGenerated => "cannot use DEFAULT on a generated column"
  | .faultyGenerated column => "error in generated column \"" ++ column ++ "\""
  | .generatedInKey => "generated columns cannot be part of the PRIMARY KEY"
  | .onlyGenerated => "must have at least one non-generated column"
  | .generatedLoop column => "generated column loop on \"" ++ column ++ "\""
  | .secondKey table => "table \"" ++ table ++ "\" has more than one primary key"
  | .countingElsewhere => "AUTOINCREMENT is only allowed on an INTEGER PRIMARY KEY"
  | .conflictingClauses => "conflicting ON CONFLICT clauses specified"
  | .expressionInKey => "expressions prohibited in PRIMARY KEY and UNIQUE constraints"
  | .nullsPlaced place => "unsupported use of NULLS " ++ place
  | .foreignColumnCount column table =>
    "foreign key on " ++ column ++ " should reference only one column of table " ++ table
  | .foreignCounts =>
    "number of columns in foreign key does not match the number of columns in the referenced table"
  | .unknownForeignColumn column =>
    "unknown column \"" ++ column ++ "\" in foreign key definition"
  | .afterColumnName column => "syntax error after column name \"" ++ column ++ "\""
  | .unknownOption word => "unknown table option: " ++ word
  | .countingWithoutRowNumbers => "AUTOINCREMENT not allowed on WITHOUT ROWID tables"
  | .keyMissing table => "PRIMARY KEY missing on table " ++ table
  | .unknownType table column type =>
    "unknown datatype for " ++ table ++ "." ++ column ++ ": \"" ++ type ++ "\""
  | .missingType table column => "missing datatype for " ++ table ++ "." ++ column
  | .addedKey => "Cannot add a PRIMARY KEY column"
  | .addedUnique => "Cannot add a UNIQUE column"
  | .notUnique column => "UNIQUE constraint failed: " ++ column
  | .sameRowNumber column => "UNIQUE constraint failed: " ++ column
  | .notNull column => "NOT NULL constraint failed: " ++ column
  | .mismatch => "datatype mismatch"
  | .full => "database or disk is full"

def message (e : StoreError) : String :=
  "error returned from database: (code: " ++ Text.natText e.code ++ ") " ++ e.text

end StoreError

end SchemaShift.Store
