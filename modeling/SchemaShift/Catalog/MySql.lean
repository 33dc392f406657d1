import SchemaShift.Connection.Error
import SchemaShift.Schema.Table
import SchemaShift.Store.Basic

/-!
# The catalog of MySQL

Tables as the rows of INFORMATION_SCHEMA describe them. Rows of other schemas play no part.
A null where a value is needed makes the whole reading fail.
-/

namespace SchemaShift.Catalog.MySql

open Text Store

def need {α : Type} : Option α → Except DatabaseError α
  | some value => .ok value
  | none => .error .missingValue

/-- Nulls come before values. -/
def cellLe {α : Type} (le : α → α → Bool) : Option α → Option α → Bool
  | none, _ => true
  | some _, none => false
  | some a, some b => le a b

def textLe (a b : String) : Bool := a ≤ b

def numberLe (a b : Int64) : Bool := a ≤ b

/-- The server writes a quote inside an expression with a backslash before it. -/
def unescapeQuotes : List Char → List Char
  | '\\' :: '\'' :: cs => '\'' :: unescapeQuotes cs
  | c :: cs => c :: unescapeQuotes cs
  | [] => []

def column (r : ColumnRow) : Except DatabaseError Column := do
  let name ← need r.name
  let dataType ← need r.dataType
  let columnType ← need r.columnType
  let isNullable ← need r.isNullable
  let key ← need r.key
  let extra ← need r.extra
  let comment ← need r.comment
  return {
    name
    dataType := lower dataType
    columnType := lower columnType
    nullable := sameLetters isNullable "YES"
    defaultValue := r.default?
    charLength := r.charLength
    numericPrecision := r.numericPrecision
    numericScale := r.numericScale
    datetimePrecision := r.datetimePrecision
    key := .ofCode key
    autoIncrement := Column.saysAutoIncrement extra
    comment
    extra
    generationExpression := String.ofList (unescapeQuotes (r.generation.getD "").toList) }

/-- A member that is an expression counts as a column without a name. -/
def indexMember (r : StatisticsRow) : Except DatabaseError IndexMember := do
  let indexName ← need r.index
  let tableName ← need r.table
  let nonUnique ← need r.nonUnique
  let position ← need r.position
  let method ← need r.method
  let comment ← need r.comment
  return {
    indexName
    tableName
    nonUnique := nonUnique != 0
    columnName := r.column.getD ""
    position
    method
    comment }

def columns (i : InformationSchema) (schema table : String) : Except DatabaseError (List Column) :=
  let rows := i.columns.filter fun r => r.schema == some schema && r.table == some table
  (rows.mergeSort fun a b => cellLe numberLe a.ordinal b.ordinal).mapM column

/-- Index rows go by the names of their indexes, and within an index by position. -/
def rowLe (a b : StatisticsRow) : Bool :=
  if a.index = b.index then cellLe numberLe a.position b.position
  else cellLe textLe a.index b.index

def indexRows (i : InformationSchema) (schema table : String) :
    Except DatabaseError (List IndexMember) :=
  let rows := i.statistics.filter fun r => r.schema == some schema && r.table == some table
  (rows.mergeSort rowLe).mapM indexMember

def table (i : InformationSchema) (schema : String) (r : TableRow) :
    Except DatabaseError Table := do
  let name ← need r.name
  let columns ← columns i schema name
  let rows ← indexRows i schema name
  return {
    name
    engine := r.engine.getD ""
    collation := r.collation.getD ""
    comment := r.comment.getD ""
    columns
    indexes := Index.group rows }

/-- Views are no tables, and the bookkeeping table is passed over. -/
def isShown (schema : String) (r : TableRow) : Bool :=
  r.schema == some schema && r.type == some "BASE TABLE" &&
    (r.name.map (· != bookkeepingName)).getD false

/-- A database without INFORMATION_SCHEMA lacks the table `name` of it. -/
def described (s : Store) (name : String) : Except DatabaseError InformationSchema :=
  match s.informationSchema with
  | some i => .ok i
  | none => .error (.refused (.noSuchTable ("INFORMATION_SCHEMA." ++ name)))

def tables (s : Store) (schema : String) : Except DatabaseError (List Table) := do
  let i ← described s "TABLES"
  let rows := i.tables.filter (isShown schema)
  (rows.mergeSort fun a b => cellLe textLe a.name b.name).mapM (table i schema)

/-- A schema that is not described has no options. -/
def options (s : Store) (schema : String) : Except DatabaseError SchemaOptions := do
  let i ← described s "SCHEMATA"
  match i.schemata.find? fun r => r.schema == some schema with
  | none => return { charset := "", collation := "" }
  | some r =>
    let charset ← need r.charset
    let collation ← need r.collation
    return { charset, collation }

/-- Views count here. -/
def tableExists (s : Store) (schema name : String) : Except DatabaseError Bool := do
  let i ← described s "TABLES"
  return i.tables.any fun r => r.schema == some schema && r.name == some name

end SchemaShift.Catalog.MySql
