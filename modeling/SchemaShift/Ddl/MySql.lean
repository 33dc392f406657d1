import SchemaShift.Text.Quoted
import SchemaShift.Ddl.DefaultClause
import SchemaShift.Ddl.Statement
import SchemaShift.Diff.ChangeSet

/-!
# DDL for MySQL

A table change is one `ALTER TABLE` with a clause per change. A generated column whose
expression is not known cannot be written; the change it is part of becomes a comment.
-/

namespace SchemaShift.MySql

open Text

def quoteIdentifier (name : String) : String :=
  quote '`' name

def escape (c : Char) : List Char :=
  if c = '\'' then ['\'', '\'']
  else if c = '\\' then ['\\', '\\']
  else if c = '\n' then ['\\', 'n']
  else if c = '\r' then ['\\', 'r']
  else if c = '\x00' then ['\\', '0']
  else [c]

/-- A text as a string literal, on one line. -/
def quoteString (s : String) : String :=
  String.ofList ('\'' :: (s.toList.flatMap escape ++ ['\'']))

def parenthesized (s : String) : String :=
  "(" ++ s ++ ")"

/-! ### Columns -/

/-- An expression default that does not show as one stands in parentheses. -/
def defaultClause (c : Column) : String :=
  match c.defaultValue with
  | none => ""
  | some value =>
    if c.isGenerated then ""
    else if c.hasExpressionDefault && !isExpressionDefault value then
      " DEFAULT " ++ parenthesized (trim value)
    else " DEFAULT " ++ defaultText quoteString value

def generatedClause (c : Column) : String :=
  if c.isGenerated then
    " GENERATED ALWAYS AS " ++ parenthesized (trim c.generationExpression) ++
      (if c.isStored then " STORED" else " VIRTUAL")
  else ""

/-- The `on update` clause among the modifiers, with its first two words in capitals. -/
def onUpdateClause (c : Column) : String :=
  match c.onUpdate with
  | none => ""
  | some clause =>
    " ON UPDATE " ++ String.ofList (strip (clause.toList.drop "on update".length))

def commentClause (comment : String) : String :=
  if comment = "" then "" else " COMMENT " ++ quoteString comment

def columnDefinition (c : Column) : String :=
  quoteIdentifier c.name ++ " " ++ c.columnType ++ generatedClause c ++
    (if c.nullable then " NULL" else " NOT NULL") ++ defaultClause c ++
    (if c.autoIncrement then " AUTO_INCREMENT" else "") ++ onUpdateClause c ++
    commentClause c.comment

/-- The column is generated, and its expression is blank. -/
def lacksExpression (c : Column) : Bool :=
  c.isGenerated && allBlank c.generationExpression

/-- The comment in the place of a change that touches a column of unknown expression. -/
def skipUnknown (table : String) (columns : List Column) : Option Statement :=
  (columns.find? lacksExpression).map fun c =>
    .unsupported (some table)
      ("generated column " ++ table ++ "." ++ c.name ++ " has no known expression, skipped")

/-! ### Indexes -/

def columnList (columns : List String) : String :=
  parenthesized (join ", " (columns.map quoteIdentifier))

def indexHead (i : Index) : String :=
  match i.kind with
  | .primary => "PRIMARY KEY"
  | .unique => "UNIQUE KEY " ++ quoteIdentifier i.name
  | .normal => "KEY " ++ quoteIdentifier i.name
  | .fulltext => "FULLTEXT KEY " ++ quoteIdentifier i.name
  | .spatial => "SPATIAL KEY " ++ quoteIdentifier i.name

def indexDefinition (i : Index) : String :=
  indexHead i ++ " " ++ columnList i.columns ++ commentClause i.comment

def dropIndexClause (i : Index) : String :=
  match i.kind with
  | .primary => "DROP PRIMARY KEY"
  | _ => "DROP INDEX " ++ quoteIdentifier i.name

/-! ### Tables -/

def engineOption (engine : String) : String :=
  "ENGINE=" ++ engine

def collationOption (collation : String) : String :=
  "DEFAULT CHARSET=" ++ charsetOf collation ++ " COLLATE=" ++ collation

def commentOption (comment : String) : String :=
  "COMMENT=" ++ quoteString comment

/-- The options of a new table; an empty one is left to the server. -/
def tableOptions (t : Table) : List String :=
  (if t.engine = "" then [] else [engineOption t.engine]) ++
  (if t.collation = "" then [] else [collationOption t.collation]) ++
  (if t.comment = "" then [] else [commentOption t.comment])

/-- The options that changed, written even when they became empty. -/
def changedOptions (o : OptionsChange) : List String :=
  (o.engine.map engineOption).toList ++ (o.collation.map collationOption).toList ++
    (o.comment.map commentOption).toList

/-- The primary key comes first, then the other indexes by name. -/
def createTable (t : Table) : List Statement :=
  match skipUnknown t.name t.columns with
  | some skipped => [skipped]
  | none =>
    let isPrimary := fun (i : Index) => i.kind == .primary
    let indexes := t.indexes.values.filter isPrimary ++
      t.indexes.values.filter fun i => !isPrimary i
    let parts := t.columns.map columnDefinition ++ indexes.map indexDefinition
    let options := tableOptions t
    [{ kind := .createTable
       table := some t.name
       sql := "CREATE TABLE " ++ quoteIdentifier t.name ++ " " ++ parenthesized (join ", " parts) ++
        (if options.isEmpty then "" else " " ++ join " " options) }]

def alterTable (table : String) (s : ChangeSet) : List Statement :=
  match skipUnknown table (s.addedColumns ++ s.changedColumns.map (·.new)) with
  | some skipped => [skipped]
  | none =>
    let clauses :=
      s.deletedIndexes.map dropIndexClause ++
      s.addedColumns.map (fun c => "ADD COLUMN " ++ columnDefinition c) ++
      s.changedColumns.map (fun c => "MODIFY COLUMN " ++ columnDefinition c.new) ++
      s.addedIndexes.map (fun i => "ADD " ++ indexDefinition i) ++
      (s.options.map changedOptions).getD []
    if clauses.isEmpty then []
    else
      [{ kind := .alterTable
         table := some table
         sql := "ALTER TABLE " ++ quoteIdentifier table ++ " " ++ join ", " clauses }]

def alterSchema (name : String) (options : SchemaOptions) : List Statement :=
  [{ kind := .alterSchema
     table := none
     sql := "ALTER SCHEMA " ++ quoteIdentifier name ++
      (if options.charset = "" then "" else " DEFAULT CHARACTER SET " ++ options.charset) ++
      (if options.collation = "" then "" else " COLLATE " ++ options.collation) }]

end SchemaShift.MySql
