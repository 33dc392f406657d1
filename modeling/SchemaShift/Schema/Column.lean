import SchemaShift.Schema.DeclaredType

/-!
# Columns

The physical definition of one column, as a catalog reports it. `Column.ofType` starts a
column from its declared type; the other builders each settle one property. The modifiers
of a column (`extra`) are free text in which some phrases have a meaning.
-/

namespace SchemaShift

open Text

inductive KeyRole where
  | primary
  | unique
  | multiple
  | none
deriving DecidableEq

/-- The role a catalog writes as `PRI`, `UNI` or `MUL`, in any letter case. -/
def KeyRole.ofCode (code : String) : KeyRole :=
  let code := upper code
  if code = "PRI" then .primary
  else if code = "UNI" then .unique
  else if code = "MUL" then .multiple
  else .none

structure Column where
  name : String
  /-- The bare type word. -/
  dataType : String
  /-- The whole declared type. -/
  columnType : String
  nullable : Bool
  /-- The default as the catalog writes it. No default differs from an empty one. -/
  defaultValue : Option String
  charLength : Option Int64
  numericPrecision : Option Int64
  numericScale : Option Int64
  datetimePrecision : Option Int64
  key : KeyRole
  autoIncrement : Bool
  comment : String
  /-- The modifiers, such as `auto_increment` or `on update CURRENT_TIMESTAMP`. -/
  extra : String
  /-- The expression of a generated column; empty for any other. -/
  generationExpression : String
deriving DecidableEq

namespace Column

def lengthTypes : List String :=
  ["char", "varchar", "binary", "varbinary", "character", "nchar", "nvarchar"]

def numericTypes : List String :=
  ["decimal", "numeric", "float", "double", "real"]

def temporalTypes : List String :=
  ["datetime", "timestamp", "time"]

/-- A nullable column of the declared type, with the lengths and precisions it states. -/
def ofType (name declared : String) : Column :=
  let columnType := lower (trim declared)
  let type := DeclaredType.parse columnType
  let first := type.args.head?
  { name
    dataType := type.base
    columnType
    nullable := true
    defaultValue := none
    charLength := if lengthTypes.contains type.base then first else none
    numericPrecision := if numericTypes.contains type.base then first else none
    numericScale := if numericTypes.contains type.base then type.args[1]? else none
    datetimePrecision := if temporalTypes.contains type.base then first else none
    key := .none
    autoIncrement := false
    comment := ""
    extra := ""
    generationExpression := "" }

/-! ### Modifiers -/

def saysAutoIncrement (extra : String) : Bool :=
  Text.contains (lower extra) "auto_increment"

/-- The modifiers with one more; blanks around the present ones go. -/
def addModifier (extra modifier : String) : String :=
  if allBlank extra then modifier else trim extra ++ " " ++ modifier

/-- The `on update` clause among the modifiers, to their end. -/
def onUpdate (c : Column) : Option String :=
  (from? (fun cs => "on update".toList.isPrefixOf (cs.map Char.toLower)) c.extra.toList).map
    fun cs => String.ofList (strip cs)

def isStored (c : Column) : Bool :=
  Text.contains (lower c.extra) "stored generated"

def isGenerated (c : Column) : Bool :=
  Text.contains (lower c.extra) "virtual generated" || c.isStored

/-- The default is an expression that the server evaluates. -/
def hasExpressionDefault (c : Column) : Bool :=
  Text.contains (upper c.extra) "DEFAULT_GENERATED"

/-! ### Builders -/

def notNull (c : Column) : Column :=
  { c with nullable := false }

def withDefault (c : Column) (value : String) : Column :=
  { c with defaultValue := some value }

def withKey (c : Column) (key : KeyRole) : Column :=
  { c with key }

def withAutoIncrement (c : Column) : Column :=
  { c with
    autoIncrement := true
    extra := if saysAutoIncrement c.extra then c.extra else addModifier c.extra "auto_increment" }

def withComment (c : Column) (comment : String) : Column :=
  { c with comment }

/-- Replaces the modifiers; the auto-increment flag follows them. -/
def withExtra (c : Column) (extra : String) : Column :=
  { c with extra, autoIncrement := saysAutoIncrement extra }

/-- Makes the column generated, kept on disk or computed when it is read. -/
def generatedAs (c : Column) (expression : String) (stored : Bool) : Column :=
  { c with
    generationExpression := expression
    extra := addModifier c.extra (if stored then "STORED GENERATED" else "VIRTUAL GENERATED") }

end Column

end SchemaShift
