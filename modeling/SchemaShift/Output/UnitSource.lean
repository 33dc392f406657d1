import SchemaShift.Calendar.Civil
import SchemaShift.Ddl.Statement
import SchemaShift.Output.SourceLiteral
import SchemaShift.Text.Search

/-!
# Source of migration units

The Rust source of a new migration unit: one function that builds the unit from its
statements. Comments among the statements stay comments. The file and the function carry
the unit's id, so two units never share one.
-/

namespace SchemaShift.Output

open Text Calendar

structure UnitTemplate where
  id : UInt64
  name : String
  version : String
  up : List Statement
  down : List Statement
deriving DecidableEq

/-- The id of a unit made at `t`: its date and time as one number, and 0 when they do not
make one. -/
def idFromTime (t : Civil) : UInt64 :=
  (uint64? t.stamp.toList).getD 0

/-! ### Identifiers -/

def isAsciiAlphanumeric (c : Char) : Bool :=
  c.isAlpha || c.isDigit

/-- The words of `cs` in lower case with an underscore between each two. `gap` tells that
other characters were passed since the last word. -/
def snakeFrom (started gap : Bool) : List Char → List Char
  | [] => []
  | c :: cs =>
    if isAsciiAlphanumeric c then
      (if gap && started then ['_'] else []) ++ c.toLower :: snakeFrom true false cs
    else snakeFrom started true cs

/-- The letters and digits of a name as one identifier; a name without any is a `unit`. -/
def snakeCase (name : String) : String :=
  let words := snakeFrom false false name.toList
  if words.isEmpty then "unit" else String.ofList words

namespace UnitTemplate

def functionName (t : UnitTemplate) : String :=
  "m" ++ natText t.id.toNat ++ "_" ++ snakeCase t.name

def fileName (t : UnitTemplate) : String :=
  t.functionName ++ ".rs"

/-- The line of one statement, which `method` adds to the unit. -/
def callLine (method : String) (s : Statement) : String :=
  if s.isExecutable then "            ." ++ method ++ "(" ++ sourceLiteral s.sql ++ ")\n"
  else "            // " ++ s.sql ++ "\n"

def callLines (method : String) : List Statement → String
  | [] => ""
  | s :: rest => callLine method s ++ callLines method rest

def source (t : UnitTemplate) : String :=
  let id := natText t.id.toNat
  "//! Migration " ++ id ++ ": " ++ t.name ++ " (" ++ t.version ++ ").\n" ++
  "\n" ++
  "use ksql_migrate::prelude::*;\n" ++
  "\n" ++
  "/// Builds migration " ++ id ++ " (" ++ t.name ++ ").\n" ++
  "#[must_use]\n" ++
  "pub fn " ++ t.functionName ++ "() -> Box<dyn MigrationUnit> \x7b\n" ++
  "    Box::new(\n" ++
  "        SqlMigration::new(" ++ id ++ ", " ++ sourceLiteral t.name ++ ", " ++
    sourceLiteral t.version ++ ")\n" ++
  callLines "up" t.up ++
  callLines "down" t.down ++
  "    )\n" ++
  "\x7d\n"

end UnitTemplate

end SchemaShift.Output
