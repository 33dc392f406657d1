import SchemaShift.Store.Expression

/-!
# Reading definitions

The definition of a table is read clause by clause: a column, and what is said about it and
about the table as a whole, in the order of the text. Where the text stops making sense the
clauses before that place are kept, since a fault in one of them counts first.
-/

namespace SchemaShift.Store

open Text Reading

inductive Conflict where
  | rollback
  | abort
  | fail
  | ignore
  | replace
deriving DecidableEq

structure Member where
  expr : Expr
  /-- Where nulls go, if that is said. -/
  nulls : Option String
deriving DecidableEq

inductive Clause where
  /-- Starts a column. The clauses up to the next one are about this column. -/
  | column (name type : String)
  | default (text : String) (value : Expr)
  | notNull
  | collation (name : String)
  | generated (e : Expr) (kind : Option String)
  /-- The column is the primary key. -/
  | columnKey (descending : Bool) (onConflict : Option Conflict) (counting : Bool)
  | columnUnique (onConflict : Option Conflict)
  /-- The column refers to another table, and there to so many columns. -/
  | reference (table : String) (count : Option Nat)
  | key (members : List Member) (onConflict : Option Conflict) (counting : Bool)
  | unique (members : List Member) (onConflict : Option Conflict)
  | foreignKey (columns : List String) (count : Option Nat)
  | check (e : Expr)
  /-- A clause on which nothing depends. -/
  | idle
deriving DecidableEq

/-! ### Texts -/

def withoutBlanks (cs : List Char) : String :=
  String.ofList ((cs.dropWhile isAsciiBlank).reverse.dropWhile isAsciiBlank).reverse

def between (ts : List Token) : String :=
  let inside := (ts.drop 1).dropLast.flatMap fun t => t.gap ++ t.text
  withoutBlanks (inside ++ (ts.getLast?.map Token.gap).getD [])

/-- The type that is written as `text`. Two words at its end belong to a generated column;
quotes around the type go. -/
def writtenType (text : String) : String :=
  unquoted (withoutGenerated text.toList)
where
  ending (word : String) (cs : List Char) : Option (List Char) :=
    let kept := cs.take (cs.length - word.length)
    if (cs.drop kept.length).map Char.toUpper = word.toList then
      some (kept.reverse.dropWhile isAsciiBlank).reverse
    else none
  withoutGenerated (cs : List Char) : List Char :=
    if cs.length < 16 then cs
    else
      match ending "ALWAYS" cs with
      | none => cs
      | some kept => (ending "GENERATED" kept).getD kept
  isQuote (c : Char) : Bool := c == '\'' || c == '"' || c == '`' || c == '['
  unquoted (cs : List Char) : String :=
    let inner := (cs.drop 1).dropLast
    let cs :=
      if 3 ≤ cs.length && (cs.head?.map isQuote).getD false && !inner.any isQuote then inner
      else cs
    match cs with
    | '[' :: rest => String.ofList (rest.takeWhile (· != ']'))
    | c :: rest =>
      if isQuote c then String.ofList (((readToClose c rest).map (·.1)).getD rest)
      else String.ofList cs
    | [] => ""

/-! ### Parts of clauses -/

def conflict : Reading (Option Conflict) := do
  if ← accept "ON" then
    expect "CONFLICT"
    match ← oneOf ["ROLLBACK", "ABORT", "FAIL", "IGNORE", "REPLACE"] with
    | "ROLLBACK" => return some .rollback
    | "ABORT" => return some .abort
    | "FAIL" => return some .fail
    | "IGNORE" => return some .ignore
    | _ => return some .replace
  else return none

/-- The order of a member; tells whether it is a descending one. -/
def sortOrder : Reading Bool := do
  return (← oneOf? ["ASC", "DESC"]) == some "DESC"

def member : Reading Member := do
  let e ← wholeExpression
  let _ ← sortOrder
  if ← accept "NULLS" then return { expr := e, nulls := some (← oneOf ["FIRST", "LAST"]) }
  else return { expr := e, nulls := none }

def collationName : Reading Token :=
  take fun t => t.isPlainWord || t.kind == .literal

/-- A column in a list that holds columns only. -/
def plainColumn : Reading String := do
  let column ← name
  let collated ← accept "COLLATE"
  if collated then
    let _ ← collationName
  let sorted ← oneOf? ["ASC", "DESC"]
  if collated || sorted.isSome then throw (.afterColumnName (String.ofList column.text))
  else return column.content

def columnNames : Reading (List String) := do
  expect "("
  let columns ← commaList plainColumn (← remaining)
  expect ")"
  return columns

/-- What a foreign key says besides its columns, at most `fuel` things. -/
def foreignOptions : Nat → Reading Unit
  | 0 => return
  | fuel + 1 => do
    if ← accept "MATCH" then
      let _ ← name
      foreignOptions fuel
    else if ← accept "ON" then
      let _ ← oneOf ["INSERT", "DELETE", "UPDATE"]
      match ← oneOf ["SET", "CASCADE", "RESTRICT", "NO"] with
      | "SET" =>
        let _ ← oneOf ["NULL", "DEFAULT"]
      | "NO" => expect "ACTION"
      | _ => pure ()
      foreignOptions fuel
    else return

/-- The table that a foreign key refers to, as it is written, and the number of columns. -/
def foreignTarget : Reading (String × Option Nat) := do
  let table ← name
  let count ← if ← nextIs ["("] then pure (some (← columnNames).length) else pure none
  foreignOptions (← remaining)
  return (String.ofList table.text, count)

/-- When a foreign key is checked, after the word DEFERRABLE. -/
def deferral : Reading Unit := do
  if ← accept "INITIALLY" then
    let _ ← oneOf ["DEFERRED", "IMMEDIATE"]

/-! ### Clauses -/

/-- A default, after its word. Parentheses around all of it go. -/
def defaultClause : Reading Clause := do
  if ← nextIs ["("] then
    let (e, ts) ← cited do
      skip
      enclosedExpression
    return .default (between ts) e
  else
    let (e, ts) ← cited do
      if (← oneOf? ["+", "-"]).isSome then literal else
      match ← take? fun t => t.isPlainWord && !t.isAmong clockWords with
      | some word => return .text word.content
      | none => literal
    return .default (Token.cite ts) e
where
  literal : Reading Expr := do
    if ← accept "NULL" then return .constant
    else if (← oneOf? clockWords).isSome then return .constant
    else
      let t ← take fun t => [.literal, .integer, .real, .grouped, .blob].contains t.kind
      if t.kind = .grouped then checkGrouping t
      return .constant

/-- The expression of a generated column, after the word AS. -/
def generatedClause : Reading Clause := do
  expect "("
  let e ← enclosedExpression
  let kind ← take? Token.isPlainWord
  return .generated e (kind.map fun t => String.ofList t.text)

def columnClause : Reading Clause := do
  if ← accept "CONSTRAINT" then
    let _ ← name
    return .idle
  else if ← accept "DEFAULT" then defaultClause
  else if ← accept "NULL" then
    let _ ← conflict
    return .idle
  else if ← accept "NOT" then
    if ← accept "DEFERRABLE" then
      deferral
      return .idle
    else
      expect "NULL"
      let _ ← conflict
      return .notNull
  else if ← accept "PRIMARY" then
    expect "KEY"
    let descending ← sortOrder
    let onConflict ← conflict
    return .columnKey descending onConflict (← accept "AUTOINCREMENT")
  else if ← accept "UNIQUE" then return .columnUnique (← conflict)
  else if ← accept "CHECK" then
    expect "("
    return .check (← enclosedExpression)
  else if ← accept "REFERENCES" then
    let (table, count) ← foreignTarget
    return .reference table count
  else if ← accept "DEFERRABLE" then
    deferral
    return .idle
  else if ← accept "COLLATE" then return .collation (← collationName).content
  else if ← accept "GENERATED" then
    expect "ALWAYS"
    expect "AS"
    generatedClause
  else
    expect "AS"
    generatedClause

def column : Reading Clause := do
  let column ← name
  return .column column.content (writtenType (Token.cite (← type)))

def tableWords : List String :=
  ["CONSTRAINT", "PRIMARY", "UNIQUE", "CHECK", "FOREIGN"]

def tableClause : Reading Clause := do
  if ← accept "CONSTRAINT" then
    let _ ← name
    return .idle
  else if ← accept "PRIMARY" then
    expect "KEY"
    expect "("
    let members ← commaList member (← remaining)
    let counting ← accept "AUTOINCREMENT"
    expect ")"
    return .key members (← conflict) counting
  else if ← accept "UNIQUE" then
    expect "("
    let members ← commaList member (← remaining)
    expect ")"
    return .unique members (← conflict)
  else if ← accept "CHECK" then
    expect "("
    let e ← enclosedExpression
    let _ ← conflict
    return .check e
  else
    expect "FOREIGN"
    expect "KEY"
    let columns ← columnNames
    expect "REFERENCES"
    let (_, count) ← foreignTarget
    let negated ← accept "NOT"
    if negated then expect "DEFERRABLE"
    else if !(← accept "DEFERRABLE") then return .foreignKey columns count
    deferral
    return .foreignKey columns count

/-! ### Definitions -/

inductive Stage where
  /-- A column. -/
  | start
  /-- More about the column. -/
  | inColumn
  /-- Another column, or the first clause about the table. -/
  | afterComma
  /-- More about the table. -/
  | inTable
  /-- A clause about the table. -/
  | afterTableComma

/-- The statement may end here. -/
def atEnd : Reading Bool := do
  return (← remaining) = 0 || (← nextIs [";"])

/-- Reads the next clause and tells what may come then. At the end of the definition there is
neither. -/
def nextClause : Stage → Reading (Option (Clause × Stage))
  | .start => do return some (← column, .inColumn)
  | .inColumn => do
    if ← accept ")" then return none
    else if ← accept "," then return some (.idle, .afterComma)
    else return some (← columnClause, .inColumn)
  | .afterComma => do
    if ← nextIs tableWords then return some (← tableClause, .inTable)
    else return some (← column, .inColumn)
  | .inTable => do
    if ← accept ")" then return none
    else if ← accept "," then return some (.idle, .afterTableComma)
    else return some (← tableClause, .inTable)
  | .afterTableComma => do return some (← tableClause, .inTable)

/-- The same for the definition of a single column, which ends with its statement. -/
def nextColumnClause : Stage → Reading (Option (Clause × Stage))
  | .start => do return some (← column, .inColumn)
  | _ => do
    if ← atEnd then return none
    else return some (← columnClause, .inColumn)

/-- What comes next makes no sense from its first token on. -/
def failsAtOnce (next : Stage → Reading (Option (Clause × Stage))) (stage : Stage)
    (ts : List Token) : Bool :=
  match next stage (ts.take 1) with
  | .error e => e == faultAt ts
  | .ok _ => false

/-- Reads clauses up to the end of a definition or to the first fault, at most `fuel` of
them. A clause counts only once the token after it is accepted. -/
def gather (next : Stage → Reading (Option (Clause × Stage))) :
    Nat → Stage → List Token → List Clause × Except StoreError (List Token)
  | 0, _, ts => ([], .error (faultAt ts))
  | fuel + 1, stage, ts =>
    match next stage ts with
    | .error e => ([], .error e)
    | .ok (none, rest) => ([], .ok rest)
    | .ok (some (c, stage), rest) =>
      let (cs, result) := gather next fuel stage rest
      (if failsAtOnce next stage rest then cs else c :: cs, result)

inductive TableOption where
  | withoutRowNumbers
  | strict
deriving DecidableEq

def tableOption : Reading TableOption := do
  let without ← accept "WITHOUT"
  let word ← name
  let text := String.ofList word.text
  if without && sameLetters text "ROWID" then return .withoutRowNumbers
  else if !without && sameLetters text "STRICT" then return .strict
  else if (← atEnd) || (← nextIs [","]) then throw (.unknownOption text)
  else stop

/-- The options at the end of a statement. A comma may stand before the first. -/
def tableOptions : Reading (List TableOption) := do
  if ← atEnd then return []
  else
    let _ ← accept ","
    commaList tableOption (← remaining)

end SchemaShift.Store
