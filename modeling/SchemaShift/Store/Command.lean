import SchemaShift.Store.Definition

/-!
# Statements

The statements that define tables and indexes, read from their tokens. A statement ends at a
semicolon or at the end of its text.
-/

namespace SchemaShift.Store

open Reading

structure Target where
  schema : Option Token
  name : Token
deriving DecidableEq

namespace Target

def text (t : Target) : String :=
  t.name.content

def written (t : Target) : String :=
  String.ofList t.name.text

end Target

structure Definition where
  /-- The text of the definition, from the name on. -/
  text : String
  clauses : List Clause
  options : List TableOption
  /-- Where the text stops making sense, after these clauses. -/
  fault : Option StoreError
deriving DecidableEq

inductive Command where
  | createTable (target : Target) (unlessThere : Bool) (definition : Definition)
  | dropTable (target : Target) (ifThere : Bool)
  | createIndex (unique : Bool) (target : Target) (unlessThere : Bool) (table : String)
      (members : List Member) (condition : Option Expr)
  | dropIndex (target : Target) (ifThere : Bool)
  | addColumn (target : Target) (definition : Definition)
deriving DecidableEq

/-- A name, with the name of its schema before it. -/
def target : Reading Target := do
  let first ← name
  if ← accept "." then return { schema := some first, name := ← name }
  else return { schema := none, name := first }

/-- The statement ends here. -/
def finish : Reading Unit := do
  let _ ← accept ";"
  if (← remaining) ≠ 0 then stop

/-- The words IF EXISTS, or those with `negated` between them. -/
def condition (negated : Bool) : Reading Bool := do
  if ← accept "IF" then
    if negated then expect "NOT"
    expect "EXISTS"
    return true
  else return false

def tableDefinition (name : Token) : Reading Definition := do
  let opening ← take fun t => t.isWord "("
  fun ts =>
    let text (rest : List Token) :=
      Token.cite (name :: opening :: ts.take (ts.length - rest.length))
    let (clauses, result) := gather nextClause (ts.length + 1) .start ts
    let settled : Except StoreError (List TableOption × List Token) := do
      let (options, rest) ← tableOptions (← result)
      let ((), _) ← finish rest
      return (options, rest)
    match settled with
    | .ok (options, rest) => .ok ({ text := text rest, clauses, options, fault := none }, [])
    | .error e => .ok ({ text := "", clauses, options := [], fault := some e }, [])

def addedColumn : Reading Definition := fun ts =>
  let (clauses, result) := gather nextColumnClause (ts.length + 1) .start ts
  let settled : Except StoreError (List Token) := do
    let rest ← result
    let ((), _) ← finish rest
    return rest
  match settled with
  | .ok rest =>
    let text := Token.cite (ts.take (ts.length - rest.length))
    .ok ({ text, clauses, options := [], fault := none }, [])
  | .error e => .ok ({ text := "", clauses, options := [], fault := some e }, [])

def tableCreation : Reading Command := do
  let unlessThere ← condition true
  let target ← target
  return .createTable target unlessThere (← tableDefinition target.name)

def indexCreation (unique : Bool) : Reading Command := do
  let unlessThere ← condition true
  let target ← target
  expect "ON"
  let table ← name
  expect "("
  let members ← commaList member (← remaining)
  expect ")"
  let condition ←
    if ← accept "WHERE" then pure (some (← wholeExpression))
    else pure none
  finish
  return .createIndex unique target unlessThere table.content members condition

def tableRemoval : Reading Command := do
  let ifThere ← condition false
  let target ← target
  finish
  return .dropTable target ifThere

def indexRemoval : Reading Command := do
  let ifThere ← condition false
  let target ← target
  finish
  return .dropIndex target ifThere

def columnAddition : Reading Command := do
  let target ← target
  expect "ADD"
  let _ ← accept "COLUMN"
  return .addColumn target (← addedColumn)

def command : Reading Command := do
  if ← accept "CREATE" then
    if ← accept "TABLE" then tableCreation
    else if ← accept "UNIQUE" then
      expect "INDEX"
      indexCreation true
    else
      expect "INDEX"
      indexCreation false
  else if ← accept "DROP" then
    if ← accept "TABLE" then tableRemoval
    else
      expect "INDEX"
      indexRemoval
  else
    expect "ALTER"
    expect "TABLE"
    columnAddition

def Command.ofTokens (ts : List Token) : Except StoreError Command :=
  (command ts).map (·.1)

/-- The statements of a text, each with its semicolon; those without another token are no
statements. -/
def statements (sql : String) : List (List Token) :=
  (split (tokens sql)).filter fun ts => ts.any fun t => !t.isWord ";"
where
  split : List Token → List (List Token)
    | [] => [[]]
    | t :: ts =>
      if t.isWord ";" then [t] :: split ts
      else match split ts with
        | [] => [[t]]
        | piece :: pieces => (t :: piece) :: pieces

end SchemaShift.Store
