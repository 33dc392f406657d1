import SchemaShift.Store.Reading

/-!
# Expressions

Of an expression only that is kept on which a definition depends: the columns, the functions
and the texts in it, and whether it is more than a column with a collation. Which operator it
was that joined two operands is not kept.
-/

namespace SchemaShift.Store

/-- How a name is quoted. A name in double quotes that means no column is a text. -/
inductive Quotes where
  | none
  | double
  | other
deriving DecidableEq

/-- Over which rows a function goes. -/
inductive Reach where
  | plain
  /-- Over those that pass a test. -/
  | filtered
  /-- Over the neighbours of a row. -/
  | window
deriving DecidableEq

inductive Expr where
  /-- A literal that is no text. -/
  | constant
  | text (s : String)
  | name (s : String) (quotes : Quotes)
  /-- A column after the names of its table and its schema. -/
  | path (names : List String)
  | parameter
  | call (function : String) (count : Nat) (reach : Reach) (arguments : Expr)
  | collate (e : Expr) (collation : String)
  /-- The operands of an operator. -/
  | both (e f : Expr)
  /-- Neighbours in a list. -/
  | pair (e f : Expr)
  /-- A row of several values. -/
  | row (members : Expr)
  /-- The question whether a value is null. -/
  | isNull (e : Expr)
  | query
deriving DecidableEq

namespace Expr

def ofList : List Expr → Expr
  | [] => .constant
  | [e] => e
  | e :: es => .pair e (ofList es)

/-- What stands between parentheses: an expression, or a row of them. -/
def enclosed : List Expr → Expr
  | [e] => e
  | es => .row (ofList es)

def bare : Expr → Expr
  | .collate e _ => e.bare
  | e => e

/-- The question whether two values are the same. A column on the right is looked up first. -/
def same (e f : Expr) : Expr :=
  match f.bare with
  | .name _ _ => .both f e
  | _ => .both e f

/-- The name that an identifier stands for. -/
def ofToken (t : Token) : Expr :=
  .name t.content <|
    if t.text.head? = some '"' then .double
    else if t.kind = .word then .none
    else .other

end Expr

/-- The last underscore of a number that does not stand between digits, as it is reported:
the characters `kept` so far in the places of those that were read. `last` is the character
before the rest. -/
def groupingFault? (isDigit : Char → Bool) (whole kept : List Char) (last : Option Char) :
    List Char → Option String
  | [] => none
  | c :: cs =>
    if c = '_' then
      let between := (last.map isDigit).getD false && (cs.head?.map isDigit).getD false
      let shown := String.ofList (kept.reverse ++ whole.drop kept.length)
      groupingFault? isDigit whole kept (some c) cs <|> if between then none else some shown
    else groupingFault? isDigit whole (c :: kept) (some c) cs

/-- Every underscore of a number stands between two digits. -/
def checkGrouping (t : Token) : Reading Unit := fun ts =>
  let isDigit := match t.text with
    | '0' :: x :: _ => if x = 'x' ∨ x = 'X' then isHexDigit else Char.isDigit
    | _ => Char.isDigit
  match groupingFault? isDigit t.text [] none t.text with
  | some shown => .error (.unrecognized shown)
  | none => .ok ((), ts)

/-! ### Operators -/

/-- The operators between two operands with their powers; one of a higher power binds more
tightly. -/
def binaryOperators : List (Nat × List String) := [
  (1, ["OR"]),
  (2, ["AND"]),
  (4, ["=", "==", "<>", "!="]),
  (5, ["<", ">", "<=", ">="]),
  (7, ["&", "|", "<<", ">>"]),
  (8, ["+", "-"]),
  (9, ["*", "/", "%"]),
  (10, ["||", "->", "->>"])]

/-- The power of NOT, before an operand and within an operator. -/
def negationPower : Nat := 3

def comparisonPower : Nat := 4

def collationPower : Nat := 11

def signPower : Nat := 12

def binaryPower? (t : Token) : Option Nat :=
  (binaryOperators.find? fun g => t.isAmong g.2).map (·.1)

/-- Takes an operator of at least the power `level`, and gives its power. -/
def binaryOperator (level : Nat) : Reading (Option (Token × Nat)) := do
  let operator ← Reading.take? fun t => (binaryPower? t).any fun power => level ≤ power
  return operator.bind fun t => (binaryPower? t).map fun power => (t, power)

/-- Two operands joined by an operator; the arrows are functions. -/
def Expr.joined (operator : Token) (e f : Expr) : Expr :=
  if operator.isAmong ["->", "->>"] then .call operator.content 2 .plain (.ofList [e, f])
  else .both e f

/-- The operators that compare texts; they are functions. -/
def likeWords : List String :=
  ["LIKE", "GLOB", "REGEXP", "MATCH"]

def clockWords : List String :=
  ["CURRENT_DATE", "CURRENT_TIME", "CURRENT_TIMESTAMP"]

/-- The words that begin a query. -/
def queryWords : List String :=
  ["SELECT", "VALUES", "WITH"]

/-! ### Reading expressions -/

open Reading in
mutual

/-- An expression with operators of at least the power `level`. -/
def expression : Nat → Nat → Reading Expr
  | 0, _ => stop
  | fuel + 1, level => do
    let e ← operand fuel
    operators fuel level e

/-- The rest of an expression that starts with `e`. -/
def operators : Nat → Nat → Expr → Reading Expr
  | 0, _, _ => stop
  | fuel + 1, level, e => do
    match ← binaryOperator level with
    | some (operator, power) =>
      let f ← expression fuel (power + 1)
      operators fuel level (.joined operator e f)
    | none =>
      let collated ← if level ≤ collationPower then accept "COLLATE" else pure false
      if collated then
        let collation ← take fun t => t.isPlainWord || t.kind == .literal
        operators fuel level (.collate e collation.content)
      else if level ≤ comparisonPower then
        match ← comparison fuel level e with
        | some found => operators fuel level found
        | none => return e
      else return e

/-- A comparison with `e`, written as a word. -/
def comparison : Nat → Nat → Expr → Reading (Option Expr)
  | 0, _, _ => stop
  | fuel + 1, level, e => do
    if (← oneOf? ["ISNULL", "NOTNULL"]).isSome then return some (.isNull e)
    else if ← accept "IS" then
      let _ ← accept "NOT"
      if ← accept "DISTINCT" then expect "FROM"
      let null ← nextIs ["NULL"]
      let f ← expression fuel (comparisonPower + 1)
      return some (if null && f == .constant then .isNull e else .same e f)
    else
      let negated ← if level ≤ negationPower then accept "NOT" else pure false
      match ← take? fun t => t.isAmong likeWords with
      | some word =>
        let f ← expression fuel (comparisonPower + 1)
        if ← accept "ESCAPE" then
          let mark ← expression fuel (comparisonPower + 1)
          return some (.call word.content 3 .plain (.ofList [f, e, mark]))
        else return some (.call word.content 2 .plain (.ofList [f, e]))
      | none =>
        if ← accept "BETWEEN" then
          let low ← expression fuel negationPower
          expect "AND"
          let high ← expression fuel (comparisonPower + 1)
          return some (.both e (.pair low high))
        else if ← accept "IN" then return some (← membership fuel e)
        else if negated then
          expect "NULL"
          return some (.isNull e)
        else return none

/-- What follows IN after `e`: a list, a query or a table. No value is in an empty list. -/
def membership : Nat → Expr → Reading Expr
  | 0, _ => stop
  | fuel + 1, e => do
    if ← accept "(" then
      if ← nextIs queryWords then
        skipClosing 0
        return .query
      else if ← accept ")" then return .constant
      else
        let es ← commaList (expression fuel 0) fuel
        expect ")"
        return .both e (.ofList es)
    else
      let _ ← name
      if ← accept "." then
        let _ ← name
      if ← accept "(" then skipClosing 0
      return .query

/-- The arguments of a function, after the opening parenthesis. -/
def call : Nat → String → Reading Expr
  | 0, _ => stop
  | fuel + 1, function => do
    let es ←
      if ← accept "*" then pure []
      else
        let _ ← oneOf? ["DISTINCT", "ALL"]
        if ← nextIs [")"] then pure [] else commaList (expression fuel 0) fuel
    expect ")"
    return .call function es.length (← reach fuel) (.ofList es)

/-- What follows the arguments of a function. -/
def reach : Nat → Reading Reach
  | 0 => stop
  | fuel + 1 => do
    let filtered ← nextAre ["FILTER", "("]
    if filtered then
      skip
      skip
      expect "WHERE"
      let _ ← expression fuel 0
      expect ")"
    if ← nextAre ["OVER", "("] then
      skip
      skip
      skipClosing 0
      return .window
    else if ← accept "OVER" then
      let _ ← name
      return .window
    else return if filtered then .filtered else .plain

/-- The branches of a CASE after its subject; they are a list, as is the value at the end. -/
def branches : Nat → Reading Expr
  | 0 => stop
  | fuel + 1 => do
    if ← accept "WHEN" then
      let condition ← expression fuel 0
      expect "THEN"
      let value ← expression fuel 0
      return .pair condition (.pair value (← branches fuel))
    else
      let last ← if ← accept "ELSE" then expression fuel 0 else pure .constant
      expect "END"
      return last

/-- What starts with a word that names nothing: a literal, a function without parentheses or
a form of its own. -/
def special : Nat → Reading Expr
  | 0 => stop
  | fuel + 1 => do
    if ← accept "NULL" then return .constant
    else if let some clock ← take? fun t => t.isAmong clockWords then
      return .call clock.content 0 .plain .constant
    else if ← accept "CAST" then
      expect "("
      let e ← expression fuel 0
      expect "AS"
      let _ ← type
      expect ")"
      return .both e .constant
    else if ← accept "CASE" then
      let subject ← if ← nextIs ["WHEN"] then pure .constant else expression fuel 0
      if ← nextIs ["WHEN"] then return .both subject (← branches fuel) else stop
    else if ← accept "EXISTS" then
      expect "("
      skipClosing 0
      return .query
    else stop

def operand : Nat → Reading Expr
  | 0 => stop
  | fuel + 1 => do
    if (← oneOf? ["+", "-", "~"]).isSome then
      return .both .constant (← expression fuel signPower)
    else if ← accept "NOT" then
      return .both .constant (← expression fuel negationPower)
    else if ← accept "(" then
      if ← nextIs queryWords then
        skipClosing 0
        return .query
      else
        let es ← commaList (expression fuel 0) fuel
        expect ")"
        return .enclosed es
    else if ← nextIs ("CAST" :: clockWords) then special fuel
    else
      match ← take? fun t => t.isName || !([.word, .mark, .broken].contains t.kind) with
      | none => special fuel
      | some t =>
        match t.kind with
        | .grouped =>
          checkGrouping t
          return .constant
        | .parameter => return .parameter
        | .word | .name | .literal =>
          if ← accept "." then
            let second ← name
            if ← accept "." then
              let third ← name
              return .path [t.content, second.content, third.content]
            else return .path [t.content, second.content]
          else if t.kind = .literal then return .text t.content
          else if ← accept "(" then call fuel t.content
          else return .ofToken t
        | _ => return .constant

end

def wholeExpression : Reading Expr := do
  expression (4 * (← Reading.remaining) + 4) 0

/-- An expression between parentheses, of which the first is read already. -/
def enclosedExpression : Reading Expr := do
  let e ← wholeExpression
  Reading.expect ")"
  return e

end SchemaShift.Store
