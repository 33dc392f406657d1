import SchemaShift.Store.Catalog
import SchemaShift.Store.Error
import SchemaShift.Store.Expression
import SchemaShift.Store.Function
import SchemaShift.Text.Search

/-!
# Names in expressions

The expressions of a definition refer to the columns of its table and to functions. Each place
forbids some of what an expression may contain. `Scope.look` goes through an expression from
left to right. Some offences end it; after others it goes on to the next operator or value, and
an offence found on the way takes the place of the one before.
-/

namespace SchemaShift.Store

open Text

inductive Place where
  | check
  | index
  /-- The condition of an index. -/
  | condition
  | generated
deriving DecidableEq

namespace Place

def text : Place → String
  | .check => "CHECK constraints"
  | .index => "index expressions"
  | .condition => "partial index WHERE clauses"
  | .generated => "generated columns"

/-- Rows are told apart there, by the names of tables and by the numbers of rows. -/
def seesRows (p : Place) : Bool :=
  p == .check || p == .condition

end Place

structure Scope where
  table : String
  columns : List String
  place : Place

namespace Scope

/-- The declared name of the column that `name` means. -/
def column? (s : Scope) (name : String) : Option String :=
  s.columns.find? fun c => sameLetters c name

def isColumn (s : Scope) (name : String) : Bool :=
  (s.column? name).isSome ||
    s.place.seesRows && rowNumberNames.any fun r => sameLetters r name

def isTruthValue (name : String) : Bool :=
  sameLetters name "TRUE" || sameLetters name "FALSE"

def prohibit (s : Scope) (what : String) : StoreError :=
  .prohibited what s.place.text

def nameFault? (s : Scope) (name : String) (quotes : Quotes) : Option StoreError :=
  if s.isColumn name || quotes == .double || quotes == .none && isTruthValue name then none
  else some (.noSuchColumn name)

/-- The columns that are known by a path. Where rows are told apart, the name of a schema does
not count. -/
def isPath (s : Scope) : List String → Bool
  | [table, column] => sameLetters table s.table && s.isColumn column
  | [schema, table, column] =>
    (s.place.seesRows || sameLetters schema "main") && sameLetters table s.table &&
      s.isColumn column
  | _ => false

def pathText (s : Scope) (names : List String) : String :=
  join "." (if s.place.seesRows then names.drop (names.length - 2) else names)

def callFault? (s : Scope) (function : String) (count : Nat) (reach : Reach) :
    Option StoreError :=
  match functionKind? function count, reach with
  | some .aggregate, .window => some (.misused "window" function)
  | some .aggregate, _ => some (.misused "aggregate" function)
  | some .window, _ => some (.misused "window" function)
  | some _, .window => some (.noWindow function)
  | some _, .filtered => some (.noFilter function)
  | some .steady, .plain => none
  | some .shifting, .plain =>
    if s.place = .check then none else some (s.prohibit "non-deterministic functions")
  | none, _ =>
    some (if isKnownFunction function then .wrongArguments function else .noSuchFunction function)

structure Finding where
  fault? : Option StoreError
  /-- Nothing after this place counts any more. -/
  isFinal : Bool

namespace Finding

def after (g : Option StoreError → Finding) (f : Finding) : Finding :=
  if f.isFinal then f else g f.fault?

/-- An operator or a value. -/
def step (fault? : Option StoreError) (g : Finding) : Finding :=
  if fault?.isSome then { fault?, isFinal := true } else g

end Finding

/-- Looks for what the expression may not contain, after `fault?` was found. -/
def look (s : Scope) : Expr → Option StoreError → Finding
  | .constant, fault? => .step fault? { fault?, isFinal := false }
  | .text _, fault? => .step fault? { fault?, isFinal := false }
  | .name name quotes, fault? =>
    match s.nameFault? name quotes with
    | some e => { fault? := some e, isFinal := true }
    | none => { fault?, isFinal := false }
  | .path names, fault? =>
    if !s.isPath names then
      { fault? := some (.noSuchColumn (s.pathText names)), isFinal := true }
    else if s.place.seesRows then { fault?, isFinal := false }
    else { fault? := some (s.prohibit "the \".\" operator"), isFinal := false }
  | .parameter, _ => { fault? := some (s.prohibit "parameters"), isFinal := true }
  | .call function count reach arguments, fault? =>
    { s.look arguments (s.callFault? function count reach <|> fault?) with isFinal := false }
  | .collate e _, fault? => .step fault? (s.look e none)
  | .both e f, fault? => .step fault? ((s.look e none).after (s.look f))
  | .pair e f, fault? => (s.look e fault?).after (s.look f)
  | .row members, fault? => .step fault? (s.look members none)
  | .isNull e, fault? => { s.look e fault? with isFinal := false }
  | .query, _ => { fault? := some (s.prohibit "subqueries"), isFinal := true }

def fault? (s : Scope) (e : Expr) : Option StoreError :=
  (s.look e none).fault?

def check (s : Scope) (e : Expr) : Except StoreError Unit :=
  match s.fault? e with
  | some fault => .error fault
  | none => .ok ()

end Scope

namespace Expr

/-- The value is the same for every row. Whether a function exists does not matter here. -/
def isConstant : Expr → Bool
  | .constant => true
  | .text _ => true
  | .name n quotes => quotes == .none && Scope.isTruthValue n
  | .path _ => false
  | .parameter => false
  | .call _ _ _ arguments => arguments.isConstant
  | .collate e _ => e.isConstant
  | .both e f => e.isConstant && f.isConstant
  | .pair e f => e.isConstant && f.isConstant
  | .row members => members.isConstant
  | .isNull e => e.isConstant
  | .query => false

/-- The columns that an expression refers to, from left to right. -/
def names : Expr → List String
  | .name n _ => [n]
  | .call _ _ _ arguments => arguments.names
  | .collate e _ => e.names
  | .both e f => e.names ++ f.names
  | .pair e f => e.names ++ f.names
  | .row members => members.names
  | .isNull e => e.names
  | _ => []

/-- In the list of an index a text is the name of a column. -/
def asMember : Expr → Expr
  | .text s => .name s .other
  | .collate (.text s) collation => .collate (.name s .other) collation
  | e => e

end Expr

def isKnownCollation (name : String) : Bool :=
  ["BINARY", "NOCASE", "RTRIM"].any fun c => sameLetters c name

end SchemaShift.Store
