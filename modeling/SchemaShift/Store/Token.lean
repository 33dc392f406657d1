import SchemaShift.Text.Blank
import SchemaShift.Text.Letters
import SchemaShift.Text.Quoted

/-!
# Tokens of SQL

A text is a sequence of tokens, each with the blanks and comments before it. Gaps and
tokens together are the text again, so a run of tokens can be cited as it was written. A
text ends at its first null character.
-/

namespace SchemaShift.Store

open Text

inductive TokenKind where
  /-- A word without quotes. -/
  | word
  /-- A name in double quotes, in backticks or in brackets. -/
  | name
  /-- A text in single quotes. -/
  | literal
  | integer
  | real
  /-- A number with underscores among its digits. -/
  | grouped
  | blob
  | parameter
  | mark
  /-- What is no token; its end is where the next one may start. -/
  | broken
deriving DecidableEq

structure Token where
  kind : TokenKind
  /-- The blanks and comments before the token. -/
  gap : List Char
  text : List Char
deriving DecidableEq

/-! ### Gaps -/

/-- The characters that start a run of blanks; a vertical tab only goes on with one. -/
def startsBlanks (c : Char) : Bool :=
  isAsciiBlank c && c != '\x0b'

/-- The length of the comment at the front, which runs to the end of its line or to its
closing mark. -/
def commentLength : List Char → Nat
  | '-' :: '-' :: cs => 2 + (cs.takeWhile (· != '\n')).length
  | '/' :: '*' :: c :: cs => 2 + closing (c :: cs)
  | _ => 0
where
  closing : List Char → Nat
    | [] => 0
    | '*' :: '/' :: _ => 2
    | _ :: cs => 1 + closing cs

/-- The length of the run of blanks or of the comment at the front. A byte order mark counts
as a blank. -/
def gapPartLength : List Char → Nat
  | [] => 0
  | c :: cs =>
    if startsBlanks c then 1 + (cs.takeWhile isAsciiBlank).length
    else if c = '\uFEFF' then 1
    else commentLength (c :: cs)

/-- The length of the blanks and comments at the front. `fuel` bounds their number. -/
def gapLength : Nat → List Char → Nat
  | 0, _ => 0
  | fuel + 1, cs =>
    match gapPartLength cs with
    | 0 => 0
    | n => n + gapLength fuel (cs.drop n)

/-! ### Words and numbers -/

def isWordChar (c : Char) : Bool :=
  c.isAlphanum || c == '_' || c == '$' || 0x80 ≤ c.toNat

def wordLength (cs : List Char) : Nat :=
  (cs.takeWhile isWordChar).length

def isHexDigit (c : Char) : Bool :=
  c.isDigit || ('a' ≤ c && c ≤ 'f') || ('A' ≤ c && c ≤ 'F')

def startsWithDigit (cs : List Char) : Bool :=
  (cs.head?.map Char.isDigit).getD false

/-- The digits at the front, with the underscores among them. -/
def digitRun (isDigit : Char → Bool) (cs : List Char) : List Char :=
  cs.takeWhile fun c => isDigit c || c == '_'

/-- The exponent at the front, if it has a digit. -/
def exponentRun : List Char → List Char
  | e :: c :: cs =>
    if (e = 'e' ∨ e = 'E') ∧ (c.isDigit ∨ ((c = '+' ∨ c = '-') ∧ startsWithDigit cs)) then
      e :: c :: digitRun Char.isDigit cs
    else []
  | _ => []

def fractionRun : List Char → List Char
  | '.' :: cs => '.' :: digitRun Char.isDigit cs
  | _ => []

def numberRun (cs : List Char) : TokenKind × List Char :=
  match cs with
  | '0' :: x :: d :: rest =>
    if (x = 'x' ∨ x = 'X') ∧ isHexDigit d then
      let run := '0' :: x :: digitRun isHexDigit (d :: rest)
      (if run.contains '_' then .grouped else .integer, run)
    else decimal
  | _ => decimal
where
  decimal :=
    let whole := digitRun Char.isDigit cs
    let fraction := fractionRun (cs.drop whole.length)
    let exponent := exponentRun (cs.drop (whole.length + fraction.length))
    let run := whole ++ fraction ++ exponent
    (if run.contains '_' then .grouped
      else if fraction.isEmpty && exponent.isEmpty then .integer
      else .real, run)

/-- A number ends where no word goes on with it. -/
def scanNumber (cs : List Char) : TokenKind × Nat :=
  let (kind, run) := numberRun cs
  match wordLength (cs.drop run.length) with
  | 0 => (kind, run.length)
  | n => (.broken, run.length + n)

/-! ### Quotes and marks -/

/-- The token after the opening quote `q`. Without a closing quote it runs to the end. -/
def scanQuoted (q : Char) (cs : List Char) : TokenKind × Nat :=
  match readToClose q cs with
  | some (_, rest) => (if q = '\'' then .literal else .name, 1 + cs.length - rest.length)
  | none => (.broken, 1 + cs.length)

def scanBracketed (cs : List Char) : TokenKind × Nat :=
  let inside := (cs.takeWhile (· != ']')).length
  if inside < cs.length then (.name, inside + 2) else (.broken, inside + 1)

/-- The token after `x` and a quote. A blob is an even number of hexadecimal digits. -/
def scanBlob (cs : List Char) : TokenKind × Nat :=
  let digits := (cs.takeWhile isHexDigit).length
  let rest := cs.drop digits
  if digits % 2 = 0 ∧ rest.head? = some '\'' then (.blob, digits + 3)
  else
    let inside := (cs.takeWhile (· != '\'')).length
    (.broken, if inside < cs.length then inside + 3 else inside + 2)

/-- The name of a parameter at the front, of which `named` characters are read. Two colons may
stand between its parts, and something in parentheses at its end. -/
def scanParameter (named : Nat) : List Char → TokenKind × Nat
  | ':' :: ':' :: cs =>
    let (kind, n) := scanParameter named cs
    (kind, n + 2)
  | c :: cs =>
    if isWordChar c then
      let (kind, n) := scanParameter (named + 1) cs
      (kind, n + 1)
    else if c = '(' ∧ named ≠ 0 then
      let inside := (cs.takeWhile fun c => c != ')' && !isAsciiBlank c).length
      if cs[inside]? = some ')' then (.parameter, inside + 2) else (.broken, inside + 1)
    else (if named = 0 then .broken else .parameter, 0)
  | [] => (if named = 0 then .broken else .parameter, 0)

/-- The marks, the longer ones first. -/
def marks : List (List Char) :=
  ["->>", "->", "==", "<=", "<>", "<<", ">=", ">>", "!=", "||", "-", "(", ")", ";", "+", "*", "/",
    "%", "=", "<", ">", "|", ",", "&", "~", "."].map String.toList

def scanMark (cs : List Char) : TokenKind × Nat :=
  match marks.find? fun m => m.isPrefixOf cs with
  | some m => (.mark, m.length)
  | none => (.broken, 1)

/-- The kind and the length of the token at the front of a text that starts with no gap. -/
def scan : List Char → TokenKind × Nat
  | [] => (.broken, 0)
  | c :: cs =>
    if c = '\'' ∨ c = '"' ∨ c = '`' then scanQuoted c cs
    else if c = '[' then scanBracketed cs
    else if (c = 'x' ∨ c = 'X') ∧ cs.head? = some '\'' then scanBlob (cs.drop 1)
    else if c.isDigit ∨ (c = '.' ∧ startsWithDigit cs) then scanNumber (c :: cs)
    else if c = '?' then (.parameter, 1 + (cs.takeWhile Char.isDigit).length)
    else if c = '#' ∧ startsWithDigit cs then (.mark, 1 + (scanParameter 0 cs).2)
    else if c = '$' ∨ c = '@' ∨ c = '#' ∨ c = ':' then
      let (kind, n) := scanParameter 0 cs
      (kind, 1 + n)
    else if isWordChar c then (.word, 1 + wordLength cs)
    else scanMark (c :: cs)

/-- The tokens of a text, at most `fuel` of them. -/
def tokensFrom : Nat → List Char → List Token
  | 0, _ => []
  | fuel + 1, cs =>
    let gap := gapLength cs.length cs
    match cs.drop gap with
    | [] => []
    | body =>
      let (kind, n) := scan body
      { kind, gap := cs.take gap, text := body.take n } :: tokensFrom fuel (body.drop n)

def tokens (sql : String) : List Token :=
  tokensFrom sql.length (sql.toList.takeWhile (· != '\x00'))

def reservedWords : List String :=
  ["ADD", "ALL", "ALTER", "AND", "AS", "AUTOINCREMENT", "BETWEEN", "CASE", "CHECK", "COLLATE",
    "COMMIT", "CONSTRAINT", "CREATE", "DEFAULT", "DEFERRABLE", "DELETE", "DISTINCT", "DROP", "ELSE",
    "ESCAPE", "EXCEPT", "EXISTS", "FOREIGN", "FROM", "GROUP", "HAVING", "IN", "INDEX", "INSERT",
    "INTERSECT", "INTO", "IS", "ISNULL", "JOIN", "LIMIT", "NOT", "NOTHING", "NOTNULL", "NULL", "ON",
    "OR", "ORDER", "PRIMARY", "REFERENCES", "RETURNING", "SELECT", "SET", "TABLE", "THEN", "TO",
    "TRANSACTION", "UNION", "UNIQUE", "UPDATE", "USING", "VALUES", "WHEN", "WHERE"]

/-- The words that stand for a column or a table, but for nothing else. -/
def joinWords : List String :=
  ["CROSS", "FULL", "INNER", "LEFT", "NATURAL", "OUTER", "RIGHT"]

namespace Token

/-- The token is the unquoted word or mark `word`, in any letter case. -/
def isWord (t : Token) (word : String) : Bool :=
  t.text.map Char.toUpper == word.toList

def isAmong (t : Token) (words : List String) : Bool :=
  words.any t.isWord

/-- The text inside the quotes of a token; a token without quotes as it is. -/
def content (t : Token) : String :=
  match t.text with
  | [] => ""
  | c :: cs =>
    if c = '\'' ∨ c = '"' ∨ c = '`' then
      String.ofList (((readToClose c cs).map (·.1)).getD cs)
    else if c = '[' then String.ofList (cs.takeWhile (· != ']'))
    else String.ofList (c :: cs)

def isIdentifier (t : Token) : Bool :=
  t.kind == .name || (t.kind == .word && !t.isAmong reservedWords)

/-- The token can be the name of a table, of a column or of an index. -/
def isName (t : Token) : Bool :=
  t.isIdentifier || t.kind == .literal

/-- The token can be part of a type, or a default without quotes. -/
def isPlainWord (t : Token) : Bool :=
  t.isIdentifier && !t.isAmong joinWords

/-- The text of adjacent tokens as it was written, without the gap before the first. -/
def cite : List Token → String
  | [] => ""
  | t :: ts => String.ofList (t.text ++ ts.flatMap fun t => t.gap ++ t.text)

end Token

end SchemaShift.Store
