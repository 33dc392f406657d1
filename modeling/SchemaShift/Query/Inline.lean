import SchemaShift.Query.Value

/-!
# Values written into a statement

A placeholder is a question mark outside quotes. `inlineValues` writes the bound values in
place of the placeholders, first to first; a placeholder without a value stays, and a value
without a placeholder is left out.
-/

namespace SchemaShift

/-- A quoted region ends at the next occurrence of the character that opened it. -/
def opensQuote (c : Char) : Bool :=
  c == '\'' || c == '"' || c == '`'

/-- The text with `values` written into it, where `inside` is the quote that is open. -/
def inlineFrom (inside : Option Char) (values : List Value) : List Char → List Char
  | [] => []
  | c :: cs =>
    match inside with
    | some q => c :: inlineFrom (if c = q then none else some q) values cs
    | none =>
      if opensQuote c then c :: inlineFrom (some c) values cs
      else if c = '?' then
        match values with
        | v :: rest => v.inline.toList ++ inlineFrom none rest cs
        | [] => c :: inlineFrom none [] cs
      else c :: inlineFrom none values cs

def inlineValues (sql : String) (values : List Value) : String :=
  String.ofList (inlineFrom none values sql.toList)

end SchemaShift
