import SchemaShift.Text.Blank
import SchemaShift.Text.Letters
import SchemaShift.Text.Search
import SchemaShift.Text.Integer

/-!
# Declared types

The type written in a column's declaration, split into its first word and the integers in
its parentheses: `decimal(10,2) unsigned` is `decimal` with 10 and 2.
-/

namespace SchemaShift

open Text

structure DeclaredType where
  /-- The bare type word, without upper-case ASCII letters. -/
  base : String
  /-- The integer arguments; arguments that are no integers are left out. -/
  args : List Int64
deriving DecidableEq

namespace DeclaredType

/-- What stands before the last `c`, if there is one. -/
def beforeLast? (c : Char) (cs : List Char) : Option (List Char) :=
  if cs.contains c then some ((cs.reverse.dropWhile (· != c)).drop 1).reverse else none

/-- The text between the first opening and the last closing parenthesis. An opening
parenthesis that is never closed holds the rest of the text. -/
def argumentText (cs : List Char) : List Char :=
  let inside := (cs.dropWhile (· != '(')).drop 1
  match beforeLast? ')' inside with
  | some args => args
  | none => if cs.contains ')' then [] else inside

/-- Reads a declaration in any letter case, with or without blanks around it. -/
def parse (declared : String) : DeclaredType :=
  let cs := strip (declared.toList.map Char.toLower)
  { base := String.ofList (firstWord (cs.takeWhile (· != '(')))
    args := (splitOn ',' (argumentText cs)).filterMap fun arg => int64? (strip arg) }

end DeclaredType

end SchemaShift
