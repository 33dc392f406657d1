import SchemaShift.Decimal.Shortest
import SchemaShift.Json.Basic
import SchemaShift.Text.Search

/-!
# Writing JSON

`compact` writes a value on one line; `pretty` puts every item and member on a line of its
own, indented by two blanks a level.
-/

namespace SchemaShift.Json

open Text

def escapeChar (c : Char) : List Char :=
  if c = '"' then ['\\', '"']
  else if c = '\\' then ['\\', '\\']
  else if c = '\n' then ['\\', 'n']
  else if c = '\r' then ['\\', 'r']
  else if c = '\t' then ['\\', 't']
  else if c = '\x08' then ['\\', 'b']
  else if c = '\x0c' then ['\\', 'f']
  else if c.toNat < 0x20 then
    let digits := Nat.toDigits 16 c.toNat
    '\\' :: 'u' :: (List.replicate (4 - digits.length) '0' ++ digits)
  else [c]

def stringText (s : String) : String :=
  String.ofList ('"' :: (s.toList.flatMap escapeChar ++ ['"']))

/-- A double in a form that is no integer. -/
def floatText (bits : UInt64) : String :=
  let text := Decimal.positional bits
  if text.toList.contains '.' then text else text ++ ".0"

mutual

def compact : Json → String
  | .null => "null"
  | .bool true => "true"
  | .bool false => "false"
  | .int n => intText n
  | .float bits => floatText bits
  | .string s => stringText s
  | .array items => "[" ++ join "," (compactItems items) ++ "]"
  | .object members => "\x7b" ++ join "," (compactMembers members) ++ "\x7d"
  | .unreadable => "null"

def compactItems : List Json → List String
  | [] => []
  | j :: js => compact j :: compactItems js

def compactMembers : List (String × Json) → List String
  | [] => []
  | (name, j) :: ms => (stringText name ++ ":" ++ compact j) :: compactMembers ms

end

/-- The parts of a container, each on a line of its own at `level + 1`. -/
def block (level : Nat) (opening closing : String) (parts : List String) : String :=
  if parts.isEmpty then opening ++ closing
  else
    let margin (n : Nat) := String.ofList ('\n' :: List.replicate (2 * n) ' ')
    opening ++ margin (level + 1) ++ join ("," ++ margin (level + 1)) parts ++ margin level ++
      closing

mutual

def prettyAt (level : Nat) : Json → String
  | .array items => block level "[" "]" (prettyItems (level + 1) items)
  | .object members => block level "\x7b" "\x7d" (prettyMembers (level + 1) members)
  | .null => "null"
  | .bool true => "true"
  | .bool false => "false"
  | .int n => intText n
  | .float bits => floatText bits
  | .string s => stringText s
  | .unreadable => "null"

def prettyItems (level : Nat) : List Json → List String
  | [] => []
  | j :: js => prettyAt level j :: prettyItems level js

def prettyMembers (level : Nat) : List (String × Json) → List String
  | [] => []
  | (name, j) :: ms => (stringText name ++ ": " ++ prettyAt level j) :: prettyMembers level ms

end

def pretty (j : Json) : String :=
  prettyAt 0 j

end SchemaShift.Json
