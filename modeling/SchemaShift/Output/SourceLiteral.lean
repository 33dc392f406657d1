import SchemaShift.Text.Formless

/-!
# String literals of generated source

A text as a Rust string literal. Every character that could not be told from its
surroundings is written as an escape, so that the literal stands on one line.
-/

namespace SchemaShift.Output

open Text

/-- The code point of a character in hexadecimal. -/
def codePointEscape (c : Char) : List Char :=
  '\\' :: 'u' :: '\x7b' :: (Nat.toDigits 16 c.toNat ++ ['\x7d'])

def escapeChar (c : Char) : List Char :=
  if c = '"' then ['\\', '"']
  else if c = '\\' then ['\\', '\\']
  else if c = '\n' then ['\\', 'n']
  else if c = '\r' then ['\\', 'r']
  else if c = '\t' then ['\\', 't']
  else if c = '\x00' then ['\\', '0']
  else if c.toNat < 0x20 || isFormless c then codePointEscape c
  else [c]

def sourceLiteral (s : String) : String :=
  String.ofList ('"' :: (s.toList.flatMap escapeChar ++ ['"']))

end SchemaShift.Output
