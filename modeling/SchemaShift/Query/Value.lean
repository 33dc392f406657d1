import SchemaShift.Text.Quoted
import SchemaShift.Text.Integer
import SchemaShift.Decimal.Shortest

/-!
# Bound values

The values bound to the placeholders of a statement, and how each is written into its text.
-/

namespace SchemaShift

open Text

inductive Value where
  | null
  | bool (b : Bool)
  | int (n : Int64)
  /-- A double, by its bit pattern. -/
  | float (bits : UInt64)
  | text (s : String)
deriving DecidableEq

def quoteLiteral (s : String) : String :=
  quote '\'' s

def Value.inline : Value → String
  | .null => "NULL"
  | .bool true => "1"
  | .bool false => "0"
  | .int n => intText n.toInt
  | .float bits => Decimal.positional bits
  | .text s => quoteLiteral s

end SchemaShift
