import SchemaShift.Json.Basic
import SchemaShift.Query.Value

/-!
# Bound values as JSON

A value is an object that names its type; null is the name alone.
-/

namespace SchemaShift.Value

open Json

def toJson : Value → Json
  | .null => .string "Null"
  | .bool b => .object [("Bool", .bool b)]
  | .int n => .object [("Int", ofInt64 n)]
  | .float bits => .object [("Float", .float bits)]
  | .text s => .object [("Text", .string s)]

/-- Any number counts as a double. -/
def double? : Json → Option UInt64
  | .float bits => some bits
  | .int n => some (Float.ofInt n).toBits
  | _ => none

def ofJson? (j : Json) : Option Value :=
  match plainVariant? j with
  | some name => if name = "Null" then some .null else none
  | none => do
    let (variant, j) ← variant? j
    if variant = "Bool" then return .bool (← bool? j)
    else if variant = "Int" then return .int (← int64? j)
    else if variant = "Float" then return .float (← double? j)
    else if variant = "Text" then return .text (← string? j)
    else none

end SchemaShift.Value
