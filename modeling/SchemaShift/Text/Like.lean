/-!
# LIKE patterns

In a pattern `%` stands for any run of characters and `_` for any one character. Every other
character stands for itself, and ASCII letters for themselves in either case.
-/

namespace SchemaShift.Text

/-- The text `cs` fits the pattern. -/
def like : (pattern cs : List Char) → Bool
  | [], cs => cs.isEmpty
  | '%' :: ps, [] => like ps []
  | '%' :: ps, c :: cs => like ps (c :: cs) || like ('%' :: ps) cs
  | _ :: _, [] => false
  | '_' :: ps, _ :: cs => like ps cs
  | p :: ps, c :: cs => p.toLower == c.toLower && like ps cs
termination_by pattern cs => pattern.length + cs.length

end SchemaShift.Text
