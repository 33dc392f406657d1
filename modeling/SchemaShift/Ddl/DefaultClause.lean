import SchemaShift.Text.Blank
import SchemaShift.Text.Letters
import SchemaShift.Text.Search

/-!
# Default clauses

A default is written as it stands when it reads as an expression, and as a quoted literal
otherwise.
-/

namespace SchemaShift

open Text

def expressionOpenings : List String :=
  ["CURRENT_TIMESTAMP", "CURRENT_DATE", "CURRENT_TIME", "LOCALTIMESTAMP", "LOCALTIME", "NOW(",
    "(", "B'", "X'", "0X"]

/-- The default is NULL or begins like an expression, in any letter case and whatever
blanks are around it. -/
def isExpressionDefault (value : String) : Bool :=
  let text := upper (trim value)
  text == "NULL" || expressionOpenings.any fun opening => startsWith text opening

/-- What follows `DEFAULT`, with `quoted` for the literals of the database. -/
def defaultText (quoted : String → String) (value : String) : String :=
  if isExpressionDefault value then value else quoted value

end SchemaShift
