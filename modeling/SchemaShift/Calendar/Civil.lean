import SchemaShift.Text.Integer

/-!
# Civil times

A date and a time of day as they are read off a calendar and a clock, and their written
forms. Years from 0 to 9999 have four digits; any other year has a sign in front.
-/

namespace SchemaShift.Calendar

open Text

structure Civil where
  year : Int
  month : Nat
  day : Nat
  hour : Nat
  minute : Nat
  second : Nat
deriving DecidableEq

def yearText (year : Int) : String :=
  if 0 ≤ year ∧ year ≤ 9999 then padded 4 year.toNat
  else (if year < 0 then "-" else "+") ++ padded 4 year.natAbs

namespace Civil

def stamp (t : Civil) : String :=
  yearText t.year ++ padded 2 t.month ++ padded 2 t.day ++ padded 2 t.hour ++
    padded 2 t.minute ++ padded 2 t.second

/-- The form `2024-05-01 10:20:30`. -/
def spaced (t : Civil) : String :=
  yearText t.year ++ "-" ++ padded 2 t.month ++ "-" ++ padded 2 t.day ++ " " ++
    padded 2 t.hour ++ ":" ++ padded 2 t.minute ++ ":" ++ padded 2 t.second

end Civil

end SchemaShift.Calendar
