import SchemaShift.Calendar.Moment
import SchemaShift.Text.Blank

/-!
# Reading moments

A moment is written with its zone, in the fixed columns of RFC 3339, or without one, which
means universal time. Without a zone the numbers may be short and have blanks before them.
`moment?` tries both.
-/

namespace SchemaShift.Calendar

open Text

/-- Takes `least` to `most` digits off the front. -/
def digits (least most : Nat) (cs : List Char) : Option (Nat × List Char) :=
  let taken := (cs.take most).takeWhile Char.isDigit
  if least ≤ taken.length then some (Nat.ofDigitChars 10 taken 0, cs.drop taken.length) else none

/-- Takes one of the characters `marks` off the front. -/
def mark (marks : List Char) : List Char → Option (List Char)
  | c :: cs => if marks.contains c then some cs else none
  | [] => none

/-- Takes the fraction of a second off the front, if a point announces one. Digits beyond the
ninth do not count. -/
def fraction : List Char → Option (Nat × List Char)
  | '.' :: cs =>
    let taken := (cs.take 9).takeWhile Char.isDigit
    if taken.isEmpty then none
    else
      some (Nat.ofDigitChars 10 taken 0 * Nat.pow 10 (9 - taken.length),
        (cs.drop taken.length).dropWhile Char.isDigit)
  | cs => some (0, cs)

/-- Checks the fields of a date and a time of day. A second numbered 60 is a leap second. -/
def moment (date : Date) (hour minute second nano : Nat) : Option Moment :=
  if date.isValid && hour < 24 && minute < 60 && second ≤ 60 then
    let leap := if second = 60 then 1 else 0
    some
      { date
        second := hour * 3600 + minute * 60 + (second - leap)
        nano := nano + leap * Moment.nanosPerSecond }
  else none

/-! ### With a zone -/

/-- Takes the offset of a zone from universal time off the front, in seconds. -/
def zone : List Char → Option (Int × List Char)
  | [] => none
  | c :: cs =>
    if c = 'Z' ∨ c = 'z' then some (0, cs)
    else do
      let sign : Int ←
        if c = '+' then some 1 else if c = '-' ∨ c = '\u2212' then some (-1) else none
      let (hours, cs) ← digits 2 2 cs
      let cs ← mark [':'] cs
      let (minutes, cs) ← digits 2 2 cs
      if 24 ≤ hours ∨ 60 ≤ minutes then none
      return (sign * (hours * 3600 + minutes * 60), cs)

def zoned? (cs : List Char) : Option Moment := do
  let (year, cs) ← digits 4 4 cs
  let cs ← mark ['-'] cs
  let (month, cs) ← digits 2 2 cs
  let cs ← mark ['-'] cs
  let (day, cs) ← digits 2 2 cs
  let cs ← mark ['T', 't', ' '] cs
  let (hour, cs) ← digits 2 2 cs
  let cs ← mark [':'] cs
  let (minute, cs) ← digits 2 2 cs
  let cs ← mark [':'] cs
  let (second, cs) ← digits 2 2 cs
  let (nano, cs) ← fraction cs
  let (offset, cs) ← zone cs
  if !cs.isEmpty then none
  return (← moment { year, month, day } hour minute second nano).atOffset offset

/-! ### Without a zone -/

/-- Takes a number of one or two digits off the front, with blanks before it. -/
def short (cs : List Char) : Option (Nat × List Char) :=
  digits 1 2 (stripStart cs)

/-- Takes a year off the front: up to four digits, or any number of them after a sign. -/
def year (cs : List Char) : Option (Int × List Char) :=
  match stripStart cs with
  | '-' :: cs => (digits 1 cs.length cs).map fun (n, rest) => (-(n : Int), rest)
  | '+' :: cs => (digits 1 cs.length cs).map fun (n, rest) => ((n : Int), rest)
  | cs => (digits 1 4 cs).map fun (n, rest) => ((n : Int), rest)

/-- A date and a time of day, with `between` taking off what stands between them. -/
def unzoned? (between : List Char → Option (List Char)) (cs : List Char) : Option Moment := do
  let (year, cs) ← year cs
  let cs ← mark ['-'] cs
  let (month, cs) ← short cs
  let cs ← mark ['-'] cs
  let (day, cs) ← short cs
  let cs ← between cs
  let (hour, cs) ← short cs
  let cs ← mark [':'] cs
  let (minute, cs) ← short cs
  let cs ← mark [':'] cs
  let (second, cs) ← short cs
  let (nano, cs) ← fraction cs
  if !cs.isEmpty then none
  moment { year, month, day } hour minute second nano

/-- The moment written by a text without blanks around it. Between date and time of day stand
blanks, which may be missing, or a `T`. -/
def moment? (cs : List Char) : Option Moment :=
  zoned? cs <|> unzoned? (fun cs => some (stripStart cs)) cs <|> unzoned? (mark ['T']) cs

end SchemaShift.Calendar
