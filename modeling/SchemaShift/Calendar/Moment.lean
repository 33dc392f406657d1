import SchemaShift.Calendar.Civil
import SchemaShift.Calendar.Date

/-!
# Moments

A moment is a date, a second of its day and nanoseconds within that second, in universal
time. During a leap second the nanoseconds run on past a full second.
-/

namespace SchemaShift.Calendar

open Text

structure Moment where
  date : Date
  /-- Seconds since midnight. -/
  second : Nat
  nano : Nat
deriving DecidableEq

namespace Moment

def secondsPerDay : Nat := 86400

def nanosPerSecond : Nat := 1000000000

/-- The moment whose local time in a zone `offset` seconds ahead of universal time is `m`.
The offset is less than a day. -/
def atOffset (m : Moment) (offset : Int) : Moment :=
  let s := (m.second : Int) - offset
  if s < 0 then { m with date := m.date.previous, second := (s + secondsPerDay).toNat }
  else if s < secondsPerDay then { m with second := s.toNat }
  else { m with date := m.date.next, second := (s - secondsPerDay).toNat }

/-- The moment `seconds` after the start of the year 1970. -/
def ofEpoch (seconds : Nat) : Moment :=
  { date := Nat.repeat Date.next (seconds / secondsPerDay) { year := 1970, month := 1, day := 1 }
    second := seconds % secondsPerDay
    nano := 0 }

def civil (m : Moment) : Civil :=
  { year := m.date.year
    month := m.date.month
    day := m.date.day
    hour := m.second / 3600
    minute := m.second / 60 % 60
    second := m.second % 60 + m.nano / nanosPerSecond }

/-- The fraction of the second in as few groups of three digits as hold it. -/
def fractionText (nano : Nat) : String :=
  if nano = 0 then ""
  else if nano % 1000000 = 0 then "." ++ padded 3 (nano / 1000000)
  else if nano % 1000 = 0 then "." ++ padded 6 (nano / 1000)
  else "." ++ padded 9 nano

/-- The form `2024-05-01T10:20:30.250Z`. -/
def text (m : Moment) : String :=
  let c := m.civil
  yearText c.year ++ "-" ++ padded 2 c.month ++ "-" ++ padded 2 c.day ++ "T" ++
    padded 2 c.hour ++ ":" ++ padded 2 c.minute ++ ":" ++ padded 2 c.second ++
    fractionText (m.nano % nanosPerSecond) ++ "Z"

end Moment

end SchemaShift.Calendar
