/-!
# Blank characters

A character is blank when it has the Unicode property White_Space. `strip` cuts the
blanks off both ends of a text and leaves those inside it.
-/

namespace SchemaShift.Text

/-- The Unicode property White_Space. -/
def isBlank (c : Char) : Bool :=
  let n := c.toNat
  (9 ≤ n && n ≤ 13) || n == 0x20 || n == 0x85 || n == 0xA0 || n == 0x1680 ||
    (0x2000 ≤ n && n ≤ 0x200A) || n == 0x2028 || n == 0x2029 || n == 0x202F || n == 0x205F ||
    n == 0x3000

def isAsciiBlank (c : Char) : Bool :=
  let n := c.toNat
  (9 ≤ n && n ≤ 13) || n == 0x20

def stripStart (cs : List Char) : List Char :=
  cs.dropWhile isBlank

def stripEnd (cs : List Char) : List Char :=
  (cs.reverse.dropWhile isBlank).reverse

def strip (cs : List Char) : List Char :=
  stripEnd (stripStart cs)

/-- The first run of characters that are not blank; empty when there is none. -/
def firstWord (cs : List Char) : List Char :=
  (stripStart cs).takeWhile fun c => !isBlank c

def trim (s : String) : String :=
  String.ofList (strip s.toList)

/-- No character of `s` is anything but blank. -/
def allBlank (s : String) : Bool :=
  s.toList.all isBlank

/-! ### Laws -/

theorem stripStart_append (cs ds : List Char) (h : cs.all isBlank = true) :
    stripStart (cs ++ ds) = stripStart ds := by
  induction cs with
  | nil => rfl
  | cons c cs ih =>
    simp only [List.all_cons, Bool.and_eq_true] at h
    have step : stripStart (c :: (cs ++ ds)) = stripStart (cs ++ ds) := by simp [stripStart, h.1]
    rw [List.cons_append, step, ih h.2]

theorem stripStart_cons_of_not_blank {c : Char} (cs : List Char) (h : isBlank c = false) :
    stripStart (c :: cs) = c :: cs := by
  simp [stripStart, h]

theorem stripEnd_append (cs ds : List Char) (h : ds.all isBlank = true) :
    stripEnd (cs ++ ds) = stripEnd cs := by
  have := stripStart_append ds.reverse cs.reverse (by simpa using h)
  simp only [stripStart] at this
  simp [stripEnd, this]

theorem stripEnd_concat_of_not_blank {c : Char} (cs : List Char) (h : isBlank c = false) :
    stripEnd (cs ++ [c]) = cs ++ [c] := by
  simp [stripEnd, h]

end SchemaShift.Text
