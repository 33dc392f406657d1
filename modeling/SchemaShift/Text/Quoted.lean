/-!
# Doubled quotes

A quoted text stands between two quote characters, and a quote character inside it is
written twice. `read` takes a quoted text off the front of a list of characters.
-/

namespace SchemaShift.Text

/-- Writes `q` twice wherever it stands. -/
def double (q : Char) : List Char → List Char
  | [] => []
  | c :: cs => if c = q then q :: q :: double q cs else c :: double q cs

/-- Writes each pair of adjacent `q` once, from the left. -/
def undouble (q : Char) : List Char → List Char
  | [] => []
  | [c] => [c]
  | c :: d :: cs => if c = q ∧ d = q then q :: undouble q cs else c :: undouble q (d :: cs)

def quote (q : Char) (s : String) : String :=
  String.ofList (q :: (double q s.toList ++ [q]))

/-- What stands before the closing quote, and what follows it. A doubled quote is read as
one quote character; without a closing quote there is nothing to read. -/
def readToClose (q : Char) : List Char → Option (List Char × List Char)
  | [] => none
  | [c] => if c = q then some ([], []) else none
  | c :: d :: cs =>
    if c = q then
      if d = q then (readToClose q cs).map fun (s, rest) => (q :: s, rest)
      else some ([], d :: cs)
    else (readToClose q (d :: cs)).map fun (s, rest) => (c :: s, rest)

/-- Takes a text quoted with `q` off the front. -/
def readQuoted (q : Char) : List Char → Option (List Char × List Char)
  | [] => none
  | c :: cs => if c = q then readToClose q cs else none

/-! ### Laws -/

theorem undouble_double (q : Char) (cs : List Char) : undouble q (double q cs) = cs := by
  induction cs with
  | nil => rfl
  | cons c cs ih =>
    by_cases h : c = q
    · simp [double, h, undouble, ih]
    · cases hd : double q cs with
      | nil => rw [hd] at ih; simp [double, h, undouble, ← ih]
      | cons d ds =>
        rw [hd] at ih
        simp [double, h, hd, undouble, ih]

end SchemaShift.Text
