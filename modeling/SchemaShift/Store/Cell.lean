import SchemaShift.Decimal.Nearest
import SchemaShift.Decimal.Rounded
import SchemaShift.Query.Value
import SchemaShift.Text.Blank

/-!
# Cells

A cell of a row holds an integer, a real or a text, whatever the type of its column. The type
only says what becomes of a value on its way into the cell: a column of numbers turns a text
that is a number into that number, and a column of texts turns a number into its text.
-/

namespace SchemaShift.Store

open Text Decimal

inductive Cell where
  | int (n : Int64)
  /-- A double that is a number, by its bit pattern. -/
  | real (bits : UInt64)
  | text (s : String)
deriving DecidableEq

/-! ### Numbers in texts -/

structure NumberText where
  negative : Bool
  whole : List Char
  /-- The digits after a point. -/
  fraction : Option (List Char)
  /-- What stands after an `e`; that may be no number. -/
  exponent : Option (Option Int)
  /-- What follows the number and the blanks after it. -/
  rest : List Char

namespace NumberText

/-- A sign at the front: whether it is a minus, and what follows it. -/
def sign : List Char → Bool × List Char
  | '-' :: cs => (true, cs)
  | '+' :: cs => (false, cs)
  | cs => (false, cs)

/-- An exponent is counted no further; numbers of that size are zero or infinite anyway. -/
def greatestExponent : Nat := 10000

/-- The exponent at the front, after its `e`. -/
def exponentPart (cs : List Char) : Option Int × List Char :=
  let (negative, cs) := sign cs
  let digits := cs.takeWhile Char.isDigit
  let size : Int := min (Nat.ofDigitChars 10 digits 0) greatestExponent
  (if digits.isEmpty then none else some (if negative then -size else size),
    cs.dropWhile Char.isDigit)

def read (cs : List Char) : NumberText :=
  let (negative, cs) := sign (cs.dropWhile isAsciiBlank)
  let whole := cs.takeWhile Char.isDigit
  let (fraction, cs) := match cs.dropWhile Char.isDigit with
    | '.' :: cs => (some (cs.takeWhile Char.isDigit), cs.dropWhile Char.isDigit)
    | cs => (none, cs)
  let (exponent, cs) := match cs with
    | c :: rest =>
      if c = 'e' ∨ c = 'E' then
        let (e, rest) := exponentPart rest
        (some e, rest)
      else (none, cs)
    | [] => (none, cs)
  { negative, whole, fraction, exponent, rest := cs.dropWhile isAsciiBlank }

def digits (n : NumberText) : List Char :=
  n.whole ++ n.fraction.getD []

def isPlain (n : NumberText) : Bool :=
  n.fraction.isNone && n.exponent.isNone

def isComplete (n : NumberText) : Bool :=
  n.rest.isEmpty && !n.digits.isEmpty && n.exponent != some none

/-- The text starts with a real, complete or not: an exponent may lack its digits only after
a point. -/
def startsReal (n : NumberText) : Bool :=
  !n.isPlain && !n.digits.isEmpty && (n.exponent != some none || n.fraction.isSome)

def integer (n : NumberText) : Int :=
  let size := Nat.ofDigitChars 10 n.whole 0
  if n.negative then -size else size

def bits (n : NumberText) : UInt64 :=
  let exponent := (n.exponent.bind id).getD 0
  nearest n.negative (Nat.ofDigitChars 10 n.digits 0) (exponent - (n.fraction.getD []).length)

end NumberText

/-! ### Values on their way into cells -/

/-- The whole number that a double is, if it is one. -/
def wholeNumber? : Double → Option Int
  | .finite negative mantissa exponent =>
    let n := mantissa * Nat.pow 2 exponent.toNat
    let d := Nat.pow 2 (-exponent).toNat
    if n % d = 0 then some (if negative then -(n / d : Nat) else (n / d : Nat)) else none
  | _ => none

namespace Cell

/-- A real in a column of numbers becomes an integer where it is one. The ends of the range
of integers stay reals. -/
def ofReal (bits : UInt64) : Cell :=
  match wholeNumber? (Double.ofBits bits) with
  | some n => if n.natAbs < signedLimit then .int (Int64.ofInt n) else .real bits
  | none => .real bits

def ofText (s : String) : Cell :=
  let n := NumberText.read s.toList
  if !n.isComplete then .text s
  else
    match asInt64? n.integer, n.isPlain with
    | some i, true => .int i
    | _, _ => ofReal n.bits

def ofValue? : Value → Option Cell
  | .null => none
  | .bool b => some (.int (if b then 1 else 0))
  | .int n => some (.int n)
  | .float bits => if Double.ofBits bits = .nan then none else some (ofReal bits)
  | .text s => some (ofText s)

def asText : Cell → String
  | .int n => intText n.toInt
  | .real bits => rounded (Double.ofBits bits)
  | .text s => s

def textOf? : Value → Option String
  | .null => none
  | .bool b => some (if b then "1" else "0")
  | .int n => some (intText n.toInt)
  | .float bits => if Double.ofBits bits = .nan then none else some (asText (.real bits))
  | .text s => some s

/-! ### Cells read as numbers -/

/-- The reals from here on are not read as integers. -/
def exactLimit : Nat := 0x8000000000000

/-- The integer that a cell counts as: of a text the number at its front, which may be
missing. A number that is no integer counts as none. -/
def asInteger? : Cell → Option Int64
  | .int n => some n
  | .real _ => none
  | .text s =>
    let n := NumberText.read s.toList
    if n.startsReal then
      (wholeNumber? (Double.ofBits n.bits)).bind fun i =>
        if -(exactLimit : Int) ≤ i ∧ i < exactLimit then some (Int64.ofInt i) else none
    else asInt64? n.integer

/-- The number in a cell, as a multiple of `2 ^ -1074`. Infinity lies beyond every double. -/
def size : Cell → Int
  | .int n => n.toInt * Nat.pow 2 1074
  | .real bits =>
    let signed (negative : Bool) (n : Nat) : Int := if negative then -n else n
    match Double.ofBits bits with
    | .nan => 0
    | .infinite negative => signed negative (Nat.pow 2 2098)
    | .finite negative mantissa exponent =>
      signed negative (mantissa * Nat.pow 2 (exponent + 1074).toNat)
  | .text _ => 0

/-- The order of cells: numbers by size, and texts after them. -/
def le : Cell → Cell → Bool
  | .int m, .int n => m ≤ n
  | .text s, .text t => s ≤ t
  | .text _, _ => false
  | _, .text _ => true
  | a, b => a.size ≤ b.size

end Cell

end SchemaShift.Store
