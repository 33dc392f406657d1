/-!
# Decimal integers

An integer is read from ASCII digits after at most one sign. There is no room for blanks
or separators, and a number outside the target's range is no number at all.
-/

namespace SchemaShift.Text

/-- The number written by `cs`, which must be one or more ASCII digits. -/
def digits? (cs : List Char) : Option Nat :=
  if cs.isEmpty then none
  else if cs.all Char.isDigit then some (Nat.ofDigitChars 10 cs 0) else none

def integer? : List Char → Option Int
  | '+' :: cs => (digits? cs).map Int.ofNat
  | '-' :: cs => (digits? cs).map fun n => -Int.ofNat n
  | cs => (digits? cs).map Int.ofNat

def signedLimit : Nat := 0x8000000000000000

def wordLimit : Nat := 0x10000000000000000

/-- The signed word of value `n`, when there is one. -/
def asInt64? (n : Int) : Option Int64 :=
  if -(signedLimit : Int) ≤ n ∧ n < (signedLimit : Int) then some (Int64.ofInt n) else none

def int64? (cs : List Char) : Option Int64 :=
  (integer? cs).bind asInt64?

/-- An unsigned word; a minus sign makes the text unreadable even before a zero. -/
def uint64? (cs : List Char) : Option UInt64 :=
  let digits := match cs with
    | '+' :: rest => rest
    | _ => cs
  (digits? digits).bind fun n => if n < wordLimit then some (UInt64.ofNat n) else none

def natText (n : Nat) : String :=
  String.ofList (Nat.toDigits 10 n)

def intText (n : Int) : String :=
  if n < 0 then "-" ++ natText n.natAbs else natText n.natAbs

/-- At least `width` digits, with zeros in front. -/
def padded (width n : Nat) : String :=
  let digits := Nat.toDigits 10 n
  String.ofList (List.replicate (width - digits.length) '0' ++ digits)

end SchemaShift.Text
