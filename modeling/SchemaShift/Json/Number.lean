import SchemaShift.Json.Basic

/-!
# JSON numbers

A number is an integer when it is written as one and fits a machine word; minus zero is
none. Any other number is read as a double: its leading digits as far as they fit an
unsigned word, scaled by a power of ten. The digits beyond those do not count.
-/

namespace SchemaShift.Json

structure Numeral where
  negative : Bool
  whole : List Char
  fraction : Option (List Char)
  /-- The sign and the digits of the exponent. -/
  exponent : Option (Bool × List Char)

def maxWord : Nat := 0xFFFFFFFFFFFFFFFF

/-- Appends digits to `acc` while the number fits a word; also tells how many were left. -/
def takeDigits (acc : Nat) : List Char → Nat × List Char
  | [] => (acc, [])
  | c :: cs =>
    let next := acc * 10 + (c.toNat - '0'.toNat)
    if next ≤ maxWord then takeDigits next cs else (acc, c :: cs)

/-- `2 ^ 31 - 1`; a decimal exponent is counted no further. -/
def maxExponent : Nat := 0x7FFFFFFF

/-- Scales by a power of ten, by at most `10 ^ 308` in one step; none when the number is
too large for a double. -/
def scaled : Nat → Float → Int → Option Float
  | 0, f, _ => some f
  | steps + 1, f, exponent =>
    if exponent.natAbs ≤ 308 then
      let power := Float.ofScientific 1 false exponent.natAbs
      if exponent < 0 then some (f / power)
      else
        let product := f * power
        if product.isInf then none else some product
    else if f == 0.0 then some f
    else if 0 ≤ exponent then none
    else scaled steps (f / 1e308) (exponent + 308)

/-- The double of the digits `digits * 10 ^ exponent`. -/
def scaledDigits (digits : Nat) (exponent : Int) : Option Float :=
  scaled (exponent.natAbs / 308 + 2) (UInt64.ofNat digits).toFloat exponent

namespace Numeral

def double? (n : Numeral) : Option UInt64 :=
  let (digits, left) := takeDigits 0 n.whole
  let (digits, taken) := match n.fraction with
    | none => (digits, 0)
    | some fraction =>
      let (digits, rest) := takeDigits digits fraction
      (digits, fraction.length - rest.length)
  let shift : Int := (left.length : Int) - (taken : Int)
  let magnitude := match n.exponent with
    | none => scaledDigits digits shift
    | some (negative, exponent) =>
      let size := Nat.ofDigitChars 10 exponent 0
      if maxExponent < size then
        if digits = 0 ∨ negative then some 0.0 else none
      else scaledDigits digits (if negative then shift - size else shift + size)
  magnitude.map fun f => (if n.negative then -f else f).toBits

def value (n : Numeral) : Json :=
  let size := Nat.ofDigitChars 10 n.whole 0
  let isInteger := n.fraction.isNone && n.exponent.isNone &&
    (if n.negative then 0 < size && size ≤ 0x8000000000000000 else size ≤ maxWord)
  if isInteger then .int (if n.negative then -Int.ofNat size else Int.ofNat size)
  else match n.double? with
    | some bits => .float bits
    | none => .unreadable

end Numeral

/-- Takes digits off the front, at least one. -/
def digits1? (cs : List Char) : Option (List Char × List Char) :=
  let digits := cs.takeWhile Char.isDigit
  if digits.isEmpty then none else some (digits, cs.dropWhile Char.isDigit)

/-- Takes a fraction off the front; a point without digits is no numeral. -/
def fraction? : List Char → Option (Option (List Char) × List Char)
  | '.' :: cs => (digits1? cs).map fun (digits, rest) => (some digits, rest)
  | cs => some (none, cs)

/-- Takes the digits of an exponent and the sign before them off the front. -/
def signedDigits? : List Char → Option ((Bool × List Char) × List Char)
  | '-' :: cs => (digits1? cs).map fun (digits, rest) => ((true, digits), rest)
  | '+' :: cs => (digits1? cs).map fun (digits, rest) => ((false, digits), rest)
  | cs => (digits1? cs).map fun (digits, rest) => ((false, digits), rest)

def exponent? : List Char → Option (Option (Bool × List Char) × List Char)
  | c :: cs =>
    if c = 'e' ∨ c = 'E' then (signedDigits? cs).map fun (e, rest) => (some e, rest)
    else some (none, c :: cs)
  | [] => some (none, [])

/-- Takes a numeral off the front. A leading zero stands alone before the point. -/
def numeral? (cs : List Char) : Option (Numeral × List Char) := do
  let (negative, cs) := match cs with
    | '-' :: rest => (true, rest)
    | _ => (false, cs)
  let (whole, cs) ← digits1? cs
  if whole.head? = some '0' ∧ 1 < whole.length then none
  let (fraction, cs) ← fraction? cs
  let (exponent, cs) ← exponent? cs
  return ({ negative, whole, fraction, exponent }, cs)

end SchemaShift.Json
