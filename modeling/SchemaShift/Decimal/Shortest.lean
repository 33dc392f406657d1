import SchemaShift.Text.Integer

/-!
# Shortest decimals

A double stands for the reals that round to it. `shortest` finds the coarsest decimal grid
with a point among them and, on that grid, the point nearest to the double. The decimal
has as few digits as any that reads back as the same double. Two points that are equally
near are settled away from zero.
-/

namespace SchemaShift.Decimal

open Text

/-- What a bit pattern stands for. A finite double is `mantissa * 2 ^ exponent`. -/
inductive Double where
  | nan
  | infinite (negative : Bool)
  | finite (negative : Bool) (mantissa : Nat) (exponent : Int)
deriving DecidableEq

namespace Double

def ofBits (bits : UInt64) : Double :=
  let n : Nat := bits.toNat
  let negative := n / 0x8000000000000000 == 1
  let biased : Nat := n / 0x10000000000000 % 0x800
  let fraction := n % 0x10000000000000
  if biased = 2047 then
    if fraction = 0 then .infinite negative else .nan
  else if biased = 0 then .finite negative fraction (-1074)
  else .finite negative (fraction + 0x10000000000000) ((biased : Int) - 1075)

end Double

/-- The reals that round to a double, over the denominator `unit`: the double itself is
`value / unit`, and the ends count when `closed` is set. -/
structure Interval where
  low : Nat
  value : Nat
  high : Nat
  unit : Nat
  closed : Bool

/-- The reals that round to `mantissa * 2 ^ exponent`. Below a power of two the doubles lie
twice as dense as above it. -/
def Interval.around (mantissa : Nat) (exponent : Int) : Interval :=
  let down := if mantissa = 0x10000000000000 ∧ exponent ≠ -1074 then 1 else 2
  let scale := Nat.pow 2 (exponent - 2).toNat
  { low := (4 * mantissa - down) * scale
    value := 4 * mantissa * scale
    high := (4 * mantissa + 2) * scale
    unit := Nat.pow 2 (2 - exponent).toNat
    closed := mantissa % 2 == 0 }

namespace Interval

/-- The same reals with `10 ^ k` as the new unit of measure. -/
def inTens (i : Interval) (k : Int) : Interval :=
  let up := Nat.pow 10 (-k).toNat
  { i with
    low := i.low * up
    value := i.value * up
    high := i.high * up
    unit := i.unit * Nat.pow 10 k.toNat }

def contains (i : Interval) (n : Nat) : Bool :=
  if i.closed then i.low ≤ n * i.unit && n * i.unit ≤ i.high
  else i.low < n * i.unit && n * i.unit < i.high

def nearest? (i : Interval) : Option Nat :=
  let below := i.value / i.unit
  let above := below + 1
  match i.contains below && below != 0, i.contains above with
  | false, false => none
  | true, false => some below
  | false, true => some above
  | true, true => if 2 * (i.value % i.unit) < i.unit then some below else some above

end Interval

/-- The first grid with a point in the interval, of `steps` grids downwards from `10 ^ k`. -/
def search (i : Interval) (k : Int) : Nat → Option (Nat × Int)
  | 0 => none
  | steps + 1 =>
    match (i.inTens k).nearest? with
    | some digits => some (digits, k)
    | none => search i (k - 1) steps

/-- `(d, k)` such that `d * 10 ^ k` is the shortest decimal of a positive double. Doubles
lie between `10 ^ -324` and `10 ^ 309`. -/
def shortest (mantissa : Nat) (exponent : Int) : Nat × Int :=
  (search (.around mantissa exponent) 309 650).getD (0, 0)

/-- `d * 10 ^ k` without an exponent. -/
def withoutExponent (d : Nat) (k : Int) : String :=
  let digits := Nat.toDigits 10 d
  let places := (-k).toNat
  if places = 0 then String.ofList (digits ++ List.replicate k.toNat '0')
  else
    let digits := List.replicate (places + 1 - digits.length) '0' ++ digits
    let whole := digits.length - places
    String.ofList (digits.take whole ++ '.' :: digits.drop whole)

/-- The shortest decimal of a double, written without an exponent. -/
def positional (bits : UInt64) : String :=
  match Double.ofBits bits with
  | .nan => "NaN"
  | .infinite negative => if negative then "-inf" else "inf"
  | .finite negative mantissa exponent =>
    let magnitude :=
      if mantissa = 0 then "0"
      else
        let (d, k) := shortest mantissa exponent
        withoutExponent d k
    if negative then "-" ++ magnitude else magnitude

end SchemaShift.Decimal
