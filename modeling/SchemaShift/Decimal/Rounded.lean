import SchemaShift.Decimal.Shortest

/-!
# Decimals of fifteen digits

A double rounded to fifteen significant digits, half upwards. Zeros at the end go, except for
one right after the point. A number that is very large or very small has an exponent.
-/

namespace SchemaShift.Decimal

open Text

def keptDigits : Nat := 15

/-- The `k` for which `10 ^ k` is the greatest power of ten up to `n / d`. -/
def decimalOrder (n d : Nat) : Int :=
  if d ≤ n then (Nat.toDigits 10 (n / d)).length - 1
  else -(((List.range 330).find? fun k => d ≤ n * Nat.pow 10 k).getD 0 : Nat)

/-- `(digits, k)` such that the kept digits of `n / d` are `digits` and the first of them
stands for `10 ^ k`. -/
def keep (n d : Nat) : Nat × Int :=
  let k := decimalOrder n d
  let shift := (keptDigits : Int) - 1 - k
  let unit := d * Nat.pow 10 (-shift).toNat
  let digits := (2 * n * Nat.pow 10 shift.toNat + unit) / (2 * unit)
  if digits = Nat.pow 10 keptDigits then (digits / 10, k + 1) else (digits, k)

/-- A point and the digits after it, without the zeros at their end. -/
def afterPoint (digits : List Char) : List Char :=
  match (digits.reverse.dropWhile (· == '0')).reverse with
  | [] => ['.', '0']
  | kept => '.' :: kept

/-- The digits with a point; the first of them stands for `10 ^ k`. -/
def placed (digits : List Char) (k : Int) : List Char :=
  if k < -4 ∨ (keptDigits : Int) ≤ k then
    digits.take 1 ++ afterPoint (digits.drop 1) ++
      'e' :: (if k < 0 then '-' else '+') :: (padded 2 k.natAbs).toList
  else if k < 0 then '0' :: afterPoint (List.replicate (k.natAbs - 1) '0' ++ digits)
  else digits.take (k.toNat + 1) ++ afterPoint (digits.drop (k.toNat + 1))

/-- The text of a double to fifteen digits. Zero has no sign. -/
def rounded : Double → String
  | .nan => "NaN"
  | .infinite negative => if negative then "-Inf" else "Inf"
  | .finite negative mantissa exponent =>
    if mantissa = 0 then "0.0"
    else
      let (digits, k) := keep (mantissa * Nat.pow 2 exponent.toNat) (Nat.pow 2 (-exponent).toNat)
      let magnitude := placed (Nat.toDigits 10 digits) k
      String.ofList (if negative then '-' :: magnitude else magnitude)

end SchemaShift.Decimal
