/-!
# The nearest double

A decimal is read as the double nearest to it. Of two doubles that are equally near, the one
with an even mantissa counts, and what lies beyond the largest double is infinite.
-/

namespace SchemaShift.Decimal

/-- The whole number nearest to `n / d`, and the even one of two. -/
def roundToEven (n d : Nat) : Nat :=
  let below := n / d
  let rest := 2 * (n % d)
  if rest < d ∨ (rest = d ∧ below % 2 = 0) then below else below + 1

/-- The `k` for which `2 ^ k` is the greatest power of two up to `n / d`. -/
def binaryOrder (n d : Nat) : Int :=
  let k : Int := (n.log2 : Int) - (d.log2 : Int)
  if d * Nat.pow 2 k.toNat ≤ n * Nat.pow 2 (-k).toNat then k else k - 1

def infinityBits : Nat := 0x7FF0000000000000

/-- The bit pattern of the double nearest to `n / d`. -/
def nearestBits (n d : Nat) : Nat :=
  if n = 0 then 0
  else
    let last := max (binaryOrder n d - 52) (-1074)
    let mantissa := roundToEven (n * Nat.pow 2 (-last).toNat) (d * Nat.pow 2 last.toNat)
    min ((last + 1074).toNat * 0x10000000000000 + mantissa) infinityBits

/-- The bit pattern of the double nearest to `digits * 10 ^ exponent`. -/
def nearest (negative : Bool) (digits : Nat) (exponent : Int) : UInt64 :=
  let bits := nearestBits (digits * Nat.pow 10 exponent.toNat) (Nat.pow 10 (-exponent).toNat)
  UInt64.ofNat (if negative then bits + 0x8000000000000000 else bits)

end SchemaShift.Decimal
