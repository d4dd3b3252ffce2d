import Blueprint.Double.Basic

/-!
# Rounding to the nearest double

Quotients, integers and decimals are rounded to the nearest `Double`, an exact half going to the
even neighbour.  `magnitudeOfQuotient` works on a quotient counted in units of `2 ^ (-1074)`: it
drops as many low bits as leave 53, and adds the number of dropped bits above the significand.
That sum is the magnitude of the result also when rounding carries into the next power of two.
-/

namespace Blueprint

namespace Double

/-- The whole number nearest to `n / d`, an exact half going to the even one. -/
def roundHalfEven (n d : Nat) : Nat :=
  let q := n / d
  let r := n % d
  if 2 * r < d || (2 * r == d && q % 2 == 0) then q else q + 1

/-- The magnitude nearest to `n / d` units. -/
def magnitudeOfQuotient (n d : Nat) : Nat :=
  let dropped := (n / d).log2 - 52
  dropped * binade + roundHalfEven n (d <<< dropped)

/-- The double nearest to `± n / d`. -/
def ofQuotient (negative : Bool) (n d : Nat) : Double :=
  ofMagnitude negative (magnitudeOfQuotient (n * unitsPerOne) d)

/-- The double nearest to an integer. -/
def ofInt (i : Int) : Double := ofQuotient (decide (i < 0)) i.natAbs 1

/-- The double nearest to `± digits * 10 ^ exponent`.

The first two cases only keep the powers of ten small: from `10 ^ 310` on all is infinite, and
below `10 ^ (-330)` all is zero. -/
def ofDecimal (negative : Bool) (digits : Nat) (exponent : Int) : Double :=
  if digits = 0 || decide (((digits.log2 + 1 : Nat) : Int) ≤ 3 * (-exponent - 330)) then
    ofMagnitude negative 0
  else if 310 ≤ exponent then infinity negative
  else if 0 ≤ exponent then ofQuotient negative (digits * Nat.pow 10 exponent.toNat) 1
  else ofQuotient negative digits (Nat.pow 10 (-exponent).toNat)

end Double

end Blueprint
