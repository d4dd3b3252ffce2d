/-!
# Binary floating-point numbers

`Double` is the 64-bit binary format of IEEE 754, held as a sign and the other 63 bits read as one
number.  Two facts make the format easy to compute with exactly:

* the larger the 63-bit magnitude, the farther the number is from zero, so comparing numbers is
  comparing signed magnitudes (`Double.rank`);
* every finite number is a whole multiple of the smallest positive one, `2 ^ (-1074)`
  (`Double.units`), so its value is a natural number with a sign.

Nothing here goes through hardware arithmetic.
-/

namespace Blueprint

/-- A 64-bit binary floating-point number: its sign, and its other 63 bits as one number. -/
structure Double where
  /-- The sign bit.  Zero has both signs. -/
  negative : Bool
  /-- Exponent and fraction bits, read as one number. -/
  magnitude : Nat
  /-- There are 63 of them. -/
  magnitude_lt : magnitude < 0x8000000000000000
  deriving DecidableEq

namespace Double

/-- The magnitude of the infinities: every smaller one is finite, every larger one is not a
number. -/
def infinityMagnitude : Nat := 0x7FF0000000000000

/-- How many magnitudes share one exponent: `2 ^ 52`. -/
def binade : Nat := 0x10000000000000

/-- The number of a sign and a magnitude; a magnitude past the infinities becomes infinite. -/
def ofMagnitude (negative : Bool) (magnitude : Nat) : Double :=
  ⟨negative, min magnitude infinityMagnitude, by simp only [infinityMagnitude]; omega⟩

/-- Positive zero. -/
def zero : Double := ofMagnitude false 0

instance : Inhabited Double := ⟨zero⟩

/-- The infinity of a sign. -/
def infinity (negative : Bool) : Double := ofMagnitude negative infinityMagnitude

/-- Not a number, with the payload that undefined results carry. -/
def nan (negative : Bool) : Double := ⟨negative, 0x7FF8000000000000, by decide⟩

variable (x y : Double)

/-- The number is not a number. -/
def isNaN : Bool := decide (infinityMagnitude < x.magnitude)

/-- The number is one of the two infinities. -/
def isInfinite : Bool := decide (x.magnitude = infinityMagnitude)

/-- The number has a value. -/
def isFinite : Bool := decide (x.magnitude < infinityMagnitude)

/-- The 64 bits as one number. -/
def bits : Nat := (if x.negative then 0x8000000000000000 else 0) + x.magnitude

/-! ### Order -/

/-- The place of a number on the line: signed magnitude.  The two zeros share a place. -/
def rank : Int := if x.negative then -x.magnitude else x.magnitude

/-- Numerical `x ≤ y`; false as soon as one side is not a number. -/
def le : Bool := !x.isNaN && !y.isNaN && decide (x.rank ≤ y.rank)

/-- Numerical equality: the zeros are equal, and what is not a number differs from itself. -/
def equals : Bool := !x.isNaN && !y.isNaN && decide (x.rank = y.rank)

/-! ### Exact value -/

/-- The absolute value of a finite number, counted in units of `2 ^ (-1074)`. -/
def units : Nat :=
  let exponent := x.magnitude / binade
  let fraction := x.magnitude % binade
  if exponent = 0 then fraction else (binade + fraction) <<< (exponent - 1)

/-- How many units make one. -/
def unitsPerOne : Nat := 1 <<< 1074

/-- The number is finite and has no fractional part. -/
def isWhole : Bool := x.isFinite && decide (x.units % unitsPerOne = 0)

/-- The integer next to a finite number in the direction of zero. -/
def truncate : Int :=
  let whole : Nat := x.units / unitsPerOne
  if x.negative then -(whole : Int) else whole

/-- The number without its fraction, kept within 64 bits; zero for what is not a number. -/
def toInt64 : Int64 := if x.isNaN then 0 else Int64.ofIntClamp x.truncate

end Double

end Blueprint
