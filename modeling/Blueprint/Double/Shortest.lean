import Blueprint.Double.Rounding

/-!
# Shortest decimals

`Double.shortest` is the decimal with the fewest digits that reads back as a given number.  The
multiples of a power of ten form a grid; on a coarse grid a number's two neighbours read back as
something else, on a fine one at least one of them reads back as the number itself.  The search
goes from coarse to fine and takes the first grid with a hit; of two hits the nearer one wins, and
an exact tie is decided by a `Tie`.
-/

namespace Blueprint

/-- A decimal: `digits * 10 ^ exponent`. -/
structure Decimal where
  /-- The significant digits, as a number. -/
  digits : Nat
  /-- The power of ten of the last digit. -/
  exponent : Int
  deriving DecidableEq, Repr

/-- Which of two equally near decimals is written. -/
inductive Tie where
  /-- The one farther from zero. -/
  | away
  /-- The one whose last digit is even. -/
  | even
  deriving DecidableEq, Repr

namespace Double

/-- The absolute value of `x` as a multiple of `10 ^ exponent`, rounded down, together with the
remainder and its denominator. -/
def onGrid (x : Double) (exponent : Int) : Nat × Nat × Nat :=
  let n := if exponent < 0 then x.units * Nat.pow 10 (-exponent).toNat else x.units
  let d := if exponent < 0 then unitsPerOne else unitsPerOne * Nat.pow 10 exponent.toNat
  (n / d, n % d, d)

/-- Whether `digits * 10 ^ exponent`, with the sign of `x`, reads back as `x`. -/
def readsBack (x : Double) (digits : Nat) (exponent : Int) : Bool :=
  decide (ofDecimal x.negative digits exponent = x)

/-- The neighbour of `x` on the grid of `10 ^ exponent` that reads back, if there is one. -/
def gridHit (tie : Tie) (x : Double) (exponent : Int) : Option Nat :=
  let (low, rest, whole) := x.onGrid exponent
  match x.readsBack low exponent, x.readsBack (low + 1) exponent with
  | false, false => none
  | true, false => some low
  | false, true => some (low + 1)
  | true, true =>
    if 2 * rest < whole then some low
    else if whole < 2 * rest then some (low + 1)
    else match tie with
      | .away => some (low + 1)
      | .even => if low % 2 = 0 then some low else some (low + 1)

/-- All digits of `x`: a unit is `5 ^ 1074 * 10 ^ (-1074)`. -/
def exactDecimal (x : Double) : Decimal := ⟨x.units * Nat.pow 5 1074, -1074⟩

/-- The first hit on `steps` grids, each ten times finer than the one before. -/
def searchGrids (tie : Tie) (x : Double) : Nat → Int → Decimal
  | 0, _ => x.exactDecimal
  | steps + 1, exponent =>
    match x.gridHit tie exponent with
    | some digits => ⟨digits, exponent⟩
    | none => searchGrids tie x steps (exponent - 1)

/-- A power of ten above the absolute value of `x`, at most two digits too high. -/
def coarsestGrid (x : Double) : Int := ((x.units.log2 : Int) - 1073) * 30103 / 100000 + 1

/-- The decimal of fewest digits that reads back as the finite number `x`. -/
def shortest (tie : Tie) (x : Double) : Decimal :=
  if x.units = 0 then ⟨0, 0⟩ else searchGrids tie x 24 x.coarsestGrid

end Double

end Blueprint
