import Blueprint.Double.Shortest

/-!
# Written forms of a double

How a decimal is laid out is a matter of the text it goes into.  A `DecimalForm` collects the
decisions, and `DecimalForm.write` applies them to the shortest decimal of a number.
-/

namespace Blueprint

/-- The layout decisions for a floating-point number. -/
structure DecimalForm where
  /-- Between equally near decimals. -/
  tie : Tie
  /-- Powers of ten of the leading digit that are written without an exponent. -/
  positional : Int → Bool
  /-- A whole number ends in `.0`. -/
  pointZero : Bool
  /-- A positive exponent carries a plus sign. -/
  plusSign : Bool

namespace DecimalForm

/-- A digit string with its decimal point `exponent` places from the end, zeros filled in. -/
def placePoint (pointZero : Bool) (digits : List Char) (exponent : Int) : List Char :=
  if 0 ≤ exponent then
    digits ++ List.replicate exponent.toNat '0' ++ (if pointZero then ['.', '0'] else [])
  else
    let places := (-exponent).toNat
    let padded := List.replicate (places + 1 - digits.length) '0' ++ digits
    padded.take (padded.length - places) ++ '.' :: padded.drop (padded.length - places)

/-- A digit string with its point after the first digit, and the exponent that belongs to it. -/
def withExponent (plusSign : Bool) (digits : List Char) (leading : Int) : List Char :=
  let mantissa := match digits with
    | d :: [] => [d]
    | d :: rest => d :: '.' :: rest
    | [] => []
  let sign := if leading < 0 then ['-'] else if plusSign then ['+'] else []
  mantissa ++ 'e' :: (sign ++ (Nat.repr leading.natAbs).toList)

/-- The layout of a decimal. -/
def layout (form : DecimalForm) (decimal : Decimal) : List Char :=
  let digits := (Nat.repr decimal.digits).toList
  let leading := decimal.exponent + (digits.length : Int) - 1
  if decimal.digits = 0 then placePoint form.pointZero ['0'] 0
  else if form.positional leading then placePoint form.pointZero digits decimal.exponent
  else withExponent form.plusSign digits leading

/-- The written form of a finite number. -/
def write (form : DecimalForm) (x : Double) : String :=
  String.ofList ((if x.negative then ['-'] else []) ++ form.layout (x.shortest form.tie))

end DecimalForm

end Blueprint
