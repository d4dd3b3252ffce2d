/-!
# Numerals

Integers as they are written with decimal digits and an optional sign, lower-case hexadecimal
numerals, padded with zeros to a least width, and time spans in the largest unit that they fill,
with as many decimals as they need.
-/

namespace Blueprint.Text

/-! ### Decimal digits -/

/-- The number that a string of decimal digits spells. -/
def natOfDigits (digits : List Char) : Nat :=
  digits.foldl (fun n c => 10 * n + (c.toNat - '0'.toNat)) 0

/-- An optional sign: whether it is a minus, and what follows. -/
def splitSign : List Char → Bool × List Char
  | '-' :: rest => (true, rest)
  | '+' :: rest => (false, rest)
  | text => (false, text)

/-- The integer spelled by an optional sign and at least one digit. -/
def readInt? (text : List Char) : Option Int :=
  let (negative, digits) := splitSign text
  if digits.isEmpty || !digits.all Char.isDigit then none
  else
    let n : Nat := natOfDigits digits
    some (if negative then -(n : Int) else n)

/-! ### Hexadecimal digits -/

/-- The hexadecimal digits of `n`, at least `width` of them. -/
def hexDigits (width n : Nat) : List Char :=
  let digits := Nat.toDigits 16 n
  List.replicate (width - digits.length) '0' ++ digits

/-! ### Time spans -/

/-- The part after the point, of `width` places and without final zeros; empty for zero. -/
def fractionText (width value : Nat) : String :=
  let digits := Nat.toDigits 10 value
  let places := List.replicate (width - digits.length) '0' ++ digits
  match (places.reverse.dropWhile (· == '0')).reverse with
  | [] => ""
  | kept => "." ++ String.ofList kept

/-- A number of nanoseconds as a text. -/
def elapsed (nanoseconds : Nat) : String :=
  if 1000000000 ≤ nanoseconds then
    Nat.repr (nanoseconds / 1000000000) ++ fractionText 9 (nanoseconds % 1000000000) ++ "s"
  else if 1000000 ≤ nanoseconds then
    Nat.repr (nanoseconds / 1000000) ++ fractionText 6 (nanoseconds % 1000000) ++ "ms"
  else if 1000 ≤ nanoseconds then
    Nat.repr (nanoseconds / 1000) ++ fractionText 3 (nanoseconds % 1000) ++ "µs"
  else Nat.repr nanoseconds ++ "ns"

end Blueprint.Text
