import Blueprint.Double.Rounding
import Blueprint.Text.Numeral

/-!
# Reading decimal numerals

A numeral is an optional sign followed by `inf`, `infinity` or `nan` in any mixture of cases, or by
digits with at most one point, at least one digit, and an optional exponent.  The result is the
nearest double; a numeral too large for the format denotes an infinity.
-/

namespace Blueprint

namespace Double

/-- The exponent part of a numeral: nothing, or a mark and an integer. -/
def readExponent? : List Char → Option Int
  | [] => some 0
  | mark :: rest => if mark = 'e' || mark = 'E' then Text.readInt? rest else none

/-- A numeral without its sign, made of digits. -/
def readDecimal? (negative : Bool) (text : List Char) : Option Double :=
  let (whole, rest) := text.span Char.isDigit
  let (fraction, rest) := match rest with
    | '.' :: rest => rest.span Char.isDigit
    | rest => ([], rest)
  if whole.isEmpty && fraction.isEmpty then none
  else
    (readExponent? rest).map fun exponent =>
      ofDecimal negative (Text.natOfDigits (whole ++ fraction)) (exponent - (fraction.length : Int))

/-- The double that a numeral denotes. -/
def read? (text : List Char) : Option Double :=
  let (negative, body) := Text.splitSign text
  let word := body.map Char.toLower
  if word = ['i', 'n', 'f'] || word = ['i', 'n', 'f', 'i', 'n', 'i', 't', 'y'] then
    some (infinity negative)
  else if word = ['n', 'a', 'n'] then some (nan negative)
  else readDecimal? negative body

end Double

end Blueprint
