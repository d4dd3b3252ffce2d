import Blueprint.Double.Form
import Blueprint.Double.Reading
import Blueprint.Text.Basic
import Blueprint.Text.Quoted

/-!
# Parameter values

A parameter of a node is a truth value, a 64-bit integer, a floating-point number or a text.  A
value has an integer reading (`Value.toInt?`), a form inside generated expressions
(`Value.render`) and a form as a literal of the generated script (`Value.literal`).
-/

namespace Blueprint

/-- A scalar parameter value. -/
inductive Value where
  /-- A truth value. -/
  | bool (b : Bool)
  /-- A 64-bit integer. -/
  | int (i : Int64)
  /-- A floating-point number. -/
  | float (x : Double)
  /-- A text. -/
  | text (s : String)
  deriving DecidableEq, Inhabited

namespace Value

/-- Floating-point numbers in expressions: never an exponent, a half of the last digit away from
zero. -/
def expressionForm : DecimalForm where
  tie := .away
  positional := fun _ => true
  pointZero := false
  plusSign := false

/-- A floating-point number in an expression.  Whole numbers below `10 ^ 16` show their point. -/
def renderDouble (x : Double) : String :=
  if x.isNaN then "float('nan')"
  else if x.isInfinite then if x.negative then "-float('inf')" else "float('inf')"
  else if x.isWhole && decide (x.truncate.natAbs < 10000000000000000) then
    (if x.negative then "-" else "") ++ Nat.repr x.truncate.natAbs ++ ".0"
  else expressionForm.write x

/-- The text a value contributes to an expression. -/
def render : Value → String
  | .bool b => if b then "True" else "False"
  | .int i => toString i.toInt
  | .float x => renderDouble x
  | .text s => s

/-- The value as a literal of the generated script. -/
def literal : Value → String
  | .text s => Text.quoted s
  | value => value.render

/-- A finite number without its fraction, kept within 64 bits; nothing for other numbers. -/
def truncated? (x : Double) : Option Int64 := if x.isFinite then some x.toInt64 else none

/-- The 64-bit integer that a numeral denotes exactly. -/
def exactInt? (text : List Char) : Option Int64 :=
  match Text.readInt? text with
  | some i =>
    if Int64.minValue.toInt ≤ i && i ≤ Int64.maxValue.toInt then some (Int64.ofInt i) else none
  | none => none

/-- The integer reading of a value, used for window lengths: numbers lose their fraction, texts
are read as numerals. -/
def toInt? : Value → Option Int64
  | .bool _ => none
  | .int i => some i
  | .float x => truncated? x
  | .text s =>
    let numeral := Text.trim s.toList
    match exactInt? numeral with
    | some i => some i
    | none => (Double.read? numeral).bind truncated?

/-- The value may be stored in a document: it is no infinity and not undefined. -/
def isFinite : Value → Bool
  | .float x => x.isFinite
  | _ => true

/-- Equality of values, numerical for floating-point numbers. -/
def equals : Value → Value → Bool
  | .float x, .float y => x.equals y
  | v, w => v = w

end Value

end Blueprint
