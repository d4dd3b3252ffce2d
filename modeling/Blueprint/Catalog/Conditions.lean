import Blueprint.Catalog.Indicators

/-!
# Conditions

Variants with one boolean result.  Operators and thresholds are written in place, in parentheses;
a crossing scans two whole series, so it is computed once and bound to a variable.
-/

namespace Blueprint.Catalog

/-- A boolean operator before its operand. -/
def unaryOperator (tag title description operator : String) : Variant where
  tag
  category := .logic
  title
  description
  inputs := [.input "input" .boolean "Input"]
  outputs := [.output "result" .boolean "Result"]
  expression := [.text ("(" ++ operator ++ " "), .input "input" "None", .text ")"]

/-- An operator between two operands of one type, with a boolean result. -/
def binaryOperator (tag title description operator : String) (operand : DataType) : Variant where
  tag
  category := .logic
  title
  description
  inputs := [.input "a" operand "A", .input "b" operand "B"]
  outputs := [.output "result" .boolean "Result"]
  expression := [.text "(", .input "a" "None", .text (" " ++ operator ++ " "),
    .input "b" "None", .text ")"]

/-- The operator variants. -/
def operators : List Variant := [
  unaryOperator "logic.not" "Not" "Negates a condition" "not",
  binaryOperator "logic.greater" "Greater >" "A is greater than B" ">" .number,
  binaryOperator "logic.less" "Less <" "A is less than B" "<" .number,
  binaryOperator "logic.equal" "Equal ==" "A equals B" "==" .number,
  binaryOperator "logic.greater_equal" "Greater or equal >=" "A is greater than or equal to B"
    ">=" .number,
  binaryOperator "logic.less_equal" "Less or equal <=" "A is less than or equal to B" "<=" .number,
  binaryOperator "logic.and" "And" "Both A and B hold" "and" .boolean,
  binaryOperator "logic.or" "Or" "A or B holds" "or" .boolean]

/-- A crossing of a fast and a slow series. -/
def crossing (tag title description function : String) : Variant where
  tag
  category := .signal
  title
  description
  inputs := [.input "fast" .series "Fast", .input "slow" .series "Slow"]
  outputs := [.output "signal" .boolean "Signal"]
  imports := [indicatorImport]
  statements := [[.var function, .text (" = TechnicalIndicators." ++ function ++ "("),
    .input "fast" "None", .text ", ", .input "slow" "None", .text ")[-1]"]]
  expression := [.var function]

/-- A comparison of a value with a level. -/
def threshold (tag title description operator : String) (value level : Caption)
    (defaultLevel : Option Int64) : Variant where
  tag
  category := .signal
  title
  description
  inputs :=
    let levelPort := PortSpec.input level.1 .number level.2
    [.input value.1 .number value.2,
     match defaultLevel with
     | some default => levelPort.withDefault (.int default)
     | none => levelPort]
  outputs := [.output "signal" .boolean "Signal"]
  schema := (defaultLevel.map fun default =>
    .float level.1 level.2 (.int default) (.ofInt 0) (.ofInt 100)).toList
  expression := [.text "(", .input value.1 "None", .text (" " ++ operator ++ " "),
    .input level.1 (match defaultLevel with
      | some default => toString default.toInt
      | none => "None"),
    .text ")"]

/-- The signal variants. -/
def signals : List Variant := [
  crossing "signal.cross_over" "Cross Over" "Fast line crosses above slow line" "cross_over",
  crossing "signal.cross_under" "Cross Under" "Fast line crosses below slow line" "cross_under",
  threshold "signal.break_up" "Break Up" "Price breaks above a level" ">"
    ("price", "Price") ("level", "Upper level") none,
  threshold "signal.break_down" "Break Down" "Price breaks below a level" "<"
    ("price", "Price") ("level", "Lower level") none,
  threshold "signal.oversold" "Oversold" "Indicator enters the oversold zone" "<"
    ("value", "Value") ("threshold", "Threshold") (some 30),
  threshold "signal.overbought" "Overbought" "Indicator enters the overbought zone" ">"
    ("value", "Value") ("threshold", "Threshold") (some 70)]

end Blueprint.Catalog
