import Blueprint.Catalog.Conditions
import Blueprint.Catalog.MarketData
import Blueprint.Catalog.Orders

/-!
# The built-in catalog

The last family are constants and arithmetic: numbers that a user sets, and numbers computed from
others in place.  Nothing there emits a statement.  With it the built-in catalog is complete.
-/

namespace Blueprint.Catalog

/-- A number that a user sets. -/
def constant (tag title description : String) (spec : ParameterSpec) : Variant where
  tag
  category := .param
  title
  description
  inputs := []
  outputs := [.output spec.name .number spec.label]
  schema := [spec]
  expression := [.parameter spec.name spec.default]

/-- An arithmetic operator; `absent` stands for a missing second operand. -/
def arithmetic (tag title operator absent : String) : Variant where
  tag
  category := .param
  title
  description := "A " ++ operator ++ " B"
  inputs := [(PortSpec.input "a" .number "A").optional, (PortSpec.input "b" .number "B").optional]
  outputs := [.output "result" .number "Result"]
  expression := [.text "(", .input "a" "0", .text (" " ++ operator ++ " "), .input "b" absent,
    .text ")"]

/-- The last element of a series. -/
def lastElement : Variant where
  tag := "param.get_last"
  category := .param
  title := "Last Value"
  description := "The most recent element of a series"
  inputs := [.input "series" .series "Series"]
  outputs := [.output "value" .number "Value"]
  expression := [.input "series" "None", .text "[-1]"]

/-- The number variants. -/
def numbers : List Variant := [
  constant "param.number" "Number" "A constant number"
    (.float "value" "Value" (.int 0) (.ofInt (-999999)) (.ofInt 999999)),
  constant "param.period" "Period" "A window length" (.int "period" "Period" 20 1 500),
  constant "param.quantity" "Quantity" "An order size"
    (.int "quantity" "Quantity" 100 100 100000),
  constant "param.percent" "Percent" "A percentage"
    (.float "percent" "Percent" (.float (.ofInt 5)) (.ofInt 0) (.ofInt 100)),
  arithmetic "param.add" "Add +" "+" "0",
  arithmetic "param.sub" "Subtract -" "-" "0",
  arithmetic "param.mul" "Multiply *" "*" "0",
  arithmetic "param.div" "Divide /" "/" "1",
  lastElement]

/-! ### All families -/

/-- Every built-in variant, in the order of registration. -/
def builtinVariants : List Variant :=
  marketData ++ indicators ++ operators ++ signals ++ orders ++ numbers

/-- The catalog of the built-in variants. -/
def builtin : Catalog := empty.registerAll builtinVariants

end Blueprint.Catalog
