import Blueprint.Json.Reader
import Blueprint.Json.Writer

/-!
# Data types

What flows along a connection, and which output may feed which input.
-/

namespace Blueprint

/-- The kind of data a port carries. -/
inductive DataType where
  /-- A single number. -/
  | number
  /-- A truth value. -/
  | boolean
  /-- A sequence of numbers. -/
  | series
  /-- One bar of market data. -/
  | bar
  /-- Data of any kind. -/
  | any
  /-- Control flow, without data. -/
  | exec
  deriving DecidableEq, Repr, Inhabited

namespace DataType

/-- Every data type. -/
def all : List DataType := [.number, .boolean, .series, .bar, .any, .exec]

/-- The name of a data type. -/
def name : DataType → String
  | .number => "number"
  | .boolean => "boolean"
  | .series => "series"
  | .bar => "bar"
  | .any => "any"
  | .exec => "exec"

/-- The data type of a name. -/
def ofName? (name : String) : Option DataType := all.find? (·.name == name)

/-- The input types that an output of a given type may feed. -/
def compatibleTargets : DataType → List DataType
  | .number => [.number, .any]
  | .boolean => [.boolean, .any]
  | .series => [.series, .any]
  | .bar => [.bar, .any]
  | .any => [.number, .boolean, .series, .bar, .any]
  | .exec => [.exec]

/-- An output of type `source` may feed an input of type `target`.  Control flow connects to
control flow only; otherwise an `any` input takes everything. -/
def canConnect (source target : DataType) : Bool :=
  if source = .exec || target = .exec then source = target
  else target = .any || source.compatibleTargets.contains target

/-! ### Data types as JSON -/

/-- A data type: its name, or an object with the name as its only key and `null` for its value. -/
def ofJson? : Json → Option DataType
  | .string (some name) => DataType.ofName? name
  | .object [(some name, .null)] => DataType.ofName? name
  | _ => none

/-- A data type as JSON: its name. -/
def toJson (type : DataType) : Json := .ofText type.name

end DataType

end Blueprint
