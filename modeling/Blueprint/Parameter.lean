import Blueprint.Double.Rounding
import Blueprint.Json.Writer
import Blueprint.SortedMap
import Blueprint.Value

/-!
# Parameters

The parameters of a node are a map from keys to values in key order.  A variant describes the ones
a user may edit by a schema of `ParameterSpec`s, each with a kind and a range.
-/

namespace Blueprint

/-- The parameters of a node. -/
abbrev Parameters := SortedMap Value

/-- What kind of scalar a parameter holds. -/
inductive ParameterKind where
  /-- An integer. -/
  | int
  /-- A number, with or without a fraction. -/
  | float
  /-- A truth value. -/
  | bool
  /-- A text. -/
  | text
  deriving DecidableEq, Repr, Inhabited

/-- The name of a kind. -/
def ParameterKind.name : ParameterKind → String
  | .int => "int"
  | .float => "float"
  | .bool => "bool"
  | .text => "string"

/-- One editable parameter of a variant. -/
structure ParameterSpec where
  /-- The key. -/
  name : String
  /-- The kind of its values. -/
  kind : ParameterKind
  /-- The caption. -/
  label : String
  /-- The value that a new node starts with. -/
  default : Value
  /-- The least value, if there is one. -/
  min : Option Double
  /-- The greatest value, if there is one. -/
  max : Option Double
  deriving DecidableEq, Inhabited

namespace ParameterSpec

/-- An integer parameter with a range of integers. -/
def int (name label : String) (default min max : Int64) : ParameterSpec where
  name
  kind := .int
  label
  default := .int default
  min := some (Double.ofInt min.toInt)
  max := some (Double.ofInt max.toInt)

/-- A numeric parameter with a range of numbers. -/
def float (name label : String) (default : Value) (min max : Double) : ParameterSpec where
  name
  kind := .float
  label
  default
  min := some min
  max := some max

/-- The number lies in the declared range. -/
def inRange (spec : ParameterSpec) (x : Double) : Bool :=
  spec.min.all (·.le x) && spec.max.all x.le

/-- The value has the declared kind and lies in the declared range.  An integer stands for the
nearest floating-point number. -/
def accepts (spec : ParameterSpec) : Value → Bool
  | .bool _ => spec.kind = .bool
  | .text _ => spec.kind = .text
  | .int i => (spec.kind = .int || spec.kind = .float) && spec.inRange (Double.ofInt i.toInt)
  | .float x => spec.kind = .float && spec.inRange x

end ParameterSpec

/-- The parameters that a schema gives to a new node; the last of two entries with one name
counts. -/
def Parameters.ofSchema (schema : List ParameterSpec) : Parameters :=
  SortedMap.ofList (schema.map fun spec => (spec.name, spec.default))

/-! ### JSON forms -/

/-- A value as JSON. -/
def Value.toJson : Value → Json
  | .bool b => .bool b
  | .int i => .number (toString i.toInt)
  | .float x => .ofDouble x
  | .text s => .ofText s

/-- A schema entry as JSON; absent bounds are left out. -/
def ParameterSpec.toJson (spec : ParameterSpec) : Json :=
  .ofFields ([("name", .ofText spec.name), ("kind", .ofText spec.kind.name),
      ("label", .ofText spec.label), ("default", spec.default.toJson)]
    ++ (spec.min.map fun x => ("min", .ofDouble x)).toList
    ++ (spec.max.map fun x => ("max", .ofDouble x)).toList)

end Blueprint
