import Blueprint.DataType
import Blueprint.Value

/-!
# Ports

The typed attachment points of a node.  A variant declares its ports by `PortSpec`s; a `PortRef`
names one port of one node of a graph.
-/

namespace Blueprint

/-- The name of a node in its graph. -/
abbrev NodeId := String

/-- Which way data passes through a port. -/
inductive Direction where
  /-- Into the node. -/
  | input
  /-- Out of the node. -/
  | output
  deriving DecidableEq, Repr, Inhabited

/-- The declaration of a port. -/
structure PortSpec where
  /-- The name, by which the first port of a node and direction is found. -/
  name : String
  /-- What flows through the port. -/
  type : DataType
  /-- Which way it flows. -/
  direction : Direction
  /-- The caption. -/
  label : String
  /-- The value of an input that nothing else feeds. -/
  default : Option Value := none
  /-- The input needs a connection or some value. -/
  required : Bool
  /-- The input takes more than one connection.  Outputs always feed any number of inputs. -/
  multi : Bool
  deriving DecidableEq, Inhabited

namespace PortSpec

/-- A required input for one connection. -/
def input (name : String) (type : DataType) (label : String) : PortSpec where
  name
  type
  direction := .input
  label
  required := true
  multi := false

/-- An output. -/
def output (name : String) (type : DataType) (label : String) : PortSpec where
  name
  type
  direction := .output
  label
  required := false
  multi := true

/-- The port with a value to fall back on. -/
def withDefault (spec : PortSpec) (value : Value) : PortSpec :=
  { spec with default := some value, required := false }

/-- The port, not required any more. -/
def optional (spec : PortSpec) : PortSpec := { spec with required := false }

/-- The port, open to more than one connection. -/
def manyConnections (spec : PortSpec) : PortSpec := { spec with multi := true }

end PortSpec

/-- One port of one node of a graph. -/
structure PortRef where
  /-- The node. -/
  node : NodeId
  /-- The name of the port. -/
  port : String
  /-- The direction of the port. -/
  direction : Direction
  deriving DecidableEq, Repr, Inhabited

namespace PortRef

/-- An input port. -/
def input (node : NodeId) (port : String) : PortRef := ⟨node, port, .input⟩

/-- An output port. -/
def output (node : NodeId) (port : String) : PortRef := ⟨node, port, .output⟩

/-- The port in messages. -/
def render (ref : PortRef) : String := ref.node ++ "." ++ ref.port

end PortRef

end Blueprint
