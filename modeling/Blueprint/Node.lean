import Blueprint.Text.Numeral
import Blueprint.Variant

/-!
# Nodes

A node is an instance of a variant: it has an id, a place on the canvas and parameters, and the
ports that its variant declares.
-/

namespace Blueprint

/-- A place on the canvas. -/
structure Point where
  /-- The horizontal coordinate. -/
  x : Double := .zero
  /-- The vertical coordinate. -/
  y : Double := .zero
  deriving DecidableEq, Inhabited

namespace Point

/-- Both coordinates are finite. -/
def isFinite (p : Point) : Bool := p.x.isFinite && p.y.isFinite

/-- Both coordinates are numerically equal. -/
def equals (p q : Point) : Bool := p.x.equals q.x && p.y.equals q.y

end Point

/-- A node of a graph. -/
structure Node where
  /-- The id, unique in the graph. -/
  id : NodeId
  /-- The tag of the node's variant. -/
  type : String
  /-- The place on the canvas. -/
  position : Point
  /-- The parameters. -/
  parameters : Parameters
  /-- The input ports in declaration order. -/
  inputs : List PortSpec
  /-- The output ports in declaration order. -/
  outputs : List PortSpec
  deriving DecidableEq, Inhabited

namespace Node

/-- A new node of a variant that is registered as `type`. -/
def ofVariant (id : NodeId) (type : String) (position : Point) (variant : Variant) : Node where
  id
  type
  position
  parameters := .ofSchema variant.schema
  inputs := variant.inputs
  outputs := variant.outputs

variable (node : Node)

/-- The first port of a name and direction. -/
def port? (name : String) : Direction → Option PortSpec
  | .input => node.inputs.find? (·.name == name)
  | .output => node.outputs.find? (·.name == name)

/-- Parameter keys with this beginning hold values set on an input itself. -/
def overrideMark : String := "_input_"

/-- The value of an input that is not connected: the one set on the input itself, else the
parameter of the same name, else the declared default. -/
def fallback? (port : String) : Option Value :=
  (node.parameters.get? (overrideMark ++ port)).or
    ((node.parameters.get? port).or ((node.port? port .input).bind (·.default)))

/-! ### Variable names -/

/-- The character may stand in a variable name and is neither an underscore nor beyond ASCII. -/
def isPlain (c : Char) : Bool := c.isAlphanum

/-- A type tag inside a variable name: every other character becomes an underscore. -/
def flattenTag (tag : List Char) : List Char := tag.map fun c => if isPlain c then c else '_'

/-- A byte as an underscore and two hexadecimal digits. -/
def escapeByte (byte : UInt8) : List Char := '_' :: Text.hexDigits 2 byte.toNat

/-- One character of an id inside a variable name: itself, or its UTF-8 bytes escaped. -/
def escapeChar (c : Char) : List Char :=
  if isPlain c then [c] else (String.utf8EncodeChar c).flatMap escapeByte

/-- An id inside a variable name.  Distinct ids have distinct forms. -/
def escapeId (id : List Char) : List Char := id.flatMap escapeChar

/-- The variable that the generated script binds a result of the node to. -/
def variableName (suffix : String) : String :=
  String.ofList ('_' :: flattenTag node.type.toList ++ '_' :: escapeId node.id.toList
    ++ (if suffix.isEmpty then [] else '_' :: suffix.toList))

end Node

end Blueprint
