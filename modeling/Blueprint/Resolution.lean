import Blueprint.Graph.Basic
import Blueprint.Note

/-!
# Resolution of expressions

A node's templates are filled in from the graph around it: an input takes the expression of the
output that feeds it, or else its own value.  Expressions nest as deep as the graph is long unless
there is a cycle, so a depth allowance of one more than the number of nodes cuts off cycles and
nothing else.
-/

namespace Blueprint

/-- Fills in a piece for a node.  `asked` is the output that is asked for, and `resolve` gives the
expression that feeds an input. -/
def Piece.fill (node : Node) (asked : String) (resolve : String → Option String) : Piece → String
  | .text s => s
  | .input port otherwise =>
    match resolve port with
    | some expression => if expression.isEmpty then otherwise else expression
    | none => otherwise
  | .var suffix => node.variableName suffix
  | .output => asked
  | .parameter key otherwise => ((node.parameters.get? key).getD otherwise).render

/-- Fills in a template for a node. -/
def Template.fill (node : Node) (asked : String) (resolve : String → Option String)
    (template : Template) : String :=
  String.join (template.map (Piece.fill node asked resolve))

namespace Graph

variable (g : Graph)

/-- The connection that an input reads: the oldest one. -/
def feed? (node : Node) (port : String) : Option Connection :=
  (g.incoming (.input node.id port)).head?

/-- The node and the variant at the source of a connection. -/
def producer? (connection : Connection) : Option (Node × Variant) :=
  (g.node? connection.source.node).bind fun node =>
    (g.variantOf? node).map fun variant => (node, variant)

/-- The expression that feeds an input, through at most `depth` connections. -/
def inputWithin : Nat → Node → String → Option String
  | 0, node, port =>
    match g.feed? node port with
    | some _ => none
    | none => (node.fallback? port).map Value.render
  | depth + 1, node, port =>
    match g.feed? node port with
    | some connection =>
      (g.producer? connection).map fun (producer, variant) =>
        (variant.expressionAt connection.source.port).fill producer connection.source.port
          (inputWithin depth producer)
    | none => (node.fallback? port).map Value.render

/-- The inputs at which resolution through `depth` connections is cut off, in order. -/
def cutOffsWithin : Nat → Node → String → List PortRef
  | 0, node, port =>
    match g.feed? node port with
    | some _ => [.input node.id port]
    | none => []
  | depth + 1, node, port =>
    match (g.feed? node port).bind fun c => (g.producer? c).map (c, ·) with
    | some (connection, producer, variant) =>
      (variant.expressionAt connection.source.port).inputs.flatMap (cutOffsWithin depth producer)
    | none => []

/-- The depth allowance of a graph. -/
def depthAllowance : Nat := g.nodeCount + 1

/-- The expression that feeds an input of a node. -/
def inputValue (node : Node) (port : String) : Option String :=
  g.inputWithin g.depthAllowance node port

/-- A template of a node, filled in. -/
def fill (node : Node) (asked : String) (template : Template) : String :=
  template.fill node asked (g.inputValue node)

/-- The expression that feeds an input of a node, or a fixed text if there is none. -/
def inputOr (node : Node) (port otherwise : String) : String :=
  g.fill node "" [.input port otherwise]

/-- The expression that a node offers at an output. -/
def outputExpression (node : Node) (variant : Variant) (port : String) : String :=
  g.fill node port (variant.expressionAt port)

/-- The statements that a node emits. -/
def statementsOf (node : Node) (variant : Variant) : List String :=
  variant.statements.map (g.fill node "")

/-- The notes of resolving an input. -/
def inputNotes (node : Node) (port : String) : List Note :=
  (g.cutOffsWithin g.depthAllowance node port).map .resolutionCutOff

/-- The notes of filling in a template. -/
def fillNotes (node : Node) (template : Template) : List Note :=
  template.inputs.flatMap (g.inputNotes node)

/-- The notes of resolving the expression at an output. -/
def expressionNotes (node : Node) (variant : Variant) (port : String) : List Note :=
  g.fillNotes node (variant.expressionAt port)

/-- The notes of filling in all statements. -/
def statementNotes (node : Node) (variant : Variant) : List Note :=
  variant.statements.flatMap (g.fillNotes node)

end Graph

end Blueprint
