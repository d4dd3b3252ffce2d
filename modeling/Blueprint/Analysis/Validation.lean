import Blueprint.Analysis.Order

/-!
# Validation and lookback

The issues that keep a graph from becoming a strategy.  All of them are reported: a cycle, each
required input without connection and value, and the lack of a node that places orders.

The lookback says how many past bars a strategy needs before its first decision.  A node's own
window parameters say so: a period needs one bar more than its length, a slow window ten more for
smoothing to settle.
-/

namespace Blueprint

/-- Something that keeps a graph from becoming a strategy. -/
inductive Issue where
  /-- Connections form a cycle. -/
  | cycle
  /-- A required input of a node has neither a connection nor a value. -/
  | unfedInput (title : String) (node : NodeId) (port : String)
  /-- No node places orders. -/
  | noTrade
  deriving DecidableEq, Repr, Inhabited

/-- The wording of an issue. -/
def Issue.message : Issue → String
  | .cycle => "graph contains a dependency cycle"
  | .unfedInput title node port =>
    "node '" ++ title ++ "' (" ++ node ++ ") has unconnected required input '" ++ port ++ "'"
  | .noTrade => "no trade node: the strategy will never place an order"

namespace Graph

variable (g : Graph)

/-- An input of a node has a connection or a value. -/
def isFed (node : Node) (port : String) : Bool :=
  !(g.incoming (.input node.id port)).isEmpty || (node.fallback? port).isSome

/-- The caption of a node. -/
def titleOf (node : Node) : String :=
  match g.variantOf? node with
  | some variant => variant.title
  | none => node.type

/-- The issues of one node. -/
def nodeIssues (node : Node) : List Issue :=
  (node.inputs.filter fun port => port.required && !g.isFed node port.name).map fun port =>
    .unfedInput (g.titleOf node) node.id port.name

/-- All issues of a graph. -/
def validate : List Issue :=
  (if g.hasCycle then [.cycle] else []) ++ g.nodes.flatMap g.nodeIssues
    ++ (if (g.nodesIn .trade).isEmpty then [.noTrade] else [])

end Graph

/-! ### Lookback -/

/-- The sum, or the greatest 64-bit integer if that is smaller. -/
def saturatingAdd (a b : Int) : Int := min (a + b) Int64.maxValue.toInt

/-- The bars that each window parameter asks for beyond its length. -/
def windowMargins : List (String × Int) := [("period", 1), ("count", 0), ("slow", 10)]

namespace Node

/-- The length of a window parameter of a node, if it is positive. -/
def window? (node : Node) (key : String) : Option Int :=
  (((node.parameters.get? key).bind Value.toInt?).map Int64.toInt).filter (0 < ·)

/-- The bars that the windows of a node ask for. -/
def windows (node : Node) : List Int :=
  windowMargins.filterMap fun (key, margin) => (node.window? key).map (saturatingAdd · margin)

end Node

/-- The number of bars that a graph needs: the longest window, and at least one. -/
def Graph.lookback (g : Graph) : Nat := ((g.nodes.flatMap Node.windows).foldl max 1).toNat

end Blueprint
