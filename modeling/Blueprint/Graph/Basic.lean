import Blueprint.Catalog
import Blueprint.Node

/-!
# Blueprint graphs

A graph holds nodes in the order of their insertion and connections in the order of their
creation.  Connections run from an output port to an input port.  A graph also remembers which
numbers it has given away to nodes and connections, the connection that is being dragged, and who
wants to hear about changes.
-/

namespace Blueprint

/-- The number of a connection in its graph. -/
abbrev ConnectionId := Nat

/-- A connection from an output port to an input port. -/
structure Connection where
  /-- The number, never given to another connection of the graph. -/
  id : ConnectionId
  /-- The output port that feeds. -/
  source : PortRef
  /-- The input port that is fed. -/
  target : PortRef
  deriving DecidableEq, Repr, Inhabited

namespace Connection

/-- One of the ends is on the node. -/
def touches (connection : Connection) (node : NodeId) : Bool :=
  connection.source.node == node || connection.target.node == node

/-- The two ends in messages. -/
def render (connection : Connection) : String :=
  connection.source.render ++ " -> " ++ connection.target.render

end Connection

/-- The gesture that draws a connection. -/
inductive Drag where
  /-- Nothing is being drawn. -/
  | idle
  /-- A connection is being drawn from a port of either direction to the cursor. -/
  | dragging (origin : PortRef) (cursor : Point)
  deriving DecidableEq, Inhabited

namespace Drag

/-- The port where the gesture started. -/
def origin? : Drag → Option PortRef
  | .idle => none
  | .dragging origin _ => some origin

/-- Where the cursor is. -/
def cursor? : Drag → Option Point
  | .idle => none
  | .dragging _ cursor => some cursor

/-- A connection is being drawn. -/
def isActive (drag : Drag) : Bool := drag.origin?.isSome

end Drag

/-- A blueprint: nodes and connections over a catalog. -/
structure Graph where
  /-- The variants that nodes are made of. -/
  catalog : Catalog
  /-- The nodes in insertion order. -/
  nodes : List Node := []
  /-- The connections in creation order. -/
  connections : List Connection := []
  /-- The last number used for a generated node id. -/
  nodeSeq : Nat := 0
  /-- The last number used for a connection. -/
  connectionSeq : Nat := 0
  /-- The gesture in progress. -/
  drag : Drag := .idle
  /-- Who hears about changes, in the order of subscription. -/
  observers : List Nat := []
  deriving Inhabited

namespace Graph

/-- The graph without nodes over a catalog. -/
def empty (catalog : Catalog) : Graph := { catalog }

/-- A copy of the content.  Observers and the gesture in progress stay behind. -/
def copy (g : Graph) : Graph := { g with drag := .idle, observers := [] }

/-- Adds an observer. -/
def subscribe (g : Graph) (observer : Nat) : Graph :=
  { g with observers := g.observers ++ [observer] }

variable (g : Graph)

/-! ### Nodes -/

/-- The ids in insertion order. -/
def ids : List NodeId := g.nodes.map (·.id)

/-- The node of an id. -/
def node? (id : NodeId) : Option Node := g.nodes.find? (·.id == id)

/-- The id is in use. -/
def hasNode (id : NodeId) : Bool := g.nodes.any (·.id == id)

/-- How many nodes there are. -/
def nodeCount : Nat := g.nodes.length

/-- There is no node. -/
def isEmpty : Bool := g.nodes.isEmpty

/-- The variant of a node. -/
def variantOf? (node : Node) : Option Variant := g.catalog.get? node.type

/-- The nodes of a category. -/
def nodesIn (category : Category) : List Node :=
  g.nodes.filter fun node => (g.variantOf? node).any (·.category == category)

/-! ### Ports and connections -/

/-- The declaration of a port. -/
def port? (ref : PortRef) : Option PortSpec :=
  (g.node? ref.node).bind (·.port? ref.port ref.direction)

/-- The connection of a number. -/
def connection? (id : ConnectionId) : Option Connection := g.connections.find? (·.id == id)

/-- The connections into an input port. -/
def incoming (port : PortRef) : List Connection := g.connections.filter (·.target == port)

/-- The connections out of an output port. -/
def outgoing (port : PortRef) : List Connection := g.connections.filter (·.source == port)

/-- The connections on a node. -/
def incident (node : NodeId) : List Connection := g.connections.filter (·.touches node)

/-- The nodes that feed a node: by input port in declaration order, then by age of the
connection.  A node that feeds several inputs comes several times. -/
def producers (id : NodeId) : List NodeId :=
  match g.node? id with
  | none => []
  | some node =>
    node.inputs.flatMap fun port =>
      ((g.incoming (.input id port.name)).map (·.source.node)).filter g.hasNode

/-- Whether `port` would take a new connection whose other end is `candidate`: the directions are
opposite, the nodes differ, a singular input is not filled yet, and the types fit. -/
def accepts (port candidate : PortRef) : Bool :=
  match g.port? port, g.port? candidate with
  | some own, some other =>
    if port.direction = candidate.direction || port.node = candidate.node then false
    else match port.direction with
      | .input =>
        (own.multi || (g.incoming port).isEmpty) && other.type.canConnect own.type
      | .output => own.type.canConnect other.type
  | _, _ => false

end Graph

end Blueprint
