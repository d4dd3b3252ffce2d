import Blueprint.Graph.Edit

/-!
# Documents

The stored form of a graph: its nodes with their parameters, and its connections by the names of
their ends.  Loading a document replays it through the same edits that a user makes.  A stored
connection whose ends do not exist is dropped; any other refusal refuses the document.
-/

namespace Blueprint

/-- A stored node. -/
structure NodeRecord where
  /-- The id. -/
  id : NodeId
  /-- The type tag. -/
  type : String
  /-- The place on the canvas. -/
  position : Point := {}
  /-- The parameters. -/
  parameters : Parameters := .empty
  deriving DecidableEq, Inhabited

/-- A stored connection. -/
structure ConnectionRecord where
  /-- The node that feeds. -/
  sourceNode : NodeId
  /-- Its output. -/
  sourcePort : String
  /-- The node that is fed. -/
  targetNode : NodeId
  /-- Its input. -/
  targetPort : String
  deriving DecidableEq, Inhabited

/-- The stored form of a graph. -/
structure Document where
  /-- The nodes in insertion order. -/
  nodes : List NodeRecord := []
  /-- The connections in creation order. -/
  connections : List ConnectionRecord := []
  deriving DecidableEq, Inhabited

namespace ConnectionRecord

/-- The output that feeds. -/
def source (record : ConnectionRecord) : PortRef := .output record.sourceNode record.sourcePort

/-- The input that is fed. -/
def target (record : ConnectionRecord) : PortRef := .input record.targetNode record.targetPort

end ConnectionRecord

/-! ### Numerical equality -/

/-- The records agree, floating-point numbers by value. -/
def NodeRecord.equals (a b : NodeRecord) : Bool :=
  a.id == b.id && a.type == b.type && a.position.equals b.position
    && a.parameters.keys == b.parameters.keys
    && (a.parameters.entries.zip b.parameters.entries).all fun (x, y) => x.2.equals y.2

/-- The documents agree, floating-point numbers by value. -/
def Document.equals (a b : Document) : Bool :=
  a.nodes.length == b.nodes.length
    && (a.nodes.zip b.nodes).all (fun (x, y) => x.equals y)
    && a.connections == b.connections

/-! ### Storing and loading -/

/-- The stored form of a graph. -/
def Graph.toDocument (g : Graph) : Document where
  nodes := g.nodes.map fun node => ⟨node.id, node.type, node.position, node.parameters⟩
  connections := g.connections.map fun c =>
    ⟨c.source.node, c.source.port, c.target.node, c.target.port⟩

namespace Edit

/-- Adds a stored node with its own parameters. -/
def loadNode (record : NodeRecord) : Edit Unit := do
  let id ← addNodeAs record.id record.type record.position
  changeNode id fun node => { node with parameters := record.parameters }

/-- Adds a stored connection, or drops it if one of its ends does not exist. -/
def loadConnection (record : ConnectionRecord) : Edit Unit :=
  tryCatch (discard (connect record.source record.target)) fun
    | .nodeNotFound _ | .portNotFound _ _ =>
      note (.connectionDropped record.source record.target)
    | error => throw error

/-- Adds all that a document holds. -/
def load (document : Document) : Edit Unit := do
  document.nodes.forM loadNode
  document.connections.forM loadConnection

end Edit

/-- The graph of a document over a catalog, with the notes of loading it. -/
def Graph.ofDocument (catalog : Catalog) (document : Document) : Edited Unit :=
  (Edit.load document).apply (.empty catalog)

end Blueprint
