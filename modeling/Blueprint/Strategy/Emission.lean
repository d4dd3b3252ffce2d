import Blueprint.Resolution
import Blueprint.Text.Basic

/-!
# Emission

The statements and import lines that the nodes of a graph contribute.  A walk emits the producers
of a node before the node itself, and every node once.  The walk does not mind how a node emits
(`Emitter`); the nodes of a graph emit the templates of their variants (`Emitter.templates`).
-/

namespace Blueprint

/-- What has been emitted so far. -/
structure Emission where
  /-- The statements in order. -/
  statements : List String := []
  /-- The import lines, sorted, each once. -/
  imports : List String := []
  /-- The nodes that need not be visited any more. -/
  marked : List NodeId := []
  deriving DecidableEq, Repr, Inhabited

namespace Emission

variable (emission : Emission)

/-- Adds a statement. -/
def addStatement (statement : String) : Emission :=
  { emission with statements := emission.statements ++ [statement] }

/-- Adds an import line. -/
def addImport (line : String) : Emission :=
  { emission with imports := Text.insertSorted line emission.imports }

/-- The node is marked. -/
def isMarked (id : NodeId) : Bool := emission.marked.contains id

/-- Marks a node. -/
def mark (id : NodeId) : Emission :=
  if emission.isMarked id then emission else { emission with marked := emission.marked ++ [id] }

end Emission

/-- Adds what a node of a variant contributes: its import lines and its statements, filled in. -/
def Graph.emitNode (g : Graph) (emission : Emission) (node : Node) (variant : Variant) : Emission :=
  (g.statementsOf node variant).foldl Emission.addStatement
    (variant.imports.foldl Emission.addImport emission)

/-- A way for the nodes of a graph to emit: what a node of a variant makes of the emission so
far. -/
abbrev Emitter := Graph → Variant → Node → Emission → Emission

namespace Emitter

/-- Nodes emit the templates of their variants. -/
def templates : Emitter := fun g variant node emission => g.emitNode emission node variant

variable (emit : Emitter) (g : Graph)

/-- Adds what the node of an id contributes. -/
def visit (emission : Emission) (id : NodeId) : Emission :=
  match g.node? id with
  | none => emission
  | some node =>
    match g.variantOf? node with
    | some variant => emit g variant node emission
    | none => emission

/-- Emits all producers of a node and then the node, each unless it is marked.  `depth` bounds the
length of the walk. -/
def walk : Nat → Emission → NodeId → Emission
  | 0, emission, _ => emission
  | depth + 1, emission, id =>
    if emission.isMarked id then emission
    else emit.visit g ((g.producers id).foldl (walk depth) (emission.mark id)) id

/-- Emits the nodes of a list with their producers.  Each step of a walk marks a new node, so a
walk is no longer than the number of nodes. -/
def walkAll (ids : List NodeId) : Emission := ids.foldl (emit.walk g (g.nodeCount + 1)) {}

end Emitter

namespace Graph

variable (g : Graph)

/-- Adds the templates of the node of an id. -/
def emitId : Emission → NodeId → Emission := Emitter.templates.visit g

/-- Emits the templates of the nodes of a list and of their producers. -/
def emitAll : List NodeId → Emission := Emitter.templates.walkAll g

end Graph

end Blueprint
