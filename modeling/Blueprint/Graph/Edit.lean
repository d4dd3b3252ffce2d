import Blueprint.Graph.Error
import Blueprint.Note

/-!
# Editing a graph

An `Edit` is a step that changes a graph, records notes, and may be refused.  What was done before
a refusal stays done, so a step that must not be half done checks everything before it changes
anything.
-/

namespace Blueprint

/-- A graph under edit, with the notes taken so far. -/
structure Session where
  /-- The graph. -/
  graph : Graph
  /-- The notes, oldest first. -/
  notes : List Note := []
  deriving Inhabited

/-- A step of editing. -/
abbrev Edit := EStateM EditError Session

/-- What an edit leaves behind. -/
structure Edited (α : Type) where
  /-- The result, or why there is none. -/
  outcome : Except EditError α
  /-- The graph afterwards. -/
  graph : Graph
  /-- The notes taken. -/
  notes : List Note

namespace Edit

/-- Carries out an edit on a graph. -/
def apply {α : Type} (edit : Edit α) (g : Graph) : Edited α :=
  match edit.run { graph := g } with
  | .ok value session => ⟨.ok value, session.graph, session.notes⟩
  | .error error session => ⟨.error error, session.graph, session.notes⟩

/-- The graph as it is now. -/
def graph : Edit Graph := return (← get).graph

/-- Replaces the graph. -/
def setGraph (g : Graph) : Edit Unit := modify fun session => { session with graph := g }

/-- Takes a note. -/
def note (n : Note) : Edit Unit :=
  modify fun session => { session with notes := session.notes ++ [n] }

/-- Reports a change. -/
def report (event : Event) : Edit Unit := note (.event event)

/-- Refuses unless a condition holds. -/
def require {σ : Type} (condition : Bool) (error : EditError) : EStateM EditError σ Unit :=
  if condition then pure () else throw error

/-- The value, or a refusal if there is none. -/
def demand {σ α : Type} (value : Option α) (error : EditError) : EStateM EditError σ α :=
  match value with
  | some a => pure a
  | none => throw error

section

variable (s : Session)

@[simp] theorem run_graph : graph.run s = .ok s.graph s := rfl

@[simp] theorem run_setGraph (g : Graph) :
    (setGraph g).run s = .ok () { s with graph := g } := rfl

@[simp] theorem run_note (n : Note) :
    (note n).run s = .ok () { s with notes := s.notes ++ [n] } := rfl

@[simp] theorem run_report (event : Event) :
    (report event).run s = .ok () { s with notes := s.notes ++ [.event event] } := rfl

end

section

variable {σ α : Type} (s : σ)

theorem run_require (condition : Bool) (error : EditError) :
    (require condition error).run s = if condition then .ok () s else .error error s := by
  cases condition <;> rfl

@[simp] theorem run_demand_some (a : α) (error : EditError) :
    (demand (some a) error).run s = .ok a s := rfl

@[simp] theorem run_demand_none (error : EditError) :
    (demand (none : Option α) error).run s = .error error s := rfl

end

/-! ### Nodes -/

/-- The form of generated ids: eight or more hexadecimal digits. -/
def generatedId (n : Nat) : NodeId := String.ofList (Text.hexDigits 8 n)

/-- The first number from `n` on whose generated id is not in use, looking at `steps` numbers. -/
def firstFree (inUse : List NodeId) : Nat → Nat → Nat
  | 0, n => n
  | steps + 1, n =>
    if inUse.contains (generatedId n) then firstFree inUse steps (n + 1) else n

/-- Draws the number of a new node: the next one whose id is free.  Of one number more than there
are nodes, at least one is free. -/
def freshId : Edit NodeId := do
  let g ← graph
  let n := firstFree g.ids g.nodeCount (g.nodeSeq + 1)
  setGraph { g with nodeSeq := n }
  return generatedId n

/-- Adds a node whose id is known to be free. -/
def insertNode (id : NodeId) (type : String) (position : Point) : Edit NodeId := do
  require position.isFinite (.notFinite id "position")
  let g ← graph
  let variant ← demand (g.catalog.get? type) (.unknownType type)
  setGraph { g with nodes := g.nodes ++ [.ofVariant id type position variant] }
  report (.nodeAdded id)
  return id

/-- Adds a node under a generated id. -/
def addNode (type : String) (position : Point) : Edit NodeId := do
  let id ← freshId
  insertNode id type position

/-- Adds a node under a given id. -/
def addNodeAs (id : NodeId) (type : String) (position : Point) : Edit NodeId := do
  require (!(← graph).hasNode id) (.duplicateId id)
  insertNode id type position

/-- The node of an id. -/
def demandNode (id : NodeId) : Edit Node := do
  demand ((← graph).node? id) (.nodeNotFound id)

/-- Changes the node of an id. -/
def changeNode (id : NodeId) (change : Node → Node) : Edit Unit := do
  let g ← graph
  setGraph { g with nodes := g.nodes.map fun node => if node.id = id then change node else node }

/-- Sets a parameter of a node. -/
def setParameter (id : NodeId) (key : String) (value : Value) : Edit Unit := do
  require value.isFinite (.notFinite id key)
  discard (demandNode id)
  changeNode id fun node => { node with parameters := node.parameters.insert key value }
  report (.parameterChanged id key)

/-- Removes a parameter of a node; the result is the value it had. -/
def removeParameter (id : NodeId) (key : String) : Edit (Option Value) := do
  let node ← demandNode id
  match node.parameters.get? key with
  | none => return none
  | some value =>
    changeNode id fun node => { node with parameters := node.parameters.erase key }
    report (.parameterChanged id key)
    return some value

/-- Moves a node.  Nobody needs to know. -/
def moveNode (id : NodeId) (position : Point) : Edit Unit := do
  require position.isFinite (.notFinite id "position")
  discard (demandNode id)
  changeNode id fun node => { node with position }

/-- Removes all nodes and connections.  Numbers already given away stay so. -/
def clear : Edit Unit := do
  let g ← graph
  setGraph { g with nodes := [], connections := [], drag := .idle }
  report .cleared

/-! ### Connections -/

/-- Removes the connection of a number. -/
def disconnect (id : ConnectionId) : Edit Connection := do
  let g ← graph
  let connection ← demand (g.connection? id) (.connectionNotFound id)
  setGraph { g with connections := g.connections.eraseP (·.id == id) }
  report (.connectionRemoved id)
  return connection

/-- Ends a gesture that started on a node. -/
def releaseDrag (id : NodeId) : Edit Unit := do
  let g ← graph
  setGraph { g with drag := if g.drag.origin?.any (·.node == id) then .idle else g.drag }

/-- Removes a node after all connections on it; a gesture that started on it ends.  The node is
looked up once more when its connections are gone. -/
def removeNode (id : NodeId) : Edit Node := do
  require ((← graph).hasNode id) (.nodeNotFound id)
  ((← graph).incident id).forM fun connection => discard (disconnect connection.id)
  releaseDrag id
  let node ← demandNode id
  let g ← graph
  setGraph { g with nodes := g.nodes.filter (·.id != id) }
  report (.nodeRemoved id)
  return node

/-- The declaration of a port. -/
def demandPort (port : PortRef) : Edit PortSpec := do
  let node ← demandNode port.node
  demand (node.port? port.port port.direction) (.portNotFound port.node port.port)

/-- Removes the connections into a singular input, for a new one to take their place. -/
def vacate (target : PortRef) : Edit Unit := do
  ((← graph).incoming target).forM fun connection => do
    note (.replacing connection.id target)
    discard (disconnect connection.id)

/-- Connects an output to an input.  If the two are connected, that connection is the result; else
a new one is made, in place of the old one on a singular input. -/
def connect (source target : PortRef) : Edit ConnectionId := do
  require (source.direction = .output && target.direction = .input)
    (.rejected source target .directions)
  require (source.node ≠ target.node) (.rejected source target .sameNode)
  let sourceSpec ← demandPort source
  let targetSpec ← demandPort target
  require (sourceSpec.type.canConnect targetSpec.type)
    (.rejected source target (.types sourceSpec.type targetSpec.type))
  match (← graph).connections.find? fun c => c.source = source && c.target = target with
  | some connection => return connection.id
  | none =>
    unless targetSpec.multi do vacate target
    let g ← graph
    let id := g.connectionSeq + 1
    setGraph { g with
      connections := g.connections ++ [⟨id, source, target⟩]
      connectionSeq := id }
    report (.connectionAdded id)
    return id

/-! ### Drawing a connection -/

/-- Starts a gesture on a port, in place of one in progress. -/
def startDrag (port : PortRef) : Edit Unit := do
  discard (demandPort port)
  setGraph { (← graph) with drag := .dragging port {} }

/-- Moves the cursor of a gesture in progress. -/
def moveDrag (cursor : Point) : Edit Unit := do
  let g ← graph
  match g.drag with
  | .idle => pure ()
  | .dragging origin _ => setGraph { g with drag := .dragging origin cursor }

/-- Ends the gesture without a result. -/
def cancelDrag : Edit Unit := do setGraph { (← graph) with drag := .idle }

/-- Ends the gesture on a port and connects the two if the port accepts the origin; the result says
whether it did.  A gesture from an input runs against the connection. -/
def finishDrag (target : PortRef) : Edit Bool := do
  let g ← graph
  cancelDrag
  match g.drag with
  | .idle => return false
  | .dragging origin _ =>
    if g.accepts target origin then
      let (source, sink) := match origin.direction with
        | .output => (origin, target)
        | .input => (target, origin)
      tryCatch (do discard (connect source sink); return true) fun _ => return false
    else
      note (.dragRejected origin target)
      return false

end Edit

end Blueprint
