import Mathlib.Logic.Function.Basic
import Blueprint.Proofs.Reachable

/-!
# Graphs in parts

A graph can be stored in parts that have to agree with each other: a table of the nodes by their
ids, and beside it the list of these ids in the order of insertion, which decides the order of
everything that goes through all nodes (`Arena.nodes`).  Adding a node writes to both, removing one
takes it out of the list before the table is asked for it, and all other edits look into the table
alone.  Generated ids are counted in 64-bit words, which wrap.

The edits, actions and documents are those of graphs.  An arena is in step with a graph if the two
say the same (`Arena.InStep`), whatever numbers they draw next for generated ids.
-/

namespace Blueprint

/-- A graph in parts. -/
structure Arena where
  /-- The variants that nodes are made of. -/
  catalog : Catalog
  /-- The nodes by id. -/
  table : NodeId → Option Node := fun _ => none
  /-- The ids in insertion order. -/
  order : List NodeId := []
  /-- The connections in creation order. -/
  connections : List Connection := []
  /-- The last number used for a generated node id. -/
  nodeSeq : UInt64 := 0
  /-- The last number used for a connection. -/
  connectionSeq : Nat := 0
  /-- The gesture in progress. -/
  drag : Drag := .idle
  /-- Who hears about changes, in the order of subscription. -/
  observers : List Nat := []

/-- A step of editing an arena. -/
abbrev ArenaEdit := EStateM EditError Arena

namespace Arena

/-! ### Looking up -/

section

variable (a : Arena)

/-- The id is in use. -/
def hasNode (id : NodeId) : Bool := (a.table id).isSome

/-- The declaration of a port. -/
def port? (ref : PortRef) : Option PortSpec :=
  (a.table ref.node).bind (·.port? ref.port ref.direction)

/-- The connections into an input port. -/
def incoming (port : PortRef) : List Connection := a.connections.filter (·.target == port)

/-- The nodes in insertion order: those that the table has under the ids of the list. -/
def nodes : List Node := a.order.filterMap a.table

/-- Whether `port` would take a new connection whose other end is `candidate`. -/
def accepts (port candidate : PortRef) : Bool :=
  match a.port? port, a.port? candidate with
  | some own, some other =>
    if port.direction = candidate.direction || port.node = candidate.node then false
    else match port.direction with
      | .input =>
        (own.multi || (a.incoming port).isEmpty) && other.type.canConnect own.type
      | .output => own.type.canConnect other.type
  | _, _ => false

end

/-! ### Edits of nodes -/

/-- The arena as it is now. -/
def current : ArenaEdit Arena := get

/-- Replaces the arena. -/
def store (a : Arena) : ArenaEdit Unit := set a

@[simp] theorem run_current (a : Arena) : current.run a = .ok a a := rfl

@[simp] theorem run_store (a b : Arena) : (store b).run a = .ok () b := rfl

/-- The first word from `n` on whose generated id is not in use, looking at `steps` words. -/
def firstFree (inUse : NodeId → Bool) : Nat → UInt64 → Option UInt64
  | 0, _ => none
  | steps + 1, n =>
    if inUse (Edit.generatedId n.toNat) then firstFree inUse steps (n + 1) else some n

/-- The number of the next generated id: the next word whose id is free.  One word more than there
are nodes is looked at, so there is none only if the ids of all words are in use. -/
def nextWord? (a : Arena) : Option UInt64 :=
  firstFree a.hasNode (a.order.length + 1) (a.nodeSeq + 1)

/-- Draws the number of a new node.  Without a free id there is no end to the search for one; here
it is refused. -/
def freshId : ArenaEdit NodeId := do
  let a ← current
  let n ← Edit.demand a.nextWord? (.duplicateId (Edit.generatedId a.nodeSeq.toNat))
  store { a with nodeSeq := n }
  return Edit.generatedId n.toNat

/-- Adds a node: to the table, over another one of its id, and to the list. -/
def insertNode (id : NodeId) (type : String) (position : Point) : ArenaEdit NodeId := do
  Edit.require position.isFinite (.notFinite id "position")
  let a ← current
  let variant ← Edit.demand (a.catalog.get? type) (.unknownType type)
  store { a with
    table := Function.update a.table id (some (.ofVariant id type position variant))
    order := a.order ++ [id] }
  return id

/-- Adds a node under a generated id. -/
def addNode (type : String) (position : Point) : ArenaEdit NodeId := do
  let id ← freshId
  insertNode id type position

/-- Adds a node under a given id. -/
def addNodeAs (id : NodeId) (type : String) (position : Point) : ArenaEdit NodeId := do
  Edit.require (!(← current).hasNode id) (.duplicateId id)
  insertNode id type position

/-- The node of an id. -/
def demandNode (id : NodeId) : ArenaEdit Node := do
  Edit.demand ((← current).table id) (.nodeNotFound id)

/-- Changes the node of an id in the table. -/
def changeNode (id : NodeId) (change : Node → Node) : ArenaEdit Unit := do
  let a ← current
  store { a with table := Function.update a.table id ((a.table id).map change) }

/-- Sets a parameter of a node. -/
def setParameter (id : NodeId) (key : String) (value : Value) : ArenaEdit Unit := do
  Edit.require value.isFinite (.notFinite id key)
  discard (demandNode id)
  changeNode id fun node => { node with parameters := node.parameters.insert key value }

/-- Removes a parameter of a node; the result is the value it had. -/
def removeParameter (id : NodeId) (key : String) : ArenaEdit (Option Value) := do
  let node ← demandNode id
  match node.parameters.get? key with
  | none => return none
  | some value =>
    changeNode id fun node => { node with parameters := node.parameters.erase key }
    return some value

/-- Moves a node. -/
def moveNode (id : NodeId) (position : Point) : ArenaEdit Unit := do
  Edit.require position.isFinite (.notFinite id "position")
  discard (demandNode id)
  changeNode id fun node => { node with position }

/-- Empties the list of connections, the table and the list of ids. -/
def clear : ArenaEdit Unit := do
  store { (← current) with connections := [], table := fun _ => none, order := [], drag := .idle }

/-! ### Edits of connections -/

/-- Removes the connection of a number. -/
def disconnect (id : ConnectionId) : ArenaEdit Connection := do
  let a ← current
  let connection ← Edit.demand (a.connections.find? (·.id == id)) (.connectionNotFound id)
  store { a with connections := a.connections.eraseP (·.id == id) }
  return connection

/-- Ends a gesture that started on a node. -/
def releaseDrag (id : NodeId) : ArenaEdit Unit := do
  let a ← current
  store { a with drag := if a.drag.origin?.any (·.node == id) then .idle else a.drag }

/-- Removes a node after all connections on it.  It leaves the list before it is taken from the
table. -/
def removeNode (id : NodeId) : ArenaEdit Node := do
  Edit.require ((← current).hasNode id) (.nodeNotFound id)
  ((← current).connections.filter (·.touches id)).forM fun c => discard (disconnect c.id)
  releaseDrag id
  let a ← current
  store { a with order := a.order.filter (· != id) }
  let node ← demandNode id
  let a ← current
  store { a with table := Function.update a.table id none }
  return node

/-- The declaration of a port. -/
def demandPort (port : PortRef) : ArenaEdit PortSpec := do
  let node ← demandNode port.node
  Edit.demand (node.port? port.port port.direction) (.portNotFound port.node port.port)

/-- Removes the connections into an input. -/
def vacate (target : PortRef) : ArenaEdit Unit := do
  ((← current).incoming target).forM fun c => discard (disconnect c.id)

/-- Connects an output to an input. -/
def connect (source target : PortRef) : ArenaEdit ConnectionId := do
  Edit.require (source.direction = .output && target.direction = .input)
    (.rejected source target .directions)
  Edit.require (source.node ≠ target.node) (.rejected source target .sameNode)
  let sourceSpec ← demandPort source
  let targetSpec ← demandPort target
  Edit.require (sourceSpec.type.canConnect targetSpec.type)
    (.rejected source target (.types sourceSpec.type targetSpec.type))
  match (← current).connections.find? fun c => c.source = source && c.target = target with
  | some connection => return connection.id
  | none =>
    unless targetSpec.multi do vacate target
    let a ← current
    let id := a.connectionSeq + 1
    store { a with
      connections := a.connections ++ [⟨id, source, target⟩]
      connectionSeq := id }
    return id

/-! ### The gesture -/

/-- Starts a gesture on a port. -/
def startDrag (port : PortRef) : ArenaEdit Unit := do
  discard (demandPort port)
  store { (← current) with drag := .dragging port {} }

/-- Moves the cursor of a gesture in progress. -/
def moveDrag (cursor : Point) : ArenaEdit Unit := do
  let a ← current
  match a.drag with
  | .idle => pure ()
  | .dragging origin _ => store { a with drag := .dragging origin cursor }

/-- Ends the gesture without a result. -/
def cancelDrag : ArenaEdit Unit := do store { (← current) with drag := .idle }

/-- Ends the gesture on a port. -/
def finishDrag (target : PortRef) : ArenaEdit Bool := do
  let a ← current
  cancelDrag
  match a.drag with
  | .idle => return false
  | .dragging origin _ =>
    if a.accepts target origin then
      let (source, sink) := match origin.direction with
        | .output => (origin, target)
        | .input => (target, origin)
      tryCatch (do discard (connect source sink); return true) fun _ => return false
    else return false

/-! ### Actions and documents -/

/-- The edit that an action carries out on an arena. -/
def edit : Action → ArenaEdit Unit
  | .addNode type position => discard (addNode type position)
  | .addNodeAs id type position => discard (addNodeAs id type position)
  | .removeNode id => discard (removeNode id)
  | .setParameter id key value => setParameter id key value
  | .removeParameter id key => discard (removeParameter id key)
  | .moveNode id position => moveNode id position
  | .clear => clear
  | .connect source target => discard (connect source target)
  | .disconnect id => discard (disconnect id)
  | .startDrag port => startDrag port
  | .moveDrag cursor => moveDrag cursor
  | .finishDrag target => discard (finishDrag target)
  | .cancelDrag => cancelDrag
  | .copy => do store { (← current) with drag := .idle, observers := [] }
  | .subscribe observer => do
    let a ← current
    store { a with observers := a.observers ++ [observer] }

/-- Adds a stored node with its own parameters. -/
def loadNode (record : NodeRecord) : ArenaEdit Unit := do
  let id ← addNodeAs record.id record.type record.position
  changeNode id fun node => { node with parameters := record.parameters }

/-- Adds a stored connection, or drops it if one of its ends does not exist. -/
def loadConnection (record : ConnectionRecord) : ArenaEdit Unit :=
  tryCatch (discard (connect record.source record.target)) fun
    | .nodeNotFound _ | .portNotFound _ _ => pure ()
    | error => throw error

/-- Adds all that a document holds. -/
def load (document : Document) : ArenaEdit Unit := do
  document.nodes.forM loadNode
  document.connections.forM loadConnection

/-- Carries out an edit: its result, and the arena that it leaves behind. -/
def apply {α : Type} (edit : ArenaEdit α) (a : Arena) : Except EditError α × Arena :=
  match edit.run a with
  | .ok value b => (.ok value, b)
  | .error error b => (.error error, b)

/-- The arena after an action, refused or not. -/
def perform (a : Arena) (action : Action) : Arena := (apply (edit action) a).2

/-- The arena after a sequence of actions. -/
def performAll (a : Arena) (actions : List Action) : Arena := actions.foldl perform a

/-- The arena of a document over a catalog. -/
def ofDocument (catalog : Catalog) (document : Document) : Except EditError Unit × Arena :=
  apply (load document) { catalog }

/-- The arena results from the empty one over a catalog, or from a document that loads, by a
sequence of actions. -/
inductive Reachable (catalog : Catalog) : Arena → Prop where
  /-- The empty arena. -/
  | empty : Reachable catalog { catalog }
  /-- The arena of a document that loads. -/
  | loaded {document : Document} (h : (ofDocument catalog document).1 = .ok ()) :
    Reachable catalog (ofDocument catalog document).2
  /-- The arena after one more action. -/
  | step {a : Arena} (h : Reachable catalog a) (action : Action) :
    Reachable catalog (a.perform action)

/-- The arena and the graph say the same, but for the number last drawn for a generated id. -/
structure InStep (a : Arena) (g : Graph) : Prop where
  /-- The same catalog. -/
  catalog_eq : a.catalog = g.catalog
  /-- The list has the ids of the nodes in their order. -/
  order_eq : a.order = g.ids
  /-- The table has the nodes that are found under their ids. -/
  table_eq : a.table = g.node?
  /-- The same connections. -/
  connections_eq : a.connections = g.connections
  /-- The same number for the last connection. -/
  connectionSeq_eq : a.connectionSeq = g.connectionSeq
  /-- The same gesture. -/
  drag_eq : a.drag = g.drag
  /-- The same observers. -/
  observers_eq : a.observers = g.observers

end Arena

end Blueprint
