import Blueprint.Note

/-!
# Order of execution and dependencies

A producer has to run before its consumers.  The sweep keeps, for each node, the number of
connections into it that still wait for their producer, and a queue of nodes that wait for nothing.
Running a node releases its outgoing connections one by one, and a node joins the queue when its
last incoming connection is released.  Nodes on a cycle, or behind one, never join it.

The nodes that a node depends on are found by walking connections backwards, depth first.
-/

namespace Blueprint

/-- The state of a sweep over a graph. -/
structure Sweep where
  /-- How many connections into a node still wait. -/
  waiting : NodeId → Nat
  /-- The nodes that wait for nothing and have not run. -/
  queue : List NodeId
  /-- The nodes that have run, in order. -/
  order : List NodeId

/-- One connection into `consumer` is released. -/
def Sweep.release (sweep : Sweep) (consumer : NodeId) : Sweep :=
  let left := sweep.waiting consumer - 1
  { sweep with
    waiting := fun id => if id = consumer then left else sweep.waiting id
    queue := if left = 0 then sweep.queue ++ [consumer] else sweep.queue }

/-- The nodes in an order of execution, as far as there is one. -/
structure TopologicalOrder where
  /-- The nodes that can be ordered. -/
  order : List NodeId
  /-- Some nodes cannot. -/
  hasCycle : Bool
  deriving DecidableEq, Repr

/-- No order of execution exists: these nodes are on a cycle or behind one. -/
structure CycleError where
  /-- The nodes that cannot be ordered, in insertion order. -/
  unresolved : List NodeId
  deriving DecidableEq, Repr

/-- The wording of the error. -/
def CycleError.message (error : CycleError) : String :=
  "The graph contains a dependency cycle; " ++ Nat.repr error.unresolved.length
    ++ " node(s) could not be ordered: " ++ ", ".intercalate error.unresolved

namespace Graph

variable (g : Graph)

/-- The connections with both ends on nodes of the graph.  Others keep nobody waiting. -/
def attached : List Connection :=
  g.connections.filter fun c => g.hasNode c.source.node && g.hasNode c.target.node

/-- The consumers of a node, once per connection, by age of the connection. -/
def consumers (id : NodeId) : List NodeId :=
  (g.attached.filter (·.source.node == id)).map (·.target.node)

/-- The number of connections into a node. -/
def inDegree (id : NodeId) : Nat := (g.attached.filter (·.target.node == id)).length

/-- The sweep before its first step: nodes without incoming connections are in the queue. -/
def sweepStart : Sweep where
  waiting := g.inDegree
  queue := g.ids.filter fun id => g.inDegree id == 0
  order := []

/-- Runs the node `id`, taken from the queue. -/
def sweepStep (sweep : Sweep) (id : NodeId) (queue : List NodeId) : Sweep :=
  (g.consumers id).foldl Sweep.release { sweep with queue, order := sweep.order ++ [id] }

/-- Runs nodes from the queue, `steps` of them at most. -/
def sweepFrom : Nat → Sweep → Sweep
  | 0, sweep => sweep
  | steps + 1, sweep =>
    match sweep.queue with
    | [] => sweep
    | id :: queue => sweepFrom steps (g.sweepStep sweep id queue)

/-- The nodes in an order of execution.  Each node runs at most once, so as many steps as there are
nodes are enough. -/
def topologicalOrder : TopologicalOrder :=
  let order := (g.sweepFrom g.nodeCount g.sweepStart).order
  ⟨order, decide (order.length < g.nodeCount)⟩

/-- The graph has a cycle of connections. -/
def hasCycle : Bool := g.topologicalOrder.hasCycle

/-- All nodes in an order of execution. -/
def executionOrder : Except CycleError (List NodeId) :=
  let result := g.topologicalOrder
  if result.hasCycle then .error ⟨g.ids.filter fun id => !result.order.contains id⟩
  else .ok result.order

/-- The notes of ordering the nodes. -/
def orderNotes : List Note :=
  match g.executionOrder with
  | .ok _ => []
  | .error error => [.orderBlocked error.unresolved.length]

/-! ### Dependencies -/

/-- Extends the list of nodes seen by all that feed `id` and were not seen yet, each followed by
what feeds it in turn.  `depth` bounds the length of the walk. -/
def explore : Nat → NodeId → List NodeId → List NodeId
  | 0, _, seen => seen
  | depth + 1, id, seen =>
    (g.producers id).foldl
      (fun seen producer =>
        if seen.contains producer then seen else explore depth producer (seen ++ [producer]))
      seen

/-- The nodes that `id` depends on, in order of discovery; never `id` itself.  A walk sees a new
node at each step, so it is no longer than the number of nodes. -/
def dependencies (id : NodeId) : List NodeId := (g.explore (g.nodeCount + 1) id [id]).drop 1

end Graph

end Blueprint
