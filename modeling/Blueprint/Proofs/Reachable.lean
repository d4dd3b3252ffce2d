import Blueprint.Proofs.Editing

/-!
# Graphs that can be reached

An `Action` is one step that an editor can take on a graph, with all its arguments.  A graph is
reachable over a catalog if it results from the empty graph, or from a document that loads, by any
sequence of actions, refused ones included (`Graph.Reachable`).

Main statement: a property that holds of the empty graph and is kept by loading and by every action
holds of every reachable graph (`Graph.Reachable.invariant`).
-/

namespace Blueprint

/-- A step that an editor can take. -/
inductive Action where
  /-- Adds a node under a generated id. -/
  | addNode (type : String) (position : Point)
  /-- Adds a node under a given id. -/
  | addNodeAs (id : NodeId) (type : String) (position : Point)
  /-- Removes a node. -/
  | removeNode (id : NodeId)
  /-- Sets a parameter. -/
  | setParameter (id : NodeId) (key : String) (value : Value)
  /-- Removes a parameter. -/
  | removeParameter (id : NodeId) (key : String)
  /-- Moves a node. -/
  | moveNode (id : NodeId) (position : Point)
  /-- Removes everything. -/
  | clear
  /-- Connects two ports. -/
  | connect (source target : PortRef)
  /-- Removes a connection. -/
  | disconnect (id : ConnectionId)
  /-- Starts a gesture. -/
  | startDrag (port : PortRef)
  /-- Moves the cursor of a gesture. -/
  | moveDrag (cursor : Point)
  /-- Ends a gesture on a port. -/
  | finishDrag (target : PortRef)
  /-- Ends a gesture without a result. -/
  | cancelDrag
  /-- Goes on with a copy. -/
  | copy
  /-- Adds an observer. -/
  | subscribe (observer : Nat)

namespace Action

/-- The edit that an action carries out. -/
def edit : Action → Edit Unit
  | .addNode type position => discard (Edit.addNode type position)
  | .addNodeAs id type position => discard (Edit.addNodeAs id type position)
  | .removeNode id => discard (Edit.removeNode id)
  | .setParameter id key value => Edit.setParameter id key value
  | .removeParameter id key => discard (Edit.removeParameter id key)
  | .moveNode id position => Edit.moveNode id position
  | .clear => Edit.clear
  | .connect source target => discard (Edit.connect source target)
  | .disconnect id => discard (Edit.disconnect id)
  | .startDrag port => Edit.startDrag port
  | .moveDrag cursor => Edit.moveDrag cursor
  | .finishDrag target => discard (Edit.finishDrag target)
  | .cancelDrag => Edit.cancelDrag
  | .copy => do Edit.setGraph (← Edit.graph).copy
  | .subscribe observer => do Edit.setGraph ((← Edit.graph).subscribe observer)

/-- The graph after an action, refused or not. -/
def perform (action : Action) (g : Graph) : Graph := (action.edit.apply g).graph

end Action

namespace Graph

/-- The graph after a sequence of actions. -/
def performAll (g : Graph) (actions : List Action) : Graph :=
  actions.foldl (fun g action => action.perform g) g

/-- The graph results from the empty graph over a catalog, or from a document that loads, by a
sequence of actions. -/
inductive Reachable (catalog : Catalog) : Graph → Prop where
  /-- The empty graph. -/
  | empty : Reachable catalog (.empty catalog)
  /-- The graph of a document that loads. -/
  | loaded {document : Document} (h : (ofDocument catalog document).outcome = .ok ()) :
    Reachable catalog (ofDocument catalog document).graph
  /-- The graph after one more action. -/
  | step {g : Graph} (h : Reachable catalog g) (action : Action) :
    Reachable catalog (action.perform g)

theorem Reachable.performAll {catalog : Catalog} {g : Graph} (h : Reachable catalog g)
    (actions : List Action) : Reachable catalog (g.performAll actions) := by
  induction actions generalizing g with
  | nil => exact h
  | cons action rest ih => exact ih (h.step action)

end Graph

namespace Edit.Keeps

variable {P : Graph → Prop}

theorem loadNode (hadd : ∀ id type position, (addNodeAs id type position).Keeps P)
    (hset : ∀ id parameters, (changeNode id fun node => { node with parameters }).Keeps P)
    (record : NodeRecord) : (Edit.loadNode record).Keeps P :=
  (hadd _ _ _).bind fun id => hset id record.parameters

theorem loadConnection (hconnect : ∀ source target, (connect source target).Keeps P)
    (record : ConnectionRecord) : (Edit.loadConnection record).Keeps P := by
  refine (hconnect _ _).discard.tryCatch fun e => ?_
  cases e with
  | nodeNotFound _ => exact Keeps.note _
  | portNotFound _ _ => exact Keeps.note _
  | unknownType _ => exact Keeps.throw _
  | duplicateId _ => exact Keeps.throw _
  | notFinite _ _ => exact Keeps.throw _
  | connectionNotFound _ => exact Keeps.throw _
  | rejected _ _ _ => exact Keeps.throw _

end Edit.Keeps

namespace Graph

/-- **What loading and every action keep holds of every reachable graph.** -/
theorem Reachable.invariant {P : Graph → Prop} {catalog : Catalog} {g : Graph}
    (h : Reachable catalog g) (hempty : P (.empty catalog))
    (hset : ∀ id parameters, (Edit.changeNode id fun node => { node with parameters }).Keeps P)
    (haction : ∀ action : Action, action.edit.Keeps P) : P g := by
  have hadd : ∀ id type position, (Edit.addNodeAs id type position).Keeps P := by
    intro id type position s hs
    have := haction (.addNodeAs id type position) s hs
    rwa [Action.edit, Edit.after_discard] at this
  have hconnect : ∀ source target, (Edit.connect source target).Keeps P := by
    intro source target s hs
    have := haction (.connect source target) s hs
    rwa [Action.edit, Edit.after_discard] at this
  induction h with
  | empty => exact hempty
  | loaded _ =>
    exact ((Edit.Keeps.forM (Edit.Keeps.loadNode hadd hset) _).bind fun _ =>
      Edit.Keeps.forM (Edit.Keeps.loadConnection hconnect) _).apply hempty
  | step _ action ih => exact (haction action).apply ih

end Graph

/-! ### A small catalog -/

namespace Sample

/-- An input for many connections, one for a single connection, and an output. -/
def joint : Variant where
  tag := "joint"
  category := .trade
  title := "Joint"
  inputs := [(PortSpec.input "many" .any "Many").manyConnections.optional,
    (PortSpec.input "one" .number "One").optional]
  outputs := [.output "out" .number "Out"]
  imports := ["import joint", "import base"]
  statements := [[.var "", .text " = join(", .input "many" "", .text ", ", .input "one" "0",
    .text ")"]]
  expression := [.var ""]

/-- The catalog of joints. -/
def catalog : Catalog := Catalog.empty.register joint

/-- Joints and the connections between them. -/
def document (ids : List NodeId) (connections : List ConnectionRecord) : Document where
  nodes := ids.map fun id => ⟨id, "joint", {}, .empty⟩
  connections

/-- A node before a cycle of two and a node behind it that is fed twice. -/
def tangle : Document := document ["s", "a", "b", "d"]
  [⟨"s", "out", "a", "many"⟩, ⟨"a", "out", "b", "one"⟩, ⟨"b", "out", "a", "many"⟩,
    ⟨"b", "out", "d", "one"⟩, ⟨"b", "out", "d", "many"⟩]

/-- The graph of the tangle. -/
def knot : Graph := (Graph.ofDocument catalog tangle).graph

/-- The knot after the input for one connection of its last node got another one, while a gesture
goes on. -/
def rewired : Graph :=
  (Action.startDrag (.output "s" "out")).perform
    ((Action.connect (.output "s" "out") (.input "d" "one")).perform knot)

/-- A node that feeds two others and a last one, which these feed too.  The last one is the
oldest. -/
def diamond : Graph := (Graph.ofDocument catalog (document ["d", "a", "b", "s"]
  [⟨"s", "out", "a", "one"⟩, ⟨"s", "out", "b", "one"⟩, ⟨"a", "out", "d", "many"⟩,
    ⟨"b", "out", "d", "many"⟩, ⟨"s", "out", "d", "one"⟩])).graph

end Sample

end Blueprint
