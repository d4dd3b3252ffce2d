import Blueprint.Graph.Basic
import Blueprint.Text.Inspected

/-!
# Events and notes

An `Event` tells the observers of a graph about a change.  A `Note` is an entry of the program's
log: an event, or something else worth recording.  Notes are values; their wording is in
`Note.message`.
-/

namespace Blueprint

/-- A change of a graph. -/
inductive Event where
  /-- A node was added. -/
  | nodeAdded (id : NodeId)
  /-- A node was removed. -/
  | nodeRemoved (id : NodeId)
  /-- A connection was added. -/
  | connectionAdded (id : ConnectionId)
  /-- A connection was removed. -/
  | connectionRemoved (id : ConnectionId)
  /-- A parameter was set or removed. -/
  | parameterChanged (node : NodeId) (key : String)
  /-- All nodes and connections were removed. -/
  | cleared
  deriving DecidableEq, Repr, Inhabited

/-- A node id in diagnostic output. -/
def NodeId.inspect (id : NodeId) : String := "NodeId(" ++ Text.inspected id ++ ")"

/-- A connection number in diagnostic output. -/
def ConnectionId.inspect (id : ConnectionId) : String := "ConnectionId(" ++ Nat.repr id ++ ")"

/-- An event in diagnostic output. -/
def Event.inspect : Event → String
  | .nodeAdded id => "NodeAdded(" ++ NodeId.inspect id ++ ")"
  | .nodeRemoved id => "NodeRemoved(" ++ NodeId.inspect id ++ ")"
  | .connectionAdded id => "ConnectionAdded(" ++ ConnectionId.inspect id ++ ")"
  | .connectionRemoved id => "ConnectionRemoved(" ++ ConnectionId.inspect id ++ ")"
  | .parameterChanged node key =>
    "ParameterChanged \x7b node: " ++ NodeId.inspect node ++ ", key: " ++ Text.inspected key
      ++ " \x7d"
  | .cleared => "Cleared"

/-- How much a note matters. -/
inductive Level where
  /-- For those who follow each step. -/
  | debug
  /-- A result. -/
  | info
  /-- Something that was left out or went wrong. -/
  | warn
  deriving DecidableEq, Repr, Inhabited

/-- The name of a level. -/
def Level.name : Level → String
  | .debug => "debug"
  | .info => "info"
  | .warn => "warn"

/-- An entry of the log. -/
inductive Note where
  /-- A graph changed. -/
  | event (e : Event)
  /-- A connection gives way to a new one into the same singular input. -/
  | replacing (id : ConnectionId) (target : PortRef)
  /-- A gesture ended on a port that does not take its origin. -/
  | dragRejected (origin target : PortRef)
  /-- A stored connection names a node or port that does not exist. -/
  | connectionDropped (source target : PortRef)
  /-- An alias names a tag that is not registered. -/
  | aliasIgnored (tag target : String)
  /-- Expressions nest deeper than the graph has nodes. -/
  | resolutionCutOff (port : PortRef)
  /-- Some nodes cannot be ordered. -/
  | orderBlocked (count : Nat)
  /-- Validation found issues. -/
  | validationFailed (count : Nat)
  /-- A node emits its statements. -/
  | emitting (id : NodeId) (type : String)
  /-- A strategy is complete. -/
  | generated (name : String) (statements lookback : Nat)
  deriving DecidableEq, Repr, Inhabited

namespace Note

/-- How much a note matters. -/
def level : Note → Level
  | .event _ | .replacing _ _ | .dragRejected _ _ | .validationFailed _ | .emitting _ _ => .debug
  | .connectionDropped _ _ | .aliasIgnored _ _ | .resolutionCutOff _ | .orderBlocked _ => .warn
  | .generated _ _ _ => .info

/-- The wording of a note. -/
def message : Note → String
  | .event e => "graph event: " ++ e.inspect
  | .replacing id target =>
    "replacing connection #" ++ Nat.repr id ++ " into singular input " ++ target.render
  | .dragRejected origin target =>
    "rejected drag from " ++ origin.render ++ " to " ++ target.render
  | .connectionDropped source target =>
    "dropping connection " ++ source.render ++ " -> " ++ target.render
      ++ ": endpoint does not exist"
  | .aliasIgnored tag target =>
    "cannot alias '" ++ tag ++ "' to unknown node type '" ++ target ++ "'"
  | .resolutionCutOff port => "input resolution for " ++ port.render ++ " exceeded graph depth"
  | .orderBlocked count =>
    "cannot order graph, " ++ Nat.repr count ++ " node(s) form a cycle"
  | .validationFailed count => "validation failed with " ++ Nat.repr count ++ " issue(s)"
  | .emitting id type => "emitting " ++ id ++ " (" ++ type ++ ")"
  | .generated name statements lookback =>
    "generated strategy '" ++ name ++ "': " ++ Nat.repr statements ++ " statement(s), lookback "
      ++ Nat.repr lookback

/-- The event that a note reports. -/
def event? : Note → Option Event
  | .event e => some e
  | _ => none

end Note

/-- The notes of binding a tag to the variant of another. -/
def Catalog.aliasNotes (catalog : Catalog) (tag target : String) : List Note :=
  if catalog.contains target then [] else [.aliasIgnored tag target]

/-- What a list of notes tells the observers: each event goes to all of them before the next. -/
def Graph.deliveries (g : Graph) (notes : List Note) : List (Nat × Event) :=
  (notes.filterMap Note.event?).flatMap fun event => g.observers.map (·, event)

end Blueprint
