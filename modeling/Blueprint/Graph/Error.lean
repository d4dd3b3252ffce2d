import Blueprint.Port

/-!
# Refused edits
-/

namespace Blueprint

/-- Why two ports cannot be connected. -/
inductive Rejection where
  /-- The ends are not an output and an input, in this order. -/
  | directions
  /-- Both ends are on one node. -/
  | sameNode
  /-- The output's type does not fit the input's. -/
  | types (source target : DataType)
  deriving DecidableEq, Repr, Inhabited

/-- The wording of a rejection. -/
def Rejection.message : Rejection → String
  | .directions => "connections run from an output port to an input port"
  | .sameNode => "a node cannot be connected to itself"
  | .types source target =>
    "a " ++ source.name ++ " output cannot feed a " ++ target.name ++ " input"

/-- Why an edit of a graph was refused. -/
inductive EditError where
  /-- The catalog has no such type. -/
  | unknownType (tag : String)
  /-- The graph has no such node. -/
  | nodeNotFound (id : NodeId)
  /-- The node has no such port. -/
  | portNotFound (id : NodeId) (port : String)
  /-- The id is in use. -/
  | duplicateId (id : NodeId)
  /-- A coordinate or parameter is infinite or undefined. -/
  | notFinite (id : NodeId) (field : String)
  /-- The graph has no such connection. -/
  | connectionNotFound (id : Nat)
  /-- The two ports cannot be connected. -/
  | rejected (source target : PortRef) (reason : Rejection)
  deriving DecidableEq, Repr, Inhabited

/-- The wording of an error. -/
def EditError.message : EditError → String
  | .unknownType tag => "Node type '" ++ tag ++ "' is not registered in the catalog"
  | .nodeNotFound id => "Node '" ++ id ++ "' not found in the graph"
  | .portNotFound id port => "Node '" ++ id ++ "' has no port named '" ++ port ++ "'"
  | .duplicateId id => "A node with id '" ++ id ++ "' already exists in the graph"
  | .notFinite id field => "Node '" ++ id ++ "': '" ++ field ++ "' must be a finite number"
  | .connectionNotFound id => "Connection #" ++ Nat.repr id ++ " not found in the graph"
  | .rejected source target reason =>
    "Cannot connect '" ++ source.render ++ "' to '" ++ target.render ++ "': " ++ reason.message

end Blueprint
