import Blueprint.Document.Basic
import Blueprint.Json.Reader
import Blueprint.Json.Writer

/-!
# Documents as JSON

A document is an object of `nodes` and `connections`.  Every record may also be written as an array
of its fields in order, and fields with a default may be left out.  Fields of other names are
skipped without looking into them.
-/

namespace Blueprint

/-! ### Writing -/

/-- A place as JSON. -/
def Point.toJson (p : Point) : Json := .ofFields [("x", .ofDouble p.x), ("y", .ofDouble p.y)]

/-- Parameters as JSON. -/
def Parameters.toJson (parameters : Parameters) : Json :=
  .ofFields (parameters.entries.map fun (key, value) => (key, value.toJson))

/-- A stored node as JSON. -/
def NodeRecord.toJson (record : NodeRecord) : Json :=
  .ofFields [("node_id", .ofText record.id), ("node_type", .ofText record.type),
    ("position", record.position.toJson), ("parameters", record.parameters.toJson)]

/-- A stored connection as JSON. -/
def ConnectionRecord.toJson (record : ConnectionRecord) : Json :=
  .ofFields [("source_node", .ofText record.sourceNode),
    ("source_port", .ofText record.sourcePort), ("target_node", .ofText record.targetNode),
    ("target_port", .ofText record.targetPort)]

/-- A document as JSON. -/
def Document.toJson (document : Document) : Json :=
  .ofFields [("nodes", .array (document.nodes.map NodeRecord.toJson)),
    ("connections", .array (document.connections.map ConnectionRecord.toJson))]

/-- The text of a document. -/
def Document.render (document : Document) : String := document.toJson.pretty

/-! ### Reading -/

namespace Json

/-- The text of a string. -/
def text? : Json → Option String
  | .string text => text
  | _ => none

/-- The value of a number that is finite. -/
def double? : Json → Option Double
  | .number numeral => finite? numeral
  | _ => none

/-- The elements of an array, each read in the same way. -/
def list? {α : Type} (read : Json → Option α) : Json → Option (List α)
  | .array items => items.mapM read
  | _ => none

/-- The value of a field that occurs at most once: nothing if it is repeated, else the value or
its absence. -/
def field? (fields : List (Spelled × Json)) (name : String) : Option (Option Json) :=
  match fields.filter (·.1 == some name) with
  | [] => some none
  | [(_, value)] => some (some value)
  | _ => none

/-- The fields of a record by their names: an object whose keys all spell a text and in which no
field of the record is repeated, or an array of at most as many values. -/
def record? (names : List String) : Json → Option (List (Option Json))
  | .object fields =>
    if fields.all (·.1.isSome) then names.mapM (field? fields) else none
  | .array items =>
    if items.length ≤ names.length then
      some (items.map some ++ List.replicate (names.length - items.length) none)
    else none
  | _ => none

/-- A field that must be there. -/
def needed {α : Type} (read : Json → Option α) (field : Option Json) : Option α := field.bind read

/-- A field that has a default. -/
def orElse {α : Type} (read : Json → Option α) (default : α) : Option Json → Option α
  | none => some default
  | some json => read json

end Json

/-- A parameter value: a truth value, a number or a text.  A whole number of 64 bits is an integer,
but for a zero with a minus sign. -/
def Value.ofJson? : Json → Option Value
  | .bool b => some (.bool b)
  | .number numeral =>
    match if numeral = "-0" then none else Value.exactInt? numeral.toList with
    | some i => some (.int i)
    | none => (Json.finite? numeral).map .float
  | .string spelled => spelled.map .text
  | _ => none

/-- A place. -/
def Point.ofJson? (json : Json) : Option Point := do
  match ← json.record? ["x", "y"] with
  | [x, y] => return ⟨← Json.needed Json.double? x, ← Json.needed Json.double? y⟩
  | _ => none

/-- Parameters.  The last value of a repeated key counts, but all of them must be readable. -/
def Parameters.ofJson? : Json → Option Parameters
  | .object fields => do
    let bindings ← fields.mapM fun (key, value) =>
      return (← key, ← Value.ofJson? value)
    return SortedMap.ofList bindings
  | _ => none

/-- A stored node. -/
def NodeRecord.ofJson? (json : Json) : Option NodeRecord := do
  match ← json.record? ["node_id", "node_type", "position", "parameters"] with
  | [id, type, position, parameters] =>
    return ⟨← Json.needed Json.text? id, ← Json.needed Json.text? type,
      ← Json.orElse Point.ofJson? {} position,
      ← Json.orElse Parameters.ofJson? .empty parameters⟩
  | _ => none

/-- A stored connection. -/
def ConnectionRecord.ofJson? (json : Json) : Option ConnectionRecord := do
  match ← json.record? ["source_node", "source_port", "target_node", "target_port"] with
  | [sourceNode, sourcePort, targetNode, targetPort] =>
    return ⟨← Json.needed Json.text? sourceNode, ← Json.needed Json.text? sourcePort,
      ← Json.needed Json.text? targetNode, ← Json.needed Json.text? targetPort⟩
  | _ => none

/-- A document. -/
def Document.ofJson? (json : Json) : Option Document := do
  match ← json.record? ["nodes", "connections"] with
  | [nodes, connections] =>
    return ⟨← Json.orElse (Json.list? NodeRecord.ofJson?) [] nodes,
      ← Json.orElse (Json.list? ConnectionRecord.ofJson?) [] connections⟩
  | _ => none

/-- Reads a document from text. -/
def Document.parse? (text : String) : Option Document := (Json.parse? text).bind Document.ofJson?

/-- Reads a document from text that must make sense as a whole, skipped fields included; of
repeated fields the last counts. -/
def Document.parseWhole? (text : String) : Option Document :=
  match Json.parse? text with
  | some json => if json.isSound then Document.ofJson? json.collapse else none
  | none => none

end Blueprint
