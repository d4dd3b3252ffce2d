import Blueprint.Catalog.Builtin
import Blueprint.Document.Json

/-!
# Graphs from text
-/

namespace Blueprint

/-- Why a text did not become a graph. -/
inductive LoadError where
  /-- The text is not a document. -/
  | malformed
  /-- The document does not describe a graph. -/
  | refused (error : EditError)
  deriving DecidableEq, Repr

/-- The wording of an error. -/
def LoadError.message : LoadError → String
  | .malformed => "Failed to parse blueprint JSON: the text does not hold a blueprint document"
  | .refused error => error.message

/-- What became of a text. -/
structure Loaded where
  /-- The graph, or why there is none. -/
  outcome : Except LoadError Graph
  /-- The notes taken on the way. -/
  notes : List Note

namespace Graph

/-- The graph of a document, if there is a document. -/
def ofDocument? (catalog : Catalog) (document : Option Document) : Loaded :=
  match document with
  | none => ⟨.error .malformed, []⟩
  | some document =>
    let loaded := ofDocument catalog document
    match loaded.outcome with
    | .ok () => ⟨.ok loaded.graph, loaded.notes⟩
    | .error error => ⟨.error (.refused error), loaded.notes⟩

/-- The graph that a text stores, over a catalog. -/
def ofText (catalog : Catalog) (text : String) : Loaded :=
  ofDocument? catalog (Document.parse? text)

end Graph

end Blueprint
