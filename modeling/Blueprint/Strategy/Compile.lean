import Blueprint.Analysis.Validation
import Blueprint.OrderedMap
import Blueprint.Strategy.Assembly
import Blueprint.Strategy.Emission

/-!
# Compiling a graph into a strategy

A graph without issues becomes a script: its nodes emit in an order of execution, and the script is
laid out around what they emit, in whichever way they do it (`Emitter`).  A preview never fails; it
explains what is missing instead.
-/

namespace Blueprint

/-- A compiled strategy and what it was assembled from. -/
structure Strategy where
  /-- The name of the class. -/
  name : String
  /-- The script. -/
  source : String
  /-- The import lines besides that of the base class, sorted, each once. -/
  imports : List String
  /-- The class-level parameters. -/
  parameters : List (String × Value)
  /-- The number of past bars that the body needs. -/
  lookback : Nat
  /-- The statements in order of emission. -/
  statements : List String

/-- Why a graph could not be compiled. -/
inductive CompileError where
  /-- Validation found issues. -/
  | invalid (issues : List Issue)
  /-- No order of execution exists. -/
  | cyclic (error : CycleError)
  deriving DecidableEq, Repr

/-- The wording of an error. -/
def CompileError.message : CompileError → String
  | .invalid issues =>
    "Blueprint validation failed with " ++ Nat.repr issues.length ++ " issue(s)"
  | .cyclic error => error.message

/-- The name of a strategy unless told otherwise. -/
def defaultStrategyName : String := "BlueprintStrategy"

/-- The preview of a graph without nodes. -/
def emptyPreview : String :=
  "# Create nodes on the canvas and connect them; code is generated automatically"

namespace Node

/-- The part of a type tag after its last dot. -/
def shortTag (tag : String) : String :=
  String.ofList ((tag.toList.reverse.takeWhile (· != '.')).reverse)

/-- The parameters of a node that the class declares, under names that tell its type.  Values set
on an input itself are not among them. -/
def declarations (node : Node) : List (String × Value) :=
  (node.parameters.entries.filter fun entry =>
      !overrideMark.toList.isPrefixOf entry.1.toList).map
    fun (key, value) => (shortTag node.type ++ "_" ++ key, value)

end Node

namespace Graph

variable (g : Graph)

/-- The class-level parameters: a name stands where it was declared first and has the value of its
last declaration. -/
def parameterBlock : List (String × Value) :=
  ((g.nodes.flatMap Node.declarations).foldl
    (fun (block : OrderedMap Value) (declaration : String × Value) =>
      block.insert declaration.1 declaration.2)
    OrderedMap.empty).entries

end Graph

namespace Emitter

variable (emit : Emitter) (g : Graph)

/-- The strategy of a graph whose nodes emit in the given order. -/
def strategyOf (options : Options) (name : String) (order : List NodeId) : Strategy :=
  let emission := emit.walkAll g order
  let imports := emission.imports.filter (· != options.baseImport)
  let sections : Sections :=
    { name, imports, parameters := g.parameterBlock, lookback := g.lookback,
      statements := emission.statements }
  { name, imports, source := sections.assemble options, parameters := g.parameterBlock,
    lookback := g.lookback, statements := emission.statements }

/-- Compiles a graph. -/
def compile (options : Options) (name : String) : Except CompileError Strategy :=
  match g.validate with
  | [] =>
    match g.executionOrder with
    | .ok order => .ok (emit.strategyOf g options name order)
    | .error error => .error (.cyclic error)
  | issues => .error (.invalid issues)

/-- The script of a graph, or a text that explains why there is none. -/
def generate (options : Options) (name : String) : String :=
  match emit.compile g options name with
  | .ok strategy => strategy.source
  | .error (.invalid issues) => failureText (issues.map Issue.message)
  | .error (.cyclic error) => blockedText error.message

/-- What an editor shows next to a graph. -/
def preview (options : Options) : String :=
  if g.isEmpty then emptyPreview else emit.generate g options defaultStrategyName

end Emitter

namespace Graph

variable (g : Graph)

/-! ### Compiling templates -/

/-- The strategy of a graph whose nodes emit their templates in the given order. -/
def strategyOf (options : Options) (name : String) (order : List NodeId) : Strategy :=
  Emitter.templates.strategyOf g options name order

/-- Compiles a graph whose nodes emit their templates. -/
def compile (options : Options) (name : String) : Except CompileError Strategy :=
  Emitter.templates.compile g options name

/-- The notes of compiling a graph. -/
def compileNotes (options : Options) (name : String) : List Note :=
  match g.compile options name with
  | .error (.invalid issues) => [.validationFailed issues.length]
  | .error (.cyclic _) => g.orderNotes
  | .ok strategy =>
    (g.topologicalOrder.order.filterMap g.node?).map (fun node => .emitting node.id node.type)
      ++ [.generated name strategy.statements.length strategy.lookback]

/-- The script of a graph, or a text that explains why there is none. -/
def generate (options : Options) (name : String) : String :=
  Emitter.templates.generate g options name

/-- What an editor shows next to a graph. -/
def preview (options : Options) : String := Emitter.templates.preview g options

/-- The notes of a preview. -/
def previewNotes (options : Options) : List Note :=
  if g.isEmpty then [] else g.compileNotes options defaultStrategyName

end Graph

end Blueprint
