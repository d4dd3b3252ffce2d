import Blueprint.Parameter
import Blueprint.Port

/-!
# Node variants

A variant is what a node of one type looks like and contributes: its ports, its editable
parameters, the statements it emits and the expression it offers at each output.  Statements and
expressions are templates, texts with holes that are filled in for one node of one graph.
-/

namespace Blueprint

/-- A piece of a template. -/
inductive Piece where
  /-- A fixed text. -/
  | text (s : String)
  /-- The expression that feeds an input, or a fixed text if there is none. -/
  | input (port : String) (otherwise : String)
  /-- The variable of the node with a suffix. -/
  | var (suffix : String)
  /-- The name of the output that is asked for. -/
  | output
  /-- The node's own parameter, or a fixed value if it is not set. -/
  | parameter (key : String) (otherwise : Value)
  deriving DecidableEq, Inhabited

/-- A text with holes. -/
abbrev Template := List Piece

/-- The inputs that a template reads, in order. -/
def Template.inputs (template : Template) : List String :=
  template.filterMap fun
    | .input port _ => some port
    | _ => none

/-- The families of variants. -/
inductive Category where
  /-- Market and account data. -/
  | data
  /-- Technical indicators. -/
  | indicator
  /-- Trading signals. -/
  | signal
  /-- Comparisons and boolean operators. -/
  | logic
  /-- Orders. -/
  | trade
  /-- Constants and arithmetic. -/
  | param
  deriving DecidableEq, Repr, Inhabited

namespace Category

/-- Every category, in the order of the palette. -/
def all : List Category := [.data, .indicator, .signal, .logic, .trade, .param]

/-- The name of a category. -/
def name : Category → String
  | .data => "data"
  | .indicator => "indicator"
  | .signal => "signal"
  | .logic => "logic"
  | .trade => "trade"
  | .param => "param"

/-- The category of a name. -/
def ofName? (name : String) : Option Category := all.find? (·.name == name)

end Category

/-- A kind of node. -/
structure Variant where
  /-- The tag that the variant was made for. -/
  tag : String
  /-- The family. -/
  category : Category
  /-- The caption. -/
  title : String
  /-- One line of help. -/
  description : String := ""
  /-- The input ports in declaration order. -/
  inputs : List PortSpec
  /-- The output ports in declaration order. -/
  outputs : List PortSpec
  /-- The editable parameters. -/
  schema : List ParameterSpec := []
  /-- The import lines that the statements need. -/
  imports : List String := []
  /-- The statements that a node emits. -/
  statements : List Template := []
  /-- The expressions of outputs that have one of their own. -/
  expressions : List (String × Template) := []
  /-- The expression of every other output. -/
  expression : Template := []
  deriving Inhabited

/-- The expression that a variant offers at an output. -/
def Variant.expressionAt (variant : Variant) (port : String) : Template :=
  (variant.expressions.lookup port).getD variant.expression

end Blueprint
