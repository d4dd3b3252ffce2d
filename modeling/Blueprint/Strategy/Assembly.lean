import Blueprint.Text.Basic
import Blueprint.Value

/-!
# Layout of the script

The generated module: a heading, the imports, and a class with its parameters and the function that
runs once per bar.  Statements are written with four spaces per level of nesting and laid out with
the indent that is asked for.
-/

namespace Blueprint

/-- Choices about the generated module. -/
structure Options where
  /-- The class that the strategy extends. -/
  baseClass : String := "BaseStrategy"
  /-- The line that imports it; none if empty. -/
  baseImport : String := "from core.strategy.base import BaseStrategy"
  /-- The number of spaces per level of nesting. -/
  indent : Nat := 4
  /-- The second line of the heading. -/
  header : String := "Generated by the blueprint visual editor"
  /-- The function that fetches past bars. -/
  accessor : String := "get_close_prices"
  deriving DecidableEq, Repr, Inhabited

namespace Options

/-- Another base class and its import line. -/
def withBaseClass (options : Options) (name line : String) : Options :=
  { options with baseClass := name, baseImport := line }

/-- Another indent, of at least one space. -/
def withIndent (options : Options) (spaces : Nat) : Options :=
  { options with indent := max spaces 1 }

/-- Another second line of the heading. -/
def withHeader (options : Options) (line : String) : Options := { options with header := line }

/-- Another function that fetches past bars. -/
def withAccessor (options : Options) (name : String) : Options :=
  { options with accessor := name }

/-- The blanks before a line at a level of nesting. -/
def margin (options : Options) (level : Nat) : String :=
  String.ofList (List.replicate (level * max options.indent 1) ' ')

end Options

/-- The parts of a generated module. -/
structure Sections where
  /-- The name of the class. -/
  name : String
  /-- The import lines besides that of the base class. -/
  imports : List String
  /-- The class-level parameters. -/
  parameters : List (String × Value)
  /-- The number of past bars that the body needs. -/
  lookback : Nat
  /-- The statements of the body. -/
  statements : List String

namespace Sections

/-- A line of a statement, each four of its leading spaces replaced by one indent. -/
def reindent (options : Options) (line : String) : String :=
  let leading := (line.toList.takeWhile (· == ' ')).length
  String.ofList (List.replicate (leading / 4 * max options.indent 1) ' '
    ++ List.replicate (leading % 4) ' ' ++ line.toList.dropWhile (· == ' '))

variable (options : Options) (sections : Sections)

/-- The heading and the imports. -/
def headLines : List String :=
  ["\"\"\"", sections.name, options.header, "\"\"\""]
    ++ (if options.baseImport.isEmpty then [] else [options.baseImport])
    ++ sections.imports ++ ["", ""]

/-- The beginning of the class. -/
def classLines : List String :=
  ["class " ++ sections.name ++ "(" ++ options.baseClass ++ "):",
   options.margin 1 ++ "\"\"\"" ++ sections.name ++ "\"\"\"", ""]

/-- The class-level parameters, one a line. -/
def parameterLines : List String :=
  if sections.parameters.isEmpty then []
  else (options.margin 1 ++ "# Strategy parameters")
    :: (sections.parameters.map fun (key, value) =>
      options.margin 1 ++ key ++ " = " ++ value.literal)
    ++ [""]

/-- The beginning of the function that runs once per bar, which ends early if there are not enough
bars. -/
def entryLines : List String :=
  [options.margin 1 ++ "def on_bar(self, bar):",
   options.margin 2 ++ "\"\"\"Called once per bar.\"\"\""]
    ++ if 1 < sections.lookback then
      [options.margin 2 ++ "# Ensure enough history is available",
       options.margin 2 ++ "if len(self." ++ options.accessor ++ "("
         ++ Nat.repr sections.lookback ++ ")) < " ++ Nat.repr sections.lookback ++ ":",
       options.margin 3 ++ "return", ""]
    else []

/-- The statements, or a placeholder if there are none. -/
def bodyLines : List String :=
  if sections.statements.isEmpty then [options.margin 2 ++ "pass"]
  else (sections.statements.flatMap Text.lines).map fun line =>
    options.margin 2 ++ reindent options line

/-- The text of the module. -/
def assemble : String :=
  "\n".intercalate (sections.headLines options ++ sections.classLines options
    ++ sections.parameterLines options ++ sections.entryLines options
    ++ sections.bodyLines options ++ [""])

end Sections

/-! ### Diagnostic texts -/

/-- Puts a backslash before every occurrence of a character. -/
def escapeEach (mark : Char) (text : List Char) : List Char :=
  text.flatMap fun c => if c = mark then ['\\', c] else [c]

/-- A text inside a triple-quoted string: backslashes get a backslash, and then quotes do. -/
def escapeDocstring (text : String) : String :=
  String.ofList (escapeEach '"' (escapeEach '\\' text.toList))

/-- The text that stands for a module if validation failed. -/
def failureText (messages : List String) : String :=
  "\"\"\"\nBlueprint validation failed:\n"
    ++ String.join (messages.map fun message => "# Error: " ++ escapeDocstring message ++ "\n")
    ++ "\"\"\""

/-- The text that stands for a module if it could not be ordered. -/
def blockedText (message : String) : String :=
  "\"\"\"\n" ++ escapeDocstring message ++ "\n\"\"\""

end Blueprint
