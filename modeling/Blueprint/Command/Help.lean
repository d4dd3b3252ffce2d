import Blueprint.Command.Arguments
import Blueprint.Strategy.Compile

/-!
# Help pages

A page says what a command is for and how it is written, and then lists its parts in sections of
two columns.
-/

namespace Blueprint

/-- What a program calls itself. -/
structure Program where
  /-- The word that starts it on the command line. -/
  command : String
  /-- The package that it comes in. -/
  package : String
  /-- The version of the package. -/
  version : String
  deriving DecidableEq, Repr

/-- The line that tells the version. -/
def Program.versionLine (program : Program) : String :=
  program.package ++ " " ++ program.version ++ "\n"

/-- A section of a help page. -/
structure HelpSection where
  /-- The heading. -/
  heading : String
  /-- The rows: a part of the command line and what it is for. -/
  rows : List (String × String)
  deriving DecidableEq, Repr

/-- A help page. -/
structure HelpPage where
  /-- What the command is for. -/
  about : String
  /-- What follows the program on the command line. -/
  usage : String
  /-- The sections. -/
  sections : List HelpSection
  deriving DecidableEq, Repr

/-- A text filled up with spaces on the right. -/
def padRight (width : Nat) (text : String) : String :=
  text ++ String.ofList (List.replicate (width - text.length) ' ')

/-- The text of a section, its second column aligned. -/
def HelpSection.render (part : HelpSection) : String :=
  let width := part.rows.foldl (fun width row => max width row.1.length) 0
  part.heading ++ ":\n"
    ++ String.join (part.rows.map fun row => "  " ++ padRight width row.1 ++ "  " ++ row.2 ++ "\n")

/-- The text of a page. -/
def HelpPage.render (page : HelpPage) (program : Program) : String :=
  page.about ++ "\n\nUsage: " ++ program.command ++ " " ++ page.usage ++ "\n"
    ++ String.join (page.sections.map fun part => "\n" ++ part.render)

/-- The row of the option for help. -/
def helpRow : String × String := ("-h, --help", "Print help")

/-- The section of the blueprint file. -/
def pathSection : HelpSection :=
  ⟨"Arguments", [("<BLUEPRINT_PATH>", "Path to the blueprint JSON file")]⟩

namespace CommandName

/-- What a command is for. -/
def about : CommandName → String
  | .validate => "Report structural issues in a blueprint"
  | .generate => "Generate strategy source from a blueprint"
  | .catalog => "List every registered node type by category"
  | .help => "Print this message or the help of the given subcommand(s)"

/-- The help page of a command. -/
def helpPage (command : CommandName) : HelpPage where
  about := command.about
  usage := match command with
    | .validate => "validate <BLUEPRINT_PATH>"
    | .generate => "generate [OPTIONS] <BLUEPRINT_PATH>"
    | .catalog => "catalog"
    | .help => "help [COMMAND]..."
  sections := match command with
    | .validate => [pathSection, ⟨"Options", [helpRow]⟩]
    | .generate => [pathSection, ⟨"Options", [
      ("-n, --name <NAME>",
        "Class name of the generated strategy [default: " ++ defaultStrategyName ++ "]"),
      ("-o, --output <OUTPUT>", "Write the source to this file instead of stdout"),
      ("    --preview", "Emit a diagnostic artifact instead of failing on invalid blueprints"),
      helpRow]⟩]
    | .catalog => [⟨"Options", [helpRow]⟩]
    | .help => [⟨"Arguments", [("[COMMAND]...", "Print help for the subcommand(s)")]⟩]

end CommandName

/-- The help page of the whole program. -/
def programPage : HelpPage where
  about := "A blueprint compiler that lowers node graphs of trading blocks into per-bar strategy "
    ++ "source"
  usage := "<COMMAND>"
  sections := [
    ⟨"Commands", [("validate", CommandName.about .validate),
      ("generate", CommandName.about .generate), ("catalog", CommandName.about .catalog),
      ("help", CommandName.about .help)]⟩,
    ⟨"Options", [helpRow, ("-V, --version", "Print version")]⟩]

/-- The help page of a topic. -/
def helpPage : Option CommandName → HelpPage
  | none => programPage
  | some command => command.helpPage

end Blueprint
