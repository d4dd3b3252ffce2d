import Blueprint.Command.Help
import Blueprint.Document.Load
import Blueprint.FileTree
import Blueprint.Text.Numeral

/-!
# Commands

What the command line can be asked to do: report the issues of a stored blueprint, compile it,
list the catalog, or explain itself.  All that lies outside is reached through a `Host`, so that a
command runs as well on a tree of texts as on a disk.
-/

namespace Blueprint

/-- What a command finds around it. -/
structure Host (m : Type → Type) where
  /-- What the program calls itself. -/
  program : Program
  /-- The content of a file. -/
  read : String → m (Except FileError String)
  /-- Replaces the content of a file. -/
  write : String → String → m (Except FileError Unit)
  /-- A clock, in nanoseconds. -/
  clock : m Nat

/-- A host on a tree of files, where no time passes. -/
def FileTree.host (program : Program) : Host (StateM FileTree) where
  program := program
  read path := return (← get).read path
  write path content := do
    match (← get).write path content with
    | .error error => return .error error
    | .ok tree =>
      set tree
      return .ok ()
  clock := return 0

/-- What a command printed, and its exit code. -/
structure Report where
  /-- The exit code. -/
  code : Nat
  /-- The output. -/
  stdout : String
  /-- Messages. -/
  stderr : String
  deriving DecidableEq, Repr

/-! ### Reports -/

/-- A report that ends in an error. -/
def Report.failure (stdout stderr message : String) : Report :=
  ⟨1, stdout, stderr ++ "\nError: " ++ message ++ "\n"⟩

/-- One line per issue. -/
def issueLines (issues : List Issue) : String :=
  String.join (issues.map fun issue => "  -> " ++ issue.message ++ "\n")

/-- The catalog by category, one line per type. -/
def catalogListing (catalog : Catalog) : String :=
  String.join (Category.all.map fun category =>
    match catalog.byCategory category with
    | [] => ""
    | entries =>
      "[" ++ category.name ++ "]\n"
        ++ String.join (entries.map fun entry =>
          "  " ++ padRight 24 entry.tag ++ " " ++ padRight 20 entry.title ++ " "
            ++ entry.description ++ "\n")
        ++ "\n")

/-- The report of a validation. -/
def validationReport (g : Graph) : Report :=
  let counts := "Blueprint: " ++ Nat.repr g.nodeCount ++ " node(s), "
    ++ Nat.repr g.connections.length ++ " connection(s)\n"
  match g.validate with
  | [] => ⟨0, counts ++ "  -> Valid\n", ""⟩
  | issues =>
    .failure (counts ++ issueLines issues) "" (Nat.repr issues.length ++ " issue(s) found")

/-- The line that tells about a compiled strategy and the time it took. -/
def strategyLine (strategy : Strategy) (nanoseconds : Nat) : String :=
  "Generated '" ++ strategy.name ++ "': " ++ Nat.repr strategy.statements.length
    ++ " statement(s), " ++ Nat.repr strategy.parameters.length ++ " parameter(s), lookback "
    ++ Nat.repr strategy.lookback ++ " in " ++ Text.elapsed nanoseconds ++ "\n"

/-- The report of a graph that does not compile. -/
def CompileError.report : CompileError → Report
  | .invalid issues =>
    .failure "" (issueLines issues) (CompileError.message (.invalid issues))
  | error => .failure "" "" ("Generation failed: " ++ error.message)

/-! ### Execution -/

section

variable {m : Type → Type} [Monad m] (host : Host m)

/-- The graph that a file stores, or the report of a failure. -/
def readGraph (path : String) : m (Except Report Graph) := do
  match ← host.read path with
  | .error error =>
    return .error (.failure "" ""
      ("Failed to read blueprint file '" ++ path ++ "': " ++ error.message))
  | .ok text =>
    match (Graph.ofText .builtin text).outcome with
    | .error error =>
      return .error (.failure "" ""
        ("Failed to load blueprint '" ++ path ++ "': " ++ error.message))
    | .ok g => return .ok g

/-- The script of a graph and the messages about it, or the report of a failure. -/
def CommandArguments.script (arguments : CommandArguments) (g : Graph) :
    m (Except Report (String × String)) := do
  if arguments.preview then return .ok (g.preview {}, "")
  else
    let start ← host.clock
    match g.compile {} (arguments.name.getD defaultStrategyName) with
    | .ok strategy =>
      let finish ← host.clock
      return .ok (strategy.source, strategyLine strategy (finish - start))
    | .error error => return .error error.report

/-- Prints a script or writes it to a file. -/
def CommandArguments.deliver (arguments : CommandArguments) (source messages : String) :
    m Report := do
  match arguments.output with
  | none => return ⟨0, source, messages⟩
  | some path =>
    match ← host.write path source with
    | .error error =>
      return .failure "" messages ("Failed to write '" ++ path ++ "': " ++ error.message)
    | .ok () => return ⟨0, "", messages ++ "Saved strategy source to '" ++ path ++ "'\n"⟩

/-- Carries out a request. -/
def Request.run : Request → m Report
  | .catalog => return ⟨0, catalogListing .builtin, ""⟩
  | .help topic => return ⟨0, (helpPage topic).render host.program, ""⟩
  | .version => return ⟨0, host.program.versionLine, ""⟩
  | .validate path => do
    match ← readGraph host path with
    | .error report => return report
    | .ok g => return validationReport g
  | .generate path arguments => do
    match ← readGraph host path with
    | .error report => return report
    | .ok g =>
      match ← arguments.script host g with
      | .error report => return report
      | .ok (source, messages) => arguments.deliver host source messages

/-- Carries out what the arguments ask for.  If they make no sense, the help page of the program
is the message. -/
def runCommand (args : List String) : m Report :=
  match Request.read? args with
  | none => return ⟨2, "", programPage.render host.program⟩
  | some request => request.run host

end

end Blueprint
