/-!
# Arguments

What the arguments of the command line ask for.  Arguments are read from left to right: a request
for help ends the reading, and whatever makes no sense before it refuses the line.  After a double
dash every argument is a value.
-/

namespace Blueprint

/-- The commands. -/
inductive CommandName where
  /-- Report the issues of a blueprint. -/
  | validate
  /-- Compile a blueprint. -/
  | generate
  /-- List the catalog. -/
  | catalog
  /-- Print a help page. -/
  | help
  deriving DecidableEq, Repr

namespace CommandName

/-- The command of a word. -/
def ofWord? : String → Option CommandName
  | "validate" => some .validate
  | "generate" => some .generate
  | "catalog" => some .catalog
  | "help" => some .help
  | _ => none

/-- The command works on a blueprint file. -/
def takesPath : CommandName → Bool
  | .validate | .generate => true
  | .catalog | .help => false

/-- The command has options beside the one for help. -/
def takesOptions : CommandName → Bool
  | .generate => true
  | _ => false

end CommandName

/-- The values and options of a command. -/
structure CommandArguments where
  /-- The file that stores the blueprint. -/
  path : Option String := none
  /-- The name of the strategy. -/
  name : Option String := none
  /-- The file for the script. -/
  output : Option String := none
  /-- Explain problems in place of the script. -/
  preview : Bool := false
  deriving DecidableEq, Repr

/-- A request on the command line. -/
inductive Request where
  /-- Report the issues of a blueprint. -/
  | validate (path : String)
  /-- Compile a blueprint. -/
  | generate (path : String) (arguments : CommandArguments)
  /-- List the catalog. -/
  | catalog
  /-- Print the help page of a command, or of the whole program. -/
  | help (topic : Option CommandName)
  /-- Print the version. -/
  | version
  deriving DecidableEq, Repr

/-! ### Single arguments -/

/-- The argument is an option, not a value.  A single dash is a value. -/
def isOption (arg : String) : Bool :=
  match arg.toList with
  | '-' :: _ :: _ => true
  | _ => false

/-- The argument without a leading part, if it has it. -/
def afterPart? (part arg : String) : Option String :=
  if part.toList.isPrefixOf arg.toList then
    some (String.ofList (arg.toList.drop part.toList.length))
  else none

/-- The argument sets a switch: its long form stands alone, and letters may follow its short
form. -/
def isSwitch (short long arg : String) : Bool := arg = long || (afterPart? short arg).isSome

/-- The value that is attached to an option: after an equals sign, and for a short option also
without one. -/
def attached? (short long arg : String) : Option String :=
  (afterPart? (long ++ "=") arg).or
    (if arg = short then none
     else (afterPart? (short ++ "=") arg).or (afterPart? short arg))

/-! ### The arguments of a command -/

namespace CommandArguments

variable (command : CommandName) (arguments : CommandArguments)

/-- Sets the file that stores the blueprint, once. -/
def withPath (path : String) : Option CommandArguments :=
  if arguments.path.isSome || !command.takesPath then none
  else some { arguments with path := some path }

/-- Sets the name, once. -/
def withName (name : String) : Option CommandArguments :=
  if arguments.name.isSome then none else some { arguments with name := some name }

/-- Sets the file for the script, once. -/
def withOutput (output : String) : Option CommandArguments :=
  if arguments.output.isSome then none else some { arguments with output := some output }

/-- Asks for a preview, once. -/
def withPreview : Option CommandArguments :=
  if arguments.preview then none else some { arguments with preview := true }

/-- An option that stands alone or has its value attached. -/
def withOption (arg : String) : Option CommandArguments :=
  if arg = "--preview" then arguments.withPreview
  else match attached? "-n" "--name" arg, attached? "-o" "--output" arg with
    | some name, _ => arguments.withName name
    | none, some output => arguments.withOutput output
    | none, none => none

/-- One argument that stands alone. -/
def withArgument (arg : String) : Option CommandArguments :=
  if !isOption arg then arguments.withPath command arg
  else if command.takesOptions then arguments.withOption arg
  else none

/-- What the arguments of a command read as. -/
inductive Reading where
  /-- A request for help. -/
  | help
  /-- All arguments. -/
  | complete (arguments : CommandArguments)
  deriving DecidableEq, Repr

/-- Reads the arguments of a command; nothing if they make no sense. -/
def read? (arguments : CommandArguments) : List String → Option Reading
  | [] => some (.complete arguments)
  | "--" :: rest => (rest.foldlM (withPath command) arguments).map .complete
  | arg :: rest =>
    if isSwitch "-h" "--help" arg then some .help
    else if command.takesOptions
        && (arg = "--name" || arg = "-n" || arg = "--output" || arg = "-o") then
      match rest with
      | [] => none
      | value :: rest =>
        if isOption value then none
        else (if arg = "--name" || arg = "-n" then arguments.withName value
          else arguments.withOutput value).bind (·.read? rest)
    else (arguments.withArgument command arg).bind (·.read? rest)

/-- The request that complete arguments make; nothing if the file is left out. -/
def request? : CommandName → Option Request
  | .validate => arguments.path.map .validate
  | .generate => arguments.path.map (.generate · arguments)
  | .catalog => some .catalog
  | .help => some (.help none)

end CommandArguments

/-! ### The whole line -/

/-- The help page that the words after the command for help ask for. -/
def Request.readTopic? : List String → Option Request
  | [] => some (.help none)
  | [word] => (CommandName.ofWord? word).map fun command => .help (some command)
  | _ => none

/-- The request that the arguments make; nothing if they make no sense. -/
def Request.read? : List String → Option Request
  | [] => none
  | arg :: rest =>
    match CommandName.ofWord? arg with
    | some .help => Request.readTopic? rest
    | some command =>
      match CommandArguments.read? command {} rest with
      | none => none
      | some .help => some (.help (some command))
      | some (.complete arguments) => arguments.request? command
    | none =>
      if isSwitch "-h" "--help" arg then some (.help none)
      else if isSwitch "-V" "--version" arg then some .version
      else none

end Blueprint
