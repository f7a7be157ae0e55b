import PhaseAssertions.CommandLine.Parameter

/-!
# Reading command lines

The arguments are read from left to right.  The values of an option that stand
in arguments of their own are collected first and taken when the next option
or positional parameter is met, or at the end; so it depends on what follows
whether a bad value is noticed before another fault.  At the name of a command
the rest of the line is read with the parameters of that command, and only
then is the line before it completed.

What was not given on the line may be set by the environment.  A common option
that is given on both sides of the name of the command counts where it is given
behind it.
-/

namespace PhaseAssertions.CommandLine

/-- Why a command line asks for nothing that can be done. -/
inductive UsageError where
  | helpWanted
  | versionWanted
  | nothingGiven
  | missingParameter
  | missingCommand
  /-- A value is missing or not allowed. -/
  | invalidValue
  /-- A parameter that can be given once is given again. -/
  | repeatedParameter
  | unknownArgument
  /-- An option without a value is given one. -/
  | needlessValue
  | unknownCommand
deriving DecidableEq

/-- Where values come from, the stronger source last. -/
inductive ValueSource where
  | environment
  | commandLine
deriving DecidableEq

/-- The values of a parameter. -/
structure Given where
  name : String
  source : ValueSource
  /-- The values, or as many empty texts as the parameter was given without one. -/
  values : List String
deriving DecidableEq

/-- What was given so far. -/
abbrev Matches := List Given

namespace Matches

def find? (given : Matches) (name : String) : Option Given :=
  List.find? (fun entry => entry.name = name) given

def has (given : Matches) (name : String) : Bool :=
  (given.find? name).isSome

def values (given : Matches) (name : String) : List String :=
  (given.find? name).elim [] Given.values

def value? (given : Matches) (name : String) : Option String :=
  (given.values name).head?

/-- What was given, with other values for a parameter. -/
def set (given : Matches) (name : String) (source : ValueSource)
    (values : List String) : Matches :=
  { name, source, values } :: given.filter fun entry => entry.name ≠ name

/--
What was given of the common parameters, before the name of the command and
behind it: what stands behind it counts, unless it is only set by the
environment and what stands before it is not.
-/
def merge (before behind : Matches) : Matches :=
  before.foldl
    (fun merged entry =>
      match merged.find? entry.name with
      | none => merged.set entry.name entry.source entry.values
      | some other =>
        if other.source = .environment && entry.source = .commandLine then
          merged.set entry.name entry.source entry.values
        else
          merged)
    behind

end Matches

/-- The state of the reading between two arguments. -/
structure Reading where
  given : Matches := []
  /-- A parameter whose values are collected. -/
  pending : Option (Parameter × List String) := none
  /-- Whether the next argument is a value of that parameter. -/
  awaiting : Bool := false
  /-- The number of positional parameters that are done with. -/
  position : Nat := 0
  /-- Whether options are no longer recognised. -/
  literal : Bool := false

/-- The values that are given without being written. -/
def unwritten : String :=
  ""

namespace Reading

/-- The reading with the values of a parameter taken. -/
def take (reading : Reading) (parameter : Parameter) (values : List String) :
    Except UsageError Reading :=
  let before := reading.given.values parameter.name
  let done (values : List String) : Except UsageError Reading :=
    .ok { reading with given := reading.given.set parameter.name .commandLine values }
  match parameter.action with
  | .set kind =>
    if values.isEmpty then .error .invalidValue
    else if reading.given.has parameter.name then .error .repeatedParameter
    else if values.all kind.accepts then done values
    else .error .invalidValue
  | .append kind =>
    if !values.isEmpty && values.all kind.accepts then done (before ++ values)
    else .error .invalidValue
  | .switch =>
    if reading.given.has parameter.name then .error .repeatedParameter
    else done [unwritten]
  | .count => done (unwritten :: before)
  | .help => .error .helpWanted
  | .version => .error .versionWanted

/-- The reading with the collected values taken. -/
def settle (reading : Reading) : Except UsageError Reading :=
  match reading.pending with
  | none => .ok reading
  | some (parameter, values) =>
    { reading with pending := none, awaiting := false }.take parameter values

/-- The reading with a parameter taken after what was collected before it. -/
def react (reading : Reading) (parameter : Parameter) (values : List String) :
    Except UsageError Reading := do
  (← reading.settle).take parameter values

/-- The reading after an option that takes a value, which may be attached to it. -/
def takeOption (reading : Reading) (parameter : Parameter) (attached : Option String) :
    Except UsageError Reading :=
  match attached with
  | some value => reading.react parameter [value]
  | none => do
    return { ← reading.settle with pending := some (parameter, []), awaiting := true }

/-- The reading after a named option, with what follows an equals sign. -/
def takeNamed (reading : Reading) (spec : CommandSpec) (name : String)
    (attached : Option String) : Except UsageError Reading :=
  match spec.option? name with
  | none => .error .unknownArgument
  | some parameter =>
    if parameter.action.takesValue then
      reading.takeOption parameter attached
    else if attached.isSome then
      .error .needlessValue
    else
      reading.react parameter []

/-- The value attached to a letter, behind an equals sign or directly. -/
def attachedValue? : List Char → Option String
  | [] => none
  | '=' :: rest => some (String.ofList rest)
  | characters => some (String.ofList characters)

/-- The reading after the options whose letters are given. -/
def takeLetters (reading : Reading) (spec : CommandSpec) :
    List Char → Except UsageError Reading
  | [] => .ok reading
  | letter :: rest =>
    match spec.optionOfLetter? letter with
    | none => .error .unknownArgument
    | some parameter =>
      if parameter.action.takesValue then
        reading.takeOption parameter (attachedValue? rest)
      else do
        takeLetters (← reading.react parameter []) spec rest

/-- The reading after a value of the option that awaits one. -/
def takeAwaited (reading : Reading) (value : String) : Reading :=
  { reading with
    pending := reading.pending.map fun (parameter, values) => (parameter, values ++ [value])
    awaiting := false }

/-- The reading after a value of a positional parameter. -/
def takePositional (reading : Reading) (parameter : Parameter) (value : String) :
    Except UsageError Reading :=
  match parameter.action, reading.pending with
  | .append _, some (other, values) =>
    if other = parameter then
      .ok { reading with pending := some (parameter, values ++ [value]) }
    else do
      return { ← reading.settle with pending := some (parameter, [value]) }
  | .append _, none => .ok { reading with pending := some (parameter, [value]) }
  | _, _ => do
    let reading ← reading.settle
    return { reading with
      pending := some (parameter, [value]), position := reading.position + 1 }

end Reading

/-- What an argument looks like. -/
inductive Shape where
  /-- The mark behind which there are no options. -/
  | escape
  /-- A named option, with what follows an equals sign. -/
  | named (name : String) (attached : Option String)
  | letters (characters : List Char)
  | word

/-- The name of an option up to an equals sign, and what follows it. -/
def splitAtEquals (characters : List Char) : String × Option String :=
  let name := String.ofList (characters.takeWhile (· ≠ '='))
  match characters.dropWhile (· ≠ '=') with
  | [] => (name, none)
  | _ :: rest => (name, some (String.ofList rest))

/-- The shape of an argument. -/
def Shape.ofArgument (argument : String) : Shape :=
  match argument.toList with
  | ['-', '-'] => .escape
  | '-' :: '-' :: rest =>
    let (name, attached) := splitAtEquals rest
    .named name attached
  | '-' :: letter :: rest => .letters (letter :: rest)
  | _ => .word

/-- The reading after one argument that is not the name of a command. -/
def readArgument (spec : CommandSpec) (topLevel : Bool) (reading : Reading)
    (argument : String) : Except UsageError Reading :=
  let asWord : Except UsageError Reading :=
    match spec.positionals[reading.position]? with
    | some parameter => reading.takePositional parameter argument
    | none =>
      let isCommand := (CommandSpec.ofName? argument).isSome
      .error (if topLevel && !(reading.literal && isCommand) then .unknownCommand
        else .unknownArgument)
  if reading.literal then asWord
  else
    match Shape.ofArgument argument with
    | .escape => .ok { reading with literal := true, awaiting := false }
    | .named name attached => reading.takeNamed spec name attached
    | .letters characters => reading.takeLetters spec characters
    | .word => if reading.awaiting then .ok (reading.takeAwaited argument) else asWord

/-- What a line has given when its end is reached, the environment included. -/
def complete (spec : CommandSpec) (environment : String → Option String)
    (reading : Reading) : Except UsageError Matches := do
  let reading ← reading.settle
  spec.parameters.foldlM
    (fun given parameter =>
      match parameter.setting.bind environment, parameter.action with
      | some value, .set kind =>
        if given.has parameter.name then .ok given
        else if kind.accepts value then .ok (given.set parameter.name .environment [value])
        else .error .invalidValue
      | _, _ => .ok given)
    reading.given

/-- Reads the arguments of a command. -/
def readCommand (spec : CommandSpec) (environment : String → Option String)
    (arguments : List String) : Except UsageError Matches := do
  let given ← complete spec environment (← arguments.foldlM (readArgument spec false) {})
  if spec.parameters.all fun parameter => !parameter.required || given.has parameter.name then
    return given
  else
    throw .missingParameter

/-- What the command for help comes to: the names behind it must be those of commands. -/
def helpError : List String → UsageError
  | [] => .helpWanted
  | [name] => if (CommandSpec.ofName? name).isSome then .helpWanted else .unknownCommand
  | _ => .unknownCommand

/-- A command with what was given for it. -/
structure CommandMatch where
  spec : CommandSpec
  /-- What was given for it, the common parameters included. -/
  given : Matches

/-- Reads the arguments of the program from some state on. -/
def readProgram (environment : String → Option String) (reading : Reading) :
    List String → Except UsageError CommandMatch
  | [] => do
    let given ← complete programSpec environment reading
    throw (if given.isEmpty then .nothingGiven else .missingCommand)
  | argument :: rest =>
    let command? :=
      if reading.literal || reading.awaiting then none else CommandSpec.ofName? argument
    match command? with
    | some spec =>
      if spec = helpSpec then .error (helpError rest)
      else do
        let behind ← readCommand spec environment rest
        let before ← complete programSpec environment reading
        return { spec, given := before.merge behind }
    | none => do
      readProgram environment (← readArgument programSpec true reading argument) rest

/-- The thing of a given name, or the default. -/
def named {Result : Type} [Inhabited Result] (all : List Result) (name : Result → String)
    (given : Option String) : Result :=
  ((given.bind fun value => all.find? fun item => name item = value)).getD default

def CommandMatch.outputFormat (command : CommandMatch) (name : String) : OutputFormat :=
  named OutputFormat.all OutputFormat.name (command.given.value? name)

def CommandMatch.command (command : CommandMatch) : Command :=
  let given := command.given
  let path (name : String) : String := (given.value? name).getD ""
  let format := command.outputFormat "format"
  if command.spec = checkSpec then
    .check
      { trace := path "trace", plan := path "plan", checksum := given.value? "checksum", format }
  else if command.spec = validateSpec then
    .validate { files := given.values "files", strict := given.has "strict", format }
  else if command.spec = completionsSpec then
    .completions (named Shell.all Shell.name (given.value? "shell"))
  else
    .version format

/-- The greatest number of requests for more detail that is told apart. -/
def greatestVerbosity : Nat :=
  255

/-- What a command line asks for. -/
def parse (environment : String → Option String) (arguments : List String) :
    Except UsageError Invocation := do
  let command ← readProgram environment {} arguments
  let given := command.given
  return {
    command := command.command
    verbosity := min (given.values "verbose").length greatestVerbosity
    quiet := given.has "quiet"
    color := named ColorChoice.all ColorChoice.name (given.value? "color")
    logFormat := command.outputFormat "log-format" }

end PhaseAssertions.CommandLine
