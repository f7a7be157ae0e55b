import PhaseAssertions.CommandLine.Invocation

/-!
# Parameters of the command line

A command has options, which are named, and may have positional parameters,
which are not.  Some options are common to all commands and can be given before
the name of the command as well as behind it.
-/

namespace PhaseAssertions.CommandLine

/-- What values a parameter takes. -/
inductive ValueKind where
  /-- A path, which must not be empty. -/
  | path
  | text
  | choice (names : List String)
deriving DecidableEq

def ValueKind.accepts : ValueKind → String → Bool
  | .path, value => !value.isEmpty
  | .text, _ => true
  | .choice names, value => names.contains value

/-- What it means to give a parameter. -/
inductive Action where
  | set (kind : ValueKind)
  | append (kind : ValueKind)
  /-- It switches something on, once. -/
  | switch
  | count
  | help
  | version
deriving DecidableEq

def Action.takesValue : Action → Bool
  | .set _ | .append _ => true
  | _ => false

/-- A parameter of a command. -/
structure Parameter where
  /-- The name, which is also that of the option. -/
  name : String
  letter : Option Char := none
  positional : Bool := false
  action : Action
  required : Bool := false
  /-- The variable of the environment that can give it instead. -/
  setting : Option String := none
  purpose : String
deriving DecidableEq

/-- A command with its parameters. -/
structure CommandSpec where
  name : String
  purpose : String
  /-- The parameters, the common ones included. -/
  parameters : List Parameter
deriving DecidableEq

def programName : String :=
  "tracephase"

/-- The options common to all commands. -/
def commonParameters : List Parameter :=
  [ { name := "verbose", letter := some 'v', action := .count
      purpose := "Increase verbosity (-v info, -vv debug, -vvv trace)" },
    { name := "quiet", letter := some 'q', action := .switch
      purpose := "Suppress all non-error output" },
    { name := "color", action := .set (.choice (ColorChoice.all.map ColorChoice.name))
      setting := some "TRACEPHASE_COLOR", purpose := "Color output control" },
    { name := "log-format"
      action := .set (.choice (OutputFormat.all.map OutputFormat.name))
      purpose := "Log output format" },
    { name := "help", letter := some 'h', action := .help, purpose := "Print help" },
    { name := "version", letter := some 'V', action := .version
      purpose := "Print version" } ]

def formatParameter (purpose : String) : Parameter :=
  { name := "format", letter := some 'f'
    action := .set (.choice (OutputFormat.all.map OutputFormat.name)), purpose }

def checkSpec : CommandSpec :=
  { name := "check"
    purpose := "Check a trace against an assertion plan"
    parameters :=
      [ { name := "trace", letter := some 't', action := .set .path, required := true
          setting := some "TRACEPHASE_TRACE", purpose := "Trace file (JSON or YAML)" },
        { name := "plan", letter := some 'p', action := .set .path, required := true
          setting := some "TRACEPHASE_PLAN", purpose := "Assertion plan (YAML)" },
        { name := "checksum", action := .set .text
          purpose := "Expected SHA-256 of the trace file, hex encoded" },
        formatParameter "Output format for the verification report" ] ++
        commonParameters }

def validateSpec : CommandSpec :=
  { name := "validate"
    purpose := "Validate assertion plans without running them"
    parameters :=
      [ { name := "files", positional := true, action := .append .path, required := true
          purpose := "Plan files to validate" },
        { name := "strict", action := .switch
          purpose := "Enable strict validation (warnings become errors)" },
        formatParameter "Output format" ] ++ commonParameters }

def completionsSpec : CommandSpec :=
  { name := "completions"
    purpose := "Generate shell completion scripts"
    parameters :=
      [ { name := "shell", positional := true, required := true
          action := .set (.choice (Shell.all.map Shell.name))
          purpose := "Target shell for completion script" } ] ++ commonParameters }

def versionSpec : CommandSpec :=
  { name := "version"
    purpose := "Display version information"
    parameters := formatParameter "Output format" :: commonParameters }

/-- The command that prints help about the others, and has no parameters. -/
def helpSpec : CommandSpec :=
  { name := "help"
    purpose := "Print this message or the help of the given subcommand(s)"
    parameters := [] }

/-- The program without a command. -/
def programSpec : CommandSpec :=
  { name := programName
    purpose := "Phase assertions over timestamped window-manager traces"
    parameters := commonParameters }

def commandSpecs : List CommandSpec :=
  [checkSpec, validateSpec, completionsSpec, versionSpec, helpSpec]

namespace CommandSpec

def ofName? (name : String) : Option CommandSpec :=
  commandSpecs.find? fun spec => spec.name = name

def option? (spec : CommandSpec) (name : String) : Option Parameter :=
  spec.parameters.find? fun parameter => !parameter.positional && parameter.name = name

def optionOfLetter? (spec : CommandSpec) (letter : Char) : Option Parameter :=
  spec.parameters.find? fun parameter => parameter.letter = some letter

def positionals (spec : CommandSpec) : List Parameter :=
  spec.parameters.filter Parameter.positional

end CommandSpec

end PhaseAssertions.CommandLine
