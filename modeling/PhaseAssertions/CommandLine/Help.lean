import PhaseAssertions.CommandLine.Parse

/-!
# Help on the command line

What is said where a command line asks for nothing that can be done: the
commands and the common options if help is asked for or nothing is given, and
otherwise what is wrong.
-/

namespace PhaseAssertions.CommandLine

/-- An option with its letter and the name of its value. -/
def optionText (parameter : Parameter) : String :=
  (parameter.letter.elim "    " fun letter => "-" ++ letter.toString ++ ", ") ++
    "--" ++ parameter.name ++ if parameter.action.takesValue then " VALUE" else ""

/-- A line of help: something and what it is for, in columns. -/
def helpLine (item purpose : String) : String :=
  "  " ++ item ++ String.ofList (List.replicate (24 - item.length) ' ') ++ purpose ++ "\n"

def helpText : String :=
  programSpec.purpose ++ "\n\nUsage: " ++ programName ++ " [OPTIONS] COMMAND\n\nCommands:\n" ++
    String.join (commandSpecs.map fun spec => helpLine spec.name spec.purpose) ++
    "\nOptions:\n" ++
    String.join (commonParameters.map fun parameter =>
      helpLine (optionText parameter) parameter.purpose)

namespace UsageError

def message : UsageError → String
  | .helpWanted => "help is asked for"
  | .versionWanted => "the version is asked for"
  | .nothingGiven => "nothing is given"
  | .missingParameter => "a required argument was not provided"
  | .missingCommand => "a command is required but was not provided"
  | .invalidValue => "a value is missing or not allowed"
  | .repeatedParameter => "an argument cannot be used more than once"
  | .unknownArgument => "an argument was not expected"
  | .needlessValue => "an option without a value was given one"
  | .unknownCommand => "the command is not known"

def exitCode : UsageError → Nat
  | .helpWanted | .versionWanted => 0
  | _ => 2

/-- What is printed to the output. -/
def output (version : String) : UsageError → String
  | .helpWanted => helpText
  | .versionWanted => programName ++ " " ++ version ++ "\n"
  | _ => ""

/-- What is printed to the error output. -/
def complaint : UsageError → String
  | .helpWanted | .versionWanted => ""
  | .nothingGiven => helpText
  | error => "error: " ++ error.message ++ "\n"

end UsageError

end PhaseAssertions.CommandLine
