/-!
# Invocations

What the command line asks for: one of the commands with its arguments, and how
much of the work is to be reported in which form.
-/

namespace PhaseAssertions

/-- The form of a command's output. -/
inductive OutputFormat where
  | human
  | json
deriving DecidableEq, Inhabited

def OutputFormat.all : List OutputFormat :=
  [.human, .json]

def OutputFormat.name : OutputFormat → String
  | .human => "human"
  | .json => "json"

/-- When log lines have colours. -/
inductive ColorChoice where
  | auto
  | always
  | never
deriving DecidableEq, Inhabited

def ColorChoice.all : List ColorChoice :=
  [.auto, .always, .never]

def ColorChoice.name : ColorChoice → String
  | .auto => "auto"
  | .always => "always"
  | .never => "never"

/-- A shell that completes command lines. -/
inductive Shell where
  | bash
  | zsh
  | fish
  | powershell
  | elvish
deriving DecidableEq, Inhabited

def Shell.all : List Shell :=
  [.bash, .zsh, .fish, .powershell, .elvish]

def Shell.name : Shell → String
  | .bash => "bash"
  | .zsh => "zsh"
  | .fish => "fish"
  | .powershell => "powershell"
  | .elvish => "elvish"

structure CheckArguments where
  trace : String
  plan : String
  checksum : Option String
  format : OutputFormat
deriving DecidableEq

structure ValidateArguments where
  files : List String
  /-- Whether warnings count as errors. -/
  strict : Bool
  format : OutputFormat
deriving DecidableEq

inductive Command where
  | check (arguments : CheckArguments)
  | validate (arguments : ValidateArguments)
  | completions (shell : Shell)
  | version (format : OutputFormat)
deriving DecidableEq

/-- A command with the way in which its work is reported. -/
structure Invocation where
  command : Command
  /-- How much more detail is asked for. -/
  verbosity : Nat
  quiet : Bool
  color : ColorChoice
  logFormat : OutputFormat
deriving DecidableEq

end PhaseAssertions
