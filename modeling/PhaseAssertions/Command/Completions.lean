import PhaseAssertions.CommandLine.Parameter

/-!
# Scripts that complete command lines

For each of the known shells a script is written that offers the commands, and
behind a command its options.
-/

namespace PhaseAssertions.Completions

open CommandLine

def longOption (parameter : Parameter) : String :=
  "--" ++ parameter.name

def shortOption? (parameter : Parameter) : Option String :=
  parameter.letter.map fun letter => "-" ++ letter.toString

def spellings (parameter : Parameter) : List String :=
  (shortOption? parameter).toList ++ [longOption parameter]

def options (spec : CommandSpec) : List Parameter :=
  spec.parameters.filter fun parameter => !parameter.positional

/-- The names that a parameter takes as values, if it takes names. -/
def choices (parameter : Parameter) : List String :=
  match parameter.action with
  | .set (.choice names) | .append (.choice names) => names
  | _ => []

def words (items : List String) : String :=
  " ".intercalate items

def single (text : String) : String :=
  "\x27" ++ text ++ "\x27"

def lines (items : List String) : String :=
  String.join (items.map (· ++ "\n"))

def commandNames : List String :=
  commandSpecs.map CommandSpec.name

/-- What a command offers: its options and the values of its parameters. -/
def offers (spec : CommandSpec) : List String :=
  (options spec).flatMap spellings ++ (spec.positionals.flatMap choices)

/-- The words offered after an option with a choice. -/
def bashChoice (parameter : Parameter) : List String :=
  if (choices parameter).isEmpty then []
  else
    [ "        " ++ "|".intercalate (spellings parameter) ++ ")",
      "            COMPREPLY=($(compgen -W \"" ++ words (choices parameter) ++
        "\" -- \"$current\"))",
      "            return 0 ;;" ]

def bash : String :=
  let branch (spec : CommandSpec) : List String :=
    [ "        " ++ spec.name ++ ")",
      "            offers=\"" ++ words (offers spec) ++ "\" ;;" ]
  lines <|
    [ "_" ++ programName ++ "() \x7b",
      "    local current=\"$\x7bCOMP_WORDS[COMP_CWORD]\x7d\"",
      "    local previous=\"$\x7bCOMP_WORDS[COMP_CWORD-1]\x7d\"",
      "    local offers=\"" ++ words (offers programSpec ++ commandNames) ++ "\"",
      "    case \"$previous\" in" ] ++
      (options checkSpec).flatMap bashChoice ++
      ["    esac", "    case \"$\x7bCOMP_WORDS[1]\x7d\" in"] ++
      commandSpecs.flatMap branch ++
      [ "    esac",
        "    COMPREPLY=($(compgen -f -W \"$offers\" -- \"$current\"))",
        "\x7d",
        "complete -F _" ++ programName ++ " " ++ programName ]

/-- One option in the notation of the shell `zsh`. -/
def zshOption (parameter : Parameter) : List String :=
  let values := choices parameter
  let ending :=
    if !parameter.action.takesValue then ""
    else if values.isEmpty then ":" ++ parameter.name ++ ":_files"
    else ":" ++ parameter.name ++ ":(" ++ words values ++ ")"
  (spellings parameter).map fun spelling =>
    "        " ++ single (spelling ++ "[" ++ parameter.purpose ++ "]" ++ ending) ++ " \\"

def zsh : String :=
  let branch (spec : CommandSpec) : List String :=
    ["    " ++ spec.name ++ ")", "        _arguments \\"] ++
      (options spec).flatMap zshOption ++
      [ "        " ++ single ("*:value:" ++
          (match spec.positionals.flatMap choices with
            | [] => "_files"
            | values => "(" ++ words values ++ ")")),
        "        ;;" ]
  lines <|
    [ "#compdef " ++ programName,
      "_" ++ programName ++ "() \x7b",
      "    case \"$words[2]\" in" ] ++
      commandSpecs.flatMap branch ++
      ["    *)", "        _arguments \\"] ++
      (options programSpec).flatMap zshOption ++
      [ "        " ++ single ("1:command:(" ++ words commandNames ++ ")"),
        "        ;;",
        "    esac",
        "\x7d",
        "compdef _" ++ programName ++ " " ++ programName ]

/-- One option in the notation of the shell `fish`. -/
def fishOption (condition : String) (parameter : Parameter) : String :=
  words <|
    ["complete -c", programName, "-n", "\"" ++ condition ++ "\""] ++
      (parameter.letter.toList.flatMap fun letter => ["-s", letter.toString]) ++
      ["-l", parameter.name, "-d", single parameter.purpose] ++
      if !parameter.action.takesValue then []
      else if (choices parameter).isEmpty then ["-r", "-F"]
      else ["-r", "-f", "-a", "\"" ++ words (choices parameter) ++ "\""]

def fish : String :=
  let command (spec : CommandSpec) : String :=
    words
      [ "complete -c", programName, "-n", "\"__fish_use_subcommand\"", "-f", "-a",
        "\"" ++ spec.name ++ "\"", "-d", single spec.purpose ]
  let branch (spec : CommandSpec) : List String :=
    let condition := "__fish_seen_subcommand_from " ++ spec.name
    (options spec).map (fishOption condition) ++
      (spec.positionals.flatMap choices).map fun value =>
        words
          [ "complete -c", programName, "-n", "\"" ++ condition ++ "\"", "-f", "-a",
            "\"" ++ value ++ "\"" ]
  lines <|
    (options programSpec).map (fishOption "__fish_use_subcommand") ++
      commandSpecs.map command ++ commandSpecs.flatMap branch

def powershell : String :=
  let offer (text kind purpose : String) : String :=
    "            [CompletionResult]::new(" ++ single text ++ ", " ++ single text ++
      ", [CompletionResultType]::" ++ kind ++ ", " ++ single purpose ++ ")"
  let option (parameter : Parameter) : List String :=
    (spellings parameter).map fun spelling => offer spelling "ParameterName" parameter.purpose
  let branch (spec : CommandSpec) : List String :=
    ["        " ++ single (programName ++ ";" ++ spec.name) ++ " \x7b"] ++
      (options spec).flatMap option ++ ["            break", "        \x7d"]
  lines <|
    [ "using namespace System.Management.Automation",
      "Register-ArgumentCompleter -Native -CommandName " ++ single programName ++
        " -ScriptBlock \x7b",
      "    param($wordToComplete, $commandAst, $cursorPosition)",
      "    $command = (@(" ++ single programName ++
        ") + @($commandAst.CommandElements | Select-Object -Skip 1 -First 1)) -join \x27;\x27",
      "    $completions = @(switch ($command) \x7b",
      "        " ++ single programName ++ " \x7b" ] ++
      (options programSpec).flatMap option ++
      (commandSpecs.map fun spec => offer spec.name "ParameterValue" spec.purpose) ++
      ["            break", "        \x7d"] ++
      commandSpecs.flatMap branch ++
      [ "    \x7d)",
        "    $completions.Where\x7b $_.CompletionText -like \"$wordToComplete*\" \x7d",
        "\x7d" ]

def elvish : String :=
  let offer (text purpose : String) : String :=
    "            cand " ++ text ++ " " ++ single purpose
  let option (parameter : Parameter) : List String :=
    (spellings parameter).map fun spelling => offer spelling parameter.purpose
  let branch (spec : CommandSpec) : List String :=
    ["        &" ++ single (programName ++ ";" ++ spec.name) ++ "= \x7b"] ++
      (options spec).flatMap option ++ ["        \x7d"]
  lines <|
    [ "use builtin;",
      "use str;",
      "set edit:completion:arg-completer[" ++ programName ++ "] = \x7b|@words|",
      "    fn cand \x7b|text desc|",
      "        edit:complex-candidate $text &display=$text\x27 \x27$desc",
      "    \x7d",
      "    var command = " ++ single programName,
      "    if (> (count $words) 2) \x7b set command = " ++ single programName ++
        "\x27;\x27$words[1] \x7d",
      "    var completions = [",
      "        &" ++ single programName ++ "= \x7b" ] ++
      (options programSpec).flatMap option ++
      (commandSpecs.map fun spec => offer spec.name spec.purpose) ++
      ["        \x7d"] ++ commandSpecs.flatMap branch ++
      ["    ]", "    $completions[$command]", "\x7d"]

def script : Shell → String
  | .bash => bash
  | .zsh => zsh
  | .fish => fish
  | .powershell => powershell
  | .elvish => elvish

end PhaseAssertions.Completions
