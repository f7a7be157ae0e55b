import PhaseAssertions.CommandLine.Parameter
import PhaseAssertions.Json.Value
import PhaseAssertions.Window.Assertion

/-!
# The command that prints the version

Along with the version go the names of the assertions that plans can use.
-/

namespace PhaseAssertions.Version

def number : String :=
  "0.1.0"

def assertions : List String :=
  WindowAssertion.all.map WindowAssertion.name

/-- The version as it is printed. -/
def output : OutputFormat → String
  | .human =>
    CommandLine.programName ++ " " ++ number ++ "\nassertions: " ++
      ", ".intercalate assertions ++ "\n"
  | .json =>
    let members : List (String × Json.Value) :=
      [ ("name", .str CommandLine.programName), ("version", .str number),
        ("assertions", .array (assertions.map .str)) ]
    (Json.Value.object members).compact ++ "\n"

end PhaseAssertions.Version
