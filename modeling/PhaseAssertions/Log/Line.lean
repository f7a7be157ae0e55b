import PhaseAssertions.Json.Value
import PhaseAssertions.Log.Record

/-!
# Log lines

A record is written on one line, either for people, in colour if that is asked
for, or as a JSON object.  The time of the record is given as a text.
-/

namespace PhaseAssertions.Log

/-- How records are written. -/
structure LineStyle where
  json : Bool
  /-- Whether lines for people have colours. -/
  color : Bool
  target : Bool
deriving DecidableEq

/-- A text between the codes that switch a rendition of the terminal on and off. -/
def rendered (color : Bool) (code : String) (text : String) : String :=
  if color then "\x1b[" ++ code ++ "m" ++ text ++ "\x1b[0m" else text

def dim : String :=
  "2"

def italic : String :=
  "3"

def Level.colorCode : Level → String
  | .error => "31"
  | .warn => "33"
  | .info => "32"
  | .debug => "34"
  | .trace => "35"

/-- The level with blanks in front, so that all are of the same width. -/
def Level.paddedLabel (level : Level) : String :=
  let label := level.label
  String.ofList (List.replicate (5 - label.length) ' ') ++ label

def fieldText (color : Bool) (field : String × FieldValue) : String :=
  rendered color italic field.1 ++ rendered color dim "=" ++ field.2.text

namespace Record

def text (record : Record) (style : LineStyle) (time : String) : String :=
  let target :=
    if style.target then
      rendered style.color dim record.target ++ rendered style.color dim ":" ++ " "
    else
      ""
  rendered style.color dim time ++ " " ++
    rendered style.color record.level.colorCode record.level.paddedLabel ++ " " ++
    target ++
    " ".intercalate (record.message :: record.fields.map (fieldText style.color))

def fieldJson : FieldValue → Json.Value
  | .quoted value => .str value
  | .plain value => .str value
  | .number value => .int value
  | .bool value => .bool value

/-- The record as a JSON object without its time. -/
def members (record : Record) (style : LineStyle) : List (String × Json.Value) :=
  [ ("level", .str record.level.label),
    ( "fields",
      .object
        (("message", .str record.message) ::
          record.fields.map fun field => (field.1, fieldJson field.2)) ) ] ++
    if style.target then [("target", .str record.target)] else []

def line (record : Record) (style : LineStyle) (time : String) : String :=
  if style.json then
    (Json.Value.object (("timestamp", .str time) :: record.members style)).compact
  else
    record.text style time

end Record

end PhaseAssertions.Log
