import PhaseAssertions.Json.Value
import PhaseAssertions.Window.Basic

/-!
# Window stacks as JSON values

The written form of window stacks, with every field given.
-/

namespace PhaseAssertions

def WindowState.json (window : WindowState) : Json.Value :=
  .object
    [ ("title", .str window.title), ("kind", .str window.kind.name),
      ("visible", .bool window.visible) ]

def WindowManagerEntry.json (entry : WindowManagerEntry) : Json.Value :=
  .object
    [ ("timestamp", .int entry.timestamp.toInt),
      ("windows", .array (entry.windows.map WindowState.json)) ]

end PhaseAssertions
