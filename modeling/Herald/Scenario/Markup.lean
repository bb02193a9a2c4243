import Herald.Markup.Sanitize
import Herald.Scenario.Request

set_option autoImplicit false

/-!
The markup operation of the scenario runner: strip markup from a text.
-/

namespace Herald.Scenario

open Json

/-- `sanitize {input}`: the text left after markup removal. -/
def sanitize (req : Json) : Except Json Json := do
  let input ← textArg req "input"
  return .obj [("output", .str (Markup.stripMarkup input))]

end Herald.Scenario
