import RoutePattern.Options.Basic
import RoutePattern.Options.Json

/-!
Options as JSON texts: an object whose missing members keep their defaults, or an array that gives the
options in order and may end early. Members with other names are passed over.
-/
namespace RoutePattern.Options

/-- The value of a member, `none` if it is missing. A member that is there twice or that is no truth
value spoils the options. -/
def member? (name : String) (members : List (Option String × Json)) : Option (Option Bool) :=
  match members.filter (·.1 = some name) with
  | [] => some none
  | [(_, .bool b)] => some (some b)
  | _ => none

/-- The options that a JSON value stands for. -/
def ofJson? : Json → Option Options
  | .object members => do
    if members.any (·.1.isNone) then none
    let defaults : Options := {}
    return {
      ignoreCase := (← member? "ignore_case" members).getD defaults.ignoreCase
      anchorStart := (← member? "anchor_start" members).getD defaults.anchorStart
      anchorEnd := (← member? "anchor_end" members).getD defaults.anchorEnd }
  | .array [] => some {}
  | .array [.bool a] => some { ignoreCase := a }
  | .array [.bool a, .bool b] => some { ignoreCase := a, anchorStart := b }
  | .array [.bool a, .bool b, .bool c] =>
    some { ignoreCase := a, anchorStart := b, anchorEnd := c }
  | _ => none

/-- The options that a text spells. -/
def ofText? (text : String) : Option Options := (Json.ofText? text).bind ofJson?

/-- The options as a text. -/
def text (o : Options) : String :=
  s!"\x7b\"ignore_case\":{o.ignoreCase},\"anchor_start\":{o.anchorStart},\"anchor_end\":{o.anchorEnd}\x7d"

end RoutePattern.Options
