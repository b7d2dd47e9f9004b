import RoutePattern.Kind
import RoutePattern.Pattern.Basic

/-!
Query rules with the check on their values compiled.
-/
namespace RoutePattern

/-- A query rule, and the regex that its values have to match as a whole, if they are held to one. -/
structure QuerySlot where
  rule : QueryRule
  check : Option Regex

namespace QuerySlot

/-- The regex that values are held to by their choices or their constraint. -/
def body (rule : QueryRule) (kinds : Kinds) : Except Error (Option (List Char)) :=
  if rule.choices.isEmpty then
    match rule.constraint with
    | .any => .ok none
    | .kind name => (kinds.resolve name).map fun k => some k.fragment.toList
    | .regex text => .ok (some text.toList)
  else .ok (some (['|'].intercalate (rule.choices.map fun c => Regex.escape c.toList)))

/-- Compiles a rule. -/
def make (rule : QueryRule) (kinds : Kinds) (ignoreCase : Bool) : Except Error QuerySlot := do
  match ← body rule kinds with
  | none => return ⟨rule, none⟩
  | some body =>
    let text := String.ofList
      ((if ignoreCase then "(?i)".toList else []) ++ "^(?:".toList ++ body ++ ")$".toList)
    match Regex.ofText? text with
    | some check => return ⟨rule, some check⟩
    | none => .error (.invalidRegex text .malformed)

/-- Whether a value may be assigned to the rule. -/
def accepts (s : QuerySlot) (value : String) : Bool :=
  s.check.all fun check => check.isMatch value

end QuerySlot

end RoutePattern
