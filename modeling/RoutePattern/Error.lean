import RoutePattern.Text.Quoted

/-!
What can be wrong with a pattern or a kind, and how it is said.
-/
namespace RoutePattern

/-- The ways in which the text of a pattern can be malformed. -/
inductive Fault
  | unexpectedCharacter
  | unbalancedGroup
  | emptyGroup
  | unterminatedEscape
  | emptyRegex
  | unterminatedRegex
  | colonExpected
  | unterminatedParam
  | emptyKind
  | emptyName
  | emptyChoice
deriving DecidableEq

def Fault.reason : Fault → String
  | unexpectedCharacter => "Unexpected character"
  | unbalancedGroup => "Unbalanced group"
  | emptyGroup => "Empty group"
  | unterminatedEscape => "Unterminated escape"
  | emptyRegex => "Empty regex"
  | unterminatedRegex => "Unterminated regex"
  | colonExpected => "Expected ':' after regex"
  | unterminatedParam => "Unterminated param"
  | emptyKind => "Empty kind"
  | emptyName => "Empty name"
  | emptyChoice => "Empty choice"

/-- Why a generated regex cannot be used: it is no regex, or it has groups beside those of the params. -/
inductive RegexFault
  | malformed
  | groupCount (expected found : Nat)
deriving DecidableEq

/-- The reason in words; a malformed regex is not explained. -/
def RegexFault.reason? : RegexFault → Option String
  | malformed => none
  | groupCount expected found => some s!"expected {expected} capture groups, found {found}"

/-- An error in a pattern or a kind. Offsets count bytes of the pattern. -/
inductive Error
  | malformed (fault : Fault) (pattern : String) (offset : Nat)
  | unknownKind (name : String)
  | invalidKind (name fragment : String)
  | invalidRegex (pattern : String) (fault : RegexFault)
deriving DecidableEq

namespace Error

/-- Whether the text of a pattern is malformed. -/
def isMalformed : Error → Bool
  | malformed .. => true
  | _ => false

/-- The text at fault. -/
def pattern? : Error → Option String
  | malformed _ pattern _ | invalidRegex pattern _ => some pattern
  | _ => none

def quoted (text : String) : String := String.ofList (Text.Quoted.encode text.toList)

/-- The error in words, unless it is a malformed regex. -/
def message? : Error → Option String
  | malformed fault pattern offset =>
    some s!"Syntax error: {fault.reason} at offset {offset} in {quoted pattern}"
  | unknownKind name => some s!"Unknown kind: {name}"
  | invalidKind name fragment => some s!"Invalid kind {name}: {quoted fragment}"
  | invalidRegex pattern fault =>
    fault.reason?.map fun reason => s!"Invalid regex {quoted pattern}: {reason}"

end Error

end RoutePattern
