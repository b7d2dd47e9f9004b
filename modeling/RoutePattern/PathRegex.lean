import RoutePattern.Kind
import RoutePattern.Options.Basic
import RoutePattern.Pattern.Basic
import RoutePattern.Text.Percent

/-!
The regex of a path: every param is a group, in the order of the params.
-/
namespace RoutePattern

open Text (Percent.encodeChar)

/-- The regex for a character of literal text. It matches the character and, if that is another text,
its written form, whose digits may be small where case does not count. -/
def charRegex (ignoreCase : Bool) (c : Char) : List Char :=
  let raw := Regex.escape [c]
  let written := Percent.encodeChar c
  let small := written.map Char.toLower
  if written = [c] then raw
  else
    "(?:".toList ++ raw ++ '|' :: written ++
      (if ignoreCase && small ≠ written then '|' :: small else []) ++ [')']

/-- The regex for literal text. -/
def literalRegex (ignoreCase : Bool) (text : String) : List Char :=
  text.toList.flatMap (charRegex ignoreCase)

/-- The regex for one of several literal texts. -/
def choicesRegex (ignoreCase : Bool) (choices : List String) : List Char :=
  "(?:".toList ++ ['|'].intercalate (choices.map (literalRegex ignoreCase)) ++ [')']

/-- The regex for the value of a param. Without a constraint it is any text within a segment. -/
def Param.regex (p : Param) (kinds : Kinds) (ignoreCase : Bool) : Except Error (List Char) :=
  if p.choices.isEmpty then
    match p.constraint with
    | .any => .ok "[^/]+?".toList
    | .kind name => (kinds.resolve name).map (·.fragment.toList)
    | .regex text => .ok text.toList
  else .ok (choicesRegex ignoreCase p.choices)

mutual
/-- The regex for a part of a path. -/
def Node.regex (kinds : Kinds) (ignoreCase : Bool) : Node → Except Error (List Char)
  | .literal text => .ok (literalRegex ignoreCase text)
  | .delimiter => .ok ['/']
  | .param p => (p.regex kinds ignoreCase).map fun body => '(' :: body ++ [')']
  | .option children =>
    (Node.regexOf kinds ignoreCase children).map fun body => "(?:".toList ++ body ++ [')', '?']
termination_by structural node => node

/-- The regex for a path. -/
def Node.regexOf (kinds : Kinds) (ignoreCase : Bool) : List Node → Except Error (List Char)
  | [] => .ok []
  | node :: rest => do
    let first ← node.regex kinds ignoreCase
    let more ← Node.regexOf kinds ignoreCase rest
    return first ++ more
termination_by structural nodes => nodes
end

/-- The text of the regex for a path under the options. -/
def Pattern.regexText (p : Pattern) (kinds : Kinds) (options : Options) : Except Error String :=
  (Node.regexOf kinds options.ignoreCase p.path).map fun body =>
    String.ofList
      ((if options.ignoreCase then "(?i)".toList else []) ++
        (if options.anchorStart then ['^'] else []) ++ body ++
        (if options.anchorEnd then ['$'] else []))

/-- The regex of a path, and the names of its groups. -/
structure PathRegex where
  regex : Regex
  groups : List String

/-- The regex for a path. Its groups must be those of the params. -/
def Pattern.pathRegex (p : Pattern) (kinds : Kinds) (options : Options) : Except Error PathRegex := do
  let text ← p.regexText kinds options
  match Regex.ofText? text with
  | none => .error (.invalidRegex p.source .malformed)
  | some regex =>
    let groups := p.params.map (·.name)
    if regex.groups = groups.length then .ok ⟨regex, groups⟩
    else .error (.invalidRegex p.source (.groupCount groups.length regex.groups))

end RoutePattern
