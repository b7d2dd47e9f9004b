/-!
Patterns of URLs: a path of literal text, delimiters, params and optional groups, and rules for the
arguments of the query.
-/
namespace RoutePattern

/-- What the value of a param or of a query argument is held to. -/
inductive Constraint
  | any
  /-- a kind that is registered under a name -/
  | kind (name : String)
  /-- a regex written in place -/
  | regex (text : String)
deriving DecidableEq

def Constraint.kind? : Constraint → Option String
  | kind name => some name
  | _ => none

def Constraint.regex? : Constraint → Option String
  | regex text => some text
  | _ => none

/-- A named stretch of the path. `choices` is empty or holds two texts at least, one of which the value
must be; `occurrence` counts the params of the same name before it. -/
structure Param where
  name : String
  constraint : Constraint := .any
  default : Option String := none
  choices : List String := []
  occurrence : Nat := 0
deriving DecidableEq

/-- A part of a path. -/
inductive Node
  | literal (text : String)
  | delimiter
  | param (p : Param)
  | option (children : List Node)

/-- What a query may or must give under a name. -/
structure QueryRule where
  name : String
  constraint : Constraint := .any
  required : Bool := false
  multiple : Bool := false
  default : Option String := none
  choices : List String := []
deriving DecidableEq

mutual
/-- The params of a part of a path, from left to right. -/
def Node.params : Node → List Param
  | .literal _ | .delimiter => []
  | .param p => [p]
  | .option children => Node.paramsOf children
termination_by structural node => node

/-- The params of a path, from left to right. -/
def Node.paramsOf : List Node → List Param
  | [] => []
  | node :: rest => node.params ++ Node.paramsOf rest
termination_by structural nodes => nodes
end

/-- A pattern, with the text it was read from. -/
structure Pattern where
  source : String
  path : List Node
  query : List QueryRule

namespace Pattern

def params (p : Pattern) : List Param := Node.paramsOf p.path

/-- The names of the params, each where it first occurs. -/
def paramNames (p : Pattern) : List String :=
  p.params.foldl (fun names q => if names.contains q.name then names else names ++ [q.name]) []

/-- The number of params of a name. -/
def occurrences (p : Pattern) (name : String) : Nat :=
  p.params.countP (·.name == name)

end Pattern

end RoutePattern
