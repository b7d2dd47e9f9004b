import RoutePattern.Bindings.Path
import RoutePattern.Pattern.Basic
import RoutePattern.Text.Percent

/-!
URLs built from a pattern and arguments: the path with the values of its params, and a query of the
arguments that no param stands for.
-/
namespace RoutePattern

open Text (Percent.encode)

/-- The value of a param; none if it is absent or empty. Of an array the param takes the element with
the number of its occurrence; another value is that of the first occurrence alone. -/
def Param.value? (p : Param) (args : Bindings) : Option String := do
  let v ← match ← args.lookup? p.name with
    | .array items => items[p.occurrence]?
    | v => if p.occurrence = 0 then some v else none
  if v.scalarText.isEmpty then none else return v.scalarText

/-- The value of a param, or its default; empty without both. -/
def Param.resolved (p : Param) (args : Bindings) : String :=
  ((p.value? args).orElse fun _ => p.default).getD ""

mutual
/-- The text of a part of a path, and whether it is a param without a value. A group in which a param
lacks its value, groups within it aside, is left out. -/
def Node.build (args : Bindings) : Node → List Char × Bool
  | .literal text => (Percent.encode text.toList, false)
  | .delimiter => (['/'], false)
  | .param p => (Percent.encode (p.resolved args).toList, (p.resolved args).isEmpty)
  | .option children =>
    (if (Node.buildAll args children).2 then [] else (Node.buildAll args children).1, false)
termination_by structural node => node

/-- The text of a path, and whether a param in it lacks its value. -/
def Node.buildAll (args : Bindings) : List Node → List Char × Bool
  | [] => ([], false)
  | node :: rest =>
    ((node.build args).1 ++ (Node.buildAll args rest).1,
      (node.build args).2 || (Node.buildAll args rest).2)
termination_by structural nodes => nodes
end

/-- One argument of a query. -/
structure QueryPair where
  key : String
  value : String

namespace Pattern

/-- Whether a param stands for an argument: under its whole name, or under the first segment of its
name. -/
def owns (p : Pattern) (name : String) : Bool :=
  p.params.any fun q => q.name == name ||
    (q.name.toList.contains '.' && (segments q.name).head? == some name)

/-- The arguments for the query, in order. Arrays give one for each element; empty texts are left
out. -/
def leftover (p : Pattern) (args : Bindings) : List QueryPair :=
  (args.filter fun (name, _) => !p.owns name).flatMap fun (name, v) =>
    let values := match v with
      | .array items => items.map Value.scalarText
      | v => [v.scalarText]
    (values.filter (· ≠ "")).map (⟨name, ·⟩)

/-- The written form of an argument of the query. -/
def written (pair : QueryPair) : List Char :=
  Percent.encode pair.key.toList ++ '=' :: Percent.encode pair.value.toList

/-- The URL for the arguments. -/
def build (p : Pattern) (args : Bindings) : String :=
  let path := (Node.buildAll args p.path).1
  match p.leftover args with
  | [] => String.ofList path
  | pairs => String.ofList (path ++ '?' :: ['&'].intercalate (pairs.map written))

end Pattern

end RoutePattern
