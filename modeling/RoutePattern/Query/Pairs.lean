import RoutePattern.Bindings.Path
import RoutePattern.Text.Percent

/-!
Queries as they are written in URLs: pairs of a key and a value, of which several may have one key.
-/
namespace RoutePattern.Query

open Text (splitAll splitFirst)

/-- The path of a URL, and the query behind its first question mark. -/
def splitUrl (url : String) : String × Option String :=
  let (path, query) := splitFirst '?' url.toList
  (String.ofList path, query.map String.ofList)

/-- One pair; without an equals sign the value is empty. -/
def pair (segment : List Char) : String × String :=
  let (key, value) := splitFirst '=' segment
  (String.ofList (Text.Percent.decodeQuery key),
    String.ofList (Text.Percent.decodeQuery (value.getD [])))

/-- The pairs of a query. Nothing stands between two ampersands without text. -/
def pairs (query : String) : List (String × String) :=
  ((splitAll '&' query.toList).filter (· ≠ [])).map pair

/-- Adds a value to those of its key. -/
def addValue (groups : List (String × List String)) (pair : String × String) :
    List (String × List String) :=
  match groups with
  | [] => [(pair.1, [pair.2])]
  | (key, values) :: rest =>
    if key = pair.1 then (key, values ++ [pair.2]) :: rest else (key, values) :: addValue rest pair

/-- The keys in the order in which they first occur, each with its values in order. -/
def group (pairs : List (String × String)) : List (String × List String) :=
  pairs.foldl addValue []

/-- The values of a key. -/
def valuesOf (groups : List (String × List String)) (key : String) : List String :=
  ((groups.find? (·.1 == key)).map (·.2)).getD []

/-- What a key is bound to: its value, or the array of its values if it has several. -/
def bound (values : List String) : Value :=
  match values with
  | [value] => .text value
  | _ => .array (values.map .text)

/-- The bindings of a query without rules. Keys are dotted names; pairs without a key are left out. -/
def bindings (query : String) : Bindings :=
  ((group (pairs query)).filter (·.1 ≠ "")).foldl (fun b (key, values) => b.assign key (bound values))
    []

end RoutePattern.Query
