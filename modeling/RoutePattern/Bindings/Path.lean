import RoutePattern.Bindings.Value
import RoutePattern.Text.Split

/-!
Dotted names: a name with dots leads through objects, segment by segment, to the value it stands for.
-/
namespace RoutePattern

/-- The segments of a dotted name. -/
def segments (name : String) : List String :=
  (Text.splitAll '.' name.toList).map String.ofList

namespace Bindings

/-- Changes the value at the end of a path of segments by `change`, which is given what is bound there.
On the way, objects are made where there are none. -/
def alter (change : Option Value → Value) : List String → Bindings → Bindings
  | [], b => b
  | [key], b => b.put key (change (b.get? key))
  | key :: rest, b =>
    let inner := ((b.get? key).bind Value.entries?).getD []
    b.put key (.object (alter change rest inner))

/-- Binds a dotted name, whatever it was bound to. -/
def assign (b : Bindings) (name : String) (v : Value) : Bindings :=
  b.alter (fun _ => v) (segments name)

/-- What becomes of a value when another text, or its absence, is collected with it. -/
def collected (old : Option Value) (new : Option String) : Value :=
  match new, old with
  | none, none => .null
  | none, some v => v
  | some s, none | some s, some .null => .text s
  | some s, some (.array items) => .array (items ++ [.text s])
  | some s, some v => .array [v, .text s]

/-- Collects a text under a dotted name: the first stands alone, several make up an array. Absence is
noted only if nothing is bound. -/
def collect (b : Bindings) (name : String) (new : Option String) : Bindings :=
  b.alter (collected · new) (segments name)

/-- The value at the end of a path of segments. -/
def descend? : List String → Bindings → Option Value
  | [], _ => none
  | [key], b => b.get? key
  | key :: rest, b => ((b.get? key).bind Value.entries?).bind (descend? rest)

/-- The value of a dotted name. A name that is bound as a whole comes first. -/
def lookup? (b : Bindings) (name : String) : Option Value :=
  match b.get? name with
  | some v => some v
  | none => descend? (segments name) b

end Bindings

end RoutePattern
