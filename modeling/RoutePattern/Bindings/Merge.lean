import RoutePattern.Bindings.Value

/-!
Laying bindings over others.
-/
namespace RoutePattern

mutual
/-- A value laid over another one: objects are joined, and a null hides nothing. -/
def Value.laidOver (under : Option Value) : Value → Value
  | .object entries =>
    match under with
    | some (.object base) => .object (Bindings.merge base entries)
    | _ => .object entries
  | .null => under.getD .null
  | .bool b => .bool b
  | .int n => .int n
  | .float x => .float x
  | .text s => .text s
  | .array items => .array items
termination_by structural v => v

/-- One binding laid over others. -/
def Bindings.mergeEntry (base : Bindings) : String × Value → Bindings
  | (name, v) => base.put name (Value.laidOver (base.get? name) v)
termination_by structural entry => entry

/-- Bindings with others laid over them. -/
def Bindings.merge (base : Bindings) : List (String × Value) → Bindings
  | [] => base
  | entry :: rest => Bindings.merge (Bindings.mergeEntry base entry) rest
termination_by structural top => top
end

end RoutePattern
