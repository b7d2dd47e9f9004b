import RoutePattern.Text.Decimal

/-!
Values of bindings, and bindings as lists of named values in the order in which the names came up.
-/
namespace RoutePattern

/-- A value that a name can be bound to. -/
inductive Value
  | null
  | bool (b : Bool)
  | int (n : Int)
  | float (x : Binary64)
  | text (s : String)
  | array (items : List Value)
  | object (entries : List (String × Value))

/-- Named values. A name occurs once. -/
abbrev Bindings := List (String × Value)

namespace Value

/-- The entries of an object. -/
def entries? : Value → Option Bindings
  | object entries => some entries
  | _ => none

/-- The text of a value in a URL; empty for a value without parts to write. -/
def scalarText : Value → String
  | text s => s
  | bool b => if b then "true" else "false"
  | int n => toString n
  | float x =>
    if x.isZero then "0" else if x.isFinite then String.ofList x.text else ""
  | null | array _ | object _ => ""

end Value

namespace Bindings

/-- The value of a name. -/
def get? (b : Bindings) (name : String) : Option Value :=
  (b.find? (·.1 == name)).map (·.2)

/-- Binds a name, where it stands if it is bound already and else at the end. -/
def put (b : Bindings) (name : String) (v : Value) : Bindings :=
  match b with
  | [] => [(name, v)]
  | (other, u) :: rest =>
    if other = name then (other, v) :: rest else (other, u) :: put rest name v

/-- The names that are bound. -/
def names (b : Bindings) : List String := b.map (·.1)

theorem get?_put_self (b : Bindings) (name : String) (v : Value) :
    (b.put name v).get? name = some v := by
  induction b with
  | nil => simp [put, get?]
  | cons e rest ih =>
    obtain ⟨other, u⟩ := e
    unfold put
    split
    · next h => simp [get?, h]
    · next h =>
      have hne : (other == name) = false := by simpa using h
      simp only [get?, List.find?_cons, hne] at ih ⊢
      exact ih

theorem get?_put_of_ne (b : Bindings) {name other : String} (v : Value) (h : other ≠ name) :
    (b.put name v).get? other = b.get? other := by
  induction b with
  | nil => simp [put, get?, Ne.symm h]
  | cons e rest ih =>
    obtain ⟨first, u⟩ := e
    unfold put
    split
    · next hf =>
      subst hf
      simp [get?, Ne.symm h]
    · simp only [get?, List.find?_cons] at ih ⊢
      split
      · rfl
      · exact ih

end Bindings

end RoutePattern
