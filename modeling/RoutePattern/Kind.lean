import Std.Data.ExtTreeMap
import RoutePattern.Error
import RoutePattern.Regex.Basic

/-!
Kinds: named regexes without groups that values can be held to.
-/
namespace RoutePattern

/-- Whether a text can be put into a regex without changing the numbers of its groups. -/
def isFragment (text : String) : Bool :=
  (Regex.ofText? s!"(?:{text})").any (·.groups = 0)

/-- A kind. `exact` matches the values that the fragment matches as a whole. -/
structure Kind where
  name : String
  fragment : String
  exact : Regex
  name_ne : name ≠ ""
  isFragment : RoutePattern.isFragment fragment = true
  exact_eq : Regex.ofText? s!"^(?:{fragment})$" = some exact

namespace Kind

theorem ext_iff_fields {a b : Kind} : a = b ↔ a.name = b.name ∧ a.fragment = b.fragment := by
  constructor
  · rintro rfl
    exact ⟨rfl, rfl⟩
  · obtain ⟨n, f, e, _, _, h⟩ := a
    obtain ⟨n', f', e', _, _, h'⟩ := b
    rintro ⟨rfl : n = n', rfl : f = f'⟩
    have : e = e' := Option.some.inj (h.symm.trans h')
    subst this
    rfl

instance : DecidableEq Kind := fun _ _ => decidable_of_iff _ ext_iff_fields.symm

/-- The kind with a name and a fragment. -/
def make (name fragment : String) : Except Error Kind :=
  if h : name ≠ "" ∧ RoutePattern.isFragment fragment = true then
    match hr : Regex.ofText? s!"^(?:{fragment})$" with
    | some exact => .ok ⟨name, fragment, exact, h.1, h.2, hr⟩
    | none => .error (.invalidKind name fragment)
  else .error (.invalidKind name fragment)

theorem make_eq_ok {name fragment : String} {k : Kind} (h : make name fragment = .ok k) :
    k.name = name ∧ k.fragment = fragment := by
  unfold make at h
  split at h
  · split at h
    · cases h
      exact ⟨rfl, rfl⟩
    · cases h
  · cases h

/-- Whether a value as a whole is of the kind. -/
def accepts (k : Kind) (value : String) : Bool := k.exact.isMatch value

end Kind

/-- The kinds that are registered, by name. -/
abbrev Kinds := Std.ExtTreeMap String Kind

namespace Kinds

/-- Registers a kind in the place of the one with its name, if there is one. -/
def register (ks : Kinds) (name fragment : String) : Except Error Kinds :=
  (Kind.make name fragment).map fun k => ks.insert k.name k

/-- The kind of a name. -/
def resolve (ks : Kinds) (name : String) : Except Error Kind :=
  match ks[name]? with
  | some k => .ok k
  | none => .error (.unknownKind name)

end Kinds

end RoutePattern
