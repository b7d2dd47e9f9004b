import RoutePattern.Proofs.Build.Literal
import RoutePattern.Proofs.Build.Url

/-! The pieces that a text is cut into along a path, and where they end. -/
namespace RoutePattern

open Text

/-- A param without a default, whose name has no dots. -/
structure Param.Simple (p : Param) : Prop where
  default : p.default = none
  name : '.' ∉ p.name.toList

/-- A param that takes any text within a segment, and whose name has no dots. -/
structure Param.Bare (p : Param) : Prop where
  any : p.constraint = .any
  default : p.default = none
  choices : p.choices = []
  name : '.' ∉ p.name.toList

theorem Param.Bare.simple {p : Param} (h : p.Bare) : p.Simple := ⟨h.default, h.name⟩

theorem Param.Bare.values_eq {p : Param} (h : p.Bare) (kinds : Kinds) :
    p.values kinds = withinSegment := by
  rw [values, h.choices, h.any]
  rfl

/-- The value that a param is given, if it is given one. -/
def Param.given? (p : Param) (args : Bindings) : Option String :=
  if p.resolved args = "" then none else some (p.resolved args)

section Cuts

variable {kinds : Kinds} {nodes rest : List Node} {p q : Param} {v w x y z : List Char}
  {vs : List (Option String)}

theorem paramsOf_param : Node.paramsOf (.param p :: rest) = p :: Node.paramsOf rest := rfl

theorem paramsOf_option {children : List Node} :
    Node.paramsOf [.option children] = Node.paramsOf children :=
  List.append_nil _

theorem mem_paramsOf (h : .param q ∈ nodes) : q ∈ Node.paramsOf nodes := by
  obtain ⟨before, after, rfl⟩ := List.append_of_mem h
  induction before with
  | nil => exact List.mem_append_left _ List.mem_cons_self
  | cons node before ih =>
    exact List.mem_append_right _ (ih (List.mem_append_right _ List.mem_cons_self))

theorem cutAll_option {children : List Node} (h : Node.CutAll kinds [.option children] w vs) :
    Node.CutAll kinds children w vs ∨
      w = [] ∧ vs = List.replicate (Node.paramsOf children).length none := by
  obtain ⟨u, us, v, vs', hcut, ⟨rfl, rfl⟩, rfl, rfl⟩ := h
  rw [List.append_nil, List.append_nil]
  exact hcut

theorem cutAll_delimiter (h : Node.CutAll kinds (.delimiter :: rest) w vs) :
    ∃ v, Node.CutAll kinds rest v vs ∧ w = '/' :: v := by
  obtain ⟨u, us, v, vs', ⟨rfl, rfl⟩, hcut, rfl, rfl⟩ := h
  exact ⟨v, hcut, rfl⟩

theorem cutAll_literal {text : String} (h : Node.CutAll kinds (.literal text :: rest) w vs) :
    ∃ u v, u ∈ spellings text.toList ∧ Node.CutAll kinds rest v vs ∧ w = u ++ v := by
  obtain ⟨u, us, v, vs', ⟨hu, rfl⟩, hcut, rfl, rfl⟩ := h
  exact ⟨u, v, hu, hcut, rfl⟩

theorem cutAll_param (h : Node.CutAll kinds (.param p :: rest) w vs) :
    ∃ u v vs', u ∈ p.values kinds ∧ Node.CutAll kinds rest v vs' ∧ w = u ++ v ∧
      vs = some (String.ofList u) :: vs' := by
  obtain ⟨u, us, v, vs', ⟨hu, rfl⟩, hcut, rfl, rfl⟩ := h
  exact ⟨u, v, vs', hu, hcut, rfl, rfl⟩

/-- A text that is empty or begins with a slash. -/
def AtSlash (w : List Char) : Prop := ∀ c ∈ w.head?, c = '/'

theorem atSlash_nil : AtSlash [] := nofun

theorem atSlash_cons : AtSlash ('/' :: w) := by
  rintro c ⟨⟩
  rfl

theorem AtSlash.eq_nil (h : AtSlash (z ++ w)) (hz : '/' ∉ z) : z = [] := by
  cases z with
  | nil => rfl
  | cons c z => exact absurd (h c rfl) (Ne.symm (not_or.mp (mt List.mem_cons.mpr hz)).1)

/-- Texts without slashes end where one of them is followed by a slash or nothing. -/
theorem AtSlash.append_inj (hv : AtSlash v) (hw : AtSlash w) (hx : '/' ∉ x) (hy : '/' ∉ y)
    (h : x ++ v = y ++ w) : x = y ∧ v = w := by
  rcases List.append_eq_append_iff.mp h with ⟨z, rfl, rfl⟩ | ⟨z, rfl, rfl⟩
  · rw [hv.eq_nil fun hm => hy (List.mem_append_right _ hm), List.append_nil]
    exact ⟨rfl, rfl⟩
  · rw [hw.eq_nil fun hm => hx (List.mem_append_right _ hm), List.append_nil]
    exact ⟨rfl, rfl⟩

end Cuts

end RoutePattern
