import RoutePattern.Proofs.Rule.Making
import RoutePattern.Proofs.Text.Percent

/-! What URLs are built of, and that they are split where they were put together. -/
namespace RoutePattern

open Text

variable {args : Bindings} {c : Char}

theorem slash_not_mem_encode (text : List Char) : '/' ∉ Percent.encode text :=
  Percent.not_mem_encode (by decide) (by decide)

section Parts

variable {rest children : List Node}

theorem Node.buildAll_literal (text : String) :
    (Node.buildAll args (.literal text :: rest)).1 =
      Percent.encode text.toList ++ (Node.buildAll args rest).1 := rfl

theorem Node.buildAll_delimiter :
    (Node.buildAll args (.delimiter :: rest)).1 = '/' :: (Node.buildAll args rest).1 := rfl

theorem Node.buildAll_param (p : Param) :
    (Node.buildAll args (.param p :: rest)).1 =
      Percent.encode (p.resolved args).toList ++ (Node.buildAll args rest).1 := rfl

/-- A group is left out if it lacks a value. -/
theorem Node.buildAll_option :
    (Node.buildAll args [.option children]).1 =
      if (Node.buildAll args children).2 then [] else (Node.buildAll args children).1 :=
  List.append_nil _

end Parts

mutual
/-- The text of a path is made of written texts and slashes. -/
theorem Node.mem_build (node : Node) (h : c ∈ (node.build args).1) :
    Percent.isKept c = true ∨ c = '%' ∨ c = '/' := by
  cases node with
  | literal text => exact (Percent.isKept_or_of_mem_encode h).imp_right Or.inl
  | delimiter => exact Or.inr (Or.inr (List.mem_singleton.mp h))
  | param p => exact (Percent.isKept_or_of_mem_encode h).imp_right Or.inl
  | option children =>
    rw [Node.build] at h
    split at h
    · cases h
    · exact Node.mem_buildAll children h
termination_by structural node

theorem Node.mem_buildAll (nodes : List Node) (h : c ∈ (Node.buildAll args nodes).1) :
    Percent.isKept c = true ∨ c = '%' ∨ c = '/' := by
  cases nodes with
  | nil => cases h
  | cons node rest =>
    rcases List.mem_append.mp h with h | h
    · exact Node.mem_build node h
    · exact Node.mem_buildAll rest h
termination_by structural nodes
end

theorem Node.mark_not_mem_buildAll (nodes : List Node) : '?' ∉ (Node.buildAll args nodes).1 := by
  intro h
  rcases Node.mem_buildAll nodes h with h | h | h
  · exact absurd h (by decide)
  · cases h
  · cases h

namespace Pattern

variable {p : Pattern}

/-- The text of the query, if there is one. -/
def queryText? (p : Pattern) (args : Bindings) : Option (List Char) :=
  match p.leftover args with
  | [] => none
  | pairs => some (['&'].intercalate (pairs.map written))

theorem toList_build : (p.build args).toList =
    (Node.buildAll args p.path).1 ++ (p.queryText? args).elim [] ('?' :: ·) := by
  rw [build, queryText?]
  cases p.leftover args with
  | nil => exact String.toList_ofList.trans (List.append_nil _).symm
  | cons pair pairs => exact String.toList_ofList

theorem splitUrl_build_eq : Query.splitUrl (p.build args) =
    (String.ofList (Node.buildAll args p.path).1, (p.queryText? args).map String.ofList) := by
  have hmark : '?' ∉ (Node.buildAll args p.path).1 := Node.mark_not_mem_buildAll p.path
  rw [Query.splitUrl, toList_build]
  cases p.queryText? args with
  | none => rw [Option.elim_none, List.append_nil, splitFirst_of_not_mem hmark]
  | some text => rw [Option.elim_some, splitFirst_append_cons hmark]

/-- The path of a built URL is the text of the pattern's path, and there is a query only if
arguments are left for it. -/
theorem splitUrl_build (p : Pattern) (args : Bindings) :
    (Query.splitUrl (p.build args)).1 = String.ofList (Node.buildAll args p.path).1 ∧
      (p.leftover args = [] → (Query.splitUrl (p.build args)).2 = none) := by
  rw [splitUrl_build_eq]
  refine ⟨rfl, fun hleft => ?_⟩
  rw [queryText?, hleft]
  rfl

end Pattern

/-- A path has all its values if none of the params outside of its groups is empty. -/
theorem Node.buildAll_eq_false_iff {nodes : List Node} :
    (Node.buildAll args nodes).2 = false ↔ ∀ q, .param q ∈ nodes → q.resolved args ≠ "" := by
  induction nodes with
  | nil => exact ⟨nofun, fun _ => rfl⟩
  | cons node rest ih =>
    have hnode : (node.build args).2 = false ↔ ∀ q, .param q = node → q.resolved args ≠ "" := by
      cases node with
      | param p =>
        rw [Node.build, String.isEmpty_eq_false_iff]
        constructor
        · rintro h q ⟨⟩
          exact h
        · exact fun h => h p rfl
      | _ => exact ⟨nofun, fun _ => rfl⟩
    rw [Node.buildAll, Bool.or_eq_false_iff, hnode, ih]
    simp only [List.mem_cons, or_imp, forall_and]

end RoutePattern
