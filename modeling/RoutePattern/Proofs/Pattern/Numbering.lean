import Mathlib.Data.List.Chain
import RoutePattern.Proofs.Pattern.Acceptance

/-! What the grammar says of the trees that are read: how their params are numbered, and that
literal text reaches as far as it can. -/
namespace RoutePattern.Pattern

open Grammar

variable {before : List String} {nodes : List Node} {source : List Char} {i : Nat} {q : Param}

/-- A param is numbered by the params of its name to its left. -/
theorem Grammar.PathText.occurrence_eq_count (h : PathText before nodes source)
    (hq : (Node.paramsOf nodes)[i]? = some q) :
    q.occurrence = (before ++ ((Node.paramsOf nodes).take i).map (·.name)).count q.name := by
  induction h generalizing i with
  | nil => cases hq
  | literal _ _ _ _ ih => exact ih hq
  | delimiter _ ih => exact ih hq
  | @option before _ _ children nodes _ _ _ ihchildren ihnodes =>
    have hparams : Node.paramsOf (.option children :: nodes) =
        Node.paramsOf children ++ Node.paramsOf nodes := rfl
    rw [hparams] at hq ⊢
    by_cases hi : i < (Node.paramsOf children).length
    · rw [List.getElem?_append_left hi] at hq
      rw [List.take_append_of_le_length (Nat.le_of_lt hi)]
      exact ihchildren hq
    · have hle : (Node.paramsOf children).length ≤ i := Nat.le_of_not_lt hi
      rw [List.getElem?_append_right hle] at hq
      rw [List.take_append, List.take_of_length_le hle, List.map_append, ← List.append_assoc]
      exact ihnodes hq
  | @param before _ _ p nodes hparam _ ih =>
    have hparams : Node.paramsOf (.param p :: nodes) = p :: Node.paramsOf nodes := rfl
    rw [hparams] at hq ⊢
    cases i with
    | zero =>
      obtain rfl : p = q := Option.some.inj hq
      obtain ⟨hhead, hgiven⟩ := hparam
      rw [List.take_zero, List.map_nil, List.append_nil]
    | succ i =>
      have hcount := ih hq
      rw [List.append_assoc] at hcount
      exact hcount

/-- Whether two parts of a path are both literal text. -/
def BothLiteral : Node → Node → Prop
  | .literal _, .literal _ => True
  | _, _ => False

/-- Literal text has no other one beside it. -/
theorem Grammar.PathText.isChain (h : PathText before nodes source) :
    nodes.IsChain fun a b => ¬ BothLiteral a b := by
  have hcons {a : Node} {nodes : List Node} (ha : ∀ b ∈ nodes.head?, ¬ BothLiteral a b)
      (hnodes : nodes.IsChain fun a b => ¬ BothLiteral a b) :
      (a :: nodes).IsChain fun a b => ¬ BothLiteral a b := List.isChain_cons.mpr ⟨ha, hnodes⟩
  induction h with
  | nil => exact .nil
  | literal _ _ _ hnext ih =>
    refine hcons ?_ ih
    intro b hb hboth
    cases b with
    | literal other =>
      obtain ⟨more, rfl⟩ := List.head?_eq_some_iff.mp hb
      exact hnext other more rfl
    | _ => exact hboth
  | delimiter _ ih => exact hcons (fun b _ => id) ih
  | option _ _ _ _ ih => exact hcons (fun b _ => id) ih
  | param _ _ ih => exact hcons (fun b _ => id) ih

theorem patternText_of_read {text : String} {p : Pattern} (h : read text = .ok p) :
    PatternText p.path p.query text.toList := by
  rw [read] at h
  cases hparts : readParts text.toList with
  | error e =>
    rw [hparts] at h
    cases h
  | ok parts =>
    rw [hparts] at h
    cases h
    exact patternText_of_readParts hparts

theorem pathText_of_read {text : String} {p : Pattern} (h : read text = .ok p) :
    ∃ source, PathText [] p.path source := by
  have htext := patternText_of_read h
  generalize text.toList = source at htext
  obtain ⟨hpath, -⟩ := htext
  exact ⟨_, hpath⟩

/-- The params of a pattern that was read are numbered from left to right, those of each name on
their own. -/
theorem occurrence_eq_count {text : String} {p : Pattern} (h : read text = .ok p)
    (hq : p.params[i]? = some q) :
    q.occurrence = ((p.params.take i).map (·.name)).count q.name := by
  obtain ⟨source, hpath⟩ := pathText_of_read h
  exact hpath.occurrence_eq_count hq

end RoutePattern.Pattern
