import RoutePattern.Proofs.Query.Search

/-! What a rule gets that shares the values with no other rule: all that it accepts if it may take
several, and else the first of them. -/
namespace RoutePattern.Query

section Texts

variable {rules : List Taker} {values : List String}

theorem getD_of_mem_admitted {value : String} {i : Nat} (h : (value, i) ∈ admitted rules values) :
    values.getD i "" = value := by
  have hzip : (value, i) ∈ values.zipIdx := (List.mem_filter.mp h).1
  rw [List.getD_eq_getElem?_getD, List.mem_zipIdx_iff_getElem?.mp hzip, Option.getD_some]

/-- The candidates are the numbers of the texts that some rule accepts. -/
theorem map_getD_candidates (rules : List Taker) (values : List String) :
    (candidates rules values).map (fun i => values.getD i "") = texts rules values := by
  rw [candidates, texts, List.map_map]
  exact List.map_congr_left fun e he => getD_of_mem_admitted he

theorem texts_singleton (rule : Taker) (values : List String) :
    texts [rule] values = values.filter rule.accepts := by
  have hone : (fun e : String × Nat => [rule].any (·.accepts e.1)) = rule.accepts ∘ Prod.fst := by
    funext e
    exact Bool.or_false _
  rw [texts, admitted]
  calc
    _ = (values.zipIdx.filter (rule.accepts ∘ Prod.fst)).map Prod.fst :=
      congrArg (fun p => (values.zipIdx.filter p).map Prod.fst) hone
    _ = (values.zipIdx.map Prod.fst).filter rule.accepts := List.filter_map.symm
    _ = values.filter rule.accepts := by rw [List.zipIdx_map_fst]

end Texts

namespace Taker

variable {rule : Taker} {left : List String} {c : Nat}

/-- How many values a rule takes of those that are left, if it accepts them all and no other rule wants
one. -/
def share (rule : Taker) (left : List String) : Nat :=
  if rule.multiple then left.length else min 1 left.length

theorem Takes.le_share (h : rule.Takes left c) : c ≤ rule.share left := by
  have hpresent := h.present
  rw [share]
  split
  · exact hpresent
  · next hone =>
    have honce := h.once (Bool.eq_false_iff.mpr hone)
    omega

theorem mayTake_share (hall : ∀ value ∈ left, rule.accepts value = true)
    (hneed : rule.required = true → left ≠ []) : rule.MayTake left (rule.share left) where
  present := by
    rw [share]
    split
    · exact Nat.le_refl _
    · exact Nat.min_le_right 1 _
  accepted value hvalue := hall value (List.mem_of_mem_take hvalue)
  once hone := by
    rw [share, if_neg (Bool.eq_false_iff.mp hone)]
    exact Nat.min_le_left 1 _
  idle hzero := by
    -- a rule takes nothing only where nothing is left
    have hnil : left = [] := by
      rw [← List.length_eq_zero_iff]
      rw [share] at hzero
      split at hzero
      · exact hzero
      · omega
    subst hnil
    exact ⟨Bool.eq_false_iff.mpr fun hrequired => hneed hrequired rfl, nofun⟩

end Taker

/-- A rule that has the values for itself takes its share of those that it accepts, and fails if it
requires a value and accepts none. -/
theorem assign?_singleton (rule : Taker) (values : List String) :
    assign? [rule] values =
      if rule.required = true ∧ values.filter rule.accepts = [] then none
      else some [(candidates [rule] values).take (rule.share (values.filter rule.accepts))] := by
  have hall : ∀ value ∈ values.filter rule.accepts, rule.accepts value = true :=
    fun value hvalue => (List.mem_filter.mp hvalue).2
  have hspec := assign?_spec [rule] values
  cases hassigned : assign? [rule] values with
  | none =>
    rw [hassigned] at hspec
    refine (if_pos ?_).symm
    by_contra hnot
    rw [not_and] at hnot
    -- its share alone would be a division
    have hmay := Taker.mayTake_share hall hnot
    rw [← texts_singleton] at hmay
    exact hspec _ (.cons hmay (.nil _))
  | some runs =>
    rw [hassigned] at hspec
    obtain ⟨trail, hj, hlength, rfl⟩ := hspec
    obtain ⟨c, rfl⟩ := List.length_eq_one_iff.mp hlength
    cases hj with
    | cons _ hr hmay hmore =>
      cases hr
      rw [List.sum_nil, List.drop_zero, texts_singleton] at hmay
      have hneed : ¬ (rule.required = true ∧ values.filter rule.accepts = []) := by
        intro hx
        obtain ⟨hrequired, hnil⟩ := hx
        have hzero : c = 0 := by
          have hpresent := hmay.present
          rw [hnil] at hpresent
          exact Nat.le_zero.mp hpresent
        have hidle := (hmay.idle hzero).1
        rw [hrequired] at hidle
        cases hidle
      -- nothing stands behind the rule that could keep it from taking more
      have hle : rule.share (values.filter rule.accepts) ≤ c := by
        by_contra hlt
        have hshare := Taker.mayTake_share hall (not_and.mp hneed)
        rw [← texts_singleton] at hshare
        have hdead := hmore _ (Nat.lt_of_not_le (texts_singleton rule values ▸ hlt)) hshare
        exact hdead [] (.nil _)
      rw [if_neg hneed, Nat.le_antisymm hmay.toTakes.le_share hle]
      simp

end RoutePattern.Query
