import Mathlib.Logic.Basic
import RoutePattern.Proofs.Regex.Runs
import RoutePattern.Regex.State

/-! The groups that terms have: putting terms together keeps the groups of each, and of repetitions only
those are lost that may not happen at all. -/
namespace RoutePattern.Regex

namespace Term

/-- Whether the indices of all groups of a term satisfy a condition. -/
def Indices (P : Nat → Prop) : Term → Prop
  | empty | set _ | look _ => True
  | cat a b | alt a b => a.Indices P ∧ b.Indices P
  | rep t _ _ _ => t.Indices P
  | group i t => P i ∧ t.Indices P

variable {P : Nat → Prop} {t : Term} {ts : List Term} {n : Nat}

theorem noGroup_iff : t.NoGroup ↔ t.Indices fun _ => False := by
  induction t with
  | empty | set s | look l => exact Iff.rfl
  | cat a b iha ihb => exact and_congr iha ihb
  | alt a b iha ihb => exact and_congr iha ihb
  | rep t low high greedy ih => exact ih
  | group i t => exact ⟨False.elim, fun h => h.1⟩

theorem lastGroup_le_iff : t.lastGroup ≤ n ↔ t.Indices (· ≤ n) := by
  induction t with
  | empty | set s | look l => exact iff_true_intro (Nat.zero_le n)
  | cat a b iha ihb => exact Nat.max_le.trans (and_congr iha ihb)
  | alt a b iha ihb => exact Nat.max_le.trans (and_congr iha ihb)
  | rep t low high greedy ih => exact ih
  | group i t ih => exact Nat.max_le.trans (and_congr Iff.rfl ih)

theorem Indices.mono {Q : Nat → Prop} (h : t.Indices P) (hPQ : ∀ i, P i → Q i) : t.Indices Q := by
  induction t with
  | empty | set s | look l => trivial
  | cat a b iha ihb => exact ⟨iha h.1, ihb h.2⟩
  | alt a b iha ihb => exact ⟨iha h.1, ihb h.2⟩
  | rep t low high greedy ih => exact ih h
  | group i t ih => exact ⟨hPQ i h.1, ih h.2⟩

theorem NoGroup.lastGroup_eq (h : t.NoGroup) : t.lastGroup = 0 :=
  Nat.le_zero.mp (lastGroup_le_iff.mpr ((noGroup_iff.mp h).mono fun _ => False.elim))

theorem indices_ofFactors : (ofFactors ts).Indices P ↔ ∀ t ∈ ts, t.Indices P := by
  induction ts with
  | nil => exact iff_of_true trivial nofun
  | cons t rest ih =>
    rw [List.forall_mem_cons, ← ih]
    cases rest with
    | nil => exact (and_iff_left trivial).symm
    | cons u rest => exact Iff.rfl

theorem indices_factors : (∀ u ∈ t.factors, u.Indices P) ↔ t.Indices P := by
  induction t with
  | empty => exact iff_of_true nofun trivial
  | cat a b iha ihb => rw [factors, List.forall_mem_append, iha, ihb, Indices]
  | _ => exact List.forall_mem_singleton

theorem indices_concat : (concat ts).Indices P ↔ ∀ t ∈ ts, t.Indices P := by
  rw [concat, indices_ofFactors, List.forall_mem_flatMap]
  exact forall₂_congr fun t _ => indices_factors

theorem indices_ofBranches : (ofBranches ts).Indices P ↔ ∀ t ∈ ts, t.Indices P := by
  induction ts with
  | nil => exact iff_of_true trivial nofun
  | cons t rest ih =>
    rw [List.forall_mem_cons, ← ih]
    cases rest with
    | nil => exact (and_iff_left trivial).symm
    | cons u rest => exact Iff.rfl

theorem indices_branches : (∀ u ∈ t.branches, u.Indices P) ↔ t.Indices P := by
  induction t with
  | alt a b iha ihb => rw [branches, List.forall_mem_append, iha, ihb, Indices]
  | _ => exact List.forall_mem_singleton

theorem indices_of_set?_isSome (h : t.set?.isSome = true) : t.Indices P := by
  cases t with
  | set s => trivial
  | _ => cases h

/-- What terms have in front is common to all of them, and what is left belongs to one of them. -/
theorem indices_of_prefix {start : List (List Term)} (hne : ts ≠ [])
    (h : ∀ t ∈ ts, start <+: chunks t.factors) :
    (∀ t ∈ ts, t.Indices P) ↔ (∀ u ∈ start.flatten, u.Indices P) ∧
      ∀ t ∈ ts, (concat ((chunks t.factors).drop start.length).flatten).Indices P := by
  have hsplit (t : Term) (ht : t ∈ ts) : t.Indices P ↔ (∀ u ∈ start.flatten, u.Indices P) ∧
      (concat ((chunks t.factors).drop start.length).flatten).Indices P := by
    obtain ⟨more, hmore⟩ := h t ht
    have hflat : (chunks t.factors).flatten = t.factors := flatten_chunks
    rw [← hmore, List.flatten_append] at hflat
    rw [← hmore, List.drop_left, indices_concat, ← List.forall_mem_append, hflat, indices_factors]
  rw [forall₂_congr hsplit]
  constructor
  · intro hall
    obtain ⟨t, ht⟩ := List.exists_mem_of_ne_nil ts hne
    exact ⟨(hall t ht).1, fun t ht => (hall t ht).2⟩
  · exact fun hall t ht => ⟨hall.1, hall.2 t ht⟩

theorem indices_alternationWithin (fuel : Nat) :
    (alternationWithin fuel ts).Indices P ↔ ∀ t ∈ ts, t.Indices P := by
  have hbranches (ts : List Term) :
      (∀ u ∈ ts.flatMap branches, u.Indices P) ↔ ∀ t ∈ ts, t.Indices P := by
    rw [List.forall_mem_flatMap]
    exact forall₂_congr fun t _ => indices_branches
  -- along the fuel, as for what the alternation matches
  induction fuel generalizing ts with
  | zero => rw [alternationWithin, indices_ofBranches, hbranches]
  | succ fuel ih =>
    rw [← hbranches, alternationWithin]
    generalize ts.flatMap branches = bs
    dsimp only
    split
    · exact iff_of_true trivial (List.forall_mem_nil _)
    · exact List.forall_mem_singleton.symm
    · next _ hnil _ =>
      split_ifs with hsets
      · refine iff_of_true trivial fun t ht => indices_of_set?_isSome ?_
        rcases Bool.or_eq_true_iff.mp hsets with hall | hall
        · exact set?_isSome_of_isChar (List.all_eq_true.mp hall t ht)
        · obtain ⟨s, hs, -⟩ := (Option.any_eq_true _ _).mp (List.all_eq_true.mp hall t ht)
          rw [hs]
          rfl
      · split
        · exact indices_ofBranches
        · have hstart := sharedStart_isPrefix (bs.map fun t => chunks t.factors)
          rw [List.forall_mem_map] at hstart
          rw [indices_concat, List.forall_mem_append, List.forall_mem_singleton,
            indices_of_prefix hnil hstart, List.map_map]
          refine and_congr_right fun _ => ih.trans ?_
          rw [List.forall_mem_map]
          exact Iff.rfl

theorem indices_repeated {low : Nat} {high : Option Nat} {greedy : Bool} :
    (t.repeated low high greedy).Indices P ↔ high = some 0 ∨ t.Indices P := by
  -- a single repetition of what takes no characters keeps whether there may be one
  have hhigh : (if t.isVoid then some (min (high.getD 1) 1) else high) = some 0 ↔
      high = some 0 := by
    cases high with
    | none => cases t.isVoid <;> decide
    | some n =>
      cases t.isVoid
      · exact Iff.rfl
      · simp only [if_true, Option.getD_some, Option.some.injEq]
        omega
  rw [repeated, ← hhigh]
  generalize (if t.isVoid then min low 1 else low) = low
  generalize (if t.isVoid then some (min (high.getD 1) 1) else high) = high
  split
  · next h => exact iff_of_true trivial (Or.inl h)
  · next h =>
    rw [or_iff_right h]
    split <;> rfl

end Term

variable {P : Nat → Prop} {items : List Item} {level : Level}

theorem indices_itemConcat :
    (Item.concat items).term.Indices P ↔ ∀ item ∈ items, item.term.Indices P := by
  match items with
  | [] => exact iff_of_true trivial nofun
  | [item] => simp only [Item.concat, List.forall_mem_singleton]
  | first :: second :: more =>
    refine Term.indices_concat.trans ?_
    rw [List.forall_mem_map]
    exact forall_congr' fun item => imp_congr_left List.mem_reverse

theorem indices_itemAlternation :
    (Item.alternation items).term.Indices P ↔ ∀ item ∈ items, item.term.Indices P := by
  refine (Term.indices_alternationWithin _).trans ?_
  rw [List.forall_mem_map]
  exact forall_congr' fun item => imp_congr_left List.mem_reverse

theorem indices_close :
    level.close.term.Indices P ↔ ∀ item ∈ level.branches ++ level.items, item.term.Indices P := by
  have hlast : (Item.concat level.items).term.Indices P ↔
      ∀ item ∈ level.items, item.term.Indices P := indices_itemConcat
  rw [List.forall_mem_append, ← hlast, Level.close]
  split
  · next h => rw [h, and_iff_right (List.forall_mem_nil _)]
  · rw [indices_itemAlternation, List.forall_mem_cons, and_comm]

end RoutePattern.Regex
