import RoutePattern.Proofs.Path.Fragments
import RoutePattern.Proofs.Path.Marks
import RoutePattern.Proofs.Regex.Fragment
import RoutePattern.Proofs.Regex.Whole

/-! What the items that are read of a path are made of: a group for each param, and no groups of their
own between these. -/
namespace RoutePattern

open Regex State

/-- Whether the fragment of a param, if it has one, is a regex on its own, and opens no group. -/
def Param.Ungrouped (p : Param) (kinds : Kinds) : Prop :=
  ∀ text, p.fragment? kinds = some text →
    (read? text.toList).isSome = true ∧ opened? text.toList = some 0

instance (p : Param) (kinds : Kinds) : Decidable (p.Ungrouped kinds) :=
  inferInstanceAs (Decidable (∀ text ∈ p.fragment? kinds,
    (read? text.toList).isSome = true ∧ opened? text.toList = some 0))

/-- How the items that are read of a part of a path are laid out, where groups are counted from one
number to another. Each param is listed with the index of its group. -/
inductive Laid (kinds : Kinds) (fold : Bool) : Nat → List Item → Nat → List (Nat × Param) → Prop
  | plain {g : Nat} {items : List Item} (hgroups : ∀ item ∈ items, item.term.NoGroup) :
    Laid kinds fold g items g []
  | group {g g' : Nat} {p : Param} {body : Item} (hlt : g < g')
    (hindices : p.Ungrouped kinds → body.term.Indices fun i => g < i ∧ i ≤ g')
    (hchoices : p.choices ≠ [] →
      Consumes body.term.Runs (eitherOf (choiceForms fold p.choices))) :
    Laid kinds fold g [grouped (some (g + 1)) body] g' [(g + 1, p)]
  | append {g g' g'' : Nat} {items others : List Item} {slots later : List (Nat × Param)}
    (first : Laid kinds fold g items g' slots) (rest : Laid kinds fold g' others g'' later) :
    Laid kinds fold g (items ++ others) g'' (slots ++ later)
  | optional {g g' : Nat} {items : List Item} {slots : List (Nat × Param)}
    (inner : Laid kinds fold g items g' slots) :
    Laid kinds fold g [optionalItem (Item.concat items.reverse)] g' slots

section Optional

variable {P : Nat → Prop} {items : List Item} {x y : Spot}

theorem indices_optionalItem : (optionalItem (Item.concat items.reverse)).term.Indices P ↔
    ∀ item ∈ items, item.term.Indices P := by
  have hconcat : (Item.concat items.reverse).term.Indices P ↔
      ∀ item ∈ items.reverse, item.term.Indices P := indices_itemConcat
  simp only [List.mem_reverse] at hconcat
  exact hconcat

theorem runs_optionalItem : (optionalItem (Item.concat items.reverse)).term.Runs x y ↔
    y = x ∨ Term.RunsAll (items.map Item.term) x y := by
  rw [optionalItem, Term.runs_optional, runs_itemConcat, List.reverse_reverse]

end Optional

section Increasing

variable {l : List Nat} {a g m k i : Nat}

theorem add_length_le (h : (a :: l).Pairwise (· < ·)) (hle : ∀ i ∈ a :: l, i ≤ m) :
    a + l.length ≤ m := by
  induction l generalizing a with
  | nil => exact hle a List.mem_cons_self
  | cons b l ih =>
    obtain ⟨hlt, hl⟩ := List.pairwise_cons.mp h
    have hstep := ih hl fun i hi => hle i (List.mem_cons_of_mem a hi)
    have hab := hlt b List.mem_cons_self
    rw [List.length_cons]
    omega

/-- Increasing numbers that are no more than there is room for follow each other. -/
theorem eq_of_increasing (h : l.Pairwise (· < ·)) (hlt : ∀ i ∈ l, g < i)
    (hle : ∀ i ∈ l, i ≤ g + l.length) (hi : l[k]? = some i) : i = g + k + 1 := by
  induction l generalizing g k with
  | nil => cases hi
  | cons a l ih =>
    have hfirst : a = g + 1 := by
      have hroom := add_length_le h hle
      have hga := hlt a List.mem_cons_self
      rw [List.length_cons] at hroom
      omega
    cases k with
    | zero =>
      obtain rfl : a = i := Option.some.inj hi
      exact hfirst
    | succ k =>
      obtain ⟨habove, hl⟩ := List.pairwise_cons.mp h
      have hnext := ih (g := g + 1) hl (fun j hj => hfirst ▸ habove j hj)
        (fun j hj => by
          have hj := hle j (List.mem_cons_of_mem a hj)
          rw [List.length_cons] at hj
          omega) hi
      omega

end Increasing

section Group

variable {text : List Char} {cur : Cursor} {t : Term} {L : Language Char} {marks m : Marks} {z : Spot}
  {g : Nat} {v : String}

/-- A group whose body consumes texts, and makes no marks of its own then, holds one of these texts. -/
theorem mem_of_group?_of_consumes (hconsumes : Consumes t.Runs L) (hon : cur.On text)
    (hz : t.Runs (cur, (2 * (g + 1), cur.offset) :: m) z)
    (hmarked : z.2 = marks ++ (2 * (g + 1), cur.offset) :: m)
    (hv : (Captures.mk text ((2 * (g + 1) + 1, z.1.offset) ::
      (marks ++ [(2 * (g + 1), cur.offset)]))).group? (g + 1) = some v) : v.toList ∈ L := by
  obtain ⟨w, hw, cur', hp, rfl⟩ := (hconsumes _ _ z).mp hz
  obtain rfl : marks = [] := List.append_left_eq_self.mp hmarked.symm
  have hnotes := (notes_group (g := g) hon hp).groups 0 _ rfl
  rw [Nat.add_zero] at hnotes
  obtain rfl : String.ofList w = v := Option.some.inj (hnotes.symm.trans hv)
  rw [String.toList_ofList]
  exact hw

end Group

namespace Laid

variable {kinds : Kinds} {fold : Bool} {g g' n : Nat} {items : List Item}
  {slots : List (Nat × Param)}

theorem le (h : Laid kinds fold g items g' slots) : g ≤ g' := by
  induction h with
  | plain => exact Nat.le_refl _
  | group hlt => exact Nat.le_of_lt hlt
  | append _ _ ihfirst ihrest => exact ihfirst.trans ihrest
  | optional _ ih => exact ih

theorem bounds (h : Laid kinds fold g items g' slots) : ∀ s ∈ slots, g < s.1 ∧ s.1 ≤ g' := by
  induction h with
  | plain => exact nofun
  | group hlt =>
    rw [List.forall_mem_singleton]
    exact ⟨Nat.lt_succ_self _, hlt⟩
  | append first rest ihfirst ihrest =>
    rw [List.forall_mem_append]
    refine ⟨fun s hs => ?_, fun s hs => ?_⟩
    · exact ⟨(ihfirst s hs).1, (ihfirst s hs).2.trans rest.le⟩
    · exact ⟨Nat.lt_of_le_of_lt first.le (ihrest s hs).1, (ihrest s hs).2⟩
  | optional _ ih => exact ih

/-- The groups come in the order of the params. -/
theorem increasing (h : Laid kinds fold g items g' slots) :
    (slots.map Prod.fst).Pairwise (· < ·) := by
  induction h with
  | plain => exact .nil
  | group => exact List.pairwise_singleton _ _
  | append first rest ihfirst ihrest =>
    rw [List.map_append, List.pairwise_append, List.forall_mem_map]
    refine ⟨ihfirst, ihrest, fun s hs => ?_⟩
    rw [List.forall_mem_map]
    exact fun s' hs' => Nat.lt_of_le_of_lt (first.bounds s hs).2 (rest.bounds s' hs').1
  | optional _ ih => exact ih

/-- The group of each param is one of the items. -/
theorem le_of_indices (h : Laid kinds fold g items g' slots)
    (hn : ∀ item ∈ items, item.term.Indices (· ≤ n)) : ∀ s ∈ slots, s.1 ≤ n := by
  induction h with
  | plain => exact nofun
  | group =>
    rw [List.forall_mem_singleton] at hn ⊢
    exact hn.1
  | append _ _ ihfirst ihrest =>
    rw [List.forall_mem_append] at hn ⊢
    exact ⟨ihfirst hn.1, ihrest hn.2⟩
  | optional _ ih =>
    rw [List.forall_mem_singleton, indices_optionalItem] at hn
    exact ih hn

/-- If there are as many groups as params, they are numbered in the order of these. -/
theorem index_eq {i j : Nat} {q : Param} (h : Laid kinds fold 0 items g' slots)
    (hn : ∀ item ∈ items, item.term.Indices (· ≤ slots.length)) (hi : slots[i]? = some (j, q)) :
    j = i + 1 := by
  have hget : (slots.map Prod.fst)[i]? = some j := by
    rw [List.getElem?_map, hi]
    rfl
  have hpos : ∀ j ∈ slots.map Prod.fst, 0 < j := by
    rw [List.forall_mem_map]
    exact fun s hs => (h.bounds s hs).1
  have hle : ∀ j ∈ slots.map Prod.fst, j ≤ 0 + (slots.map Prod.fst).length := by
    rw [List.forall_mem_map, List.length_map, Nat.zero_add]
    exact h.le_of_indices hn
  have hindex := eq_of_increasing h.increasing hpos hle hget
  rwa [Nat.zero_add] at hindex

/-- A match of the items marks groups that were counted only. If the group of a param with choices is
among these, its text is one that a choice is found as. -/
theorem sound (h : Laid kinds fold g items g' slots) (hfree : ∀ s ∈ slots, s.2.Ungrouped kinds)
    {text : List Char} {x y : Spot} (hon : x.1.On text)
    (hr : Term.RunsAll (items.map Item.term) x y) :
    y.1.On text ∧ ∃ marks, y.2 = marks ++ x.2 ∧ (∀ mark ∈ marks, g < mark.1 / 2 ∧ mark.1 / 2 ≤ g') ∧
      ∀ s ∈ slots, s.2.choices ≠ [] → ∀ v, (Captures.mk text marks).group? s.1 = some v →
        v.toList ∈ eitherOf (choiceForms fold s.2.choices) := by
  -- each part adds its marks in front of the earlier ones, and reads its groups from its own marks only
  induction h generalizing x y with
  | plain hgroups =>
    have hindices : ∀ t ∈ List.map Item.term _, t.Indices fun _ => False :=
      List.forall_mem_map.mpr fun item hi => Term.noGroup_iff.mp (hgroups item hi)
    obtain ⟨w, marks, hw, hy, hmarks, -⟩ := adds_runsAll hindices x y hr
    exact ⟨hon.passes hw, marks, hy, fun mark hm => (hmarks mark hm).elim, nofun⟩
  | @group g g' p body hlt hindices hchoices =>
    rw [List.forall_mem_singleton] at hfree
    obtain ⟨z, hz, rfl⟩ : ∃ z, body.term.Runs (x.1, (2 * (g + 1), x.1.offset) :: x.2) z ∧
      y = (z.1, (2 * (g + 1) + 1, z.1.offset) :: z.2) := Term.runsAll_singleton.mp hr
    obtain ⟨w, marks, hw, hmarked, hrange, -⟩ := Term.adds_runs (hindices hfree) _ z hz
    have hstart : 2 * (g + 1) / 2 = g + 1 := by omega
    have hstop : (2 * (g + 1) + 1) / 2 = g + 1 := by omega
    refine ⟨hon.passes hw, (2 * (g + 1) + 1, z.1.offset) :: (marks ++ [(2 * (g + 1), x.1.offset)]),
      ?_, ?_, ?_⟩
    · rw [hmarked, List.cons_append, List.append_assoc]
      rfl
    · rw [List.forall_mem_cons, List.forall_mem_append, List.forall_mem_singleton, hstart, hstop]
      exact ⟨⟨Nat.lt_succ_self g, hlt⟩, hrange, Nat.lt_succ_self g, hlt⟩
    · rw [List.forall_mem_singleton]
      intro hne v hv
      exact mem_of_group?_of_consumes (hchoices hne) hon hz hmarked hv
  | append first rest ihfirst ihrest =>
    rw [List.forall_mem_append] at hfree
    rw [List.map_append] at hr
    obtain ⟨z, hz, hy⟩ := Term.runsAll_append.mp hr
    obtain ⟨hmid, marks, hmarked, hrange, hslots⟩ := ihfirst hfree.1 hon hz
    obtain ⟨hend, later, hmarked', hrange', hslots'⟩ := ihrest hfree.2 hmid hy
    refine ⟨hend, later ++ marks, ?_, ?_, ?_⟩
    · rw [hmarked', hmarked, List.append_assoc]
    · rw [List.forall_mem_append]
      refine ⟨fun mark hm => ?_, fun mark hm => ?_⟩
      · exact ⟨Nat.lt_of_le_of_lt first.le (hrange' mark hm).1, (hrange' mark hm).2⟩
      · exact ⟨(hrange mark hm).1, (hrange mark hm).2.trans rest.le⟩
    · -- the marks of one part are none of the groups of the other one
      rw [List.forall_mem_append]
      refine ⟨fun s hs hne v hv => ?_, fun s hs hne v hv => ?_⟩
      · have hother : ∀ mark ∈ later, mark.1 / 2 ≠ s.1 := fun mark hm =>
          Nat.ne_of_gt (Nat.lt_of_le_of_lt (first.bounds s hs).2 (hrange' mark hm).1)
        rw [group?_append_left hother] at hv
        exact hslots s hs hne v hv
      · have hother : ∀ mark ∈ marks, mark.1 / 2 ≠ s.1 := fun mark hm =>
          Nat.ne_of_lt (Nat.lt_of_le_of_lt (hrange mark hm).2 (rest.bounds s hs).1)
        rw [group?_append_right hother] at hv
        exact hslots' s hs hne v hv
  | optional inner ih =>
    rcases runs_optionalItem.mp (Term.runsAll_singleton.mp hr) with rfl | hr
    · refine ⟨hon, [], rfl, nofun, fun s _ _ v hv => ?_⟩
      rw [group?_nil] at hv
      cases hv
    · exact ih hfree hon hr

end Laid

end RoutePattern
