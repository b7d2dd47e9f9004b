import Mathlib.Data.List.Perm.Subperm
import RoutePattern.Proofs.Router.Failure
import Std.Data.String.ToNat

/-! Names for rules that come without one. The search for a name ends, since no more numbers can be in use
than there are rules, and no number is used twice. -/
namespace RoutePattern.Router

variable {α : Type} {r : Router α}

/-- Different numbers are written differently. -/
theorem numberedName_injective : Function.Injective fun k : Nat => s!"rule_{k}" := by
  intro j k h
  have htext : "rule_" ++ j.repr = "rule_" ++ k.repr := h
  rw [String.append_right_inj, Nat.repr_inj] at htext
  exact htext

section Search

/-- The search from a number on that has no bound comes to an end: after so many tries, at a number whose
name is not in the index. -/
inductive Tries (r : Router α) : Nat → Nat → Nat → Prop
  | free {id : Nat} : r.index.contains s!"rule_{id}" = false → Tries r id 1 id
  | next {id n k : Nat} :
    r.index.contains s!"rule_{id}" = true → Tries r (id + 1) n k → Tries r id (n + 1) k

theorem Tries.not_contains {id n k : Nat} (h : Tries r id n k) :
    r.index.contains s!"rule_{k}" = false := by
  induction h with
  | free hfree => exact hfree
  | next _ _ ih => exact ih

/-- A search that is bounded ends where the one without a bound does, unless all that it tries is in use. -/
theorem tries_or_contains (r : Router α) (fuel id : Nat) :
    (∃ n k, Tries r id n k ∧ n ≤ fuel + 1 ∧ r.freshName fuel id = (s!"rule_{k}", k + 1)) ∨
      ∀ i < fuel + 1, r.index.contains s!"rule_{id + i}" = true := by
  induction fuel generalizing id with
  | zero =>
    cases hid : r.index.contains s!"rule_{id}" with
    | false => exact Or.inl ⟨1, id, .free hid, Nat.le_refl 1, rfl⟩
    | true =>
      refine Or.inr fun i hi => ?_
      obtain rfl : i = 0 := Nat.lt_one_iff.mp hi
      exact hid
  | succ fuel ih =>
    rw [freshName]
    cases hid : r.index.contains s!"rule_{id}" with
    | false => exact Or.inl ⟨1, id, .free hid, by omega, rfl⟩
    | true =>
      rw [if_pos rfl]
      rcases ih (id + 1) with ⟨n, k, htries, hn, hname⟩ | hall
      · exact Or.inl ⟨n + 1, k, .next hid htries, by omega, hname⟩
      · refine Or.inr fun i hi => ?_
        cases i with
        | zero => exact hid
        | succ i =>
          have hshift : id + 1 + i = id + (i + 1) := by omega
          rw [← hshift]
          exact hall i (by omega)

theorem Consistent.contains_iff (h : Consistent r) {name : String} :
    r.index.contains name = true ↔ name ∈ r.rules.map (·.name) := by
  rw [Std.ExtTreeMap.contains_eq_isSome_getElem?, Option.isSome_iff_exists, List.mem_iff_getElem?]
  exact exists_congr fun slot => h.index name slot

/-- There are not enough rules to use one number more than there are of them. -/
theorem Consistent.exists_not_contains (h : Consistent r) (id : Nat) :
    ∃ i < r.rules.length + 1, r.index.contains s!"rule_{id + i}" = false := by
  by_contra hnone
  simp only [not_exists, not_and, Bool.not_eq_false] at hnone
  let names := (List.range (r.rules.length + 1)).map fun i => s!"rule_{id + i}"
  have hnodup : names.Nodup :=
    List.nodup_range.map fun i j heq => Nat.add_left_cancel (numberedName_injective heq)
  have hsubset : names ⊆ r.rules.map (·.name) := by
    intro name hname
    obtain ⟨i, hi, rfl⟩ := List.mem_map.mp hname
    exact h.contains_iff.mp (hnone i (List.mem_range.mp hi))
  have hlength := (hnodup.subperm hsubset).length_le
  rw [List.length_map, List.length_map, List.length_range] at hlength
  omega

/-- The name that is given is the one that the search without a bound finds, and it takes no more than one
try more than there are rules. -/
theorem Consistent.exists_tries (h : Consistent r) (id : Nat) :
    ∃ n k, Tries r id n k ∧ n ≤ r.rules.length + 1 ∧
      r.freshName r.rules.length id = (s!"rule_{k}", k + 1) := by
  refine (tries_or_contains r r.rules.length id).resolve_right fun hall => ?_
  obtain ⟨i, hi, hfree⟩ := h.exists_not_contains id
  rw [hall i hi] at hfree
  cases hfree

end Search

section Draws

/-- The name that a call draws, if it adds a rule without one. -/
def drawn? (r : Router α) : Call α → Option String
  | .addRule _ data => if data.name.isSome then none else (r.nameRule data).1.name
  | .registerKind .. => none

/-- The names that calls draw, in order, whether the rules can be compiled or not. -/
def draws : Router α → List (Call α) → List String
  | _, [] => []
  | r, c :: calls => (r.drawn? c).toList ++ draws (r.call c) calls

theorem nameRule_of_unnamed {data : RuleData α} (h : data.name = none) :
    r.nameRule data = ({ data with name := some (r.freshName r.rules.length r.nextId).1 },
      r.renumbered (r.freshName r.rules.length r.nextId).2) := by
  rw [nameRule, h]
  rfl

theorem nextId_place (rule : Rule α) : (r.place rule).nextId = r.nextId := by
  rw [place]
  split <;> rfl

theorem nextId_addRule (r : Router α) (source : String) (data : RuleData α) :
    (r.addRule source data).1.nextId = (r.nameRule data).2.nextId := by
  rw [addRule]
  cases hm : Rule.make source (r.nameRule data).1 (r.nameRule data).2.kinds with
  | ok rule =>
    simp only [hm]
    exact nextId_place rule
  | error e => simp only [hm]

/-- What a call draws is the name of a number from the next one on, and the number is used up. A call that
draws no name leaves the next number as it is. -/
theorem drawn?_spec (r : Router α) (c : Call α) :
    match r.drawn? c with
    | none => (r.call c).nextId = r.nextId
    | some name => ∃ k, r.nextId ≤ k ∧ name = s!"rule_{k}" ∧ (r.call c).nextId = k + 1 := by
  cases c with
  | addRule source data =>
    rw [drawn?, call, nextId_addRule]
    cases hname : data.name with
    | some name => rw [nameRule_of_named (Option.isSome_of_eq_some hname)]; rfl
    | none =>
      obtain ⟨k, hk, hfresh⟩ := exists_freshName r r.rules.length r.nextId
      rw [nameRule_of_unnamed hname, hfresh]
      exact ⟨k, hk, rfl, rfl⟩
  | registerKind name fragment =>
    rw [drawn?, call]
    cases hr : r.registerKind name fragment with
    | error e => rfl
    | ok r' =>
      obtain ⟨kinds, rules, -, -, rfl⟩ := registerKind_eq_ok hr
      rfl

/-- The numbers of the names that calls draw increase. -/
theorem exists_numbers (r : Router α) (calls : List (Call α)) :
    ∃ ks : List Nat, draws r calls = (ks.map fun k => s!"rule_{k}") ∧ ks.Pairwise (· < ·) ∧
      ∀ k ∈ ks, r.nextId ≤ k := by
  induction calls generalizing r with
  | nil => exact ⟨[], rfl, List.Pairwise.nil, nofun⟩
  | cons c calls ih =>
    obtain ⟨ks, hks, hsorted, hle⟩ := ih (r.call c)
    have hspec := r.drawn?_spec c
    rw [draws, hks]
    cases hdrawn : r.drawn? c with
    | none =>
      rw [hdrawn] at hspec
      exact ⟨ks, rfl, hsorted, fun k hk => hspec ▸ hle k hk⟩
    | some name =>
      rw [hdrawn] at hspec
      obtain ⟨j, hj, rfl, hnext⟩ := hspec
      have hlt : ∀ k ∈ ks, j < k := fun k hk => by
        have := hle k hk
        omega
      refine ⟨j :: ks, rfl, List.pairwise_cons.mpr ⟨hlt, hsorted⟩, List.forall_mem_cons.mpr ⟨hj, ?_⟩⟩
      exact fun k hk => Nat.le_trans hj (Nat.le_of_lt (hlt k hk))

theorem nodup_draws (r : Router α) (calls : List (Call α)) : (draws r calls).Nodup := by
  obtain ⟨ks, hks, hsorted, -⟩ := r.exists_numbers calls
  rw [hks]
  have hnodup : ks.Nodup := hsorted.imp Nat.ne_of_lt
  exact hnodup.map numberedName_injective

end Draws

/-- Whatever calls a router has answered: no two names that were given to rules without one are the same,
and the next search for a name ends, after one try more than there are rules at most, at a name that no
rule has. A rule that is then added under it comes behind all others, and none is replaced. -/
theorem run_names_fresh (kinds : Kinds) (calls : List (Call α)) :
    (draws { kinds } calls).Nodup ∧
    ∀ source (data : RuleData α), data.name = none →
      let r := run kinds calls
      ∃ n k, Tries r r.nextId n k ∧ n ≤ r.rules.length + 1 ∧
        r.drawn? (.addRule source data) = some s!"rule_{k}" ∧
        (r.addRule source data).1.nextId = k + 1 ∧
        (∀ old ∈ r.rules, old.name ≠ s!"rule_{k}") ∧
        ∀ rule, (r.addRule source data).2 = .ok rule →
          rule.name = s!"rule_{k}" ∧ (r.addRule source data).1.rules = r.rules ++ [rule] := by
  refine ⟨nodup_draws _ calls, fun source data hname => ?_⟩
  intro r
  have hconsistent : Consistent r := consistent_run kinds calls
  obtain ⟨n, k, htries, hn, hfresh⟩ := hconsistent.exists_tries r.nextId
  have hnamed : r.nameRule data = ({ data with name := some s!"rule_{k}" }, r.renumbered (k + 1)) := by
    rw [nameRule_of_unnamed hname, hfresh]
  have hnew : ∀ old ∈ r.rules, old.name ≠ s!"rule_{k}" := by
    intro old hold heq
    have hmem : s!"rule_{k}" ∈ r.rules.map (·.name) := heq ▸ List.mem_map_of_mem hold
    rw [← hconsistent.contains_iff, htries.not_contains] at hmem
    cases hmem
  refine ⟨n, k, htries, hn, ?_, ?_, hnew, fun rule hadded => ?_⟩
  · rw [drawn?, hname, hnamed]
    rfl
  · rw [nextId_addRule, hnamed]
    rfl
  · obtain ⟨hmake, nextId, hr⟩ := addRule_eq_ok hadded
    have hrule : rule.name = s!"rule_{k}" := by
      rw [hnamed] at hmake
      obtain ⟨pattern, compiled, -, -, rfl⟩ := Rule.make_eq_ok hmake
      rfl
    have hconsistent' : Consistent ({ r with nextId } : Router α) := hconsistent.of_eq rfl rfl rfl rfl
    refine ⟨hrule, ?_⟩
    rw [hr]
    exact (hconsistent'.placed rule).appended fun old hold => hrule ▸ hnew old hold

/-- The first two numbers are in use by rules that came with a name, and the search passes them over. -/
theorem run_names_fresh_in_use :
    let named (name : String) : RuleData Unit := { name := some name, payload := () }
    let data : RuleData Unit := { payload := () }
    let r := run ∅ [.addRule "/a" (named "rule_1"), .addRule "/b" (named "rule_0")]
    data.name = none ∧ r.nextId = 0 ∧ r.rules.length = 2 ∧ ∃ n, Tries r 0 n 2 ∧ n ≤ 3 ∧
      r.drawn? (.addRule "/c" data) = some "rule_2" := by
  intro named data r
  have hnextId : r.nextId = 0 := by decide +kernel
  have hlength : r.rules.length = 2 := by decide +kernel
  have htwo : r.drawn? (.addRule "/c" data) = some "rule_2" := by decide +kernel
  obtain ⟨-, hfresh⟩ := run_names_fresh ∅
    [.addRule "/a" (named "rule_1"), .addRule "/b" (named "rule_0")]
  obtain ⟨n, k, htries, hn, hdrawn, -⟩ := hfresh "/c" data rfl
  have hk : k = 2 := numberedName_injective (Option.some.inj (hdrawn.symm.trans htwo))
  subst hk
  rw [hnextId] at htries
  rw [hlength] at hn
  exact ⟨rfl, hnextId, hlength, n, htries, hn, htwo⟩

end RoutePattern.Router
