import RoutePattern.Proofs.Router.Verbs
import RoutePattern.Proofs.Rule.Making

/-! What holds of a router whatever calls it has answered: its index and its counts say what its
rules say. -/
namespace RoutePattern

namespace Router

variable {α : Type} {r r' : Router α}

/-- A call that changes a router. -/
inductive Call (α : Type)
  | addRule (source : String) (data : RuleData α)
  | registerKind (name fragment : String)

/-- The router behind a call, whether the call succeeds or fails. -/
def call (r : Router α) : Call α → Router α
  | .addRule source data => (r.addRule source data).1
  | .registerKind name fragment =>
    match r.registerKind name fragment with
    | .ok r' => r'
    | .error _ => r

/-- The router behind calls, of which the first is made on a router with no rules. -/
def run (kinds : Kinds) (calls : List (Call α)) : Router α := calls.foldl call { kinds }

/-- What holds of a router with no rules and is kept by each call holds behind all calls. -/
theorem run_induction {P : Router α → Prop} {kinds : Kinds} (hempty : P { kinds })
    (hcall : ∀ r c, P r → P (r.call c)) (calls : List (Call α)) : P (run kinds calls) := by
  have hfold : ∀ r, P r → P (calls.foldl call r) := by
    induction calls with
    | nil => exact fun r hr => hr
    | cons c calls ih => exact fun r hr => ih _ (hcall r c hr)
  exact hfold _ hempty

/-- The index has exactly the names of the rules, each with the place of its rule, and each method
is counted once for every rule that allows it. -/
structure Consistent (r : Router α) : Prop where
  index : ∀ (name : String) (slot : Nat),
    r.index[name]? = some slot ↔ (r.rules.map (·.name))[slot]? = some name
  counts : ∀ v, r.verbCount v = (r.rules.map (·.verbs)).countP (·.contains v)

theorem consistent_empty (kinds : Kinds) : Consistent ({ kinds } : Router α) := by
  constructor
  · intro name slot
    simp
  · intro v
    exact Vector.getElem_replicate v.slot.isLt

theorem Consistent.of_eq (h : Consistent r) (hindex : r'.index = r.index)
    (hcounts : r'.counts = r.counts) (hnames : r'.rules.map (·.name) = r.rules.map (·.name))
    (hverbs : r'.rules.map (·.verbs) = r.rules.map (·.verbs)) : Consistent r' := by
  constructor
  · intro name slot
    rw [hindex, hnames]
    exact h.index name slot
  · intro v
    rw [verbCount, hcounts, hverbs]
    exact h.counts v

section RegisterKind

variable {name fragment : String}

/-- Registering a kind compiles the rules in their places. -/
theorem registerKind_eq_ok (h : r.registerKind name fragment = .ok r') :
    ∃ kinds rules, r.kinds.register name fragment = .ok kinds ∧
      List.Forall₂ (fun rule rule' => rule.recompile kinds = .ok rule') r.rules rules ∧
      r' = { r with kinds, rules } := by
  cases hk : r.kinds.register name fragment with
  | error e =>
    rw [registerKind, hk] at h
    cases h
  | ok kinds =>
    rw [registerKind, hk] at h
    change (r.rules.mapM (·.recompile kinds) >>= _) = _ at h
    cases hr : r.rules.mapM (·.recompile kinds) with
    | error e =>
      rw [hr] at h
      cases h
    | ok rules =>
      rw [hr] at h
      cases h
      exact ⟨kinds, rules, rfl, forall₂_of_mapM hr, rfl⟩

theorem map_eq_of_recompile {β : Type} {kinds : Kinds} {rules rules' : List (Rule α)}
    (f : Rule α → β) (hf : ∀ rule compiled, f { rule with kinds, compiled } = f rule)
    (h : List.Forall₂ (fun rule rule' => rule.recompile kinds = .ok rule') rules rules') :
    rules'.map f = rules.map f := by
  induction h with
  | nil => rfl
  | cons hrule _ ih =>
    obtain ⟨compiled, -, rfl⟩ := Rule.recompile_eq_ok hrule
    rw [List.map_cons, List.map_cons, ih, hf]

theorem Consistent.registerKind (h : Consistent r)
    (hr : r.registerKind name fragment = .ok r') : Consistent r' := by
  obtain ⟨kinds, rules, -, hrules, rfl⟩ := registerKind_eq_ok hr
  refine h.of_eq rfl rfl ?_ ?_
  · exact map_eq_of_recompile _ (fun _ _ => rfl) hrules
  · exact map_eq_of_recompile _ (fun _ _ => rfl) hrules

end RegisterKind

section AddRule

variable {rule : Rule α} {data : RuleData α} {slot : Nat}

/-- Naming a rule uses up a number and does nothing else to the router. -/
theorem exists_nextId (r : Router α) (data : RuleData α) :
    ∃ nextId, (r.nameRule data).2 = { r with nextId } := by
  rw [nameRule]
  split
  · exact ⟨r.nextId, rfl⟩
  · exact ⟨_, rfl⟩

/-- A rule whose name is known takes the place of the one that has the name. -/
theorem place_of_index (hs : r.index[rule.name]? = some slot) {old : Rule α}
    (ho : r.rules[slot]? = some old) :
    r.place rule =
      { r with
        rules := r.rules.set slot rule
        counts := (r.counts.adjust rule.verbs (· + 1)).adjust old.verbs (· - 1) } := by
  rw [place, hs]
  simp only [ho]

theorem place_of_not_index (hs : r.index[rule.name]? = none) :
    r.place rule =
      { r with
        rules := r.rules ++ [rule]
        counts := r.counts.adjust rule.verbs (· + 1)
        index := r.index.insert rule.name r.rules.length } := by
  rw [place, hs]

theorem Consistent.replace (h : Consistent r) (hs : r.index[rule.name]? = some slot) :
    Consistent (r.place rule) := by
  have hname := (h.index _ _).mp hs
  rw [List.getElem?_map, Option.map_eq_some_iff] at hname
  obtain ⟨old, hold, hname⟩ := hname
  obtain ⟨hlt, rfl⟩ := List.getElem?_eq_some_iff.mp hold
  have hnames : (r.rules.set slot rule).map (·.name) = r.rules.map (·.name) := by
    rw [List.map_set, ← hname]
    have hslot : slot < (r.rules.map (·.name)).length := by simpa using hlt
    have hget : (r.rules.map (·.name))[slot] = r.rules[slot].name := List.getElem_map _
    rw [← hget, List.set_getElem_self]
  rw [place_of_index hs hold]
  constructor
  · intro name slot'
    rw [hnames]
    exact h.index name slot'
  · intro v
    have hv := h.counts v
    rw [verbCount] at hv
    rw [verbCount, VerbCounts.get_adjust, VerbCounts.get_adjust, hv, List.map_set,
      List.countP_set (by simpa using hlt), List.getElem_map]
    -- the count of the old rule is taken back only where it is there, so that nothing is cut off
    have hmem : r.rules[slot].verbs ∈ r.rules.map (·.verbs) :=
      List.mem_map_of_mem (List.getElem_mem hlt)
    by_cases ho : r.rules[slot].verbs.contains v = true
    · have hpos : 0 < (r.rules.map (·.verbs)).countP (·.contains v) :=
        List.countP_pos_iff.mpr ⟨_, hmem, ho⟩
      by_cases hn : rule.verbs.contains v = true
      · simp only [ho, hn, if_true]
        omega
      · simp only [ho, hn, if_true, Bool.false_eq_true, if_false]
        omega
    · by_cases hn : rule.verbs.contains v = true
      · simp only [ho, hn, if_true, Bool.false_eq_true, if_false]
        omega
      · simp only [ho, hn, Bool.false_eq_true, if_false]
        omega

theorem Consistent.append (h : Consistent r) (hs : r.index[rule.name]? = none) :
    Consistent (r.place rule) := by
  have hnew (slot : Nat) : (r.rules.map (·.name))[slot]? ≠ some rule.name := by
    intro hget
    rw [(h.index _ _).mpr hget] at hs
    cases hs
  rw [place_of_not_index hs]
  constructor
  · intro name slot
    simp only [List.map_append, List.getElem?_append, List.length_map,
      Std.ExtTreeMap.getElem?_insert, Std.LawfulEqCmp.compare_eq_iff_eq]
    -- a place among the rules keeps its name, and the place behind them gets the new one
    by_cases hlt : slot < r.rules.length
    · rw [if_pos hlt]
      by_cases hn : rule.name = name
      · subst hn
        rw [if_pos rfl]
        constructor
        · intro he
          have := Option.some.inj he
          omega
        · exact fun hget => absurd hget (hnew slot)
      · rw [if_neg hn]
        exact h.index name slot
    · rw [if_neg hlt]
      by_cases hn : rule.name = name
      · rw [if_pos hn, List.map_cons, List.map_nil, List.getElem?_singleton]
        constructor
        · intro he
          have := Option.some.inj he
          rw [if_pos (by omega), hn]
        · intro he
          split_ifs at he with h0
          rw [show slot = r.rules.length by omega]
      · rw [if_neg hn, List.map_cons, List.map_nil, List.getElem?_singleton]
        constructor
        · intro he
          have hget := List.getElem?_eq_some_iff.mp ((h.index _ _).mp he)
          obtain ⟨hlt', -⟩ := hget
          rw [List.length_map] at hlt'
          omega
        · intro he
          split_ifs at he with h0
          exact absurd (Option.some.inj he) hn
  · intro v
    have hv := h.counts v
    rw [verbCount] at hv
    rw [verbCount, VerbCounts.get_adjust, hv, List.map_append, List.countP_append,
      List.map_cons, List.map_nil, List.countP_singleton]
    split <;> rfl

theorem Consistent.place (h : Consistent r) (rule : Rule α) : Consistent (r.place rule) := by
  cases hs : r.index[rule.name]? with
  | none => exact h.append hs
  | some slot => exact h.replace hs

theorem Consistent.addRule (h : Consistent r) (source : String) (data : RuleData α) :
    Consistent (r.addRule source data).1 := by
  obtain ⟨nextId, hnext⟩ := exists_nextId r data
  have hnamed : Consistent (r.nameRule data).2 := by
    rw [hnext]
    exact h.of_eq rfl rfl rfl rfl
  rw [Router.addRule]
  -- a rule that cannot be made has used up a number at most
  cases hm : Rule.make source (r.nameRule data).1 (r.nameRule data).2.kinds with
  | ok rule =>
    simp only [hm]
    exact hnamed.place rule
  | error e =>
    simp only [hm]
    exact hnamed

end AddRule

theorem Consistent.call (h : Consistent r) (c : Call α) : Consistent (r.call c) := by
  cases c with
  | addRule source data => exact h.addRule source data
  | registerKind name fragment =>
    rw [Router.call]
    cases hr : r.registerKind name fragment with
    | ok r' => exact h.registerKind hr
    | error e => exact h

theorem consistent_run (kinds : Kinds) (calls : List (Call α)) : Consistent (run kinds calls) :=
  run_induction (consistent_empty kinds) (fun _ c h => h.call c) calls

end Router

end RoutePattern
