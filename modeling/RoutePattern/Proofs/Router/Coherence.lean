import RoutePattern.Proofs.Router.Representation

/-! Rules and kinds: each rule is what its own source and data are compiled to against the kinds of
the router, and a kind is registered for all rules or not at all. -/
namespace RoutePattern

theorem Verbs.normalized_normalized (vs : Verbs) : vs.normalized.normalized = vs.normalized := by
  by_cases hget : vs.contains .get = true
  · have hnormalized : vs.normalized = vs.union (single .head) := if_pos hget
    have hagain : vs.normalized.contains .get = true := by
      rw [hnormalized, contains_union, hget, Bool.true_or]
    have htwice : vs.normalized.normalized = vs.normalized.union (single .head) := if_pos hagain
    rw [htwice, hnormalized]
    apply ext_contains
    intro v
    simp only [contains_union, Bool.or_assoc, Bool.or_self]
  · have hnormalized : vs.normalized = vs := if_neg hget
    rw [hnormalized, hnormalized]

namespace Rule

variable {α : Type} {source : String} {data : RuleData α} {kinds kinds' : Kinds}
  {rule rule' : Rule α}

/-- A rule is made again of the source and the data that it keeps. -/
theorem make_self (h : make source data kinds = .ok rule) :
    make rule.source rule.data kinds = .ok rule := by
  obtain ⟨pattern, compiled, hread, hcompile, rfl⟩ := make_eq_ok h
  simp only [make, Pattern.readAndCompile, hread, hcompile, bind, Except.bind, pure, Except.pure,
    Verbs.normalized_normalized]

/-- A rule that is compiled against other kinds is the one that would be made with them. -/
theorem make_of_recompile (hmake : make rule.source rule.data kinds = .ok rule)
    (h : rule.recompile kinds' = .ok rule') : make rule'.source rule'.data kinds' = .ok rule' := by
  obtain ⟨compiled, hcompile, rfl⟩ := recompile_eq_ok h
  obtain ⟨pattern, first, hread, -, hrule⟩ := make_eq_ok hmake
  have hpattern : rule.pattern = pattern := by rw [hrule]
  have hname : rule.name = rule.data.name.getD rule.source := congrArg Rule.name hrule
  have hverbs : { rule.data with verbs := rule.data.verbs.normalized } = rule.data :=
    (congrArg Rule.data hrule).symm
  rw [← hpattern] at hread
  simp only [make, Pattern.readAndCompile, hread, hcompile, bind, Except.bind, pure, Except.pure,
    hverbs, ← hname]

end Rule

theorem exists_mapM_eq_ok_iff {ε α β : Type} {f : α → Except ε β} {l : List α} :
    (∃ l', l.mapM f = .ok l') ↔ ∀ a ∈ l, ∃ b, f a = .ok b := by
  constructor
  · intro hx a ha
    obtain ⟨l', hl⟩ := hx
    obtain ⟨i, hi, rfl⟩ := List.mem_iff_getElem.mp ha
    have hforall := forall₂_of_mapM hl
    exact ⟨_, (List.forall₂_iff_get.mp hforall).2 i hi (hforall.length_eq ▸ hi)⟩
  · intro h
    induction l with
    | nil => exact ⟨[], rfl⟩
    | cons a l ih =>
      obtain ⟨b, hb⟩ := h a List.mem_cons_self
      obtain ⟨l', hl⟩ := ih fun a ha => h a (List.mem_cons_of_mem _ ha)
      refine ⟨b :: l', ?_⟩
      rw [List.mapM_cons, hb]
      simp only [bind, Except.bind, hl]
      rfl

/-- Kinds of different names can be put in in either order. -/
theorem Kinds.insert_comm {kinds : Kinds} {k k' : Kind} (hne : k.name ≠ k'.name) :
    (kinds.insert k.name k).insert k'.name k' = (kinds.insert k'.name k').insert k.name k := by
  apply Std.ExtTreeMap.ext_getElem?
  intro name
  simp only [Std.ExtTreeMap.getElem?_insert, Std.LawfulEqCmp.compare_eq_iff_eq]
  by_cases hk : k.name = name
  · by_cases hk' : k'.name = name
    · exact absurd (hk.trans hk'.symm) hne
    · rw [if_neg hk', if_pos hk, if_pos hk]
  · rw [if_neg hk, if_neg hk]

namespace Router

variable {α : Type} {r r' : Router α} {name name' fragment fragment' : String} {rule : Rule α}

/-- Whether each rule is what its source and data make of the kinds of the router. -/
def Coherent (r : Router α) : Prop :=
  ∀ rule ∈ r.rules, Rule.make rule.source rule.data r.kinds = .ok rule

theorem mem_place {other : Rule α} (h : other ∈ (r.place rule).rules) :
    other ∈ r.rules ∨ other = rule := by
  rw [place] at h
  split at h
  · exact List.mem_or_eq_of_mem_set h
  · simpa using h

theorem kinds_place : (r.place rule).kinds = r.kinds := by
  rw [place]
  split <;> rfl

theorem Coherent.addRule (h : Coherent r) (source : String) (data : RuleData α) :
    Coherent (r.addRule source data).1 := by
  cases ha : (r.addRule source data).2 with
  | error e =>
    obtain ⟨nextId, hr⟩ := addRule_eq_error ha
    rw [hr]
    exact h
  | ok rule =>
    obtain ⟨hmake, nextId, hr⟩ := addRule_eq_ok ha
    rw [hr]
    intro other ho
    rw [kinds_place]
    rcases mem_place ho with ho | rfl
    · exact h other ho
    · exact Rule.make_self hmake

theorem Coherent.registerKind (h : Coherent r) (hr : r.registerKind name fragment = .ok r') :
    Coherent r' := by
  obtain ⟨kinds, rules, -, hrules, rfl⟩ := registerKind_eq_ok hr
  intro rule' hrule'
  obtain ⟨i, hi, rfl⟩ := List.mem_iff_getElem.mp hrule'
  have hlt : i < r.rules.length := hrules.length_eq ▸ hi
  have hrecompile := (List.forall₂_iff_get.mp hrules).2 i hlt hi
  exact Rule.make_of_recompile (h _ (List.getElem_mem hlt)) hrecompile

theorem Coherent.call (h : Coherent r) (c : Call α) : Coherent (r.call c) := by
  cases c with
  | addRule source data => exact h.addRule source data
  | registerKind name fragment =>
    rw [Router.call]
    cases hr : r.registerKind name fragment with
    | ok r' => exact h.registerKind hr
    | error e => exact h

/-- How a router differs from the one before it by a kind that was registered: the kind stands under
its name, and each rule is compiled against the new kinds in its place. -/
structure Registered (r : Router α) (k : Kind) (r' : Router α) : Prop where
  kinds : r'.kinds = r.kinds.insert k.name k
  rules : List.Forall₂
    (fun rule rule' => ∃ compiled,
      rule.pattern.compile r'.kinds rule.data.options = .ok compiled ∧
        rule' = { rule with kinds := r'.kinds, compiled })
    r.rules r'.rules
  index : r'.index = r.index
  counts : r'.counts = r.counts
  nextId : r'.nextId = r.nextId

theorem exists_kind_of_register {kinds kinds' : Kinds}
    (h : kinds.register name fragment = .ok kinds') :
    ∃ k, Kind.make name fragment = .ok k ∧ kinds' = kinds.insert k.name k := by
  rw [Kinds.register] at h
  cases hk : Kind.make name fragment with
  | error e =>
    rw [hk] at h
    cases h
  | ok k =>
    rw [hk] at h
    cases h
    exact ⟨k, rfl, rfl⟩

theorem registered_of_eq_ok (h : r.registerKind name fragment = .ok r') :
    ∃ k, Kind.make name fragment = .ok k ∧ Registered r k r' := by
  obtain ⟨kinds, rules, hkinds, hrules, rfl⟩ := registerKind_eq_ok h
  obtain ⟨k, hk, rfl⟩ := exists_kind_of_register hkinds
  exact ⟨k, hk, rfl, hrules.imp fun _ _ hrule => Rule.recompile_eq_ok hrule, rfl, rfl, rfl⟩

/-- A kind can be registered if it can be made and all rules can be compiled with it. -/
theorem exists_registerKind_iff :
    (∃ r', r.registerKind name fragment = .ok r') ↔
      ∃ k, Kind.make name fragment = .ok k ∧ ∀ rule ∈ r.rules, ∃ compiled,
        rule.pattern.compile (r.kinds.insert k.name k) rule.data.options = .ok compiled := by
  constructor
  · intro hx
    obtain ⟨r', h⟩ := hx
    obtain ⟨k, hk, hr⟩ := registered_of_eq_ok h
    refine ⟨k, hk, fun rule hrule => ?_⟩
    obtain ⟨i, hi, rfl⟩ := List.mem_iff_getElem.mp hrule
    obtain ⟨compiled, hcompiled, -⟩ :=
      (List.forall₂_iff_get.mp hr.rules).2 i hi (hr.rules.length_eq ▸ hi)
    rw [hr.kinds] at hcompiled
    exact ⟨compiled, hcompiled⟩
  · intro hx
    obtain ⟨k, hk, hall⟩ := hx
    have hkinds : r.kinds.register name fragment = .ok (r.kinds.insert k.name k) := by
      rw [Kinds.register, hk]
      rfl
    have hrules : ∀ rule ∈ r.rules, ∃ rule',
        rule.recompile (r.kinds.insert k.name k) = .ok rule' := by
      intro rule hrule
      obtain ⟨compiled, hcompiled⟩ := hall rule hrule
      refine ⟨{ rule with kinds := r.kinds.insert k.name k, compiled }, ?_⟩
      rw [Rule.recompile, hcompiled]
      rfl
    obtain ⟨rules, hmap⟩ := exists_mapM_eq_ok_iff.mpr hrules
    refine ⟨{ r with kinds := r.kinds.insert k.name k, rules }, ?_⟩
    rw [registerKind, hkinds]
    simp only [bind, Except.bind, hmap]
    rfl

/-- Of two kinds that are registered one after the other only the rules as they were before matter. -/
theorem map_ok_of_registered {k k' : Kind} {mid : Router α} (h : Registered r k mid)
    (h' : Registered mid k' r') : r'.rules.map Except.ok = r.rules.map (·.recompile r'.kinds) := by
  apply map_ok_of_recompile
  rw [List.forall₂_iff_get]
  have hrules := List.forall₂_iff_get.mp h.rules
  have hrules' := List.forall₂_iff_get.mp h'.rules
  refine ⟨hrules.1.trans hrules'.1, fun i hi hi' => ?_⟩
  obtain ⟨first, -, hfirst⟩ := hrules.2 i hi (hrules.1 ▸ hi)
  obtain ⟨second, hsecond, hlast⟩ := hrules'.2 i (hrules.1 ▸ hi) hi'
  rw [hfirst] at hsecond hlast
  rw [hlast, Rule.recompile, hsecond]
  rfl

/-- Kinds of different names make the same router in either order. -/
theorem registered_comm {k k' : Kind} {r₁ r₂ r₁' r₂' : Router α} (hne : k.name ≠ k'.name)
    (h₁ : Registered r k r₁) (h₁' : Registered r₁ k' r₁') (h₂ : Registered r k' r₂)
    (h₂' : Registered r₂ k r₂') : r₁' = r₂' := by
  have hkinds : r₁'.kinds = r₂'.kinds := by
    rw [h₁'.kinds, h₁.kinds, h₂'.kinds, h₂.kinds, Kinds.insert_comm hne]
  have hrules : r₁'.rules = r₂'.rules := by
    have hmap := (map_ok_of_registered h₁ h₁').trans (hkinds ▸ (map_ok_of_registered h₂ h₂').symm)
    exact List.map_injective_iff.mpr (fun _ _ => Except.ok.inj) hmap
  have hindex : r₁'.index = r₂'.index := by rw [h₁'.index, h₁.index, h₂'.index, h₂.index]
  have hcounts : r₁'.counts = r₂'.counts := by rw [h₁'.counts, h₁.counts, h₂'.counts, h₂.counts]
  have hnextId : r₁'.nextId = r₂'.nextId := by rw [h₁'.nextId, h₁.nextId, h₂'.nextId, h₂.nextId]
  obtain ⟨rules, index, counts, kinds, nextId⟩ := r₁'
  exact congr (congr (congr (congr (congrArg Router.mk hrules) hindex) hcounts) hkinds) hnextId

/-- Whatever calls a router has answered: each rule is what would be made of its source and its data
with the kinds of the router. A kind is registered if it can be made and the patterns of all rules
can be compiled with it. Then it stands under its name, and each rule is compiled with it where it
stands; otherwise the router stays as it is. Kinds of different names that can be registered in
either order make the same router. -/
theorem run_coherent (kinds : Kinds) (calls : List (Call α)) :
    (∀ rule ∈ (run kinds calls).rules,
      Rule.make rule.source rule.data (run kinds calls).kinds = .ok rule) ∧
    (∀ name fragment,
      ((∃ r', (run kinds calls).registerKind name fragment = .ok r') ↔
        ∃ k, Kind.make name fragment = .ok k ∧ ∀ rule ∈ (run kinds calls).rules, ∃ compiled,
          rule.pattern.compile ((run kinds calls).kinds.insert k.name k) rule.data.options =
            .ok compiled) ∧
      (∀ r', (run kinds calls).registerKind name fragment = .ok r' →
        ∃ k, Kind.make name fragment = .ok k ∧ k.name = name ∧ Registered (run kinds calls) k r' ∧
          (run kinds calls).call (.registerKind name fragment) = r') ∧
      ∀ e, (run kinds calls).registerKind name fragment = .error e →
        (run kinds calls).call (.registerKind name fragment) = run kinds calls) ∧
    ∀ name name' fragment fragment' r₁ r₂ r₁' r₂', name ≠ name' →
      (run kinds calls).registerKind name fragment = .ok r₁ →
      r₁.registerKind name' fragment' = .ok r₁' →
      (run kinds calls).registerKind name' fragment' = .ok r₂ →
      r₂.registerKind name fragment = .ok r₂' → r₁' = r₂' := by
  have hcoherent : Coherent (run kinds calls) :=
    run_induction (fun _ h => absurd h List.not_mem_nil) (fun _ c h => h.call c) calls
  refine ⟨hcoherent, fun name fragment => ⟨exists_registerKind_iff, ?_, ?_⟩, ?_⟩
  · intro r' h
    obtain ⟨k, hk, hr⟩ := registered_of_eq_ok h
    refine ⟨k, hk, (Kind.make_eq_ok hk).1, hr, ?_⟩
    rw [call, h]
  · intro e h
    rw [call, h]
  · intro name name' fragment fragment' r₁ r₂ r₁' r₂' hne h₁ h₁' h₂ h₂'
    -- a kind is made of its name and its fragment alone, so that it is the same in either order
    obtain ⟨k, hk, hr₁⟩ := registered_of_eq_ok h₁
    obtain ⟨k', hk', hr₁'⟩ := registered_of_eq_ok h₁'
    obtain ⟨other', hother', hr₂⟩ := registered_of_eq_ok h₂
    obtain ⟨other, hother, hr₂'⟩ := registered_of_eq_ok h₂'
    obtain rfl : k = other := Except.ok.inj (hk.symm.trans hother)
    obtain rfl : k' = other' := Except.ok.inj (hk'.symm.trans hother')
    refine registered_comm ?_ hr₁ hr₁' hr₂ hr₂'
    rw [(Kind.make_eq_ok hk).1, (Kind.make_eq_ok hk').1]
    exact hne

end Router

end RoutePattern
