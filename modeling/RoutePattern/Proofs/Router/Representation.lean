import Mathlib.Data.List.Nodup
import RoutePattern.Proofs.Router.Scan

/-! The representation of a router: its index and its counts belong to its rules, and the rules are
those that were added last under their names, compiled against the kinds of the router. -/
namespace RoutePattern

/-- Sets of methods with HEAD wherever they have GET. -/
theorem Verbs.head_of_get_normalized {vs : Verbs} (h : vs.normalized.contains .get = true) :
    vs.normalized.contains .head = true := by
  rw [normalized] at h ⊢
  by_cases hget : vs.contains .get = true
  · have hhead : (single .head).contains .head = true := by decide
    rw [if_pos hget, contains_union, hhead, Bool.or_true]
  · rw [if_neg hget] at h
    exact absurd h hget

namespace Router

variable {α : Type} {r r' : Router α}

section Names

variable {name : String} {rule : Rule α}

/-- Two places of one name would both be the one that the index gives. -/
theorem Consistent.distinct (h : Consistent r) : (r.rules.map (·.name)).Nodup := by
  rw [List.nodup_iff_getElem?_ne_getElem?]
  intro i j hij hj heq
  have hname : (r.rules.map (·.name))[j]? = some (r.rules.map (·.name))[j] :=
    List.getElem?_eq_getElem hj
  have hi := (h.index _ i).mpr (heq.trans hname)
  rw [(h.index _ j).mpr hname] at hi
  have := Option.some.inj hi
  omega

/-- The index leads to the rule of a name. -/
theorem Consistent.rule?_eq_some_iff (h : Consistent r) :
    r.rule? name = some rule ↔ rule ∈ r.rules ∧ rule.name = name := by
  rw [rule?, Option.bind_eq_some_iff]
  constructor
  · intro hx
    obtain ⟨slot, hslot, hrule⟩ := hx
    have hname := (h.index name slot).mp hslot
    rw [List.getElem?_map, hrule] at hname
    exact ⟨List.mem_of_getElem? hrule, Option.some.inj hname⟩
  · intro hx
    obtain ⟨hmem, rfl⟩ := hx
    obtain ⟨slot, hslot⟩ := List.mem_iff_getElem?.mp hmem
    refine ⟨slot, (h.index _ slot).mpr ?_, hslot⟩
    rw [List.getElem?_map, hslot]
    rfl

end Names

section Heads

/-- No rule allows GET without HEAD. -/
def Headed (r : Router α) : Prop :=
  ∀ rule ∈ r.rules, rule.verbs.contains .get = true → rule.verbs.contains .head = true

theorem Headed.place {rule : Rule α} (h : Headed r)
    (hrule : rule.verbs.contains .get = true → rule.verbs.contains .head = true) :
    Headed (r.place rule) := by
  intro other ho
  have hmem : other ∈ r.rules ∨ other = rule := by
    rw [Router.place] at ho
    split at ho
    · exact List.mem_or_eq_of_mem_set ho
    · simpa using ho
  rcases hmem with hmem | rfl
  · exact h other hmem
  · exact hrule

theorem Headed.call (h : Headed r) (c : Call α) : Headed (r.call c) := by
  cases c with
  | addRule source data =>
    obtain ⟨nextId, hnext⟩ := exists_nextId r data
    have hnamed : Headed (r.nameRule data).2 := by
      rw [hnext]
      exact h
    rw [Router.call, Router.addRule]
    cases hm : Rule.make source (r.nameRule data).1 (r.nameRule data).2.kinds with
    | ok rule =>
      simp only [hm]
      obtain ⟨pattern, compiled, -, -, rfl⟩ := Rule.make_eq_ok hm
      exact hnamed.place Verbs.head_of_get_normalized
    | error e =>
      simp only [hm]
      exact hnamed
  | registerKind name fragment =>
    rw [Router.call]
    cases hr : r.registerKind name fragment with
    | error e => exact h
    | ok r' =>
      obtain ⟨kinds, rules, -, hrules, rfl⟩ := registerKind_eq_ok hr
      -- the methods of a rule are those it had before it was compiled again
      have hverbs := map_eq_of_recompile (·.verbs) (fun _ _ => rfl) hrules
      intro rule hrule
      obtain ⟨old, hold, heq⟩ := List.mem_map.mp (hverbs ▸ List.mem_map_of_mem hrule)
      rw [← heq]
      exact h old hold

end Heads

section AddRule

variable {source name : String} {data : RuleData α} {rule : Rule α}

/-- A rule that can be made against the kinds of the router is put in its place. Otherwise a number
is used up at most. -/
theorem addRule_eq (r : Router α) (source : String) (data : RuleData α) :
    ∃ nextId, r.addRule source data =
      match Rule.make source (r.nameRule data).1 r.kinds with
      | .ok rule => (({ r with nextId } : Router α).place rule, .ok rule)
      | .error e => ({ r with nextId }, .error e) := by
  obtain ⟨nextId, hnext⟩ := exists_nextId r data
  have hkinds : r.kinds = (r.nameRule data).2.kinds := by rw [hnext]
  refine ⟨nextId, ?_⟩
  rw [← hnext, hkinds]
  rfl

theorem addRule_eq_ok (h : (r.addRule source data).2 = .ok rule) :
    Rule.make source (r.nameRule data).1 r.kinds = .ok rule ∧
      ∃ nextId, (r.addRule source data).1 = ({ r with nextId } : Router α).place rule := by
  obtain ⟨nextId, heq⟩ := addRule_eq r source data
  rw [heq] at h ⊢
  cases hm : Rule.make source (r.nameRule data).1 r.kinds with
  | ok made =>
    rw [hm] at h
    cases h
    exact ⟨rfl, nextId, rfl⟩
  | error e =>
    rw [hm] at h
    cases h

theorem addRule_eq_error {e : Error} (h : (r.addRule source data).2 = .error e) :
    ∃ nextId, (r.addRule source data).1 = { r with nextId } := by
  obtain ⟨nextId, heq⟩ := addRule_eq r source data
  rw [heq] at h ⊢
  cases hm : Rule.make source (r.nameRule data).1 r.kinds with
  | ok made =>
    rw [hm] at h
    cases h
  | error e' => exact ⟨nextId, rfl⟩

/-- A rule keeps the name that it is given. -/
theorem name_of_addRule (h : (r.addRule source data).2 = .ok rule) :
    ∀ name ∈ data.name, rule.name = name := by
  intro name hname
  obtain ⟨hmake, -⟩ := addRule_eq_ok h
  obtain ⟨pattern, compiled, -, -, rfl⟩ := Rule.make_eq_ok hmake
  have hdata : data.name = some name := hname
  rw [nameRule, hdata]
  simp only [hdata, Option.getD_some]

/-- How a router differs from the one before it by a rule that was added: a rule of the same name is
replaced where it stands, else the rule comes behind all others. -/
structure Placed (r : Router α) (rule : Rule α) (r' : Router α) : Prop where
  replaced : ∀ (slot : Nat) (old : Rule α), r.rules[slot]? = some old → old.name = rule.name →
    r'.rules.length = r.rules.length ∧ r'.rules[slot]? = some rule ∧
      ∀ other : Nat, other ≠ slot → r'.rules[other]? = r.rules[other]?
  appended : (∀ old ∈ r.rules, old.name ≠ rule.name) → r'.rules = r.rules ++ [rule]
  found : r'.rule? rule.name = some rule

theorem Consistent.placed (h : Consistent r) (rule : Rule α) : Placed r rule (r.place rule) where
  replaced slot old hold hname := by
    have hs : r.index[rule.name]? = some slot := by
      rw [h.index, List.getElem?_map, hold, Option.map_some, hname]
    obtain ⟨hlt, -⟩ := List.getElem?_eq_some_iff.mp hold
    rw [place_of_index hs hold]
    refine ⟨List.length_set, List.getElem?_set_self hlt, ?_⟩
    intro other hne
    exact List.getElem?_set_ne hne.symm
  appended hnew := by
    have hs : r.index[rule.name]? = none := by
      rw [Option.eq_none_iff_forall_ne_some]
      intro slot hslot
      have hname := (h.index _ slot).mp hslot
      rw [List.getElem?_map, Option.map_eq_some_iff] at hname
      obtain ⟨old, hold, hname⟩ := hname
      exact hnew old (List.mem_of_getElem? hold) hname
    rw [place_of_not_index hs]
  found := by
    refine (h.place rule).rule?_eq_some_iff.mpr ⟨?_, rfl⟩
    cases hs : r.index[rule.name]? with
    | none =>
      rw [place_of_not_index hs]
      exact List.mem_append_right _ List.mem_cons_self
    | some slot =>
      have hlt := h.index_lt hs
      rw [place_of_index hs (List.getElem?_eq_getElem hlt)]
      exact List.mem_set hlt rule

/-- A rule that is placed makes no difference to what is found under other names. -/
theorem Consistent.rule?_place_of_ne (h : Consistent r) (hne : name ≠ rule.name) :
    (r.place rule).rule? name = r.rule? name := by
  have hplaced := h.placed rule
  apply Option.ext
  intro other
  rw [(h.place rule).rule?_eq_some_iff, h.rule?_eq_some_iff]
  refine and_congr_left ?_
  rintro rfl
  -- the two lists differ in one place at most, where the names are that of the rule
  by_cases hnew : ∀ old ∈ r.rules, old.name ≠ rule.name
  · rw [hplaced.appended hnew, List.mem_append, List.mem_singleton]
    refine or_iff_left ?_
    rintro rfl
    exact hne rfl
  · obtain ⟨old, hmem, hname⟩ : ∃ old ∈ r.rules, old.name = rule.name := by
      simpa using hnew
    obtain ⟨slot, hslot⟩ := List.mem_iff_getElem?.mp hmem
    obtain ⟨-, hput, hothers⟩ := hplaced.replaced slot old hslot hname
    rw [List.mem_iff_getElem?, List.mem_iff_getElem?]
    refine exists_congr fun i => ?_
    by_cases hi : i = slot
    · subst hi
      rw [hput, hslot, Option.some.injEq, Option.some.injEq]
      constructor
      · rintro rfl
        exact absurd rfl hne
      · rintro rfl
        exact absurd hname hne
    · rw [hothers i hi]

end AddRule

section History

variable {added : List (Rule α)}

/-- The rule that a call adds, if it adds one. -/
def added? (r : Router α) : Call α → Option (Rule α)
  | .addRule source data => (r.addRule source data).2.toOption
  | .registerKind .. => none

/-- The rules that calls add to a router, in order. -/
def additions : Router α → List (Call α) → List (Rule α)
  | _, [] => []
  | r, c :: calls => (r.added? c).toList ++ additions (r.call c) calls

/-- The rule that was added last under a name. -/
def latest? (added : List (Rule α)) (name : String) : Option (Rule α) :=
  added.reverse.find? (·.name = name)

/-- Under each name stands the rule that was added last under it, compiled against the kinds of the
router. -/
def Remembers (r : Router α) (added : List (Rule α)) : Prop :=
  ∀ name, (r.rule? name).map .ok = (latest? added name).map (·.recompile r.kinds)

theorem latest?_concat (rule : Rule α) (name : String) :
    latest? (added ++ [rule]) name =
      if rule.name = name then some rule else latest? added name := by
  rw [latest?, List.reverse_append, List.reverse_singleton, List.singleton_append, List.find?_cons]
  split
  · next h => rw [if_pos (of_decide_eq_true h)]
  · next h => rw [if_neg (of_decide_eq_false h), latest?]

theorem Remembers.addRule (h : Remembers r added) (hc : Consistent r) (source : String)
    (data : RuleData α) :
    Remembers (r.addRule source data).1
      (added ++ (r.addRule source data).2.toOption.toList) := by
  cases ha : (r.addRule source data).2 with
  | error e =>
    obtain ⟨nextId, hr⟩ := addRule_eq_error ha
    rw [hr]
    intro name
    exact (h name).trans (by rw [Except.toOption, Option.toList_none, List.append_nil])
  | ok rule =>
    obtain ⟨hmake, nextId, hr⟩ := addRule_eq_ok ha
    have hc' : Consistent ({ r with nextId } : Router α) := hc.of_eq rfl rfl rfl rfl
    have hkinds : (({ r with nextId } : Router α).place rule).kinds = r.kinds := by
      rw [Router.place]
      split <;> rfl
    rw [hr]
    intro name
    rw [hkinds, Except.toOption, Option.toList_some, latest?_concat]
    split_ifs with hname
    · subst hname
      rw [(hc'.placed rule).found, Option.map_some, Option.map_some, Rule.recompile_of_make hmake]
    · rw [hc'.rule?_place_of_ne (Ne.symm hname)]
      exact h name

theorem map_ok_of_recompile {kinds : Kinds} {rules rules' : List (Rule α)}
    (h : List.Forall₂ (fun rule rule' => rule.recompile kinds = .ok rule') rules rules') :
    rules'.map Except.ok = rules.map (·.recompile kinds) := by
  induction h with
  | nil => rfl
  | cons hrule _ ih => rw [List.map_cons, List.map_cons, hrule, ih]

theorem Remembers.registerKind {name fragment : String} (h : Remembers r added)
    (hr : r.registerKind name fragment = .ok r') : Remembers r' added := by
  obtain ⟨kinds, rules, -, hrules, rfl⟩ := registerKind_eq_ok hr
  intro name
  have hslot : ((({ r with kinds, rules } : Router α).rule? name).map Except.ok :
      Option (Except Error (Rule α))) = (r.rule? name).map (·.recompile kinds) := by
    have hget (slot : Nat) :
        (rules[slot]?).map Except.ok = (r.rules[slot]?).map (·.recompile kinds) := by
      rw [← List.getElem?_map, ← List.getElem?_map, map_ok_of_recompile hrules]
    simp only [rule?, Option.map_bind, Function.comp_def, hget]
  rw [hslot]
  -- what was compiled last under the name is compiled once more
  have hbefore := h name
  cases ho : r.rule? name with
  | none =>
    rw [ho] at hbefore
    cases hl : latest? added name with
    | none => rfl
    | some last =>
      rw [hl] at hbefore
      cases hbefore
  | some rule =>
    rw [ho] at hbefore
    cases hl : latest? added name with
    | none =>
      rw [hl] at hbefore
      cases hbefore
    | some last =>
      rw [hl] at hbefore
      exact congrArg some (Rule.recompile_recompile (Option.some.inj hbefore).symm)

theorem Remembers.call (h : Remembers r added) (hc : Consistent r) (c : Call α) :
    Remembers (r.call c) (added ++ (r.added? c).toList) := by
  cases c with
  | addRule source data => exact h.addRule hc source data
  | registerKind name fragment =>
    rw [Router.call, added?, Option.toList_none, List.append_nil]
    cases hr : r.registerKind name fragment with
    | ok r' => exact h.registerKind hr
    | error e => exact h

theorem Remembers.foldl_call (h : Remembers r added) (hc : Consistent r) (calls : List (Call α)) :
    Remembers (calls.foldl Router.call r) (added ++ additions r calls) := by
  induction calls generalizing r added with
  | nil =>
    rw [additions, List.append_nil]
    exact h
  | cons c calls ih =>
    rw [additions, ← List.append_assoc]
    exact ih (h.call hc c) (hc.call c)

end History

/-- Whatever calls a router has answered: each name is that of one rule, the index has exactly the
names of the rules with their places, each method is counted once for every rule that allows it, and
no rule allows GET without HEAD. A rule that is then added replaces the one of its name in its place
or comes behind all others, and under each name stands the rule that was added last under it. -/
theorem run_represents (kinds : Kinds) (calls : List (Call α)) :
    ((run kinds calls).rules.map (·.name)).Nodup ∧
    (∀ (name : String) (slot : Nat), (run kinds calls).index[name]? = some slot ↔
      ((run kinds calls).rules.map (·.name))[slot]? = some name) ∧
    (∀ v, (run kinds calls).verbCount v =
      ((run kinds calls).rules.map (·.verbs)).countP (·.contains v)) ∧
    (∀ rule ∈ (run kinds calls).rules,
      rule.verbs.contains .get = true → rule.verbs.contains .head = true) ∧
    (∀ source data rule, ((run kinds calls).addRule source data).2 = .ok rule →
      (∀ name ∈ data.name, rule.name = name) ∧
      Placed (run kinds calls) rule ((run kinds calls).addRule source data).1) ∧
    ∀ name, ((run kinds calls).rule? name).map .ok =
      (latest? (additions { kinds } calls) name).map (·.recompile (run kinds calls).kinds) := by
  have hconsistent := consistent_run kinds calls
  have hheaded : Headed (run kinds calls) :=
    run_induction (fun _ h => absurd h List.not_mem_nil) (fun _ c h => h.call c) calls
  have hempty : Remembers ({ kinds } : Router α) [] := fun name => by simp [rule?, latest?]
  refine ⟨hconsistent.distinct, hconsistent.index, hconsistent.counts, hheaded, ?_,
    hempty.foldl_call (consistent_empty kinds) calls⟩
  intro source data rule h
  refine ⟨name_of_addRule h, ?_⟩
  obtain ⟨-, nextId, hr⟩ := addRule_eq_ok h
  rw [hr]
  -- the number that a rule without a name uses up makes no difference to the rules
  have hnamed : Consistent ({ run kinds calls with nextId } : Router α) :=
    hconsistent.of_eq rfl rfl rfl rfl
  have hplaced := hnamed.placed rule
  exact ⟨hplaced.replaced, hplaced.appended, hplaced.found⟩

end Router

end RoutePattern
