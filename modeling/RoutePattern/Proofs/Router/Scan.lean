import RoutePattern.Proofs.Router.Consistency

/-! Searches in a router, told without its index and its counts: one pass over the rules. -/
namespace RoutePattern.Router

variable {α : Type} {r : Router α}

/-- The rules behind the one of a name, or all of them; none if no rule has the name. -/
def tail? (rules : List (Rule α)) : Option String → Option (List (Rule α))
  | none => some rules
  | some name => (rules.findIdx? (·.name = name)).map fun slot => rules.drop (slot + 1)

/-- The bindings of a URL by a rule that allows the method, with the rule. -/
def answer? (v : Verb) (url : String) (rule : Rule α) : Option (Rule α × RuleMatch) :=
  if rule.verbs.contains v then (rule.matchUrl? url).map fun bindings => (rule, bindings) else none

/-- The methods of the rules that match a URL. -/
def allowed (url : String) (rules : List (Rule α)) : Verbs :=
  Verbs.unionAll ((rules.filter fun rule => (rule.matchUrl? url).isSome).map (·.verbs))

/-- The outcome of a search, from the rules alone. -/
def scan (rules : List (Rule α)) (verb url : String) (after : Option String) : Lookup α :=
  match tail? rules after with
  | none => .notFound
  | some tail =>
    match (Verb.ofName? verb).filter fun v => rules.any (·.verbs.contains v) with
    | none => .methodNotAllowed Verbs.empty
    | some v =>
      match tail.findSome? (answer? v url) with
      | some (rule, bindings) => .found rule bindings
      | none =>
        if (allowed url tail).isEmpty then .notFound else .methodNotAllowed (allowed url tail)

theorem allowed_cons {url : String} {rule : Rule α} {rules : List (Rule α)} :
    allowed url (rule :: rules) =
      if (rule.matchUrl? url).isSome then rule.verbs.union (allowed url rules)
      else allowed url rules := by
  rw [allowed, List.filter_cons]
  split
  · rw [List.map_cons, Verbs.unionAll, allowed]
  · rw [allowed]

/-- A search hands out the first rule that matches and allows the method. Without one it has gone
through all rules, and collected the methods of those that match. -/
theorem search_eq (v : Verb) (url : String) (earlier : Verbs) (rules : List (Rule α)) :
    search v url earlier rules =
      match rules.findSome? (answer? v url) with
      | some (rule, bindings) => .found rule bindings
      | none =>
        if (earlier.union (allowed url rules)).isEmpty then .notFound
        else .methodNotAllowed (earlier.union (allowed url rules)) := by
  -- the methods of the rules passed so far are carried along
  induction rules generalizing earlier with
  | nil =>
    have hnone : allowed url ([] : List (Rule α)) = Verbs.empty := rfl
    rw [search, hnone, Verbs.union_empty]
    rfl
  | cons rule rest ih =>
    rw [search, List.findSome?_cons, answer?, Rule.allows_single, allowed_cons]
    cases hm : rule.matchUrl? url with
    | none =>
      simp only [Option.map_none, ite_self, Option.isSome_none, Bool.false_eq_true, if_false]
      exact ih earlier
    | some bindings =>
      by_cases hv : rule.verbs.contains v = true
      · simp only [hv, if_true, Option.map_some]
      · simp only [hv, Bool.false_eq_true, if_false, Option.isSome_some, if_true,
          ← Verbs.union_assoc]
        exact ih (earlier.union rule.verbs)

namespace Consistent

/-- The index answers as a search for the name among the rules does. -/
theorem index_eq_findIdx? (h : Consistent r) (name : String) :
    r.index[name]? = r.rules.findIdx? (·.name = name) := by
  apply Option.ext
  intro slot
  rw [h.index, List.findIdx?_eq_some_iff_getElem, List.getElem?_map, Option.map_eq_some_iff]
  constructor
  · intro hx
    obtain ⟨rule, hrule, hname⟩ := hx
    obtain ⟨hlt, rfl⟩ := List.getElem?_eq_some_iff.mp hrule
    refine ⟨hlt, decide_eq_true hname, ?_⟩
    -- two rules of one name would both have to be where the index says
    intro j hj hj'
    have hj'' : r.rules[j].name = name := of_decide_eq_true hj'
    have hjlt : j < r.rules.length := Nat.lt_trans hj hlt
    have hslot := (h.index name slot).mpr (by simp [hlt, hname])
    have hother := (h.index name j).mpr (by simp [hjlt, hj''])
    rw [hslot] at hother
    have := Option.some.inj hother
    omega
  · intro hx
    obtain ⟨hlt, hname, -⟩ := hx
    exact ⟨r.rules[slot], List.getElem?_eq_getElem hlt, of_decide_eq_true hname⟩

/-- A method is counted if and only if a rule allows it. -/
theorem verbCount_pos_iff (h : Consistent r) (v : Verb) :
    0 < r.verbCount v ↔ r.rules.any (·.verbs.contains v) = true := by
  rw [h.counts, List.countP_pos_iff, List.any_eq_true]
  simp only [List.mem_map, exists_exists_and_eq_and]

/-- The place that the index gives for a name is that of a rule. -/
theorem index_lt (h : Consistent r) {name : String} {slot : Nat} (hs : r.index[name]? = some slot) :
    slot < r.rules.length := by
  have hget := (h.index name slot).mp hs
  obtain ⟨hlt, -⟩ := List.getElem?_eq_some_iff.mp hget
  rwa [List.length_map] at hlt

theorem find_eq_scan (h : Consistent r) (verb url : String) (after : Option String) :
    r.find verb url after = scan r.rules verb url after := by
  have hfilter : ((Verb.ofName? verb).filter fun v => 0 < r.verbCount v) =
      (Verb.ofName? verb).filter fun v => r.rules.any (·.verbs.contains v) := by
    congr 1
    funext v
    rw [Bool.eq_iff_iff, decide_eq_true_iff]
    exact h.verbCount_pos_iff v
  have hsearch (v : Verb) (rules : List (Rule α)) :=
    search_eq v url Verbs.empty rules
  simp only [Verbs.empty_union] at hsearch
  cases after with
  | none =>
    rw [find, scan, tail?]
    dsimp only
    rw [hfilter]
    cases (Verb.ofName? verb).filter fun v => r.rules.any (·.verbs.contains v) with
    | none => rfl
    | some v => exact hsearch v r.rules
  | some name =>
    rw [find, scan, tail?, ← h.index_eq_findIdx?]
    cases r.index[name]? with
    | none => rfl
    | some slot =>
      simp only [Option.map_some]
      rw [hfilter]
      cases (Verb.ofName? verb).filter fun v => r.rules.any (·.verbs.contains v) with
      | none => rfl
      | some v => exact hsearch v (r.rules.drop (slot + 1))

end Consistent

/-- Whatever calls a router has answered, a search in it has the outcome of one pass over its rules,
and starts among its rules or right behind the last of them. -/
theorem find_run_eq_scan (kinds : Kinds) (calls : List (Call α)) (verb url : String)
    (after : Option String) :
    (run kinds calls).find verb url after = scan (run kinds calls).rules verb url after ∧
      ∀ name ∈ after, ∀ slot ∈ (run kinds calls).index[name]?,
        slot + 1 ≤ (run kinds calls).rules.length := by
  have h := consistent_run kinds calls
  refine ⟨h.find_eq_scan verb url after, ?_⟩
  intro name _ slot hslot
  exact h.index_lt hslot

end RoutePattern.Router
