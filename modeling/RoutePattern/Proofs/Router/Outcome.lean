import RoutePattern.Proofs.Router.Scan

/-! The outcomes of a search, and what one of them tells of the others: the methods that a search without
success reports are those with which it would succeed. -/
namespace RoutePattern

theorem Verb.ofName?_name (v : Verb) : Verb.ofName? v.name = some v := by
  cases v <;> decide

namespace Verbs

theorem contains_of_isEmpty {vs : Verbs} (h : vs.isEmpty = true) (v : Verb) :
    vs.contains v = false := by
  have hempty : vs = empty := congrArg Verbs.mk (of_decide_eq_true h)
  rw [hempty, contains_empty]

theorem contains_unionAll (sets : List Verbs) (v : Verb) :
    (unionAll sets).contains v = sets.any (·.contains v) := by
  induction sets with
  | nil => exact contains_empty
  | cons vs rest ih => rw [unionAll, contains_union, ih, List.any_cons]

end Verbs

/-- Whether a search has found a rule. -/
def Lookup.isFound {α : Type} : Lookup α → Bool
  | .found .. => true
  | _ => false

namespace Router

variable {α : Type} {rules tail : List (Rule α)} {url : String} {after : Option String} {v : Verb}

theorem suffix_of_tail? (h : tail? rules after = some tail) : tail <:+ rules := by
  cases after with
  | none =>
    obtain rfl : rules = tail := Option.some.inj h
    exact List.suffix_refl rules
  | some name =>
    obtain ⟨slot, -, rfl⟩ := Option.map_eq_some_iff.mp h
    exact List.drop_suffix _ rules

theorem exists_tail? (h : ∀ name ∈ after, ∃ rule ∈ rules, rule.name = name) :
    ∃ tail, tail? rules after = some tail := by
  cases after with
  | none => exact ⟨rules, rfl⟩
  | some name =>
    obtain ⟨rule, hmem, hname⟩ := h name rfl
    have hslot : (rules.findIdx? (·.name = name)).isSome = true :=
      List.findIdx?_isSome.trans (List.any_eq_true.mpr ⟨rule, hmem, decide_eq_true hname⟩)
    obtain ⟨slot, hslot⟩ := Option.isSome_iff_exists.mp hslot
    rw [tail?, hslot]
    exact ⟨_, rfl⟩

theorem verbs_of_answer? {rule : Rule α} (h : (answer? v url rule).isSome = true) :
    rule.verbs.contains v = true := by
  rw [answer?] at h
  split at h
  · next hv => exact hv
  · cases h

/-- A method is among those of the rules that match if one of these rules answers to it. -/
theorem contains_allowed :
    (allowed url rules).contains v = (rules.findSome? (answer? v url)).isSome := by
  rw [allowed, Verbs.contains_unionAll, List.any_map, List.any_filter, Bool.eq_iff_iff,
    List.any_eq_true, List.findSome?_isSome_iff]
  refine exists_congr fun rule => and_congr_right fun _ => ?_
  rw [answer?, Function.comp_apply]
  by_cases hv : rule.verbs.contains v = true
  · rw [if_pos hv, Option.isSome_map, hv, Bool.and_true]
  · rw [if_neg hv, Bool.eq_false_iff.mpr hv, Bool.and_false, Option.isSome_none]

/-- What a search answers to a method, once it is known behind which rule it starts: the first rule
that matches and allows the method; without one, the methods of the rules that match, unless there are
none or no rule at all allows the method that was asked for. -/
theorem scan_cases {method : String} (htail : tail? rules after = some tail)
    (hverb : Verb.ofName? method = some v) :
    (∃ rule bindings, tail.findSome? (answer? v url) = some (rule, bindings) ∧
      scan rules method url after = .found rule bindings) ∨
    tail.findSome? (answer? v url) = none ∧
      ((rules.any (·.verbs.contains v) = false ∧
          scan rules method url after = .methodNotAllowed Verbs.empty) ∨
        ((allowed url tail).isEmpty = true ∧ scan rules method url after = .notFound) ∨
        scan rules method url after = .methodNotAllowed (allowed url tail)) := by
  rw [scan, htail, hverb]
  cases hserved : rules.any (·.verbs.contains v) with
  | false =>
    -- the search does not even start, and would not find anything
    have hnone : tail.findSome? (answer? v url) = none := by
      rw [List.findSome?_eq_none_iff]
      intro rule hrule
      rw [← Option.not_isSome_iff_eq_none]
      intro hsome
      rw [List.any_eq_false] at hserved
      exact hserved rule ((suffix_of_tail? htail).subset hrule) (verbs_of_answer? hsome)
    simp only [Option.filter_some, hserved, Bool.false_eq_true, if_false]
    exact Or.inr ⟨hnone, Or.inl ⟨trivial, trivial⟩⟩
  | true =>
    simp only [Option.filter_some, hserved, if_true]
    cases tail.findSome? (answer? v url) with
    | some found => exact Or.inl ⟨found.1, found.2, rfl, rfl⟩
    | none =>
      refine Or.inr ⟨rfl, Or.inr ?_⟩
      cases hempty : (allowed url tail).isEmpty with
      | true => exact Or.inl ⟨rfl, rfl⟩
      | false => exact Or.inr rfl

/-- A search succeeds with the methods of the rules that match and are gone through. -/
theorem isFound_scan (method : String) : (scan rules method url after).isFound =
    (tail? rules after).any fun tail => (Verb.ofName? method).any (allowed url tail).contains := by
  cases htail : tail? rules after with
  | none =>
    rw [scan, htail]
    rfl
  | some tail =>
    cases hverb : Verb.ofName? method with
    | none =>
      rw [scan, htail, hverb]
      rfl
    | some v =>
      rw [Option.any_some, Option.any_some]
      rcases scan_cases htail hverb with ⟨rule, bindings, hfirst, hs⟩ | ⟨hfirst, hs⟩
      · rw [hs, contains_allowed, hfirst]
        rfl
      · rw [contains_allowed, hfirst]
        rcases hs with ⟨-, hs⟩ | ⟨-, hs⟩ | hs
        all_goals
          rw [hs]
          rfl

/-- A search that reports methods has gone through all rules, of which none answers to its own. -/
theorem scan_eq_methodNotAllowed {method : String} {reported : Verbs}
    (h : scan rules method url after = .methodNotAllowed reported)
    (hne : reported.isEmpty = false) :
    ∃ tail asked, tail? rules after = some tail ∧ Verb.ofName? method = some asked ∧
      reported = allowed url tail ∧ reported.contains asked = false := by
  cases htail : tail? rules after with
  | none =>
    rw [scan, htail] at h
    cases h
  | some tail =>
    cases hverb : Verb.ofName? method with
    | none =>
      rw [scan, htail, hverb] at h
      obtain rfl := Lookup.methodNotAllowed.inj h
      cases hne
    | some asked =>
      rcases scan_cases htail hverb with ⟨rule, bindings, -, hs⟩ | ⟨hfirst, hs⟩
      · rw [hs] at h
        cases h
      · rcases hs with ⟨-, hs⟩ | ⟨-, hs⟩ | hs
        · obtain rfl := Lookup.methodNotAllowed.inj (hs.symm.trans h)
          cases hne
        · rw [hs] at h
          cases h
        · obtain rfl := Lookup.methodNotAllowed.inj (hs.symm.trans h)
          refine ⟨tail, asked, rfl, rfl, rfl, ?_⟩
          rw [contains_allowed, hfirst]
          rfl

/-- Where a search with a method that is answered to finds nothing, no other method would help. -/
theorem isEmpty_of_scan_eq_notFound {method : String} (htail : tail? rules after = some tail)
    (hverb : Verb.ofName? method = some v) (hserved : rules.any (·.verbs.contains v) = true)
    (h : scan rules method url after = .notFound) : (allowed url tail).isEmpty = true := by
  rcases scan_cases htail hverb with ⟨rule, bindings, -, hs⟩ | ⟨-, ⟨hnone, -⟩ | ⟨hempty, -⟩ | hs⟩
  · rw [hs] at h
    cases h
  · rw [hserved] at hnone
    cases hnone
  · exact hempty
  · rw [hs] at h
    cases h

/-- Whatever calls a router has answered: a search that reports methods would succeed with these and
with no others, its own among the others. A search that finds nothing, though some rule answers to its
method and it does not start behind a rule that is not there, succeeds with no method. -/
theorem run_methods_exact (kinds : Kinds) (calls : List (Call α)) (url : String)
    (after : Option String) :
    (∀ method reported,
      (run kinds calls).find method url after = .methodNotAllowed reported →
      reported.isEmpty = false →
      (∀ v : Verb, ((run kinds calls).find v.name url after).isFound = reported.contains v) ∧
      (∀ other, ((run kinds calls).find other url after).isFound =
        (Verb.ofName? other).any reported.contains) ∧
      ∃ asked, Verb.ofName? method = some asked ∧ reported.contains asked = false) ∧
    ∀ method asked, Verb.ofName? method = some asked →
      (∃ rule ∈ (run kinds calls).rules, rule.allows (Verbs.single asked) = true) →
      (∀ name ∈ after, ∃ rule ∈ (run kinds calls).rules, rule.name = name) →
      (run kinds calls).find method url after = .notFound →
      ∀ other, ((run kinds calls).find other url after).isFound = false := by
  have hfind (method : String) := (consistent_run kinds calls).find_eq_scan method url after
  simp only [hfind]
  constructor
  · intro method reported h hne
    obtain ⟨tail, asked, htail, hverb, rfl, hout⟩ := scan_eq_methodNotAllowed h hne
    have hfound (other : String) : (scan (run kinds calls).rules other url after).isFound =
        (Verb.ofName? other).any (allowed url tail).contains := by
      rw [isFound_scan, htail, Option.any_some]
    refine ⟨fun v => ?_, hfound, asked, hverb, hout⟩
    rw [hfound, Verb.ofName?_name, Option.any_some]
  · intro method asked hverb hallows hafter h other
    obtain ⟨rule, hrule, hallows⟩ := hallows
    obtain ⟨tail, htail⟩ := exists_tail? hafter
    rw [Rule.allows_single] at hallows
    have hempty := isEmpty_of_scan_eq_notFound htail hverb
      (List.any_eq_true.mpr ⟨rule, hrule, hallows⟩) h
    have hnone : (allowed url tail).contains = fun _ => false :=
      funext (Verbs.contains_of_isEmpty hempty)
    rw [isFound_scan, htail, Option.any_some, hnone]
    cases Verb.ofName? other <;> rfl

/-- Two rules for one path, and a third one for another path, to which alone POST is sent. -/
theorem run_methods_posted :
    let calls : List (Call Unit) :=
      [.addRule "/r" { payload := () },
        .addRule "/r" { verbs := (Verbs.single .get).union (Verbs.single .put), payload := () },
        .addRule "/other" { verbs := Verbs.single .post, payload := () }]
    let reported := ((Verbs.single .get).union (Verbs.single .head)).union (Verbs.single .put)
    (run ∅ calls).find "POST" "/r" none = .methodNotAllowed reported ∧
      reported.isEmpty = false ∧
      ((run ∅ calls).find "PUT" "/r" none).isFound = true ∧
      ((run ∅ calls).find "DELETE" "/r" none).isFound = false ∧
      (run ∅ calls).find "PUT" "/nowhere" none = .notFound ∧
      ((run ∅ calls).find "POST" "/nowhere" none).isFound = false := by
  intro calls reported
  have hreported : (run ∅ calls).find "POST" "/r" none = .methodNotAllowed reported := rfl
  have hne : reported.isEmpty = false := by decide
  obtain ⟨hverb, -, -⟩ := (run_methods_exact ∅ calls "/r" none).1 "POST" reported hreported hne
  have hnothing : (run ∅ calls).find "PUT" "/nowhere" none = .notFound := rfl
  have hput : ∃ rule ∈ (run ∅ calls).rules, rule.allows (Verbs.single .put) = true :=
    List.any_eq_true.mp (by decide +kernel)
  have hnowhere := (run_methods_exact ∅ calls "/nowhere" none).2 "PUT" .put (by decide) hput
    (fun _ hname => by cases hname) hnothing
  refine ⟨hreported, hne, ?_, ?_, hnothing, hnowhere "POST"⟩
  · exact (hverb .put).trans (by decide)
  · exact (hverb .delete).trans (by decide)

end Router

end RoutePattern
