import RoutePattern.Proofs.Router.Outcome
import RoutePattern.Proofs.Router.Representation

/-! Going through the rules for a URL and a method. Each step knows no more than the name of the rule
where the one before it stopped, and yet the steps together hand out what one pass would. -/
namespace RoutePattern.Router

variable {α : Type} {r : Router α} {verb url : String} {after : Option String} {v : Verb}
  {rule : Rule α} {rules tail front rest : List (Rule α)} {found : Rule α × RuleMatch}
  {more : List (Rule α × RuleMatch)}

/-- The rules that allow a method and match a URL, in order, each with its bindings. -/
def hits (rules : List (Rule α)) (verb url : String) : List (Rule α × RuleMatch) :=
  match Verb.ofName? verb with
  | none => []
  | some v =>
    (rules.filter (·.allows (Verbs.single v))).filterMap fun rule =>
      (rule.matchUrl? url).map fun bindings => (rule, bindings)

/-- How far the rules have been gone through after some steps. -/
def advance (r : Router α) (verb url : String) : Nat → Progress → Progress
  | 0, p => p
  | n + 1, p => r.advance verb url n (r.next verb url p).2

section Hits

theorem hits_eq_filterMap (hverb : Verb.ofName? verb = some v) :
    hits rules verb url = rules.filterMap (answer? v url) := by
  rw [hits, hverb]
  dsimp only
  rw [List.filterMap_filter]
  refine congrArg (List.filterMap · rules) (funext fun rule => ?_)
  rw [answer?, Rule.allows_single]

theorem fst_of_answer? (h : answer? v url rule = some found) : found.1 = rule := by
  rw [answer?] at h
  split at h
  · obtain ⟨bindings, -, rfl⟩ := Option.map_eq_some_iff.mp h
    rfl
  · cases h

theorem map_hits_sublist : ((hits rules verb url).map (·.1)).Sublist rules := by
  cases hverb : Verb.ofName? verb with
  | none =>
    rw [hits, hverb]
    exact List.nil_sublist rules
  | some v =>
    rw [hits_eq_filterMap hverb]
    induction rules with
    | nil => exact List.nil_sublist []
    | cons rule rest ih =>
      rw [List.filterMap_cons]
      cases h : answer? v url rule with
      | none => exact ih.cons rule
      | some found =>
        rw [List.map_cons, fst_of_answer? h]
        exact ih.cons_cons rule

end Hits

section Steps

/-- Behind the rule of a name stand the rules behind the only place that has this name. -/
theorem tail?_of_append (hnames : ((front ++ rule :: rest).map (·.name)).Nodup) :
    tail? (front ++ rule :: rest) (some rule.name) = some rest := by
  -- names are not given twice, so that no rule before this one has its name
  have hfront : front.findIdx? (·.name = rule.name) = none := by
    rw [List.findIdx?_eq_none_iff]
    intro other hother
    rw [List.map_append, List.map_cons] at hnames
    have hdisjoint := (List.nodup_append.mp hnames).2.2
    exact decide_eq_false
      (hdisjoint other.name (List.mem_map_of_mem hother) rule.name List.mem_cons_self)
  have hslot : (front ++ rule :: rest).findIdx? (·.name = rule.name) = some front.length := by
    rw [List.findIdx?_append, hfront, List.findIdx?_cons, if_pos (decide_eq_true rfl)]
    simp
  rw [tail?, hslot, Option.map_some, List.drop_append]
  simp

/-- A search hands out the first hit behind the place where it starts. -/
theorem scan_of_hits_cons (htail : tail? rules after = some tail)
    (h : hits tail verb url = found :: more) :
    scan rules verb url after = .found found.1 found.2 := by
  cases hverb : Verb.ofName? verb with
  | none =>
    rw [hits, hverb] at h
    cases h
  | some v =>
    rw [hits_eq_filterMap hverb] at h
    have hfirst : tail.findSome? (answer? v url) = some found := by
      rw [← List.head?_filterMap, h, List.head?_cons]
    rcases scan_cases htail hverb with ⟨rule, bindings, hf, hs⟩ | ⟨hnone, -⟩
    · obtain rfl := Option.some.inj (hfirst.symm.trans hf)
      exact hs
    · rw [hfirst] at hnone
      cases hnone

theorem isFound_of_hits_nil (htail : tail? rules after = some tail) (h : hits tail verb url = []) :
    (scan rules verb url after).isFound = false := by
  rw [isFound_scan, htail, Option.any_some]
  cases hverb : Verb.ofName? verb with
  | none => rfl
  | some v =>
    rw [hits_eq_filterMap hverb] at h
    rw [Option.any_some, contains_allowed, ← List.head?_filterMap, h]
    rfl

theorem next_of_hits_nil (h : Consistent r) (htail : tail? r.rules after = some tail)
    (hnil : hits tail verb url = []) :
    r.next verb url ⟨after, false⟩ = (none, ⟨after, true⟩) := by
  have hfound := isFound_of_hits_nil htail hnil
  rw [← h.find_eq_scan] at hfound
  rw [next]
  cases hf : r.find verb url after with
  | found rule bindings =>
    rw [hf] at hfound
    cases hfound
  | _ => rfl

/-- A step hands out the first hit, and what it leaves for the steps behind it are the others. -/
theorem next_of_hits_cons (h : Consistent r) (htail : tail? r.rules after = some tail)
    (hcons : hits tail verb url = found :: more) :
    r.next verb url ⟨after, false⟩ = (some found, ⟨some found.1.name, false⟩) ∧
      ∃ rest, tail? r.rules (some found.1.name) = some rest ∧ hits rest verb url = more := by
  constructor
  · rw [next]
    simp only [h.find_eq_scan, scan_of_hits_cons htail hcons]
    rfl
  · cases hverb : Verb.ofName? verb with
    | none =>
      rw [hits, hverb] at hcons
      cases hcons
    | some v =>
      rw [hits_eq_filterMap hverb] at hcons
      obtain ⟨before, rule, rest, rfl, -, hrule, hmore⟩ := List.filterMap_eq_cons_iff.mp hcons
      -- the rules that were passed over stand before the hit, wherever the step started
      obtain ⟨front, hrules⟩ := suffix_of_tail? htail
      rw [← List.append_assoc] at hrules
      have hnames := h.distinct
      rw [← hrules] at hnames ⊢
      refine ⟨rest, ?_, (hits_eq_filterMap hverb).trans hmore⟩
      rw [fst_of_answer? hrule]
      exact tail?_of_append hnames

theorem next_finished (n : Nat) : (r.next verb url
    (r.advance verb url n ⟨after, true⟩)).1 = none := by
  induction n with
  | zero => rfl
  | succ n ih => exact ih

/-- The steps hand out the hits one by one, and nothing behind the last of them. -/
theorem next_advance (h : Consistent r) (htail : tail? r.rules after = some tail) (n : Nat) :
    (r.next verb url (r.advance verb url n ⟨after, false⟩)).1 = (hits tail verb url)[n]? := by
  -- on the number of steps, with the place from which they start left open
  induction n generalizing after tail with
  | zero =>
    cases hhits : hits tail verb url with
    | nil => rw [advance, next_of_hits_nil h htail hhits, List.getElem?_nil]
    | cons found more => rw [advance, (next_of_hits_cons h htail hhits).1, List.getElem?_cons_zero]
  | succ n ih =>
    rw [advance]
    cases hhits : hits tail verb url with
    | nil => rw [next_of_hits_nil h htail hhits, next_finished, List.getElem?_nil]
    | cons found more =>
      obtain ⟨hnext, rest, hrest, hmore⟩ := next_of_hits_cons h htail hhits
      rw [hnext, ih hrest, hmore, List.getElem?_cons_succ]

theorem nextAll_eq_take (h : Consistent r) (htail : tail? r.rules after = some tail) (fuel : Nat) :
    r.nextAll verb url fuel ⟨after, false⟩ = (hits tail verb url).take fuel := by
  induction fuel generalizing after tail with
  | zero => rw [nextAll, List.take_zero]
  | succ fuel ih =>
    rw [nextAll]
    cases hhits : hits tail verb url with
    | nil =>
      rw [next_of_hits_nil h htail hhits, List.take_nil]
    | cons found more =>
      obtain ⟨hnext, rest, hrest, hmore⟩ := next_of_hits_cons h htail hhits
      rw [hnext, List.take_succ_cons, ← hmore, ← ih hrest]

end Steps

/-- Whatever calls a router has answered: the steps for a URL and a method hand out the rules that
allow the method and match the URL, in order, each once and with its bindings; then there is nothing
more, however often it is asked for. A method that is not known has no such rules. -/
theorem run_next_eq_hits (kinds : Kinds) (calls : List (Call α)) (verb url : String) :
    (∀ n, ((run kinds calls).next verb url ((run kinds calls).advance verb url n {})).1 =
      (hits (run kinds calls).rules verb url)[n]?) ∧
    (run kinds calls).matching verb url = hits (run kinds calls).rules verb url ∧
    ((hits (run kinds calls).rules verb url).map (·.1.name)).Nodup ∧
    (Verb.ofName? verb = none → (run kinds calls).matching verb url = []) := by
  have h := consistent_run kinds calls
  have hsublist : ((hits (run kinds calls).rules verb url).map (·.1)).Sublist
      (run kinds calls).rules := map_hits_sublist
  -- there are no more hits than rules, so that no step is missing
  have hlength : (hits (run kinds calls).rules verb url).length ≤
      (run kinds calls).rules.length := by
    have hle := hsublist.length_le
    rwa [List.length_map] at hle
  have hmatching : (run kinds calls).matching verb url = hits (run kinds calls).rules verb url :=
    (nextAll_eq_take h rfl _).trans (List.take_of_length_le (Nat.le_succ_of_le hlength))
  refine ⟨next_advance h rfl, hmatching, ?_, ?_⟩
  · have hnames := (hsublist.map (·.name)).nodup h.distinct
    rwa [List.map_map] at hnames
  · intro hverb
    rw [hmatching, hits, hverb]

end RoutePattern.Router
