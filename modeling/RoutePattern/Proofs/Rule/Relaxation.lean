import RoutePattern.Proofs.Path.Relaxation
import RoutePattern.Proofs.Rule.Absence

/-! Rules that are compiled without one of the anchors, or without both. They match what the rule with both
matches, and bind the same unless they stop in front of the end of the path. -/
namespace RoutePattern

open Regex

/-- Options that differ in the anchors only leave the query rules as they are. -/
theorem Pattern.compile_of_pathRegex {p : Pattern} {kinds : Kinds} {options options' : Options}
    {compiled : Compiled} {r : PathRegex} (h : p.compile kinds options = .ok compiled)
    (hcase : options'.ignoreCase = options.ignoreCase) (hr : p.pathRegex kinds options' = .ok r) :
    p.compile kinds options' = .ok ⟨r, compiled.slots⟩ := by
  rw [compile, (compile_eq_ok h).1] at h
  rw [compile, hr, hcase]
  cases hslots : p.query.mapM fun rule => QuerySlot.make rule kinds options.ignoreCase with
  | error e =>
    simp only [bind, Except.bind, hslots] at h
    cases h
  | ok slots =>
    simp only [bind, Except.bind, hslots] at h
    have hsame : slots = compiled.slots := congrArg Compiled.slots (Except.ok.inj h)
    rw [← hsame]
    rfl

namespace Rule

variable {α β : Type} {rule : Rule α} {rule' : Rule β} {data : RuleData α} {data' : RuleData β}
  {kinds : Kinds} {source url : String} {captures captures' : Captures} {m : RuleMatch}

/-- Rules with the same query rules that match a path bind the same of the query. -/
theorem matchUrl?_of_slots_eq (hslots : rule'.compiled.slots = rule.compiled.slots)
    (hcaptures : rule.compiled.path.regex.captures? (Query.splitUrl url).1 = some captures)
    (hcaptures' : rule'.compiled.path.regex.captures? (Query.splitUrl url).1 = some captures')
    (hm : rule.matchUrl? url = some m) :
    rule'.matchUrl? url = some ⟨pathBindings rule'.compiled.path.groups captures', m.query⟩ := by
  by_cases hempty : rule.compiled.slots = []
  · rw [matchUrl?_of_slots_eq_nil hempty hcaptures] at hm
    rw [matchUrl?_of_slots_eq_nil (hslots.trans hempty) hcaptures', ← Option.some.inj hm]
  · rw [matchUrl?_eq hempty, hcaptures, Option.bind_some] at hm
    obtain ⟨query, hquery, rfl⟩ := Option.map_eq_some_iff.mp hm
    rw [matchUrl?_eq (hslots ▸ hempty), hcaptures', Option.bind_some, hslots, hquery]
    rfl

/-- A rule with both anchors can also be made without some of them, unless the automaton becomes too
large. It then matches the same URLs from the start of the path, with the same bindings of the query, and
with the same bindings of the path if the match goes to the end of the path, as it does with an anchor
there. -/
theorem matchUrl?_relaxed (hmake : make source data kinds = .ok rule)
    (hstart : data.options.anchorStart = true) (hstop : data.options.anchorEnd = true)
    (hcase : data'.options.ignoreCase = data.options.ignoreCase)
    (hinside : ∀ q ∈ rule.pattern.params, ∀ text, q.fragment? kinds = some text →
      isContained text.toList = true) :
    (∃ rule', make source data' kinds = .ok rule' ∧ rule'.pattern = rule.pattern ∧
      ∀ url m, rule.matchUrl? url = some m → ∃ m' captures stop,
        rule'.matchUrl? url = some m' ∧ m'.query = m.query ∧
        rule'.compiled.path.regex.captures? (Query.splitUrl url).1 = some captures ∧
        captures.span? 0 = some (0, stop) ∧ stop ≤ (Query.splitUrl url).1.toList.length ∧
        (data'.options.anchorEnd = true → stop = (Query.splitUrl url).1.toList.length) ∧
        (stop = (Query.splitUrl url).1.toList.length → m'.path = m.path)) ∨
      make source data' kinds = .error (.invalidRegex rule.pattern.source .malformed) ∧
        ∃ text t, rule.pattern.regexText kinds data'.options = .ok text ∧
          read? text.toList = some t ∧ t.fits = false := by
  have hread := read_of_make hmake
  have hcompile := compile_of_make hmake
  obtain ⟨hregex, -, -⟩ := Pattern.compile_eq_ok hcompile
  rcases Pattern.pathRegex_relaxed hregex hinside hstart hstop hcase with
    ⟨r, hr, hgroups, hruns⟩ | ⟨hlarge, htext⟩
  · left
    have hcompile' := Pattern.compile_of_pathRegex hcompile hcase hr
    let rule' : Rule β := ⟨source, data'.name.getD source, rule.pattern, kinds,
      ⟨r, rule.compiled.slots⟩, { data' with verbs := data'.verbs.normalized }⟩
    have hmake' : make source data' kinds = .ok rule' := by
      rw [make_of_read hread, hcompile']
      rfl
    refine ⟨rule', hmake', rfl, fun url m hm => ?_⟩
    obtain ⟨captures, hcaptures⟩ := exists_captures_of_matchUrl? hm
    obtain ⟨captures', stop, hcaptures', hspan, hle, hend, hsame⟩ := hruns _ _ hcaptures
    obtain ⟨hpath, -⟩ := of_matchUrl? hcaptures hm
    have hslots : rule'.compiled.slots = rule.compiled.slots := rfl
    have hm' : rule'.matchUrl? url = some ⟨pathBindings r.groups captures', m.query⟩ :=
      matchUrl?_of_slots_eq hslots hcaptures hcaptures' hm
    refine ⟨_, captures', stop, hm', rfl, hcaptures', hspan, hle, hend, fun hstop => ?_⟩
    rw [hpath, hsame hstop, hgroups]
  · right
    refine ⟨?_, htext⟩
    rw [make_of_read hread, Pattern.compile, hlarge]
    rfl

/-- Without the anchor at its start a rule binds the same. -/
theorem matchUrl?_relaxed_start :
    let relaxed : RuleData Unit := { options := { anchorStart := false }, payload := () }
    ∃ (rule rule' : Rule Unit) (m m' : RuleMatch),
      make "/<{[a-z]+}:x>" { payload := () } ∅ = .ok rule ∧
      (∀ q ∈ rule.pattern.params, ∀ text, q.fragment? ∅ = some text →
        isContained text.toList = true) ∧
      make "/<{[a-z]+}:x>" relaxed ∅ = .ok rule' ∧ rule.matchUrl? "/ab" = some m ∧
      rule'.matchUrl? "/ab" = some m' ∧ m'.path = m.path := by
  intro relaxed
  let x : Param := { name := "x", constraint := .regex "[a-z]+" }
  have hread : Pattern.read "/<{[a-z]+}:x>" = .ok ⟨"/<{[a-z]+}:x>", [.delimiter, .param x], []⟩ := rfl
  have hurl : Query.splitUrl "/ab" = ("/ab", none) := by decide +kernel
  obtain ⟨rule, captures, m, hmake, hparams, -, -, hm, -⟩ :=
    exists_match_of_groups { payload := () } ["x"] [some "ab"] hread rfl hurl (by decide +kernel)
  have hinside : ∀ q ∈ rule.pattern.params, ∀ text, q.fragment? ∅ = some text →
      isContained text.toList = true := by
    rw [hparams]
    intro q hq text htext
    obtain rfl := List.mem_singleton.mp hq
    obtain rfl : "[a-z]+" = text := Option.some.inj htext
    decide +kernel
  have hmade : (make "/<{[a-z]+}:x>" relaxed ∅).toOption.isSome = true := by decide +kernel
  rcases matchUrl?_relaxed hmake rfl rfl (rfl : relaxed.options.ignoreCase = false) hinside with
    ⟨rule', hmake', -, hmatch⟩ | ⟨herror, -⟩
  · obtain ⟨m', captures', stop, hm', -, -, -, -, hend, hsame⟩ := hmatch "/ab" m hm
    exact ⟨rule, rule', m, m', hmake, hinside, hmake', hm, hm', hsame (hend rfl)⟩
  · rw [herror] at hmade
    cases hmade

/-- Without the anchor at its end a rule binds less of the path, and a fragment that closes the
parentheses of its param has an alternative that only the anchor at the start excludes. -/
theorem matchUrl?_relaxed_differs :
    let loose : RuleData Unit := { options := { anchorEnd := false }, payload := () }
    let late : RuleData Unit := { options := { anchorStart := false }, payload := () }
    (∃ (rule rule' : Rule Unit) (m m' : RuleMatch),
      make "/<x>" { payload := () } ∅ = .ok rule ∧ make "/<x>" loose ∅ = .ok rule' ∧
      rule.matchUrl? "/ab" = some m ∧ rule'.matchUrl? "/ab" = some m' ∧
      m.path = [("x", .text "ab")] ∧ m'.path = [("x", .text "a")]) ∧
    ∃ (rule rule' : Rule Unit) (m m' : RuleMatch),
      make "/<{a)|(?:b}:x>" { payload := () } ∅ = .ok rule ∧
      make "/<{a)|(?:b}:x>" late ∅ = .ok rule' ∧
      rule.matchUrl? "z/ab" = some m ∧ rule'.matchUrl? "z/ab" = some m' ∧
      m.path = [("x", .null)] ∧ m'.path = [("x", .text "a")] := by
  intro loose late
  constructor
  · have hread : Pattern.read "/<x>" = .ok ⟨"/<x>", [.delimiter, .param { name := "x" }], []⟩ := rfl
    have hurl : Query.splitUrl "/ab" = ("/ab", none) := by decide +kernel
    obtain ⟨rule, -, m, hmake, -, -, -, hm, hpath⟩ :=
      exists_match_of_groups { payload := () } ["x"] [some "ab"] hread rfl hurl (by decide +kernel)
    obtain ⟨rule', -, m', hmake', -, -, -, hm', hpath'⟩ :=
      exists_match_of_groups loose ["x"] [some "a"] hread rfl hurl (by decide +kernel)
    exact ⟨rule, rule', m, m', hmake, hmake', hm, hm', hpath, hpath'⟩
  · have hread : Pattern.read "/<{a)|(?:b}:x>" = .ok ⟨"/<{a)|(?:b}:x>",
        [.delimiter, .param { name := "x", constraint := .regex "a)|(?:b" }], []⟩ := rfl
    have hurl : Query.splitUrl "z/ab" = ("z/ab", none) := by decide +kernel
    obtain ⟨rule, -, m, hmake, -, -, -, hm, hpath⟩ :=
      exists_match_of_groups { payload := () } ["x"] [none] hread rfl hurl (by decide +kernel)
    obtain ⟨rule', -, m', hmake', -, -, -, hm', hpath'⟩ :=
      exists_match_of_groups late ["x"] [some "a"] hread rfl hurl (by decide +kernel)
    exact ⟨rule, rule', m, m', hmake, hmake', hm, hm', hpath, hpath'⟩

end Rule

end RoutePattern
