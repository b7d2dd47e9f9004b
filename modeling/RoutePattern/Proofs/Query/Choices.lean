import RoutePattern.Proofs.Path.Literals

/-! Query rules with choices, whose values are the choices as they are written. -/
namespace RoutePattern

open Regex State

namespace QuerySlot

/-- The regex for the values of a query rule with choices, where case counts. -/
def choicesText (choices : List String) : String :=
  String.ofList ("^(?:".toList ++ ['|'].intercalate (choices.map fun c => escape c.toList) ++
    ")$".toList)

variable {rule : QueryRule} {kinds : Kinds} {choices : List String}

/-- The choices are read as branches of one group between the anchors. -/
theorem exists_readItem?_choices (hne : choices ≠ []) :
    ∃ body : Item, readItem? (choicesText choices).toList =
        some (Item.concat (anchored {} [grouped none body]).reverse) ∧ body.height ≤ 2 ∧
      ∀ text, body.term.MatchesWhole text ↔ ∃ c ∈ choices, text = c.toList := by
  have htexts : choices.map String.toList ≠ [] := fun h => hne (List.map_eq_nil_iff.mp h)
  obtain ⟨body, hfills, hheight, -, hconsumes⟩ := exists_fills_escaped htexts
  rw [List.map_map] at hfills
  refine ⟨body, ?_, hheight, fun text => ?_⟩
  · exact (congrArg readItem? String.toList_ofList).trans (hfills 0).readItem?_whole
  · rw [hconsumes.matchesWhole_iff]
    exact List.mem_map.trans (exists_congr fun c => and_congr_right fun _ => eq_comm)

theorem make_of_ofText? {body : List Char} {check : Regex}
    (hbody : QuerySlot.body rule kinds = .ok (some body))
    (h : ofText? (String.ofList ("^(?:".toList ++ body ++ ")$".toList)) = some check) :
    make rule kinds false = .ok ⟨rule, some check⟩ := by
  have h' : ofText? (String.ofList ((if false then "(?i)".toList else []) ++ "^(?:".toList ++ body ++
      ")$".toList)) = some check := h
  simp only [make, hbody, bind, Except.bind, h']
  rfl

theorem make_of_ofText?_eq_none {body : List Char} (hbody : QuerySlot.body rule kinds = .ok (some body))
    (h : ofText? (String.ofList ("^(?:".toList ++ body ++ ")$".toList)) = none) :
    make rule kinds false =
      .error (.invalidRegex (String.ofList ("^(?:".toList ++ body ++ ")$".toList)) .malformed) := by
  have h' : ofText? (String.ofList ((if false then "(?i)".toList else []) ++ "^(?:".toList ++ body ++
      ")$".toList)) = none := h
  simp only [make, hbody, bind, Except.bind, h']
  rfl

/-- The values that a query rule with choices accepts are the choices, with all their characters, if its
regex keeps to the size that is allowed. -/
theorem accepts_iff_mem_choices (rule : QueryRule) (kinds : Kinds) (hchoices : rule.choices ≠ []) :
    ∃ t, read? (choicesText rule.choices).toList = some t ∧
      (t.fits = true → ∃ s, make rule kinds false = .ok s ∧ s.rule = rule ∧
        ∀ value, s.accepts value = true ↔ value ∈ rule.choices) ∧
      (t.fits = false →
        make rule kinds false = .error (.invalidRegex (choicesText rule.choices) .malformed)) := by
  obtain ⟨body, hread, hbody, hmatches⟩ := exists_readItem?_choices hchoices
  let item := Item.concat (anchored {} [grouped none body]).reverse
  have hheight : item.height ≤ nestLimit := by
    have hitem : item.height = max 0 (max (body.height + 1) 0) + 1 := rfl
    have hlimit : nestLimit = 250 := rfl
    omega
  have hbody : QuerySlot.body rule kinds =
      .ok (some (['|'].intercalate (rule.choices.map fun c => escape c.toList))) :=
    if_neg fun h => hchoices (List.isEmpty_iff.mp h)
  have hread? : read? (choicesText rule.choices).toList = some item.term := by
    rw [read?, hread, Option.bind_some, if_pos hheight]
  refine ⟨item.term, hread?, fun hfits => ?_, fun hfits => ?_⟩
  · have hregex := ofText?_eq_some_iff.mpr ⟨item, hread, hheight, hfits, rfl⟩
    refine ⟨_, make_of_ofText? hbody hregex, rfl, fun value => ?_⟩
    have hruns (x y : Spot) : item.term.Runs x y ↔
        Term.RunsAll (.look .textStart :: [(grouped none body).term] ++ [.look .textStop]) x y :=
      @runs_anchored {} [grouped none body] x y rfl rfl
    have haccepts : accepts ⟨rule, some ⟨choicesText rule.choices, item.term, item.term.program⟩⟩
        value = (item.term.program.run value.toList).isSome := Option.isSome_map
    rw [haccepts, run_isSome_iff_matchesWhole hruns]
    refine (hmatches value.toList).trans ?_
    simp only [String.toList_inj, exists_eq_right']
  · refine make_of_ofText?_eq_none hbody ?_
    have hnone : ofText? (choicesText rule.choices) = none := by
      rw [ofText?, hread?, Option.bind_eq_bind, Option.bind_some, if_neg (Bool.eq_false_iff.mp hfits)]
    exact hnone

/-- A rule whose choices begin with each other, and are no regexes or regexes for other texts. -/
def pageRange : QueryRule where
  name := "range"
  choices := ["1", "1-1", "[1-1]", "(1|", "1\n²"]

/-- A choice with brackets is itself, and not one of the texts that it would match. -/
theorem accepts_pageRange : pageRange.choices ≠ [] ∧ ∃ s, make pageRange ∅ false = .ok s ∧
    s.accepts "[1-1]" = true ∧ s.accepts "1-" = false ∧ s.accepts "1\n" = false := by
  have hne : pageRange.choices ≠ [] := List.cons_ne_nil _ _
  obtain ⟨t, ht, hok, -⟩ := accepts_iff_mem_choices pageRange ∅ hne
  have hfits : ((read? (choicesText pageRange.choices).toList).all Term.fits) = true := by decide +kernel
  obtain ⟨s, hs, -, hvalues⟩ := hok ((Option.all_eq_true _ _).mp hfits t ht)
  refine ⟨hne, s, hs, (hvalues _).mpr (by decide), ?_, ?_⟩
  · exact Bool.eq_false_iff.mpr fun h => absurd ((hvalues _).mp h) (by decide)
  · exact Bool.eq_false_iff.mpr fun h => absurd ((hvalues _).mp h) (by decide)

end QuerySlot

end RoutePattern
