import RoutePattern.Proofs.Bindings.Gathering
import RoutePattern.Proofs.Build.Literal
import RoutePattern.Proofs.Path.Isolation
import RoutePattern.Proofs.Rule.Absence

/-! Params with choices. What such a param is bound to is one of its choices, where no fragment reaches
over its parentheses. -/
namespace RoutePattern

open Regex State Text

section Fragments

variable {text : List Char} {t : Term}

/-- A regex that keeps to its parentheses is contained by them. -/
theorem isContained_of_read (h : read? text = some t) (hs : staysInside text = true) :
    isContained text = true := by
  rw [read?, readItem?] at h
  obtain ⟨item, hitem, -⟩ := Option.bind_eq_some_iff.mp h
  obtain ⟨st, hst, hfinish⟩ := Option.bind_eq_some_iff.mp hitem
  refine isContained_iff.mpr ⟨?_, (Bool.and_eq_true_iff.mp hs).1, fun st' hst' => ?_⟩
  · intro hhead
    -- a text that begins with a question mark is not read at all
    obtain ⟨rest, rfl⟩ : ∃ rest, text = '?' :: rest := by
      cases text with
      | nil => cases hhead
      | cons c rest => exact ⟨rest, by rw [Option.some.inj hhead]⟩
    cases hst
  · obtain rfl : st = st' := Option.some.inj (hst.symm.trans hst')
    exact ⟨comment_eq_of_staysInside hs hst, item, hfinish⟩

end Fragments

section Groups

variable {p q : Param} {kinds : Kinds} {options : Options} {r : PathRegex} {captures : Captures}
  {i : Nat} {path v : String}

/-- The text of the group of a param with choices is one that a choice is found as. -/
theorem Pattern.mem_eitherOf_of_captures {p : Pattern} (h : p.pathRegex kinds options = .ok r)
    (hinside : ∀ q ∈ p.params, ∀ text, q.fragment? kinds = some text →
      isContained text.toList = true)
    (halone : ∀ q ∈ p.params, q.Ungrouped kinds)
    (hcaptures : r.regex.captures? path = some captures) (hi : p.params[i]? = some q)
    (hne : q.choices ≠ []) (hv : captures.group? (i + 1) = some v) :
    v.toList ∈ eitherOf (choiceForms options.ignoreCase q.choices) := by
  obtain ⟨body, items, g', names', slots, -, hregex, -, -, hlaid, hslots, hitems⟩ :=
    exists_laid h hinside
  rw [hregex] at hcaptures
  obtain ⟨m, hrun, rfl⟩ := Option.map_eq_some_iff.mp hcaptures
  obtain ⟨start, stop, hon, ⟨cur, m'⟩, hruns, hmarks⟩ := (Term.run_program _ _).1 m hrun
  obtain ⟨rfl, rfl⟩ := Prod.mk.inj hmarks
  obtain ⟨-, hbody, -⟩ := runs_anchored_iff.mp hruns
  have hfree : ∀ s ∈ slots, s.2.Ungrouped kinds := by
    intro s hs
    refine halone s.2 ?_
    rw [← hslots]
    exact List.mem_map_of_mem hs
  obtain ⟨-, marks, hmarked, -, hsound⟩ := hlaid.sound hfree hon hbody
  -- the groups are as many as the params, so that they are numbered in their order
  have hlength : slots.length = p.params.length := by
    rw [← hslots, List.length_map]
  obtain ⟨⟨j, q'⟩, hslot, rfl⟩ : ∃ s, slots[i]? = some s ∧ s.2 = q := by
    rw [← hslots, List.getElem?_map] at hi
    exact Option.map_eq_some_iff.mp hi
  have hindex : j = i + 1 :=
    hlaid.index_eq (fun item hitem => hlength ▸ (hitems item hitem).1) hslot
  subst hindex
  refine hsound _ (List.mem_of_getElem? hslot) hne v ?_
  -- the marks of the whole match are those of another group
  have hwhole (k o : Nat) (hk : k < 2) : ∀ mark ∈ [(k, o)], mark.1 / 2 ≠ i + 1 := by
    rw [List.forall_mem_singleton, Nat.div_eq_of_lt hk]
    exact (Nat.succ_ne_zero i).symm
  obtain rfl : m' = marks ++ [(2 * 0, start.offset)] := hmarked
  rw [← group?_append_right (hwhole (2 * 0) start.offset Nat.two_pos),
    ← group?_append_left (hwhole (2 * 0 + 1) stop.offset Nat.one_lt_two)]
  exact hv

end Groups

namespace Bindings

variable {before after : List (String × Option String)} {name text : String}

/-- A text that is collected under a name apart from all others stays what the name is bound to. -/
theorem lookup?_collectAll_of_apart
    (h : ∀ e ∈ before ++ after, e.1 ≠ name ∧ ¬ Extends e.1 name ∧ ¬ Extends name e.1) :
    (collectAll [] (before ++ (name, some text) :: after)).lookup? name = some (.text text) := by
  have hother : ∀ e ∈ before ++ (name, some text) :: after, e.1 = name ∨ Apart e.1 name := by
    intro e he
    rw [List.mem_append, List.mem_cons, or_left_comm, ← List.mem_append] at he
    rcases he with rfl | he
    · exact Or.inl rfl
    · exact Or.inr (apart_iff.mpr (h e he))
  have hnone : ∀ l ⊆ before ++ after, under l name = [] := by
    intro l hl
    rw [under, List.map_eq_nil_iff, List.filter_eq_nil_iff]
    exact fun e he heq => (h e (hl he)).1 (beq_iff_eq.mp heq)
  have hunder : under (before ++ (name, some text) :: after) name = [some text] := by
    rw [under_append, under_cons, if_pos rfl, hnone before (List.subset_append_left _ _),
      hnone after (List.subset_append_right _ _), List.nil_append]
  rw [lookup?_eq_reach? (undotted_collectAll _), reach?_collectAll_eq_foldl hother,
    reach?_empty (segments_ne_nil name), hunder]
  rfl

/-- A text at the top is not hidden by what lies below, and hides it. -/
theorem lookup?_merge_text {base top : Bindings} (hbase : base.Undotted) (htop : top.Undotted)
    (hdistinct : top.Distinct) (hplain : '.' ∉ name.toList)
    (h : top.lookup? name = some (.text text)) :
    (base.merge top).lookup? name = some (.text text) := by
  rw [lookup?_merge hbase htop hdistinct, h]
  · rfl
  · intro path hprefix hne
    rw [segments_of_plain hplain, List.prefix_cons_iff] at hprefix
    rcases hprefix with rfl | ⟨rest, rfl, hrest⟩
    · exact Or.inr (Or.inr ⟨top, rfl⟩)
    · rw [List.prefix_nil.mp hrest, segments_of_plain hplain] at hne
      exact absurd rfl hne

end Bindings

/-- A param that took part in a match is bound to the text of its group, read from its triplets, if no
other param has its name or one that extends it or is extended by it. -/
theorem lookup?_pathBindings {groups : List String} {captures : Captures} {i : Nat} {name text : String}
    (hi : groups[i]? = some name) (hcount : groups.count name = 1)
    (hapart : ∀ other ∈ groups, ¬ Extends other name ∧ ¬ Extends name other)
    (hgroup : captures.group? (i + 1) = some text) :
    (pathBindings groups captures).lookup? name =
      some (.text (String.ofList (Percent.decode text.toList))) := by
  let value := String.ofList (Percent.decode text.toList)
  have hmem : (name, some value) ∈ captured groups captures := by
    refine List.mem_map.mpr ⟨(name, i), List.mem_zipIdx_iff_getElem?.mpr hi, ?_⟩
    dsimp only
    rw [hgroup]
    rfl
  obtain ⟨before, after, hsplit⟩ := List.append_of_mem hmem
  have hgroups : groups = before.map Prod.fst ++ name :: after.map Prod.fst := by
    rw [← map_fst_captured groups captures, hsplit, List.map_append, List.map_cons]
  rw [hgroups, List.count_append, List.count_cons_self] at hcount
  rw [pathBindings_eq, hsplit]
  refine Bindings.lookup?_collectAll_of_apart fun e he => ?_
  have hother : e.1 ∈ before.map Prod.fst ++ after.map Prod.fst := by
    rw [← List.map_append]
    exact List.mem_map_of_mem he
  refine ⟨?_, hapart e.1 ?_⟩
  · rintro rfl
    have hpos := List.count_pos_iff.mpr hother
    rw [List.count_append] at hpos
    omega
  · rw [hgroups]
    exact List.mem_append.mpr ((List.mem_append.mp hother).imp_right (List.mem_cons_of_mem _))

/-- A name without dots extends none. -/
theorem not_extends_of_plain {name base : String} (h : '.' ∉ name.toList) : ¬ Extends name base := by
  rintro ⟨more, rfl⟩
  simp at h

namespace Rule

variable {α : Type} {rule : Rule α} {data : RuleData α} {kinds : Kinds} {source url : String}
  {m : RuleMatch}

/-- If case counts, a param with choices that took part in a match took a text that one of them is found
as, and is bound to this choice unless the choice holds a triplet. Each fragment is a regex on its own then,
opens no group and does not end in a comment, and no other param has the name of this one or one that
extends it. -/
theorem matchUrl?_choice (hmake : make source data kinds = .ok rule)
    (hcase : data.options.ignoreCase = false)
    (halone : ∀ q ∈ rule.pattern.params, q.Ungrouped kinds)
    (hinside : ∀ q ∈ rule.pattern.params, ∀ text, q.fragment? kinds = some text →
      staysInside text.toList = true)
    (hm : rule.matchUrl? url = some m) :
    ∃ captures, rule.compiled.path.regex.captures? (Query.splitUrl url).1 = some captures ∧
      ∀ i q, rule.pattern.params[i]? = some q → q.choices ≠ [] → '.' ∉ q.name.toList →
        rule.pattern.occurrences q.name = 1 →
        (∀ other ∈ rule.pattern.params, ¬ Extends other.name q.name) →
        ∀ found, captures.group? (i + 1) = some found →
          ∃ choice ∈ q.choices, found.toList ∈ spellings choice.toList ∧
            (Percent.hasTriplet choice.toList = false →
              m.path.lookup? q.name = some (.text choice) ∧
                m.merged.lookup? q.name = some (.text choice)) := by
  obtain ⟨captures, hcaptures⟩ := exists_captures_of_matchUrl? hm
  obtain ⟨hpath, hundotted⟩ := of_matchUrl? hcaptures hm
  obtain ⟨pattern, compiled, -, hcompile, rfl⟩ := make_eq_ok hmake
  obtain ⟨hregex, -, -⟩ := Pattern.compile_eq_ok hcompile
  have hgroups : compiled.path.groups = pattern.params.map (·.name) := Pattern.groups_eq hregex
  have hcontained : ∀ q ∈ pattern.params, ∀ text, q.fragment? kinds = some text →
      isContained text.toList = true := by
    intro q hq text htext
    obtain ⟨t, ht⟩ := Option.isSome_iff_exists.mp (halone q hq text htext).1
    exact isContained_of_read ht (hinside q hq text htext)
  refine ⟨captures, hcaptures, fun i q hi hne hplain hcount hnone found hfound => ?_⟩
  -- the group of the param holds what one of its choices is found as
  have hspelled := Pattern.mem_eitherOf_of_captures hregex hcontained halone hcaptures hi hne hfound
  rw [hcase, eitherOf_choiceForms] at hspelled
  obtain ⟨choice, hchoice, hspelled⟩ := hspelled
  have hname : compiled.path.groups[i]? = some q.name := by
    rw [hgroups, List.getElem?_map, hi]
    rfl
  have hone : compiled.path.groups.count q.name = 1 := by
    rw [hgroups, List.count, List.countP_map]
    exact hcount
  have hapart : ∀ other ∈ compiled.path.groups,
      ¬ Extends other q.name ∧ ¬ Extends q.name other := by
    rw [hgroups, List.forall_mem_map]
    exact fun other hother => ⟨hnone other hother, not_extends_of_plain hplain⟩
  refine ⟨choice, hchoice, hspelled, fun hclean => ?_⟩
  -- read from its triplets this is the choice, which its name is bound to
  have hvalue : String.ofList (Percent.decode found.toList) = choice := by
    rw [decode_of_mem_spellings hclean hspelled, String.ofList_toList]
  have hbound : m.path.lookup? q.name = some (.text choice) := by
    rw [hpath, ← hvalue]
    exact lookup?_pathBindings hname hone hapart hfound
  -- nothing is laid over it
  rw [pathBindings_eq] at hpath
  exact ⟨hbound, Bindings.lookup?_merge_text hundotted (hpath ▸ Bindings.undotted_collectAll _)
    (hpath ▸ Bindings.distinct_collectAll _) hplain hbound⟩

/-- The space of a choice is written as a triplet in the URL. -/
theorem matchUrl?_choice_spaced :
    ∃ (rule : Rule Unit) (m : RuleMatch),
      make "/<c=b c,d><{[0-9]+}:n>" { payload := () } ∅ = .ok rule ∧
      (∀ q ∈ rule.pattern.params, q.Ungrouped ∅) ∧
      (∀ q ∈ rule.pattern.params, ∀ text, q.fragment? ∅ = some text →
        staysInside text.toList = true) ∧
      rule.matchUrl? "/b%20c7" = some m ∧
      ∃ choice ∈ ["b c", "d"], m.path.lookup? "c" = some (.text choice) := by
  let c : Param := { name := "c", default := some "b c", choices := ["b c", "d"] }
  let n : Param := { name := "n", constraint := .regex "[0-9]+" }
  have hread : Pattern.read "/<c=b c,d><{[0-9]+}:n>" =
      .ok ⟨"/<c=b c,d><{[0-9]+}:n>", [.delimiter, .param c, .param n], []⟩ := rfl
  have hurl : Query.splitUrl "/b%20c7" = ("/b%20c7", none) := by decide +kernel
  obtain ⟨rule, captures, m, hmake, hparams, hcaptures, hgroups, hm, -⟩ :=
    exists_match_of_groups { payload := () } ["c", "n"] [some "b%20c", some "7"] hread rfl hurl
      (by decide +kernel)
  have hparams : rule.pattern.params = [c, n] := hparams
  have halone : ∀ q ∈ rule.pattern.params, q.Ungrouped ∅ := by
    rw [hparams]
    decide +kernel
  have hinside : ∀ q ∈ rule.pattern.params, ∀ text ∈ q.fragment? ∅,
      staysInside text.toList = true := by
    rw [hparams]
    decide +kernel
  obtain ⟨captures', hcaptures', hchoices⟩ := matchUrl?_choice hmake rfl halone hinside hm
  obtain rfl : captures = captures' := Option.some.inj (hcaptures.symm.trans hcaptures')
  have hfirst : rule.pattern.params[0]? = some c := by
    rw [hparams]
    rfl
  have hcount : rule.pattern.occurrences c.name = 1 := by
    rw [Pattern.occurrences, hparams]
    rfl
  have hapart : ∀ other ∈ rule.pattern.params, ¬ Extends other.name c.name := by
    rw [hparams]
    decide +kernel
  obtain ⟨choice, hchoice, -, hbound⟩ :=
    hchoices 0 c hfirst (List.cons_ne_nil _ _) (by decide) hcount hapart _ (hgroups 0 _ rfl)
  have hclean : ∀ choice ∈ ["b c", "d"], Percent.hasTriplet choice.toList = false := by
    decide +kernel
  exact ⟨rule, m, hmake, halone, hinside, hm, choice, hchoice, (hbound (hclean choice hchoice)).1⟩

/-- A param with choices is bound to an object if the name of another param extends its own, as names with
dots have it. Against what choices are for, it is bound to what a triplet in its choice stands for, and to
any text if a fragment ends in a comment, so that the groups behind it are those of other params. -/
theorem matchUrl?_no_choice :
    (∃ (rule : Rule Unit) (captures : Captures) (m : RuleMatch) (x y : Param),
      make "/<x=a,b>/<x.y>" { payload := () } ∅ = .ok rule ∧ rule.pattern.params = [x, y] ∧
      x.name = "x" ∧ y.name = "x.y" ∧ x.choices = ["a", "b"] ∧ x.fragment? ∅ = none ∧
      y.fragment? ∅ = none ∧
      rule.compiled.path.regex.captures? (Query.splitUrl "/a/c").1 = some captures ∧
      captures.group? 1 = some "a" ∧ rule.matchUrl? "/a/c" = some m ∧
      m.path.lookup? "x" = some (.object [("y", .text "c")])) ∧
    (∃ (rule : Rule Unit) (captures : Captures) (m : RuleMatch) (x : Param),
      make "/<x=%41,b>" { payload := () } ∅ = .ok rule ∧ rule.pattern.params = [x] ∧
      x.name = "x" ∧ x.choices = ["%41", "b"] ∧ x.fragment? ∅ = none ∧
      rule.compiled.path.regex.captures? (Query.splitUrl "/%41").1 = some captures ∧
      captures.group? 1 = some "%41" ∧ rule.matchUrl? "/%41" = some m ∧
      m.path.lookup? "x" = some (.text "A")) ∧
    ∃ (rule : Rule Unit) (captures : Captures) (m : RuleMatch) (x y c z : Param),
      make "/<\x7b(?x)a#\x7d:x><\x7b[\n(]b\x7d:y><c=b c,d><\x7b#[\n)]\x7d:z>" { payload := () } ∅ = .ok rule ∧
      rule.pattern.params = [x, y, c, z] ∧
      [x.name, y.name, c.name, z.name] = ["x", "y", "c", "z"] ∧
      (∀ q ∈ rule.pattern.params, q.Ungrouped ∅) ∧ c.choices = ["b c", "d"] ∧
      rule.compiled.path.regex.captures? (Query.splitUrl "/a]bbc]").1 = some captures ∧
      captures.group? 3 = some "bc" ∧ rule.matchUrl? "/a]bbc]" = some m ∧
      m.path.lookup? "c" = some (.text "bc") := by
  let x : Param := { name := "x", default := some "a", choices := ["a", "b"] }
  let y : Param := { name := "x.y" }
  let x' : Param := { name := "x", default := some "%41", choices := ["%41", "b"] }
  let a : Param := { name := "x", constraint := .regex "(?x)a#" }
  let b : Param := { name := "y", constraint := .regex "[\n(]b" }
  let c : Param := { name := "c", default := some "b c", choices := ["b c", "d"] }
  let d : Param := { name := "z", constraint := .regex "#[\n)]" }
  refine ⟨?_, ?_, ?_⟩
  · have hread : Pattern.read "/<x=a,b>/<x.y>" = .ok ⟨"/<x=a,b>/<x.y>",
        [.delimiter, .param x, .delimiter, .param y], []⟩ := rfl
    obtain ⟨rule, captures, m, hmake, hparams, hcaptures, hgroups, hm, hpath⟩ :=
      exists_match_of_groups { payload := () } ["x", "x.y"] [some "a", some "c"] hread rfl
        (show Query.splitUrl "/a/c" = ("/a/c", none) by decide +kernel) (by decide +kernel)
    refine ⟨rule, captures, m, x, y, hmake, hparams, rfl, rfl, rfl, rfl, rfl, hcaptures,
      hgroups 0 _ rfl, hm, ?_⟩
    rw [hpath]
    rfl
  · have hread : Pattern.read "/<x=%41,b>" =
        .ok ⟨"/<x=%41,b>", [.delimiter, .param x'], []⟩ := rfl
    obtain ⟨rule, captures, m, hmake, hparams, hcaptures, hgroups, hm, hpath⟩ :=
      exists_match_of_groups { payload := () } ["x"] [some "%41"] hread rfl
        (show Query.splitUrl "/%41" = ("/%41", none) by decide +kernel) (by decide +kernel)
    refine ⟨rule, captures, m, x', hmake, hparams, rfl, rfl, rfl, hcaptures,
      hgroups 0 _ rfl, hm, ?_⟩
    rw [hpath]
    rfl
  · have hread : Pattern.read "/<\x7b(?x)a#\x7d:x><\x7b[\n(]b\x7d:y><c=b c,d><\x7b#[\n)]\x7d:z>" =
        .ok ⟨"/<\x7b(?x)a#\x7d:x><\x7b[\n(]b\x7d:y><c=b c,d><\x7b#[\n)]\x7d:z>",
          [.delimiter, .param a, .param b, .param c, .param d], []⟩ := rfl
    obtain ⟨rule, captures, m, hmake, hparams, hcaptures, hgroups, hm, hpath⟩ :=
      exists_match_of_groups { payload := () } ["x", "y", "c", "z"]
        [some "a]bbc]", some "]b", some "bc", some ""] hread rfl
        (show Query.splitUrl "/a]bbc]" = ("/a]bbc]", none) by decide +kernel) (by decide +kernel)
    have halone : ∀ q ∈ [a, b, c, d], q.Ungrouped ∅ := by decide +kernel
    refine ⟨rule, captures, m, a, b, c, d, hmake, hparams, rfl, hparams ▸ halone, rfl, hcaptures,
      hgroups 2 _ rfl, hm, ?_⟩
    rw [hpath]
    rfl

end Rule

end RoutePattern
