import RoutePattern.Proofs.Bindings.Overlay
import RoutePattern.Proofs.Rule.Declared

/-! Params that took no part in a match. They leave nulls in the bindings of the path, which hide nothing
of the query, but also the objects in which these nulls lie. -/
namespace RoutePattern

open Text
open Value (reach? altered overlaid)

namespace Bindings

variable {b : Bindings} {path : List String} {name : String} {new : Option String}

/-- Whether a path leads to one of the names, and stops on the way. -/
def LeadsToward (path : List String) (names : List String) : Prop :=
  ∃ name ∈ names, path <+: segments name ∧ path ≠ segments name

/-- What is collected makes an object of what stands on the way to its name. -/
theorem reach?_collect_on_way (h : path <+: segments name) (hne : path ≠ segments name) :
    ∃ inner, reach? path (some (.object (b.collect name new))) = some (.object inner) := by
  obtain ⟨more, hmore⟩ := h
  cases more with
  | nil => exact absurd ((List.append_nil path).symm.trans hmore) hne
  | cons next more =>
    rw [object_collect, ← hmore, Value.reach?_altered_append]
    exact ⟨_, rfl⟩

/-- Elsewhere it changes nothing, unless a text is collected on the way to the path; at most a null is
noted. -/
theorem reach?_collect_elsewhere (h : ¬ (path <+: segments name ∧ path ≠ segments name))
    (hfree : new.isSome = true → ¬ segments name <+: path) :
    reach? path (some (.object (b.collect name new))) = reach? path (some (.object b)) ∨
      reach? path (some (.object b)) = none ∧
        reach? path (some (.object (b.collect name new))) = some .null := by
  rw [object_collect]
  by_cases hto : segments name <+: path
  · -- nothing is collected here, so that what stands at the name stays
    have hnone : new = none := Option.not_isSome_iff_eq_none.mp fun hsome => hfree hsome hto
    subst hnone
    obtain ⟨more, rfl⟩ := hto
    rw [Value.reach?_append, Value.reach?_altered, Value.reach?_append]
    cases reach? (segments name) (some (.object b)) with
    | some v => exact Or.inl rfl
    | none =>
      cases more with
      | nil => exact Or.inr ⟨rfl, rfl⟩
      | cons next more => exact Or.inl rfl
  · have hback : ¬ path <+: segments name := by
      intro hback
      by_cases heq : path = segments name
      · exact hto (heq ▸ List.prefix_rfl)
      · exact h ⟨hback, heq⟩
    exact Or.inl (Value.reach?_altered_of_apart hto hback)

/-- Where no text is collected at a path or on the way to it, an object stands at its end if some name
lies behind it, and else at most a null. -/
theorem reach?_collectAll {entries : List (String × Option String)} (hpath : path ≠ [])
    (hfree : ∀ e ∈ entries, e.2.isSome = true → ¬ segments e.1 <+: path) :
    (LeadsToward path (entries.map Prod.fst) →
      ∃ inner, reach? path (some (.object (collectAll [] entries))) = some (.object inner)) ∧
    (¬ LeadsToward path (entries.map Prod.fst) →
      reach? path (some (.object (collectAll [] entries))) = none ∨
        reach? path (some (.object (collectAll [] entries))) = some .null) := by
  induction entries using List.reverseRecOn with
  | nil =>
    refine ⟨?_, fun _ => Or.inl (reach?_empty hpath)⟩
    intro h
    obtain ⟨other, hother, -⟩ := h
    cases hother
  | append_singleton entries e ih =>
    obtain ⟨hobject, hnull⟩ := ih fun e' he' => hfree e' (List.mem_append_left _ he')
    have hcollect : collectAll [] (entries ++ [e]) = (collectAll [] entries).collect e.1 e.2 :=
      collectAll_append [] entries [e]
    rw [hcollect]
    by_cases hlast : path <+: segments e.1 ∧ path ≠ segments e.1
    · refine ⟨fun _ => reach?_collect_on_way hlast.1 hlast.2, fun hnot => ?_⟩
      exact absurd ⟨e.1, by simp, hlast⟩ hnot
    · have hleads : LeadsToward path ((entries ++ [e]).map Prod.fst) ↔
          LeadsToward path (entries.map Prod.fst) := by
        rw [List.map_append]
        constructor
        · intro h
          obtain ⟨name, hname, hway⟩ := h
          rcases List.mem_append.mp hname with hname | hname
          · exact ⟨name, hname, hway⟩
          · rw [List.mem_singleton.mp hname] at hway
            exact absurd hway hlast
        · intro h
          obtain ⟨name, hname, hway⟩ := h
          exact ⟨name, List.mem_append_left _ hname, hway⟩
      have hfreeLast : e.2.isSome = true → ¬ segments e.1 <+: path :=
        hfree e (List.mem_append_right _ List.mem_cons_self)
      rw [hleads]
      rcases reach?_collect_elsewhere (b := collectAll [] entries) hlast hfreeLast with
        hsame | ⟨hnone, hnoted⟩
      · rw [hsame]
        exact ⟨hobject, hnull⟩
      · rw [hnoted]
        refine ⟨fun h => ?_, fun _ => Or.inr rfl⟩
        obtain ⟨inner, hinner⟩ := hobject h
        rw [hnone] at hinner
        cases hinner

/-- Nothing that hides what is below it stands where no text is collected, or on the way to there. -/
theorem yields_collectAll {entries : List (String × Option String)}
    (hfree : ∀ e ∈ entries, e.2.isSome = true → ¬ segments e.1 <+: path) :
    Value.Yields (reach? path (some (.object (collectAll [] entries)))) := by
  by_cases hpath : path = []
  · rw [hpath]
    exact Or.inr (Or.inr ⟨collectAll [] entries, rfl⟩)
  · obtain ⟨hobject, hnull⟩ := reach?_collectAll hpath hfree
    by_cases hleads : LeadsToward path (entries.map Prod.fst)
    · exact Or.inr (Or.inr (hobject hleads))
    · exact (hnull hleads).imp_right Or.inl

end Bindings

/-- The params of a match with the texts of their groups; a param that took no part has none. -/
def captured (groups : List String) (captures : Captures) : List (String × Option String) :=
  groups.zipIdx.map fun (name, i) => (name, (captures.group? (i + 1)).map fun text =>
    String.ofList (Percent.decode text.toList))

theorem pathBindings_eq (groups : List String) (captures : Captures) :
    pathBindings groups captures = Bindings.collectAll [] (captured groups captures) := by
  rw [pathBindings, Bindings.collectAll, captured, List.foldl_map]

theorem map_fst_captured (groups : List String) (captures : Captures) :
    (captured groups captures).map Prod.fst = groups := by
  rw [captured, List.map_map]
  exact List.zipIdx_map_fst 0 groups

theorem exists_group_of_captured {groups : List String} {captures : Captures}
    {e : String × Option String} (he : e ∈ captured groups captures) :
    ∃ i, groups[i]? = some e.1 ∧ e.2.isSome = (captures.group? (i + 1)).isSome := by
  obtain ⟨⟨name, i⟩, hzip, rfl⟩ := List.mem_map.mp he
  exact ⟨i, List.mem_zipIdx_iff_getElem?.mp hzip, Option.isSome_map⟩

namespace Rule

variable {α : Type} {rule : Rule α} {url name : String} {captures : Captures} {m : RuleMatch}

theorem undotted_queryBindings? {slots : List QuerySlot} {query : String} {b : Bindings}
    (h : QuerySlot.queryBindings? slots query = some b) : b.Undotted := by
  have hspec := QuerySlot.queryBindings?_spec slots query
  rw [h] at hspec
  obtain ⟨entries, -, -, rfl⟩ := hspec
  exact Bindings.undotted_assignAll Bindings.undotted_nil entries

/-- A rule without query rules binds all that the query gives. -/
theorem matchUrl?_of_slots_eq_nil (hslots : rule.compiled.slots = [])
    (hcaptures : rule.compiled.path.regex.captures? (Query.splitUrl url).1 = some captures) :
    rule.matchUrl? url = some ⟨pathBindings rule.compiled.path.groups captures,
      Query.bindings ((Query.splitUrl url).2.getD "")⟩ := by
  rw [matchUrl?]
  simp only [hcaptures, hslots, bind, Option.bind_some]
  rfl

/-- A rule matches only URLs with a path that its regex matches. -/
theorem exists_captures_of_matchUrl? (h : rule.matchUrl? url = some m) :
    ∃ captures, rule.compiled.path.regex.captures? (Query.splitUrl url).1 = some captures := by
  rw [matchUrl?] at h
  obtain ⟨captures, hcaptures, -⟩ := Option.bind_eq_some_iff.mp h
  exact ⟨captures, hcaptures⟩

/-- What a match consists of: the bindings of the groups, and bindings of the query without dotted names
at the top. -/
theorem of_matchUrl?
    (hcaptures : rule.compiled.path.regex.captures? (Query.splitUrl url).1 = some captures)
    (hm : rule.matchUrl? url = some m) :
    m.path = pathBindings rule.compiled.path.groups captures ∧ m.query.Undotted := by
  by_cases hslots : rule.compiled.slots = []
  · rw [matchUrl?_of_slots_eq_nil hslots hcaptures] at hm
    rw [← Option.some.inj hm]
    dsimp only
    exact ⟨rfl, Query.undotted_bindings _⟩
  · rw [matchUrl?_eq hslots, hcaptures, Option.bind_some] at hm
    obtain ⟨query, hquery, rfl⟩ := Option.map_eq_some_iff.mp hm
    exact ⟨rfl, undotted_queryBindings? hquery⟩

/-- A rule that is made without query rules, and what it makes of a URL whose path it matches. -/
theorem exists_match_of_read {β : Type} {source path : String} {query : Option String}
    {nodes : List Node} (data : RuleData α) (noted : Captures → β) {b : β}
    (hread : Pattern.read source = .ok ⟨source, nodes, []⟩) (hurl : Query.splitUrl url = (path, query))
    (hfound : ((make source data ∅).toOption.bind fun rule =>
      (rule.compiled.path.regex.captures? path).map noted) = some b) :
    ∃ (rule : Rule α) (captures : Captures), make source data ∅ = .ok rule ∧
      rule.pattern = ⟨source, nodes, []⟩ ∧
      rule.compiled.path.groups = (Node.paramsOf nodes).map (·.name) ∧ noted captures = b ∧
      rule.compiled.path.regex.captures? (Query.splitUrl url).1 = some captures ∧
      rule.matchUrl? url =
        some ⟨pathBindings rule.compiled.path.groups captures, Query.bindings (query.getD "")⟩ := by
  obtain ⟨rule, hmake, hfound⟩ := Option.bind_eq_some_iff.mp hfound
  obtain ⟨captures, hcaptures, hnoted⟩ := Option.map_eq_some_iff.mp hfound
  have hmake := eq_ok_of_toOption hmake
  have hpattern := Except.ok.inj ((read_of_make hmake).symm.trans hread)
  have hcompiled : rule.compiled.path.groups = (Node.paramsOf nodes).map (·.name) ∧
      rule.compiled.slots = [] := by
    obtain ⟨pattern, compiled, -, hcompile, rfl⟩ := make_eq_ok hmake
    obtain rfl : pattern = _ := hpattern
    obtain ⟨hpath, -, hslots⟩ := Pattern.compile_eq_ok hcompile
    exact ⟨Pattern.groups_eq hpath, List.map_eq_nil_iff.mp hslots⟩
  have hfirst : rule.compiled.path.regex.captures? (Query.splitUrl url).1 = some captures := by
    rw [hurl]
    exact hcaptures
  refine ⟨rule, captures, hmake, hpattern, hcompiled.1, hnoted, hfirst, ?_⟩
  rw [matchUrl?_of_slots_eq_nil hcompiled.2 hfirst, hurl]

/-- A match of a rule without query rules, from the texts of the groups. -/
theorem exists_match_of_groups {source path : String} {nodes : List Node} (data : RuleData α)
    (names : List String) (texts : List (Option String)) (hread : Pattern.read source = .ok ⟨source, nodes, []⟩)
    (hnames : (Node.paramsOf nodes).map (·.name) = names) (hurl : Query.splitUrl url = (path, none))
    (hfound : ((make source data ∅).toOption.bind fun rule =>
      (rule.compiled.path.regex.captures? path).map fun captures =>
        (List.range names.length).map fun i => captures.group? (i + 1)) = some texts) :
    ∃ (rule : Rule α) (captures : Captures) (m : RuleMatch),
      make source data ∅ = .ok rule ∧ rule.pattern.params = Node.paramsOf nodes ∧
      rule.compiled.path.regex.captures? (Query.splitUrl url).1 = some captures ∧
      (∀ i text, texts[i]? = some text → captures.group? (i + 1) = text) ∧
      rule.matchUrl? url = some m ∧
      m.path = Bindings.collectAll [] (names.zipWith
        (fun name text => (name, text.map fun text => String.ofList (Percent.decode text.toList)))
        texts) := by
  obtain ⟨rule, captures, hmake, hpattern, hgroups, rfl, hcaptures, hm⟩ :=
    exists_match_of_read data _ hread hurl hfound
  refine ⟨rule, captures, _, hmake, by rw [hpattern]; rfl, hcaptures, ?_, hm, ?_⟩
  · intro i text htext
    rw [List.getElem?_map] at htext
    obtain ⟨j, hj, rfl⟩ := Option.map_eq_some_iff.mp htext
    obtain ⟨hi, rfl⟩ := List.getElem?_eq_some_iff.mp hj
    rw [List.getElem_range]
  · rw [hgroups, hnames, pathBindings_eq, captured, List.zipIdx_eq_zip_range',
      ← List.range_eq_range', List.zip, List.map_zipWith, List.zipWith_map_right]

/-- A match in which the only param of a rule takes no part leaves a null at its name. -/
theorem exists_match_of_absent {source path query : String} {nodes : List Node} {p : Param}
    (hread : Pattern.read source = .ok ⟨source, nodes, []⟩) (hparams : Node.paramsOf nodes = [p])
    (hurl : Query.splitUrl url = (path, some query))
    (hfound : ((make source ({ payload := () } : RuleData Unit) ∅).toOption.bind fun rule =>
      (rule.compiled.path.regex.captures? path).map (·.group? 1)) = some none) :
    ∃ (rule : Rule Unit) (captures : Captures),
      make source { payload := () } ∅ = .ok rule ∧
      rule.compiled.path.groups = [p.name] ∧ captures.group? 1 = none ∧
      rule.compiled.path.regex.captures? (Query.splitUrl url).1 = some captures ∧
      rule.matchUrl? url = some ⟨Bindings.collect [] p.name none, Query.bindings query⟩ := by
  obtain ⟨rule, captures, hmake, -, hgroups, hgroup, hcaptures, hm⟩ :=
    exists_match_of_read _ (·.group? 1) hread hurl hfound
  rw [hparams, List.map_singleton] at hgroups
  -- the only group is empty, and a null is noted for it
  have hbound : pathBindings [p.name] captures = Bindings.collect [] p.name none := by
    have hcollect : pathBindings [p.name] captures = Bindings.collect [] p.name
      ((captures.group? 1).map fun text => String.ofList (Percent.decode text.toList)) := rfl
    rw [hcollect, hgroup]
    rfl
  refine ⟨rule, captures, hmake, hgroups, hgroup, hcaptures, ?_⟩
  rw [hm, hgroups, hbound, Option.getD_some]

/-- A text or an array that the query binds a name to is still there when the bindings of the path are
laid over it, unless a param took part in the match whose name is this one or extends it or is extended
by it, if and only if no param has a name that extends this one. -/
theorem lookup?_merged_iff
    (hcaptures : rule.compiled.path.regex.captures? (Query.splitUrl url).1 = some captures)
    (hm : rule.matchUrl? url = some m) {v : Value} (hquery : m.query.lookup? name = some v)
    (hvalue : (∃ s, v = .text s) ∨ ∃ items, v = .array items)
    (hfree : ∀ i other, rule.compiled.path.groups[i]? = some other →
      (captures.group? (i + 1)).isSome = true →
        other ≠ name ∧ ¬ Extends name other ∧ ¬ Extends other name) :
    m.merged.lookup? name = some v ↔
      ∀ other ∈ rule.compiled.path.groups, ¬ Extends other name := by
  obtain ⟨hpath, hundotted⟩ := of_matchUrl? hcaptures hm
  rw [pathBindings_eq] at hpath
  have hentries : ∀ e ∈ captured rule.compiled.path.groups captures, e.2.isSome = true →
      ¬ segments e.1 <+: segments name := by
    intro e he hsome hleads
    obtain ⟨i, hi, hpart⟩ := exists_group_of_captured he
    obtain ⟨hne, hextends, -⟩ := hfree i e.1 hi (hpart ▸ hsome)
    rcases segments_prefix_iff.mp hleads with heq | hext
    · exact hne heq.symm
    · exact hextends hext
  -- on the way to the name the bindings of the path have objects or nulls at most
  have hway : ∀ p, p <+: segments name → p ≠ segments name →
      Value.Yields (reach? p (some (.object m.path))) := by
    intro p hp _
    rw [hpath]
    exact Bindings.yields_collectAll fun e he hsome hleads => hentries e he hsome (hleads.trans hp)
  have hundotted' : m.path.Undotted := hpath ▸ Bindings.undotted_collectAll _
  have hmerged : m.merged.lookup? name =
      overlaid (some v) (reach? (segments name) (some (.object m.path))) := by
    rw [RuleMatch.merged, Bindings.lookup?_merge hundotted hundotted'
      (hpath ▸ Bindings.distinct_collectAll _) hway, hquery, Bindings.lookup?_eq_reach? hundotted']
  obtain ⟨hobject, hnull⟩ := Bindings.reach?_collectAll (segments_ne_nil name) hentries
  rw [← hpath, map_fst_captured] at hobject hnull
  rw [hmerged]
  by_cases hleads : Bindings.LeadsToward (segments name) rule.compiled.path.groups
  · -- the object on the way to a longer name takes the place of the value
    obtain ⟨inner, hinner⟩ := hobject hleads
    obtain ⟨other, hother, hextends⟩ := hleads
    rw [hinner]
    apply iff_of_false
    · intro hsame
      rcases hvalue with ⟨s, rfl⟩ | ⟨items, rfl⟩
      · cases hsame
      · cases hsame
    · exact fun h => h other hother (segments_prefix_ne_iff.mp hextends)
  · apply iff_of_true
    · rcases hnull hleads with hnone | hnoted
      · rw [hnone]
        rfl
      · rw [hnoted]
        rfl
    · intro other hother hextends
      exact hleads ⟨other, hother, segments_prefix_ne_iff.mpr hextends⟩

theorem lookup?_merged_user :
    let url := "/post/?user.id=5&user.name=b"
    ∃ (rule : Rule Unit) (captures : Captures) (m : RuleMatch),
      make "/post/(<user.id>/)" { payload := () } ∅ = .ok rule ∧
      rule.compiled.path.regex.captures? (Query.splitUrl url).1 = some captures ∧
      rule.matchUrl? url = some m ∧ m.query.lookup? "user.id" = some (.text "5") ∧
      (∀ i other, rule.compiled.path.groups[i]? = some other →
        (captures.group? (i + 1)).isSome = true →
          other ≠ "user.id" ∧ ¬ Extends "user.id" other ∧ ¬ Extends other "user.id") ∧
      m.merged.lookup? "user.id" = some (.text "5") := by
  intro url
  let nodes : List Node :=
    [.delimiter, .literal "post", .delimiter, .option [.param { name := "user.id" }, .delimiter]]
  have hread : Pattern.read "/post/(<user.id>/)" = .ok ⟨"/post/(<user.id>/)", nodes, []⟩ := rfl
  have hurl : Query.splitUrl url = ("/post/", some "user.id=5&user.name=b") := by
    decide +kernel
  have hfound : ((make "/post/(<user.id>/)" ({ payload := () } : RuleData Unit) ∅).toOption.bind
      fun rule =>
      (rule.compiled.path.regex.captures? "/post/").map (·.group? 1)) = some none := by
    decide +kernel
  obtain ⟨rule, captures, hmake, hgroups, habsent, hcaptures, hm⟩ :=
    exists_match_of_absent hread rfl hurl hfound
  have hbindings : Query.bindings "user.id=5&user.name=b" =
      [("user", .object [("id", .text "5"), ("name", .text "b")])] := by
    have hpairs : Query.pairs "user.id=5&user.name=b" = [("user.id", "5"), ("user.name", "b")] := by
      decide +kernel
    rw [Query.bindings, hpairs]
    rfl
  rw [hbindings] at hm
  have hquery : Bindings.lookup? [("user", .object [("id", .text "5"), ("name", .text "b")])]
      "user.id" = some (.text "5") := rfl
  have hfree : ∀ i other, rule.compiled.path.groups[i]? = some other →
      (captures.group? (i + 1)).isSome = true →
        other ≠ "user.id" ∧ ¬ Extends "user.id" other ∧ ¬ Extends other "user.id" := by
    intro i other hi hpart
    -- there is no group but the first, and that one is empty
    rw [hgroups] at hi
    obtain ⟨hlt, -⟩ := List.getElem?_eq_some_iff.mp hi
    obtain rfl := Nat.lt_one_iff.mp hlt
    rw [habsent] at hpart
    cases hpart
  have hapart : ∀ other ∈ rule.compiled.path.groups, ¬ Extends other "user.id" := by
    rw [hgroups, List.forall_mem_singleton]
    decide +kernel
  have hmerged := (lookup?_merged_iff hcaptures hm hquery (Or.inl ⟨"5", rfl⟩) hfree).mpr hapart
  exact ⟨rule, captures, _, hmake, hcaptures, hm, hquery, hfree, hmerged⟩

/-- A param that took no part takes a text of the query away if its name extends that of the text. -/
theorem lookup?_merged_hidden :
    let url := "/post/?id=5"
    ∃ (rule : Rule Unit) (captures : Captures) (m : RuleMatch),
      make "/post/(<id.x>/)" { payload := () } ∅ = .ok rule ∧
      rule.compiled.path.regex.captures? (Query.splitUrl url).1 = some captures ∧
      rule.matchUrl? url = some m ∧
      rule.compiled.path.groups = ["id.x"] ∧ captures.group? 1 = none ∧
      m.query.lookup? "id" = some (.text "5") ∧
      m.merged.lookup? "id" = some (.object [("x", .null)]) := by
  intro url
  let nodes : List Node :=
    [.delimiter, .literal "post", .delimiter, .option [.param { name := "id.x" }, .delimiter]]
  have hread : Pattern.read "/post/(<id.x>/)" = .ok ⟨"/post/(<id.x>/)", nodes, []⟩ := rfl
  have hurl : Query.splitUrl url = ("/post/", some "id=5") := by
    decide +kernel
  have hfound : ((make "/post/(<id.x>/)" ({ payload := () } : RuleData Unit) ∅).toOption.bind
      fun rule =>
      (rule.compiled.path.regex.captures? "/post/").map (·.group? 1)) = some none := by
    decide +kernel
  obtain ⟨rule, captures, hmake, hgroups, habsent, hcaptures, hm⟩ :=
    exists_match_of_absent hread rfl hurl hfound
  have hbindings : Query.bindings "id=5" = [("id", .text "5")] := by
    have hpairs : Query.pairs "id=5" = [("id", "5")] := by decide +kernel
    rw [Query.bindings, hpairs]
    rfl
  rw [hbindings] at hm
  exact ⟨rule, captures, _, hmake, hcaptures, hm, hgroups, habsent, rfl, rfl⟩

end Rule

end RoutePattern
