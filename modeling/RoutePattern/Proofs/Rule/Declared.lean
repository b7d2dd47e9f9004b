import RoutePattern.Proofs.Rule.Arguments

/-! What the declared names of a rule are bound to. A name with one rule is bound to values that the rule
accepts, a name with several rules to the runs that these are assigned. -/
namespace RoutePattern

/-- The array of some texts; a null without any. -/
def Value.collective (texts : List String) : Value :=
  if texts = [] then .null else .array (texts.map .text)

/-- What a name is bound to by its only rule, which accepts the given values. -/
def QueryRule.loneValue (rule : QueryRule) (accepted : List String) : Value :=
  if rule.multiple then .collective (if accepted = [] then rule.default.toList else accepted)
  else ((accepted.head?.or rule.default).map Value.text).getD .null

namespace QuerySlot

/-- What a slot adds to the array of its name: the values of its run, or else its default. -/
def contribution (values : List String) (slot : QuerySlot) (run : List Nat) : List String :=
  if run = [] then slot.rule.default.toList else run.map fun i => values.getD i ""

variable {slots : List QuerySlot} {slot : QuerySlot} {values : List String}
  {runs : List (List Nat)} {name : String}

theorem map_contribution (values : List String) (slot : QuerySlot) (run : List Nat) :
    (contribution values slot run).map Value.text =
      if run.isEmpty then (slot.rule.default.map Value.text).toList
      else run.map fun i => Value.text (values.getD i "") := by
  cases run with
  | nil =>
    rw [contribution, if_pos rfl]
    cases slot.rule.default <;> rfl
  | cons i run =>
    rw [contribution, if_neg (List.cons_ne_nil i run), List.map_map]
    rfl

/-- Unless one slot alone takes one value at most, all contributions make up an array. -/
theorem bound_collective (h : ¬ (slots.length ≤ 1 ∧ !slots.any (·.rule.multiple))) :
    bound slots runs values =
      .collective ((slots.zip runs).flatMap fun (slot, run) => contribution values slot run) := by
  have hitems : ((slots.zip runs).flatMap fun (slot, run) =>
      if run.isEmpty then (slot.rule.default.map Value.text).toList
      else run.map fun i => Value.text (values.getD i "")) =
        ((slots.zip runs).flatMap fun (slot, run) => contribution values slot run).map .text := by
    rw [List.map_flatMap]
    exact List.flatMap_congr fun e _ => (map_contribution values e.1 e.2).symm
  rw [bound, if_neg h, hitems, Value.collective]
  simp only [List.isEmpty_iff, List.map_eq_nil_iff]

theorem entries?_bound (slots : List QuerySlot) (runs : List (List Nat)) (values : List String) :
    (bound slots runs values).entries? = none := by
  by_cases h : slots.length ≤ 1 ∧ !slots.any (·.rule.multiple)
  · rw [bound, if_pos h]
    split
    · rfl
    · cases slots.head?.bind (·.rule.default) <;> rfl
  · rw [bound_collective h, Value.collective]
    split <;> rfl

/-- A slot that has its name for itself fails only if it requires a value and accepts none. -/
theorem assigned?_lone (h : sharing slots name = [slot]) (values : List String) :
    assigned? slots values name =
      if slot.rule.required = true ∧ values.filter slot.accepts = [] then none
      else some [(Query.candidates [slot.taker] values).take
        (slot.taker.share (values.filter slot.accepts))] := by
  rw [assigned?, h, List.map_singleton]
  exact Query.assign?_singleton slot.taker values

/-- A slot that has its name for itself binds it by the values that it accepts. -/
theorem bound_lone (slot : QuerySlot) (values : List String) :
    bound [slot] [(Query.candidates [slot.taker] values).take
      (slot.taker.share (values.filter slot.accepts))] values =
        slot.rule.loneValue (values.filter slot.accepts) := by
  have htexts : (Query.candidates [slot.taker] values).map (fun i => values.getD i "") =
      values.filter slot.accepts :=
    (Query.map_getD_candidates _ _).trans (Query.texts_singleton slot.taker values)
  have hmultiple : slot.taker.multiple = slot.rule.multiple := rfl
  rw [← htexts, Query.Taker.share, hmultiple, List.length_map, QueryRule.loneValue]
  generalize Query.candidates [slot.taker] values = found
  by_cases hm : slot.rule.multiple = true
  · -- all that is found makes up the array
    have hcollective : ¬ ([slot].length ≤ 1 ∧ !([slot].any fun s => s.rule.multiple)) := by
      simp [hm]
    have hzip : ([slot].zip [found]).flatMap (fun (slot, run) => contribution values slot run) =
        contribution values slot found := List.append_nil _
    rw [if_pos hm, if_pos hm, List.take_length, bound_collective hcollective, hzip, contribution]
    simp only [List.map_eq_nil_iff]
  · -- the first of what is found is bound, or the default
    have hsingle : [slot].length ≤ 1 ∧ !([slot].any fun s => s.rule.multiple) := by
      simp [Bool.eq_false_iff.mpr hm]
    rw [if_neg hm, bound, if_pos hsingle, if_neg hm]
    cases found with
    | nil => rfl
    | cons i found =>
      have hone : min 1 (i :: found).length = 1 := by
        rw [List.length_cons]
        omega
      rw [hone]
      rfl

theorem mem_of_sharing (h : sharing slots name = [slot]) : slot ∈ slots ∧ slot.rule.name = name := by
  have hmem : slot ∈ sharing slots name := by
    rw [h]
    exact List.mem_singleton_self slot
  obtain ⟨hslot, hname⟩ := List.mem_filter.mp hmem
  exact ⟨hslot, beq_iff_eq.mp hname⟩

/-- Entries for all the names have one for each slot. -/
theorem exists_entry {entries : List (String × Value)} (hnames : entries.map Prod.fst = names slots)
    (hslot : slot ∈ slots) : ∃ e ∈ entries, e.1 = slot.rule.name := by
  have hname : slot.rule.name ∈ entries.map Prod.fst := by
    rw [hnames]
    exact mem_names.mpr ⟨slot, hslot, rfl⟩
  exact List.mem_map.mp hname

/-- The query fails if the values under some name cannot be assigned to its slots. -/
theorem queryBindings?_eq_none_iff (slots : List QuerySlot) (query : String) :
    queryBindings? slots query = none ↔ ∃ slot ∈ slots,
      assigned? slots (Bindings.textsOf (Query.pairs query) slot.rule.name) slot.rule.name = none := by
  have hspec := queryBindings?_spec slots query
  cases hquery : queryBindings? slots query with
  | none =>
    rw [hquery] at hspec
    obtain ⟨name, hname, hnone⟩ := hspec
    obtain ⟨slot, hslot, rfl⟩ := mem_names.mp hname
    exact iff_of_true rfl ⟨slot, hslot, hnone⟩
  | some b =>
    rw [hquery] at hspec
    obtain ⟨entries, hnames, hfound, -⟩ := hspec
    apply iff_of_false (Option.some_ne_none b)
    intro hx
    obtain ⟨slot, hslot, hnone⟩ := hx
    obtain ⟨e, he, hfst⟩ := exists_entry hnames hslot
    obtain ⟨runs, hruns, -⟩ := hfound e he
    rw [hfst, hnone] at hruns
    cases hruns

/-- Where no declared name extends another one, exactly the declared names are bound, each to what its
slots are assigned of the values under it. -/
theorem queryBindings?_eq_some {query : String} {b : Bindings}
    (hapart : ∀ slot ∈ slots, ∀ other ∈ slots, ¬ Extends slot.rule.name other.rule.name)
    (h : queryBindings? slots query = some b) :
    (∀ path ≠ [], (b.descend? path).isSome = true ↔
      ∃ slot ∈ slots, path <+: segments slot.rule.name) ∧
    ∀ slot ∈ slots, ∃ runs,
      assigned? slots (Bindings.textsOf (Query.pairs query) slot.rule.name) slot.rule.name =
        some runs ∧
      b.lookup? slot.rule.name = some (bound (sharing slots slot.rule.name) runs
        (Bindings.textsOf (Query.pairs query) slot.rule.name)) := by
  have hspec := queryBindings?_spec slots query
  rw [h] at hspec
  obtain ⟨entries, hnames, hfound, rfl⟩ := hspec
  have hmem {e : String × Value} (he : e ∈ entries) : ∃ slot ∈ slots, slot.rule.name = e.1 := by
    rw [← mem_names, ← hnames]
    exact List.mem_map_of_mem he
  -- the names are those of slots, and none of them comes twice
  have hpairwise : entries.Pairwise fun e e' => Bindings.Apart e.1 e'.1 := by
    have hnodup := nodup_names slots
    rw [← hnames, List.Nodup, List.pairwise_map] at hnodup
    apply hnodup.imp_of_mem
    intro e e' he he' hne
    obtain ⟨slot, hslot, hname⟩ := hmem he
    obtain ⟨other, hother, hname'⟩ := hmem he'
    rw [Bindings.apart_iff, ← hname, ← hname']
    refine ⟨?_, hapart slot hslot other hother, hapart other hother slot hslot⟩
    rw [hname, hname']
    exact hne
  have hvalue : ∀ e ∈ entries, e.2.entries? = none := by
    intro e he
    obtain ⟨runs, -, hbound⟩ := hfound e he
    rw [hbound]
    exact entries?_bound _ _ _
  refine ⟨?_, ?_⟩
  · intro path hpath
    rw [Bindings.descend?_eq_reach? hpath,
      Bindings.reach?_assignAll_isSome_iff hpairwise hvalue hpath]
    constructor
    · intro hx
      obtain ⟨e, he, hleads⟩ := hx
      obtain ⟨slot, hslot, hname⟩ := hmem he
      exact ⟨slot, hslot, hname ▸ hleads⟩
    · intro hx
      obtain ⟨slot, hslot, hleads⟩ := hx
      obtain ⟨e, he, hfst⟩ := exists_entry hnames hslot
      exact ⟨e, he, hfst ▸ hleads⟩
  · intro slot hslot
    obtain ⟨e, he, hfst⟩ := exists_entry hnames hslot
    obtain ⟨runs, hruns, hbound⟩ := hfound e he
    rw [hfst] at hruns hbound
    refine ⟨runs, hruns, ?_⟩
    have hundotted := Bindings.undotted_assignAll Bindings.undotted_nil entries
    rw [Bindings.lookup?_eq_reach? hundotted, ← hfst, Bindings.reach?_assignAll hpairwise [] he,
      hbound, hfst]

end QuerySlot

namespace Rule

open QuerySlot (sharing assigned? contribution)

variable {α : Type} {rule : Rule α}

/-- A rule that matches a path, and has query rules of whose names none extends another one, fails only
if the values under some declared name cannot be assigned to the rules of the name; a rule that has
its name for itself has to require a value and accept none for that. Else exactly the declared names
are bound. A name with one rule is bound by what the rule accepts of the values under it, a name with
several rules to the array of what their runs and defaults contribute. -/
theorem matchUrl?_declared (hslots : rule.compiled.slots ≠ [])
    (hapart : ∀ slot ∈ rule.compiled.slots, ∀ other ∈ rule.compiled.slots,
      ¬ Extends slot.rule.name other.rule.name)
    {url : String} {captures : Captures}
    (hpath : rule.compiled.path.regex.captures? (Query.splitUrl url).1 = some captures) :
    let slots := rule.compiled.slots
    let values := Query.arguments url
    let accepted (slot : QuerySlot) := (values slot.rule.name).filter slot.accepts
    (rule.matchUrl? url = none ↔
      ∃ slot ∈ slots, assigned? slots (values slot.rule.name) slot.rule.name = none) ∧
    (∀ slot, sharing slots slot.rule.name = [slot] →
      (assigned? slots (values slot.rule.name) slot.rule.name = none ↔
        slot.rule.required = true ∧ accepted slot = [])) ∧
    ∀ m, rule.matchUrl? url = some m →
      (∀ path ≠ [], (m.query.descend? path).isSome = true ↔
        ∃ slot ∈ slots, path <+: segments slot.rule.name) ∧
      (∀ slot, sharing slots slot.rule.name = [slot] →
        m.query.lookup? slot.rule.name = some (slot.rule.loneValue (accepted slot))) ∧
      ∀ name, 1 < (sharing slots name).length → ∃ runs,
        assigned? slots (values name) name = some runs ∧
        runs.length = (sharing slots name).length ∧
        (∀ run ∈ runs, ∀ i ∈ run, i < (values name).length) ∧
        m.query.lookup? name = some (.collective (((sharing slots name).zip runs).flatMap
          fun (slot, run) => contribution (values name) slot run)) := by
  intro slots values accepted
  have hmatch : rule.matchUrl? url =
      (QuerySlot.queryBindings? slots ((Query.splitUrl url).2.getD "")).map fun query =>
        ⟨pathBindings rule.compiled.path.groups captures, query⟩ := by
    rw [matchUrl?_eq hslots, hpath, Option.bind_some]
  refine ⟨?_, ?_, ?_⟩
  · rw [hmatch, Option.map_eq_none_iff]
    exact QuerySlot.queryBindings?_eq_none_iff slots _
  · intro slot hlone
    rw [QuerySlot.assigned?_lone hlone, ite_eq_left_iff]
    constructor
    · intro h
      by_contra hnot
      cases h hnot
    · exact fun h hnot => absurd h hnot
  · intro m hm
    rw [hmatch] at hm
    obtain ⟨query, hquery, rfl⟩ := Option.map_eq_some_iff.mp hm
    obtain ⟨hnames, hvalues⟩ := QuerySlot.queryBindings?_eq_some hapart hquery
    refine ⟨hnames, ?_, ?_⟩
    · intro slot hlone
      obtain ⟨runs, hruns, hlookup⟩ := hvalues slot (QuerySlot.mem_of_sharing hlone).1
      rw [QuerySlot.assigned?_lone hlone] at hruns
      split at hruns
      · cases hruns
      · -- the run is the slot's share, by which it is bound
        obtain rfl := Option.some.inj hruns
        rw [hlone, QuerySlot.bound_lone] at hlookup
        exact hlookup
    · intro name hseveral
      obtain ⟨slot, hslot, rfl⟩ : ∃ slot ∈ slots, slot.rule.name = name := by
        obtain ⟨slot, hslot⟩ := List.exists_mem_of_length_pos (Nat.zero_lt_of_lt hseveral)
        obtain ⟨hmem, hname⟩ := List.mem_filter.mp hslot
        exact ⟨slot, hmem, beq_iff_eq.mp hname⟩
      obtain ⟨runs, hruns, hlookup⟩ := hvalues slot hslot
      have hlength := Query.length_of_assign? hruns
      rw [List.length_map] at hlength
      have hcollective : ¬ ((sharing slots slot.rule.name).length ≤ 1 ∧
          !(sharing slots slot.rule.name).any (·.rule.multiple)) :=
        fun h => absurd h.1 (Nat.not_le_of_lt hseveral)
      rw [QuerySlot.bound_collective hcollective] at hlookup
      exact ⟨runs, hruns, hlength,
        fun run hrun i hi => Query.lt_of_mem_assign? hruns hrun hi, hlookup⟩

theorem matchUrl?_declared_numbers :
    let url := "/s?n=1&n=2&m=p&n=a"
    ∃ (rule : Rule Unit) (captures : Captures) (m : RuleMatch),
      make "/s&{[0-9]}:n+&n?t=x" { payload := () } ∅ = .ok rule ∧ rule.compiled.slots ≠ [] ∧
      (∀ slot ∈ rule.compiled.slots, ∀ other ∈ rule.compiled.slots,
        ¬ Extends slot.rule.name other.rule.name) ∧
      rule.compiled.path.regex.captures? (Query.splitUrl url).1 = some captures ∧
      rule.matchUrl? url = some m ∧
      m.query.lookup? "n" = some (.array [.text "1", .text "2", .text "a"]) ∧
      m.query.lookup? "t" = some (.text "x") := by
  intro url
  let data : RuleData Unit := { payload := () }
  let first : QueryRule :=
    { name := "n", constraint := .regex "[0-9]", required := true, multiple := true }
  let second : QueryRule := { name := "n", required := true }
  let third : QueryRule := { name := "t", default := some "x" }
  have hfound : ((make "/s&{[0-9]}:n+&n?t=x" data ∅).toOption.map fun rule =>
      ((rule.compiled.path.regex.captures? "/s").isSome, rule.compiled.slots.map fun slot =>
        assigned? rule.compiled.slots (Query.arguments "/s?n=1&n=2&m=p&n=a" slot.rule.name)
          slot.rule.name)) =
      some (true, [some [[0, 1], [2]], some [[0, 1], [2]], some [[]]]) := by decide +kernel
  have hread : Pattern.read "/s&{[0-9]}:n+&n?t=x" =
      .ok ⟨"/s&{[0-9]}:n+&n?t=x", [.delimiter, .literal "s"], [first, second, third]⟩ := rfl
  cases hmake : make "/s&{[0-9]}:n+&n?t=x" data ∅ with
  | error e =>
    rw [hmake] at hfound
    cases hfound
  | ok rule =>
    rw [hmake] at hfound
    obtain ⟨hcaptured, hassigned⟩ := Prod.mk.inj (Option.some.inj hfound)
    obtain ⟨captures, hcaptures⟩ := Option.isSome_iff_exists.mp hcaptured
    have hrules : rule.compiled.slots.map (·.rule) = [first, second, third] := by
      have hpattern := Except.ok.inj ((read_of_make hmake).symm.trans hread)
      obtain ⟨pattern, compiled, -, hcompile, rfl⟩ := make_eq_ok hmake
      obtain rfl : pattern = _ := hpattern
      exact (Pattern.compile_eq_ok hcompile).2.2
    have hapart : ∀ slot ∈ rule.compiled.slots, ∀ other ∈ rule.compiled.slots,
        ¬ Extends slot.rule.name other.rule.name := by
      have hnames : ∀ q ∈ [first, second, third], ∀ q' ∈ [first, second, third],
          ¬ Extends q.name q'.name := by decide +kernel
      rw [← hrules] at hnames
      intro slot hslot other hother
      exact hnames _ (List.mem_map_of_mem hslot) _ (List.mem_map_of_mem hother)
    obtain ⟨a, bc, hslots, ha, hbc⟩ := List.map_eq_cons_iff.mp hrules
    obtain ⟨b, cs, rfl, hb, hcs⟩ := List.map_eq_cons_iff.mp hbc
    obtain ⟨c, none, rfl, hc, hnone⟩ := List.map_eq_cons_iff.mp hcs
    obtain rfl := List.map_eq_nil_iff.mp hnone
    have hne : rule.compiled.slots ≠ [] := by
      rw [hslots]
      exact List.cons_ne_nil _ _
    have hn : sharing rule.compiled.slots "n" = [a, b] := by
      rw [sharing, hslots]
      simp [ha, hb, hc, first, second, third]
    have ht : sharing rule.compiled.slots c.rule.name = [c] := by
      rw [sharing, hslots]
      simp [ha, hb, hc, first, second, third]
    have hmap (f : QuerySlot → Option (List (List Nat))) :
        rule.compiled.slots.map f = [f a, f b, f c] := congrArg (List.map f) hslots
    rw [hmap] at hassigned
    obtain ⟨hfirst, hmore⟩ := List.cons.inj hassigned
    obtain ⟨hsecond, hmore⟩ := List.cons.inj hmore
    obtain ⟨hthird, -⟩ := List.cons.inj hmore
    have hsplit : (Query.splitUrl url).1 = "/s" := by decide +kernel
    have hpath : rule.compiled.path.regex.captures? (Query.splitUrl url).1 = some captures := by
      rw [hsplit]
      exact hcaptures
    obtain ⟨hfails, -, hbound⟩ := matchUrl?_declared hne hapart hpath
    cases hm : rule.matchUrl? url with
    | none =>
      obtain ⟨slot, hslot, hnone⟩ := hfails.mp hm
      rw [hslots] at hslot
      rcases List.mem_cons.mp hslot with rfl | hslot
      · cases hfirst.symm.trans hnone
      · rcases List.mem_cons.mp hslot with rfl | hslot
        · cases hsecond.symm.trans hnone
        · obtain rfl := List.mem_singleton.mp hslot
          cases hthird.symm.trans hnone
    | some m =>
      obtain ⟨-, hlone, hseveral⟩ := hbound m hm
      refine ⟨rule, captures, m, rfl, hne, hapart, hpath, hm, ?_, ?_⟩
      · have hvalues : Query.arguments url "n" = ["1", "2", "a"] := by decide +kernel
        have htwo : 1 < (sharing rule.compiled.slots "n").length := by
          rw [hn]
          exact Nat.lt_succ_self 1
        obtain ⟨runs, hruns, -, -, hlookup⟩ := hseveral "n" htwo
        rw [ha] at hfirst
        obtain rfl := Option.some.inj (hfirst.symm.trans hruns)
        rw [hn, hvalues] at hlookup
        exact hlookup
      · have hvalues : Query.arguments url third.name = [] := by decide +kernel
        have hlookup : m.query.lookup? c.rule.name = some (c.rule.loneValue
            ((Query.arguments url c.rule.name).filter c.accepts)) := hlone c ht
        rw [hc, hvalues] at hlookup
        exact hlookup

end Rule

end RoutePattern
