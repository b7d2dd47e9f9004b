import RoutePattern.Proofs.Query.Grouping
import RoutePattern.Proofs.Query.Lone
import RoutePattern.Proofs.Rule.Making

/-! What a rule binds the arguments of a query to. Only the values under the declared names matter, each
name's on their own, and what a name is bound to can be told from the values that its rules accept. -/
namespace RoutePattern

namespace Query

/-- The values that a URL gives under a key, in order. -/
def arguments (url key : String) : List String :=
  Bindings.textsOf (pairs ((splitUrl url).2.getD "")) key

end Query

namespace QuerySlot

variable {slots : List QuerySlot} {query query' : String}

/-- The slots that share a name, in order. -/
def sharing (slots : List QuerySlot) (name : String) : List QuerySlot :=
  slots.filter (·.rule.name == name)

/-- What the slots that share a name are assigned of some values. -/
def assigned? (slots : List QuerySlot) (values : List String) (name : String) :
    Option (List (List Nat)) :=
  Query.assign? ((sharing slots name).map taker) values

theorem mem_names {name : String} : name ∈ names slots ↔ ∃ slot ∈ slots, slot.rule.name = name := by
  have hnames : names slots = (slots.map (·.rule.name)).foldl addName [] := rfl
  rw [hnames, Bindings.mem_foldl_addName, List.mem_map]
  exact or_iff_right List.not_mem_nil

theorem nodup_names (slots : List QuerySlot) : (names slots).Nodup :=
  Bindings.nodup_foldl_addName List.nodup_nil

/-- Binds a name to what is made of what is found for it. -/
def assignFound {γ : Type} (found : String → Option γ) (value : String → γ → Value) (b : Bindings)
    (name : String) : Option Bindings := do
  let x ← found name
  return Bindings.assign b name (value name x)

section Found

variable {γ : Type} {found found' : String → Option γ} {value value' : String → γ → Value}

/-- Names are bound one after the other, unless nothing is found for one of them. -/
theorem foldlM_assignFound (found : String → Option γ) (value : String → γ → Value)
    (l : List String) (b : Bindings) :
    match l.foldlM (assignFound found value) b with
    | none => ∃ name ∈ l, found name = none
    | some b' => ∃ entries, entries.map Prod.fst = l ∧
        (∀ e ∈ entries, ∃ x, found e.1 = some x ∧ e.2 = value e.1 x) ∧
        b' = Bindings.assignAll b entries := by
  induction l generalizing b with
  | nil => exact ⟨[], rfl, nofun, rfl⟩
  | cons name l ih =>
    rw [List.foldlM_cons, assignFound]
    cases hfound : found name with
    | none => exact ⟨name, List.mem_cons_self, hfound⟩
    | some x =>
      have hrest := ih (Bindings.assign b name (value name x))
      simp only [bind, Option.bind_some, pure]
      cases hfold : l.foldlM (assignFound found value) (Bindings.assign b name (value name x)) with
      | none =>
        rw [hfold] at hrest
        obtain ⟨other, hother, hnone⟩ := hrest
        exact ⟨other, List.mem_cons_of_mem name hother, hnone⟩
      | some b' =>
        rw [hfold] at hrest
        obtain ⟨entries, hnames, hvalues, hb⟩ := hrest
        refine ⟨(name, value name x) :: entries, congrArg (name :: ·) hnames, ?_, hb⟩
        exact List.forall_mem_cons.mpr ⟨⟨x, hfound, rfl⟩, hvalues⟩

theorem foldlM_assignFound_congr {l : List String}
    (h : ∀ name ∈ l, found name = found' name ∧ value name = value' name) (b : Bindings) :
    l.foldlM (assignFound found value) b = l.foldlM (assignFound found' value') b := by
  induction l generalizing b with
  | nil => rfl
  | cons name l ih =>
    obtain ⟨⟨hfound, hvalue⟩, hl⟩ := List.forall_mem_cons.mp h
    rw [List.foldlM_cons, List.foldlM_cons, assignFound, assignFound, hfound, hvalue]
    congr 1
    funext b'
    exact ih hl b'

end Found

/-- Each name is bound to what its slots are assigned of its values. -/
theorem queryBindings?_eq (slots : List QuerySlot) (query : String) :
    queryBindings? slots query = (names slots).foldlM
      (assignFound
        (fun name => assigned? slots (Bindings.textsOf (Query.pairs query) name) name)
        fun name runs =>
          bound (sharing slots name) runs (Bindings.textsOf (Query.pairs query) name)) [] := by
  simp only [← Query.valuesOf_group]
  unfold queryBindings? assignFound assigned? sharing
  rfl

/-- A query is bound name by name, unless the values under some name cannot be assigned to its slots. -/
theorem queryBindings?_spec (slots : List QuerySlot) (query : String) :
    match queryBindings? slots query with
    | none => ∃ name ∈ names slots,
        assigned? slots (Bindings.textsOf (Query.pairs query) name) name = none
    | some b => ∃ entries, entries.map Prod.fst = names slots ∧
        (∀ e ∈ entries, ∃ runs,
          assigned? slots (Bindings.textsOf (Query.pairs query) e.1) e.1 = some runs ∧
          e.2 = bound (sharing slots e.1) runs (Bindings.textsOf (Query.pairs query) e.1)) ∧
        b = Bindings.assignAll [] entries := by
  rw [queryBindings?_eq]
  exact foldlM_assignFound _ _ (names slots) []

/-- Queries are bound alike if they give the same values under each declared name. -/
theorem queryBindings?_congr
    (h : ∀ slot ∈ slots, Bindings.textsOf (Query.pairs query) slot.rule.name =
      Bindings.textsOf (Query.pairs query') slot.rule.name) :
    queryBindings? slots query = queryBindings? slots query' := by
  rw [queryBindings?_eq, queryBindings?_eq]
  apply foldlM_assignFound_congr
  intro name hname
  obtain ⟨slot, hslot, rfl⟩ := mem_names.mp hname
  rw [h slot hslot]
  exact ⟨rfl, rfl⟩

end QuerySlot

namespace Rule

variable {α : Type} {rule : Rule α}

/-- A rule with query rules matches a URL if it matches the path and can bind the query. -/
theorem matchUrl?_eq (hslots : rule.compiled.slots ≠ []) (url : String) :
    rule.matchUrl? url =
      (rule.compiled.path.regex.captures? (Query.splitUrl url).1).bind fun captures =>
        (QuerySlot.queryBindings? rule.compiled.slots ((Query.splitUrl url).2.getD "")).map
          fun query => ⟨pathBindings rule.compiled.path.groups captures, query⟩ := by
  have hfull : rule.compiled.slots.isEmpty = false := List.isEmpty_eq_false_iff.mpr hslots
  rw [matchUrl?]
  simp only [hfull, bind, Bool.false_eq_true, ↓reduceIte, Option.map_eq_bind]
  rfl

/-- Two URLs with one path that give the same values in the same order under each declared name are
matched alike, whatever else they give and however their arguments stand to each other. -/
theorem matchUrl?_congr_arguments (hslots : rule.compiled.slots ≠ []) {url url' : String}
    (hpath : (Query.splitUrl url).1 = (Query.splitUrl url').1)
    (harguments : ∀ slot ∈ rule.compiled.slots,
      Query.arguments url slot.rule.name = Query.arguments url' slot.rule.name) :
    rule.matchUrl? url = rule.matchUrl? url' ∧
      (rule.matchUrl? url).map RuleMatch.merged = (rule.matchUrl? url').map RuleMatch.merged := by
  have hquery : QuerySlot.queryBindings? rule.compiled.slots ((Query.splitUrl url).2.getD "") =
      QuerySlot.queryBindings? rule.compiled.slots ((Query.splitUrl url').2.getD "") :=
    QuerySlot.queryBindings?_congr harguments
  have hmatch : rule.matchUrl? url = rule.matchUrl? url' := by
    rw [matchUrl?_eq hslots, matchUrl?_eq hslots, hpath, hquery]
  exact ⟨hmatch, congrArg (Option.map RuleMatch.merged) hmatch⟩

theorem matchUrl?_congr_tags :
    let url := "/s?x=0&tag=a&sort=up&tag=b+c"
    let url' := "/s?s%6Frt=up&tag=a&tag=b%20c&tag.x=d&sort.by=1"
    ∃ rule : Rule Unit, make "/s?tag+?sort" { payload := () } ∅ = .ok rule ∧
      rule.compiled.slots ≠ [] ∧ (Query.splitUrl url).1 = (Query.splitUrl url').1 ∧
      (∀ slot ∈ rule.compiled.slots,
        Query.arguments url slot.rule.name = Query.arguments url' slot.rule.name) ∧
      rule.matchUrl? url = rule.matchUrl? url' := by
  intro url url'
  let data : RuleData Unit := { payload := () }
  have hmade : (make "/s?tag+?sort" data ∅).toOption.isSome = true := by decide +kernel
  have hread : Pattern.read "/s?tag+?sort" = .ok ⟨"/s?tag+?sort", [.delimiter, .literal "s"],
      [{ name := "tag", multiple := true }, { name := "sort" }]⟩ := rfl
  obtain ⟨rule, hmake, hpattern⟩ := exists_of_read hread hmade
  obtain ⟨pattern, compiled, -, hcompile, rfl⟩ := make_eq_ok hmake
  obtain rfl : pattern = _ := hpattern
  obtain ⟨-, -, hrules⟩ := Pattern.compile_eq_ok hcompile
  have hslots : compiled.slots ≠ [] := by
    intro hnil
    rw [hnil] at hrules
    cases hrules
  have harguments : ∀ slot ∈ compiled.slots,
      Query.arguments url slot.rule.name = Query.arguments url' slot.rule.name := by
    have hboth : ∀ declared ∈ compiled.slots.map (·.rule),
        Query.arguments url declared.name = Query.arguments url' declared.name := by
      rw [hrules]
      decide +kernel
    intro slot hslot
    exact hboth slot.rule (List.mem_map_of_mem hslot)
  have hpath : (Query.splitUrl url).1 = (Query.splitUrl url').1 := by decide +kernel
  refine ⟨_, hmake, hslots, hpath, harguments, ?_⟩
  exact (matchUrl?_congr_arguments hslots hpath harguments).1

end Rule

end RoutePattern
