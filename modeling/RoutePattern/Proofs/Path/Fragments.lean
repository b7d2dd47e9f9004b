import RoutePattern.Proofs.Path.Cut
import RoutePattern.Query.Slot

/-! The fragments that params and query rules are held to, and what is made of them. -/
namespace RoutePattern

open Regex

/-- The text that a constraint puts into a regex. -/
def Constraint.fragment? (kinds : Kinds) : Constraint → Option String
  | .any => none
  | .kind name => kinds[name]?.map (·.fragment)
  | .regex text => some text

/-- The fragment that a param is held to, unless it is held to choices. -/
def Param.fragment? (p : Param) (kinds : Kinds) : Option String :=
  if p.choices.isEmpty then p.constraint.fragment? kinds else none

/-- The fragment that the values of a query rule are held to, unless they are held to choices. -/
def QueryRule.fragment? (rule : QueryRule) (kinds : Kinds) : Option String :=
  if rule.choices.isEmpty then rule.constraint.fragment? kinds else none

variable {kinds : Kinds} {fold : Bool} {p : Param} {rule : QueryRule} {text : String}

theorem Constraint.fragment?_eq_some {c : Constraint} (h : c.fragment? kinds = some text) :
    (∃ name k, c = .kind name ∧ kinds[name]? = some k ∧ k.fragment = text) ∨ c = .regex text := by
  cases c with
  | any => cases h
  | kind name =>
    obtain ⟨k, hk, htext⟩ := Option.map_eq_some_iff.mp h
    exact Or.inl ⟨name, k, rfl, hk, htext⟩
  | regex found => exact Or.inr (congrArg Constraint.regex (Option.some.inj h))

theorem Param.fragment?_eq_some (h : p.fragment? kinds = some text) :
    p.choices.isEmpty = true ∧ p.constraint.fragment? kinds = some text :=
  Option.ite_none_right_eq_some.mp h

/-- The regex of a param is its fragment. -/
theorem Param.regex_of_fragment? (h : p.fragment? kinds = some text) :
    p.regex kinds fold = .ok text.toList := by
  obtain ⟨hempty, hc⟩ := fragment?_eq_some h
  rw [regex, if_pos hempty]
  rcases Constraint.fragment?_eq_some hc with ⟨name, k, hname, hk, rfl⟩ | htext
  · simp only [hname, Kinds.resolve, hk]
    rfl
  · rw [htext]

/-- The values of a param are the texts that its fragment stands for. -/
theorem Param.values_of_fragment? (h : p.fragment? kinds = some text) :
    p.values kinds = languageOf text.toList := by
  obtain ⟨hempty, hc⟩ := fragment?_eq_some h
  rw [values, if_pos hempty]
  rcases Constraint.fragment?_eq_some hc with ⟨name, k, hname, hk, rfl⟩ | htext
  · simp only [hname, hk]
  · rw [htext]

/-- The values of a query rule are held to its fragment. -/
theorem QueryRule.body_of_fragment? (h : rule.fragment? kinds = some text) :
    QuerySlot.body rule kinds = .ok (some text.toList) := by
  obtain ⟨hempty, hc⟩ := Option.ite_none_right_eq_some.mp h
  rw [QuerySlot.body, if_pos hempty]
  rcases Constraint.fragment?_eq_some hc with ⟨name, k, hname, hk, rfl⟩ | htext
  · simp only [hname, Kinds.resolve, hk]
    rfl
  · rw [htext]

/-- Without a fragment the regex of a param is read as items of its own, without groups. Of choices
these stand for the texts that the choices are found as. -/
theorem Param.exists_reads {body : List Char} (h : p.fragment? kinds = none)
    (hbody : p.regex kinds fold = .ok body) :
    ∃ items, (∀ g, Reads fold g body g items) ∧ (∀ item ∈ items, item.term.NoGroup) ∧
      (p.choices ≠ [] →
        Consumes (Term.RunsAll (items.map Item.term)) (eitherOf (choiceForms fold p.choices))) := by
  rw [regex] at hbody
  rw [fragment?] at h
  split at hbody
  · next hempty =>
    have hnil : p.choices = [] := List.isEmpty_iff.mp hempty
    rw [if_pos hempty] at h
    cases hc : p.constraint with
    | any =>
      rw [hc] at hbody
      obtain rfl := Except.ok.inj hbody
      refine ⟨_, reads_segment fold, ?_, fun hne => absurd hnil hne⟩
      rw [List.forall_mem_singleton]
      trivial
    | kind name =>
      rw [hc] at h hbody
      have hnone : kinds[name]? = none := Option.map_eq_none_iff.mp h
      simp only [Kinds.resolve, hnone] at hbody
      cases hbody
    | regex text =>
      rw [hc] at h
      cases h
  · next hempty =>
    obtain rfl := Except.ok.inj hbody
    have hchoices : p.choices ≠ [] := fun h => hempty (List.isEmpty_iff.mpr h)
    obtain ⟨items, hreads, hgroups, hconsumes⟩ := spells_choicesRegex fold hchoices
    exact ⟨items, hreads, hgroups, fun _ => hconsumes⟩

end RoutePattern
