import Mathlib.Data.List.Forall2
import RoutePattern.Rule

/-! What rules are made of, and what they are compiled to. -/
namespace RoutePattern

theorem eq_ok_of_toOption {ε α : Type} {x : Except ε α} {a : α} (h : x.toOption = some a) :
    x = .ok a := by
  cases x with
  | error e => cases h
  | ok a' => exact congrArg Except.ok (Option.some.inj h)

/-- Where a traversal succeeds, each element was taken to the one in its place. -/
theorem forall₂_of_mapM {ε α β : Type} {f : α → Except ε β} {l : List α} {l' : List β}
    (h : l.mapM f = .ok l') : List.Forall₂ (fun a b => f a = .ok b) l l' := by
  induction l generalizing l' with
  | nil =>
    cases h
    exact .nil
  | cons a l ih =>
    rw [List.mapM_cons] at h
    cases ha : f a with
    | error e =>
      rw [ha] at h
      cases h
    | ok b =>
      rw [ha] at h
      cases hl : l.mapM f with
      | error e =>
        rw [hl] at h
        cases h
      | ok rest =>
        rw [hl] at h
        cases h
        exact .cons ha (ih hl)

/-- The regex of a path is read from the text for it, and its groups are those of the params. -/
theorem Pattern.pathRegex_eq_ok {p : Pattern} {kinds : Kinds} {options : Options} {r : PathRegex}
    (h : p.pathRegex kinds options = .ok r) :
    ∃ text item, p.regexText kinds options = .ok text ∧
      Regex.readItem? text.toList = some item ∧ item.height ≤ Regex.nestLimit ∧
      item.term.lastGroup = p.params.length ∧
      r = ⟨⟨text, item.term, item.term.program⟩, p.params.map (·.name)⟩ := by
  rw [pathRegex] at h
  cases htext : p.regexText kinds options with
  | error e =>
    rw [htext] at h
    cases h
  | ok text =>
    simp only [bind, Except.bind, htext] at h
    cases hregex : Regex.ofText? text with
    | none =>
      rw [hregex] at h
      cases h
    | some regex =>
      rw [hregex] at h
      dsimp only at h
      split at h
      · next hgroups =>
        cases h
        obtain ⟨item, hitem, hheight, -, rfl⟩ := Regex.ofText?_eq_some_iff.mp hregex
        rw [List.length_map] at hgroups
        exact ⟨text, item, rfl, hitem, hheight, hgroups, rfl⟩
      · cases h

/-- The groups of the regex of a path have the names of the params. -/
theorem Pattern.groups_eq {p : Pattern} {kinds : Kinds} {options : Options} {r : PathRegex}
    (h : p.pathRegex kinds options = .ok r) : r.groups = p.params.map (·.name) := by
  obtain ⟨text, item, -, -, -, -, rfl⟩ := pathRegex_eq_ok h
  rfl

/-- A path has the regex that is read from its text, if this has a group for each param. -/
theorem Pattern.pathRegex_of_ofText? {p : Pattern} {kinds : Kinds} {options : Options} {text : String}
    {regex : Regex} (htext : p.regexText kinds options = .ok text)
    (hregex : Regex.ofText? text = some regex) (hgroups : regex.groups = p.params.length) :
    p.pathRegex kinds options = .ok ⟨regex, p.params.map (·.name)⟩ := by
  rw [pathRegex, htext]
  simp only [bind, Except.bind, hregex]
  rw [List.length_map]
  exact if_pos hgroups

/-- A query rule is compiled to a slot for it. What its values are held to is read between brackets and
anchors. -/
theorem QuerySlot.make_eq_ok {rule : QueryRule} {kinds : Kinds} {ignoreCase : Bool}
    {slot : QuerySlot} (h : make rule kinds ignoreCase = .ok slot) :
    slot.rule = rule ∧ ∀ text, body rule kinds = .ok (some text) → ∃ check,
      slot.check = some check ∧ Regex.ofText? (String.ofList
        ((if ignoreCase then "(?i)".toList else []) ++ "^(?:".toList ++ text ++ ")$".toList)) =
          some check := by
  rw [make] at h
  cases hbody : body rule kinds with
  | error e =>
    rw [hbody] at h
    cases h
  | ok found =>
    simp only [bind, Except.bind, hbody] at h
    cases found with
    | none =>
      cases h
      exact ⟨rfl, nofun⟩
    | some text =>
      dsimp only at h
      split at h
      · next check hcheck =>
        cases h
        refine ⟨rfl, fun text' htext => ?_⟩
        obtain rfl : text = text' := Option.some.inj (Except.ok.inj htext)
        exact ⟨check, rfl, hcheck⟩
      · cases h

/-- A pattern is compiled to the regex of its path and to its query rules with their checks. -/
theorem Pattern.compile_eq_ok {p : Pattern} {kinds : Kinds} {options : Options}
    {compiled : Compiled} (h : p.compile kinds options = .ok compiled) :
    p.pathRegex kinds options = .ok compiled.path ∧
      List.Forall₂ (fun rule slot => QuerySlot.make rule kinds options.ignoreCase = .ok slot)
        p.query compiled.slots ∧
      compiled.slots.map (·.rule) = p.query := by
  rw [compile] at h
  cases hpath : p.pathRegex kinds options with
  | error e =>
    rw [hpath] at h
    cases h
  | ok path =>
    cases hslots : p.query.mapM fun rule => QuerySlot.make rule kinds options.ignoreCase with
    | error e =>
      simp only [bind, Except.bind, hpath, hslots] at h
      cases h
    | ok slots =>
      simp only [bind, Except.bind, hpath, hslots] at h
      cases h
      have hmade := forall₂_of_mapM hslots
      refine ⟨rfl, hmade, ?_⟩
      have hrules : List.Forall₂ (· = ·) p.query (slots.map (·.rule)) := by
        rw [List.forall₂_map_right_iff]
        exact hmade.imp fun _ _ hslot => (QuerySlot.make_eq_ok hslot).1.symm
      rw [List.forall₂_eq_eq_eq] at hrules
      exact hrules.symm

section Reading

variable {source : String} {kinds : Kinds} {options : Options} {p : Pattern}

theorem Pattern.readAndCompile_of_read (h : read source = .ok p) :
    readAndCompile source kinds options = (p.compile kinds options).map fun compiled => (p, compiled) := by
  simp only [readAndCompile, bind, Except.bind, h]
  cases p.compile kinds options with
  | error e => rfl
  | ok compiled => rfl

theorem Pattern.read_of_readAndCompile {compiled : Compiled}
    (h : readAndCompile source kinds options = .ok (p, compiled)) :
    read source = .ok p ∧ p.compile kinds options = .ok compiled := by
  cases hread : read source with
  | error e =>
    rw [readAndCompile, hread] at h
    cases h
  | ok p' =>
    rw [readAndCompile_of_read hread] at h
    cases hcompile : p'.compile kinds options with
    | error e =>
      rw [hcompile] at h
      cases h
    | ok compiled' =>
      rw [hcompile] at h
      cases h
      exact ⟨rfl, hcompile⟩

end Reading

namespace Rule

variable {α : Type} {source : String} {data : RuleData α} {kinds kinds' : Kinds}
  {rule rule' : Rule α}

/-- A rule is made of the pattern that its source is read as. -/
theorem make_of_read {pattern : Pattern} (h : Pattern.read source = .ok pattern) :
    make source data kinds = (pattern.compile kinds data.options).map fun compiled =>
      { source, name := data.name.getD source, pattern, kinds, compiled,
        data := { data with verbs := data.verbs.normalized } } := by
  rw [make, Pattern.readAndCompile_of_read h]
  cases pattern.compile kinds data.options with
  | error e => rfl
  | ok compiled => rfl

/-- What a rule is made of: the pattern that is read, what it is compiled to, and the data. -/
theorem make_eq_ok (h : make source data kinds = .ok rule) :
    ∃ pattern compiled, Pattern.read source = .ok pattern ∧
      pattern.compile kinds data.options = .ok compiled ∧
      rule = { source, name := data.name.getD source, pattern, kinds, compiled,
               data := { data with verbs := data.verbs.normalized } } := by
  cases hr : Pattern.read source with
  | error e =>
    rw [make, Pattern.readAndCompile, hr] at h
    cases h
  | ok pattern =>
    rw [make_of_read hr] at h
    cases hc : pattern.compile kinds data.options with
    | error e =>
      rw [hc] at h
      cases h
    | ok compiled =>
      rw [hc] at h
      cases h
      exact ⟨pattern, compiled, rfl, hc, rfl⟩

theorem read_of_make (h : make source data kinds = .ok rule) :
    Pattern.read source = .ok rule.pattern := by
  obtain ⟨pattern, compiled, hread, -, rfl⟩ := make_eq_ok h
  exact hread

theorem compile_of_make (h : make source data kinds = .ok rule) :
    rule.pattern.compile kinds data.options = .ok rule.compiled := by
  obtain ⟨pattern, compiled, -, hcompile, rfl⟩ := make_eq_ok h
  exact hcompile

/-- A rule that can be made has the pattern that its source is read as. -/
theorem exists_of_read {pattern : Pattern} (hread : Pattern.read source = .ok pattern)
    (h : (make source data kinds).toOption.isSome = true) :
    ∃ rule, make source data kinds = .ok rule ∧ rule.pattern = pattern := by
  cases hmake : make source data kinds with
  | error e =>
    rw [hmake] at h
    cases h
  | ok rule => exact ⟨rule, rfl, Except.ok.inj ((read_of_make hmake).symm.trans hread)⟩

theorem recompile_eq_ok (h : rule.recompile kinds = .ok rule') :
    ∃ compiled, rule.pattern.compile kinds rule.data.options = .ok compiled ∧
      rule' = { rule with kinds, compiled } := by
  cases hc : rule.pattern.compile kinds rule.data.options with
  | error e =>
    rw [recompile, hc] at h
    cases h
  | ok compiled =>
    rw [recompile, hc] at h
    cases h
    exact ⟨compiled, rfl, rfl⟩

/-- Compiling a rule against the kinds that it was made with changes nothing. -/
theorem recompile_of_make (h : make source data kinds = .ok rule) :
    rule.recompile kinds = .ok rule := by
  obtain ⟨pattern, compiled, -, hc, rfl⟩ := make_eq_ok h
  simp only [recompile, hc]
  rfl

/-- Of several compilations only the last one counts. -/
theorem recompile_recompile (h : rule.recompile kinds = .ok rule') :
    rule'.recompile kinds' = rule.recompile kinds' := by
  obtain ⟨compiled, -, rfl⟩ := recompile_eq_ok h
  rfl

end Rule

end RoutePattern
