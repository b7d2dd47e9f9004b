import RoutePattern.Proofs.Pattern.Numbering

/-! The form of the trees that are read. Nothing in them is empty that could have been left out, and the
params of each name are numbered from left to right. -/
namespace RoutePattern

/-- Whether a constraint names a kind, or gives a regex whose braces are balanced and which does not end
behind a lone backslash. -/
def Constraint.Normal : Constraint → Prop
  | .any => True
  | .kind name => name ≠ ""
  | .regex text => text ≠ "" ∧ Pattern.Grammar.Balanced text.toList

/-- Whether a param or a query rule can be declared so: it has a name, and either at most a default or
several choices, the first of which is the default. -/
structure Declarable (name : String) (constraint : Constraint) (default : Option String)
    (choices : List String) : Prop where
  name_ne : name ≠ ""
  constraint : constraint.Normal
  default_ne : default ≠ some ""
  choices : choices = [] ∨ 2 ≤ choices.length ∧ "" ∉ choices ∧ default = choices.head?

mutual
/-- Whether a part of a path is in normal form. -/
def Node.Normal : Node → Prop
  | .literal text => text ≠ ""
  | .delimiter => True
  | .param p => Declarable p.name p.constraint p.default p.choices
  | .option children => children ≠ [] ∧ Node.NormalAll children
termination_by structural node => node

/-- Whether the parts of a path, or of a group in it, are in normal form, and literal text has no other
one beside it. -/
def Node.NormalAll : List Node → Prop
  | [] => True
  | node :: rest =>
    node.Normal ∧ (∀ next ∈ rest.head?, ¬ Pattern.BothLiteral node next) ∧ Node.NormalAll rest
termination_by structural nodes => nodes
end

/-- Whether a pattern is in normal form. The root of its path is a list, and no part of the path is one
but for the groups. -/
structure Pattern.Normal (p : Pattern) : Prop where
  path : Node.NormalAll p.path
  query : ∀ rule ∈ p.query, Declarable rule.name rule.constraint rule.default rule.choices
  numbered : ∀ name,
    (p.params.filter (·.name == name)).map (·.occurrence) = List.range (p.occurrences name)

namespace Pattern

open Grammar

section Declarations

variable {inQuery required : Bool} {constraint : Constraint} {name source tail : List Char}
  {default : Option String} {choices before : List String} {p : Param} {rule : QueryRule}

theorem ofList_ne_empty {text : List Char} (h : text ≠ []) : String.ofList text ≠ "" := by
  intro he
  exact h (String.ofList_eq_empty_iff.mp he)

theorem Grammar.Headed.normal (h : Headed inQuery constraint name source) : constraint.Normal := by
  cases h with
  | any => trivial
  | kind _ hkind _ _ _ => exact ofList_ne_empty hkind
  | regex hbalanced hregex _ _ =>
    refine ⟨ofList_ne_empty hregex, ?_⟩
    rw [String.toList_ofList]
    exact hbalanced

theorem Grammar.Headed.declarable (hh : Headed inQuery constraint name source)
    (hg : Given inQuery default choices tail) :
    Declarable (String.ofList name) constraint default choices := by
  have hname := ofList_ne_empty hh.name_ne_nil
  cases hg with
  | nothing => exact ⟨hname, hh.normal, nofun, Or.inl rfl⟩
  | values _ hstands =>
    cases hstands with
    | empty => exact ⟨hname, hh.normal, nofun, Or.inl rfl⟩
    | default hvalue => exact ⟨hname, hh.normal, fun h => hvalue (Option.some.inj h), Or.inl rfl⟩
    | @choices first second more hvalues =>
      have hfirst := hvalues first List.mem_cons_self
      refine ⟨hname, hh.normal, fun h => hfirst (Option.some.inj h), Or.inr ⟨?_, ?_, rfl⟩⟩
      · rw [List.length_cons, List.length_cons]
        omega
      · exact fun h => hvalues "" h rfl

theorem Grammar.ParamText.declarable (h : ParamText before p source) :
    Declarable p.name p.constraint p.default p.choices := by
  obtain ⟨hh, hg⟩ := h
  exact hh.declarable hg

theorem Grammar.RuleText.declarable (h : RuleText required rule source) :
    Declarable rule.name rule.constraint rule.default rule.choices := by
  cases h with
  | once hh hg => exact hh.declarable hg
  | multiple hh hg => exact hh.declarable hg

theorem Grammar.QueryText.declarable {rules : List QueryRule} (h : QueryText rules source) :
    ∀ rule ∈ rules, Declarable rule.name rule.constraint rule.default rule.choices := by
  induction h with
  | nil => exact nofun
  | optional hrule _ ih => exact List.forall_mem_cons.mpr ⟨hrule.declarable, ih⟩
  | required hrule _ ih => exact List.forall_mem_cons.mpr ⟨hrule.declarable, ih⟩

end Declarations

theorem Grammar.PathText.normalAll {before : List String} {nodes : List Node} {source : List Char}
    (h : PathText before nodes source) : Node.NormalAll nodes := by
  have hchain := h.isChain
  induction h with
  | nil => trivial
  | literal _ htext _ _ ih =>
    obtain ⟨hnext, hrest⟩ := List.isChain_cons.mp hchain
    exact ⟨ofList_ne_empty htext, hnext, ih hrest⟩
  | delimiter _ ih =>
    obtain ⟨hnext, hrest⟩ := List.isChain_cons.mp hchain
    exact ⟨trivial, hnext, ih hrest⟩
  | option hchildren hne _ ihchildren ih =>
    obtain ⟨hnext, hrest⟩ := List.isChain_cons.mp hchain
    exact ⟨⟨hne, ihchildren hchildren.isChain⟩, hnext, ih hrest⟩
  | param hparam _ ih =>
    obtain ⟨hnext, hrest⟩ := List.isChain_cons.mp hchain
    exact ⟨hparam.declarable, hnext, ih hrest⟩

/-- Params that are each numbered by those of their name to their left have the numbers from 0 on,
name by name. -/
theorem map_occurrence_filter {params : List Param}
    (h : ∀ i q, params[i]? = some q →
      q.occurrence = ((params.take i).map (·.name)).count q.name) (name : String) :
    (params.filter (·.name == name)).map (·.occurrence) =
      List.range (params.countP (·.name == name)) := by
  -- from the right: the last param has all others to its left
  induction params using List.reverseRecOn with
  | nil => rfl
  | append_singleton params last ih =>
    have hbefore (i : Nat) (q : Param) (hq : params[i]? = some q) :
        q.occurrence = ((params.take i).map (·.name)).count q.name := by
      have hlt : i < params.length := (List.getElem?_eq_some_iff.mp hq).1
      have hlast := h i q (by rw [List.getElem?_append_left hlt, hq])
      rwa [List.take_append_of_le_length (Nat.le_of_lt hlt)] at hlast
    have hlast : last.occurrence = params.countP (·.name == last.name) := by
      have hcount := h params.length last (by rw [List.getElem?_concat_length])
      rw [List.take_left, List.count, List.countP_map] at hcount
      exact hcount
    rw [List.filter_append, List.map_append, ih hbefore, List.countP_append]
    by_cases hname : last.name = name
    · subst hname
      simp [hlast, List.range_succ]
    · simp [hname]

/-- Every pattern that is read is in normal form. -/
theorem normal_of_read {source : String} {p : Pattern} (h : read source = .ok p) : p.Normal := by
  have htext := patternText_of_read h
  generalize source.toList = text at htext
  obtain ⟨path, query, hpath, hquery⟩ : ∃ path query, PathText [] p.path path ∧
      QueryText p.query query := by
    obtain ⟨hpath, hquery⟩ := htext
    exact ⟨_, _, hpath, hquery⟩
  exact ⟨hpath.normalAll, hquery.declarable,
    map_occurrence_filter fun _ _ hq => occurrence_eq_count h hq⟩

/-- Params of one name in and out of a group. -/
theorem normal_of_read_archive :
    ∃ p, read "/<page>/(<{[0-9]{2}}:page>-<day=a,b>)?Int:n=1" = .ok p ∧ p.Normal := by
  let first : Param := { name := "page" }
  let second : Param := { name := "page", constraint := .regex "[0-9]{2}", occurrence := 1 }
  let day : Param := { name := "day", default := some "a", choices := ["a", "b"] }
  let n : QueryRule := { name := "n", constraint := .kind "Int", default := some "1" }
  have hread : read "/<page>/(<{[0-9]{2}}:page>-<day=a,b>)?Int:n=1" =
      .ok ⟨_, [.delimiter, .param first, .delimiter,
        .option [.param second, .literal "-", .param day]], [n]⟩ := rfl
  exact ⟨_, hread, normal_of_read hread⟩

end Pattern

end RoutePattern
