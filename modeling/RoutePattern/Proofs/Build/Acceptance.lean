import RoutePattern.Proofs.Build.Url
import RoutePattern.Proofs.Path.Texts
import RoutePattern.Proofs.Query.Search

/-! Built URLs are matched: what is built of each part of a path is among the texts that the part is found
as, whatever the options. -/
namespace RoutePattern

open Regex Text

/-- Whether a param takes any text or one of its choices, and is given such a text, if any. -/
structure Param.Served (p : Param) (args : Bindings) : Prop where
  free : p.choices ≠ [] ∨ p.constraint = .any
  chosen : p.choices ≠ [] → p.resolved args ≠ "" → p.resolved args ∈ p.choices

section Nodes

variable {kinds : Kinds} {args : Bindings} {p : Param}

theorem encode_mem_withinSegment {text : String} (h : text ≠ "") :
    Percent.encode text.toList ∈ withinSegment := by
  refine ⟨?_, Percent.not_mem_encode (by decide) (by decide)⟩
  rw [Ne, Percent.encode_eq_nil_iff, String.toList_eq_nil_iff]
  exact h

theorem encode_mem_literalTexts (fold : Bool) (text : List Char) :
    Percent.encode text ∈ literalTexts fold text := by
  rw [Percent.encode_eq_flatMap]
  exact written_mem_literalTexts fold text

/-- What is written for a param is one of the texts that it is found as. -/
theorem Param.Served.encode_mem_texts (h : p.Served args) (fold : Bool) (hvalue : p.resolved args ≠ "") :
    Percent.encode (p.resolved args).toList ∈ p.texts fold := by
  rw [texts]
  split
  · exact encode_mem_withinSegment hvalue
  · next hsome =>
    have hchosen := h.chosen (fun h => hsome (List.isEmpty_iff.mpr h)) hvalue
    exact ⟨_, List.mem_map_of_mem hchosen, encode_mem_literalTexts fold _⟩

mutual
/-- What is built of a part of a path is one of the texts of the part. -/
theorem Node.build_mem_texts (node : Node) (h : ∀ q ∈ node.params, q.Served args) (fold : Bool)
    (hfull : (node.build args).2 = false) : (node.build args).1 ∈ node.texts fold := by
  cases node with
  | literal text => exact encode_mem_literalTexts fold text.toList
  | delimiter => exact mem_foldings fold ['/']
  | param p => exact (h p List.mem_cons_self).encode_mem_texts fold (String.isEmpty_eq_false_iff.mp hfull)
  | option children =>
    rw [Node.build]
    -- a group without its values is left out
    cases hlacks : (Node.buildAll args children).2 with
    | true => exact Or.inr rfl
    | false => exact Or.inl (Node.buildAll_mem_textsOf children h fold hlacks)
termination_by structural node

/-- What is built of a path is one of the texts of the path. -/
theorem Node.buildAll_mem_textsOf (nodes : List Node) (h : ∀ q ∈ Node.paramsOf nodes, q.Served args)
    (fold : Bool) (hfull : (Node.buildAll args nodes).2 = false) :
    (Node.buildAll args nodes).1 ∈ Node.textsOf fold nodes := by
  cases nodes with
  | nil => rfl
  | cons node rest =>
    rw [paramsOf_cons] at h
    obtain ⟨hnode, hrest⟩ := Bool.or_eq_false_iff.mp hfull
    exact Language.append_mem_mul
      (Node.build_mem_texts node (fun q hq => h q (List.mem_append_left _ hq)) fold hnode)
      (Node.buildAll_mem_textsOf rest (fun q hq => h q (List.mem_append_right _ hq)) fold hrest)
termination_by structural nodes
end

/-- The regex of a path matches what is built of the path. -/
theorem Pattern.captures?_build {p : Pattern} {options : Options} {r : PathRegex}
    (h : p.pathRegex kinds options = .ok r) (hserved : ∀ q ∈ p.params, q.Served args)
    (hfull : (Node.buildAll args p.path).2 = false) :
    (r.regex.captures? (String.ofList (Node.buildAll args p.path).1)).isSome = true := by
  apply (Pattern.isMatch_iff h (fun q hq => (hserved q hq).free) _).mpr
  rw [String.toList_ofList]
  exact ⟨[], _, [], (List.append_nil _).symm, Node.buildAll_mem_textsOf p.path hserved _ hfull,
    fun _ => rfl, fun _ => rfl⟩

end Nodes

section Queries

theorem foldlM_isSome {α β : Type} {f : β → α → Option β} {l : List α}
    (h : ∀ b, ∀ a ∈ l, (f b a).isSome = true) (b : β) : (l.foldlM f b).isSome = true := by
  induction l generalizing b with
  | nil => rfl
  | cons a l ih =>
    obtain ⟨next, hnext⟩ := Option.isSome_iff_exists.mp (h b a List.mem_cons_self)
    rw [List.foldlM_cons, hnext]
    exact ih (fun b a ha => h b a (List.mem_cons_of_mem _ ha)) next

/-- Query rules that require nothing match every query. -/
theorem QuerySlot.queryBindings?_isSome {slots : List QuerySlot}
    (h : ∀ slot ∈ slots, slot.rule.required = false) (query : String) :
    (queryBindings? slots query).isSome = true := by
  apply foldlM_isSome
  intro b name _
  have htakers : ∀ rule ∈ (slots.filter (·.rule.name == name)).map taker,
      rule.required = false := by
    rw [List.forall_mem_map]
    intro slot hslot
    exact h slot (List.mem_of_mem_filter hslot)
  obtain ⟨assigned, hassigned⟩ := Option.isSome_iff_exists.mp
    (Query.assign?_isSome_of_optional htakers
      (Query.valuesOf (Query.group (Query.pairs query)) name))
  dsimp only
  rw [hassigned]
  rfl

end Queries

/-- Where each param takes any text or one of its choices, and no query rule requires a value, the
URL that is built for arguments is matched. Params outside of groups need a value, and params with
choices one of these, if any. -/
theorem Rule.matchUrl?_build_isSome {α : Type} {source : String} {data : RuleData α} {kinds : Kinds}
    {rule : Rule α} (hmake : make source data kinds = .ok rule)
    (hfree : ∀ q ∈ rule.pattern.params, q.choices ≠ [] ∨ q.constraint = .any)
    (hoptional : ∀ q ∈ rule.pattern.query, q.required = false) (args : Bindings)
    (hvalue : ∀ q, .param q ∈ rule.pattern.path → q.resolved args ≠ "")
    (hchoice : ∀ q ∈ rule.pattern.params, q.choices ≠ [] → q.resolved args ≠ "" →
      q.resolved args ∈ q.choices) :
    (rule.matchUrl? (rule.build args)).isSome = true := by
  obtain ⟨pattern, compiled, -, hcompile, rfl⟩ := make_eq_ok hmake
  obtain ⟨hpath, -, hslots⟩ := Pattern.compile_eq_ok hcompile
  have hserved : ∀ q ∈ pattern.params, q.Served args :=
    fun q hq => ⟨hfree q hq, hchoice q hq⟩
  obtain ⟨captures, hcaptures⟩ := Option.isSome_iff_exists.mp
    (Pattern.captures?_build hpath hserved (Node.buildAll_eq_false_iff.mpr hvalue))
  obtain ⟨hsplit, -⟩ := pattern.splitUrl_build args
  have hrequired : ∀ slot ∈ compiled.slots, slot.rule.required = false := by
    intro slot hslot
    apply hoptional
    rw [← hslots]
    exact List.mem_map_of_mem hslot
  rw [matchUrl?, build]
  cases hurl : Query.splitUrl (pattern.build args) with
  | mk path query =>
    rw [hurl] at hsplit
    obtain rfl : path = _ := hsplit
    simp only [hcaptures, bind, Option.bind_some]
    split
    · rfl
    · obtain ⟨bound, hbound⟩ := Option.isSome_iff_exists.mp
        (QuerySlot.queryBindings?_isSome hrequired (query.getD ""))
      rw [hbound]
      rfl

theorem Rule.matchUrl?_build_choice :
    ∃ rule : Rule Unit,
      make "/<a=x,y>(-<b>)?n" { options := { ignoreCase := true }, payload := () } ∅ = .ok rule ∧
      (rule.matchUrl? (rule.build [("a", .text "y"), ("c", .text "?")])).isSome = true := by
  let data : RuleData Unit := { options := { ignoreCase := true }, payload := () }
  let first : Param := { name := "a", default := some "x", choices := ["x", "y"] }
  let second : Param := { name := "b" }
  have hmade : (make "/<a=x,y>(-<b>)?n" data ∅).toOption.isSome = true := by decide +kernel
  have hread : Pattern.read "/<a=x,y>(-<b>)?n" = .ok ⟨"/<a=x,y>(-<b>)?n",
      [.delimiter, .param first, .option [.literal "-", .param second]], [{ name := "n" }]⟩ := rfl
  obtain ⟨rule, hmake, hpattern⟩ := exists_of_read hread hmade
  have hparams : rule.pattern.params = [first, second] := by
    rw [hpattern]
    rfl
  have hpath : rule.pattern.path =
      [.delimiter, .param first, .option [.literal "-", .param second]] := by rw [hpattern]
  have hquery : rule.pattern.query = [{ name := "n" }] := by rw [hpattern]
  refine ⟨rule, hmake, ?_⟩
  apply matchUrl?_build_isSome hmake
  · rw [hparams]
    decide
  · rw [hquery]
    decide
  · intro q hq
    rw [hpath] at hq
    obtain rfl : q = first := by simpa using hq
    decide
  · rw [hparams]
    decide

end RoutePattern
