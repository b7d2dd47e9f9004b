import RoutePattern.Proofs.Build.Segments
import RoutePattern.Proofs.Kind
import RoutePattern.Proofs.Path.Fragments

/-! Params of kinds: what is built for them is matched where the kinds accept it as it is written. -/
namespace RoutePattern

open Regex Text

/-- The kind that a param is held to, if it is held to one. -/
def Param.kind? (p : Param) (kinds : Kinds) : Option Kind :=
  p.constraint.kind?.bind fun name => kinds[name]?

/-- A simple param that is held to a sound kind. -/
structure Param.Typed (p : Param) (kinds : Kinds) : Prop extends p.Simple where
  choices : p.choices = []
  sound : ∃ k, p.kind? kinds = some k ∧ k.Sound

section Params

variable {kinds : Kinds} {p : Param} {k : Kind}

theorem Param.fragment?_of_kind? (hchoices : p.choices = []) (h : p.kind? kinds = some k) :
    p.fragment? kinds = some k.fragment := by
  obtain ⟨name, hname, hk⟩ := Option.bind_eq_some_iff.mp h
  rw [fragment?, hchoices, List.isEmpty_nil, if_pos rfl]
  cases hc : p.constraint with
  | kind found =>
    rw [hc] at hname
    obtain rfl : found = name := Option.some.inj hname
    rw [Constraint.fragment?, hk]
    rfl
  | any =>
    rw [hc] at hname
    cases hname
  | regex text =>
    rw [hc] at hname
    cases hname

theorem Param.Typed.meant (h : p.Typed kinds) : p.Meant kinds := by
  obtain ⟨k, hkind, hsound⟩ := h.sound
  have hfragment := fragment?_of_kind? h.choices hkind
  refine ⟨k.fragment.toList, regex_of_fragment? hfragment, ?_⟩
  rw [values_of_fragment? hfragment]
  exact hsound.means

/-- The values of a param are the texts that its kind accepts. -/
theorem Param.Typed.mem_values_iff (h : p.Typed kinds) (hkind : p.kind? kinds = some k)
    {text : String} : text.toList ∈ p.values kinds ↔ k.accepts text = true := by
  obtain ⟨found, hfound, hsound⟩ := h.sound
  obtain rfl : found = k := Option.some.inj (hfound.symm.trans hkind)
  rw [values_of_fragment? (fragment?_of_kind? h.choices hkind), hsound.accepts_iff]

end Params

section Cuts

variable {kinds : Kinds} {args : Bindings} {nodes : List Node}

/-- What is built of a path without groups can be cut along it if the values may be written so. -/
theorem exists_cutAll_buildAll (h : ∀ children, .option children ∉ nodes)
    (hvalues : ∀ q ∈ Node.paramsOf nodes, Percent.encode (q.resolved args).toList ∈ q.values kinds) :
    ∃ vs, Node.CutAll kinds nodes (Node.buildAll args nodes).1 vs := by
  induction nodes with
  | nil => exact ⟨[], rfl, rfl⟩
  | cons node rest ih =>
    rw [paramsOf_cons, List.forall_mem_append] at hvalues
    obtain ⟨vs, hrest⟩ := ih (fun children hc => h children (List.mem_cons_of_mem _ hc)) hvalues.2
    have hnode : ∃ us, node.Cut kinds (node.build args).1 us := by
      cases node with
      | literal text =>
        have hmem : Percent.encode text.toList ∈ literalTexts false text.toList :=
          encode_mem_literalTexts false text.toList
        rw [literalTexts_false] at hmem
        exact ⟨[], hmem, rfl⟩
      | delimiter => exact ⟨[], rfl, rfl⟩
      | param p => exact ⟨_, hvalues.1 p List.mem_cons_self, rfl⟩
      | option children => exact absurd List.mem_cons_self (h children)
    obtain ⟨us, hus⟩ := hnode
    exact ⟨us ++ vs, _, us, _, vs, hus, hrest, rfl, rfl⟩

/-- What is built of a spread path can be cut along it exactly if the values may be written so. -/
theorem Spread.exists_cutAll_iff (h : Spread nodes)
    (hfull : ∀ q ∈ Node.paramsOf nodes, q.resolved args ≠ "") :
    (∃ vs, Node.CutAll kinds nodes (Node.buildAll args nodes).1 vs) ↔
      ∀ q ∈ Node.paramsOf nodes, Percent.encode (q.resolved args).toList ∈ q.values kinds := by
  constructor
  · intro hx
    obtain ⟨vs, hcut⟩ := hx
    exact (h.eq_given_of_cutAll hfull hcut).1
  · exact exists_cutAll_buildAll h.flat

/-- Whether each param has a segment to itself. -/
def Alone (nodes : List Node) : Prop :=
  ∀ before p after, nodes = before ++ .param p :: after →
    (∀ node ∈ before.getLast?, node = .delimiter) ∧ ∀ node ∈ after.head?, node = .delimiter

theorem Alone.spread (h : Alone nodes) (hflat : ∀ children, .option children ∉ nodes)
    (hchain : nodes.IsChain fun a b => ¬ Pattern.BothLiteral a b) : Spread nodes where
  flat := hflat
  chain := hchain
  single before p middle q after hnodes := by
    obtain ⟨-, hafter⟩ := h before p _ hnodes
    cases middle with
    | nil => cases hafter _ rfl
    | cons node middle =>
      rw [hafter node rfl]
      exact List.mem_cons_self
  stable before text p after hnodes := by
    have hbehind : nodes = (before ++ [.literal text]) ++ .param p :: after := by
      rw [hnodes, List.append_assoc]
      rfl
    obtain ⟨hbefore, -⟩ := h _ p after hbehind
    have hlast : (before ++ [Node.literal text]).getLast? = some (.literal text) :=
      List.getLast?_concat
    cases hbefore _ hlast

end Cuts

/-- Where each param has its segment to itself and is held to a sound kind, the URL that is built for
arguments is matched if and only if the kinds accept their values as they are written, and then the
arguments come back. -/
theorem Rule.matchUrl?_build_kinds {α : Type} {source : String} {data : RuleData α}
    {kinds : Kinds} {rule : Rule α} (hmake : make source data kinds = .ok rule)
    (hoptions : data.options = {}) (hquery : rule.pattern.query = [])
    (hflat : ∀ children, .option children ∉ rule.pattern.path) (halone : Alone rule.pattern.path)
    (htyped : ∀ q ∈ rule.pattern.params, q.Typed kinds)
    (hdistinct : (rule.pattern.params.map (·.name)).Nodup)
    (args : Bindings) (hargs : rule.pattern.Fitted args) :
    ((rule.matchUrl? (rule.build args)).isSome = true ↔
      ∀ q ∈ rule.pattern.params, ∀ k s, q.kind? kinds = some k →
        args.get? q.name = some (.text s) → k.accepts (written s) = true) ∧
    ∀ m, rule.matchUrl? (rule.build args) = some m → m.path.Perm args ∧ m.query = [] := by
  have hread := read_of_make hmake
  obtain ⟨spelled, hpath⟩ := Pattern.pathText_of_read hread
  have hspread : Spread rule.pattern.path := halone.spread hflat hpath.isChain
  have hsimple (q : Param) (hq : q ∈ rule.pattern.params) : q.Simple := (htyped q hq).toSimple
  have hresolved (q : Param) (hq : q ∈ rule.pattern.params) :=
    hargs.resolved hread hsimple hdistinct hq
  have hfull : ∀ q ∈ Node.paramsOf rule.pattern.path, q.resolved args ≠ "" :=
    fun q hq => (hresolved q hq).1
  have hleft : rule.pattern.leftover args = [] :=
    Pattern.leftover_eq_nil fun name hname => hargs.names.mem_iff.mp hname
  have hmeant (q : Param) (hq : q ∈ rule.pattern.params) : q.Meant kinds := (htyped q hq).meant
  -- the values may be written so if the kinds accept what is written
  have hvalues : (∀ q ∈ rule.pattern.params,
      Percent.encode (q.resolved args).toList ∈ q.values kinds) ↔
        ∀ q ∈ rule.pattern.params, ∀ k s, q.kind? kinds = some k →
          args.get? q.name = some (.text s) → k.accepts (written s) = true := by
    refine forall₂_congr fun q hq => ?_
    have hwritten : (written (q.resolved args)).toList = Percent.encode (q.resolved args).toList :=
      String.toList_ofList
    rw [← hwritten]
    obtain ⟨-, hget⟩ := hresolved q hq
    constructor
    · intro hmem k s hk hs
      obtain rfl : q.resolved args = s := by
        rw [hget] at hs
        exact Value.text.inj (Option.some.inj hs)
      exact ((htyped q hq).mem_values_iff hk).mp hmem
    · intro haccepts
      obtain ⟨k, hk, -⟩ := (htyped q hq).sound
      exact ((htyped q hq).mem_values_iff hk).mpr (haccepts k _ hk hget)
  have hsome := matchUrl?_build_isSome_iff hmake hoptions hquery hmeant hleft
  refine ⟨hsome.trans ((hspread.exists_cutAll_iff hfull).trans hvalues), fun m hm => ?_⟩
  obtain rfl := eq_of_matchUrl?_build hmake hoptions hquery hmeant hleft
    (fun _ => hargs.eq_of_cutAll hread hspread hsimple hdistinct) hm
  exact ⟨hargs.collectAll_perm hread hsimple hdistinct, rfl⟩

theorem Rule.matchUrl?_build_word :
    ∃ k, ∃ rule : Rule Unit, Kind.make "Word" "[a-z]+" = .ok k ∧
      make "/w/<Word:x>" { payload := () } ((∅ : Kinds).insert "Word" k) = .ok rule ∧
      (rule.matchUrl? (rule.build [("x", .text "ab")])).isSome = true := by
  let data : RuleData Unit := { payload := () }
  let x : Param := { name := "x", constraint := .kind "Word" }
  have hfound : ((Kind.make "Word" "[a-z]+").toOption.map fun k =>
      ((make "/w/<Word:x>" data ((∅ : Kinds).insert "Word" k)).toOption.isSome,
        k.accepts (written "ab"))) = some (true, true) := by decide +kernel
  have hread : Pattern.read "/w/<Word:x>" =
      .ok ⟨"/w/<Word:x>", [.delimiter, .literal "w", .delimiter, .param x], []⟩ := rfl
  cases hk : Kind.make "Word" "[a-z]+" with
  | error e =>
    rw [hk] at hfound
    cases hfound
  | ok k =>
    rw [hk] at hfound
    obtain ⟨hmade, haccepts⟩ := Prod.mk.inj (Option.some.inj hfound)
    obtain ⟨rule, hmake, hpattern⟩ := exists_of_read hread hmade
    have hkind : x.kind? ((∅ : Kinds).insert "Word" k) = some k :=
      Std.ExtTreeMap.getElem?_insert_self
    have hsound : k.Sound := by
      rw [Kind.Sound, (Kind.make_eq_ok hk).2]
      exact ⟨_, _, rfl, rfl, rfl, trivial⟩
    have hparams : rule.pattern.params = [x] := by
      rw [hpattern]
      rfl
    refine ⟨k, rule, rfl, hmake, (matchUrl?_build_kinds hmake rfl ?_ ?_ ?_ ?_ ?_ _ ?_).1.mpr ?_⟩
    · rw [hpattern]
    · intro children h
      rw [hpattern] at h
      simp at h
    · intro before p after h
      rw [hpattern] at h
      simp [List.cons_eq_append_iff] at h
      obtain ⟨rfl, -, rfl⟩ := h
      simp
    · rw [hparams, List.forall_mem_singleton]
      exact ⟨⟨rfl, by decide⟩, rfl, k, hkind, hsound⟩
    · rw [hparams]
      decide
    · refine ⟨by rw [hparams]; rfl, ?_⟩
      rw [List.forall_mem_singleton]
      exact ⟨"ab", by decide, rfl⟩
    · rw [hparams, List.forall_mem_singleton]
      intro found s hfound hs
      obtain rfl : k = found := Option.some.inj (hkind.symm.trans hfound)
      obtain rfl : "ab" = s := Value.text.inj (Option.some.inj hs)
      exact haccepts

/-- A blank that a kind accepts is written in another way, which the kind does not accept. -/
theorem Rule.matchUrl?_build_blank :
    ∃ k, ∃ rule : Rule Unit, Kind.make "Words" "[a-z ]+" = .ok k ∧ k.Sound ∧
      k.accepts "a b" = true ∧
      make "/<Words:x>" { payload := () } ((∅ : Kinds).insert "Words" k) = .ok rule ∧
      rule.build [("x", .text "a b")] = "/a%20b" ∧ rule.matchUrl? "/a%20b" = none := by
  let data : RuleData Unit := { payload := () }
  let x : Param := { name := "x", constraint := .kind "Words" }
  have hfound : ((Kind.make "Words" "[a-z ]+").toOption.map fun k =>
      (k.accepts "a b", (make "/<Words:x>" data ((∅ : Kinds).insert "Words" k)).toOption.map
        fun rule => (rule.compiled.path.regex.captures? "/a%20b").isNone)) =
          some (true, some true) := by decide +kernel
  have hread : Pattern.read "/<Words:x>" = .ok ⟨"/<Words:x>", [.delimiter, .param x], []⟩ := rfl
  cases hk : Kind.make "Words" "[a-z ]+" with
  | error e =>
    rw [hk] at hfound
    cases hfound
  | ok k =>
    rw [hk] at hfound
    obtain ⟨haccepts, hmatch⟩ := Prod.mk.inj (Option.some.inj hfound)
    have hsound : k.Sound := by
      rw [Kind.Sound, (Kind.make_eq_ok hk).2]
      exact ⟨_, _, rfl, rfl, rfl, trivial⟩
    cases hmake : make "/<Words:x>" data ((∅ : Kinds).insert "Words" k) with
    | error e =>
      rw [hmake] at hmatch
      cases hmatch
    | ok rule =>
      rw [hmake] at hmatch
      have hpattern : rule.pattern = ⟨"/<Words:x>", [.delimiter, .param x], []⟩ :=
        Except.ok.inj ((read_of_make hmake).symm.trans hread)
      have hnone : rule.compiled.path.regex.captures? "/a%20b" = none :=
        Option.isNone_iff_eq_none.mp (Option.some.inj hmatch)
      have hbuild : Pattern.build ⟨"/<Words:x>",
          [.delimiter, .param { name := "x", constraint := .kind "Words" }], []⟩
            [("x", .text "a b")] = "/a%20b" := by decide +kernel
      have hurl : Query.splitUrl "/a%20b" = ("/a%20b", none) := rfl
      refine ⟨k, rule, rfl, hsound, haccepts, hmake, ?_, ?_⟩
      · rw [build, hpattern]
        exact hbuild
      · rw [matchUrl?, hurl]
        simp only [hnone, bind, Option.bind_none]

end RoutePattern
