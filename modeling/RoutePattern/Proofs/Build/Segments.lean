import RoutePattern.Proofs.Build.Pieces
import RoutePattern.Proofs.Build.Recovery
import RoutePattern.Proofs.Pattern.Numbering

/-! Paths without groups and with one param in a segment at most: what is built for a param is found
again between the literal text around it, unless this text takes a percent sign for itself. -/
namespace RoutePattern

open Text

def Node.isDelimiter : Node → Bool
  | .delimiter => true
  | _ => false

section Slashes

variable {kinds : Kinds} {args : Bindings} {nodes rest : List Node} {w x y : List Char}
  {vs : List (Option String)}

/-- The number of delimiters in a path. -/
def slashes (nodes : List Node) : Nat := nodes.countP Node.isDelimiter

theorem slashes_cons {node : Node} :
    slashes (node :: rest) = slashes rest + if node.isDelimiter then 1 else 0 := List.countP_cons

theorem count_encode (text : List Char) : (Percent.encode text).count '/' = 0 :=
  List.count_eq_zero.mpr (slash_not_mem_encode text)

/-- What is built of a path without groups has its delimiters for slashes. -/
theorem count_buildAll (h : ∀ children, .option children ∉ nodes) :
    (Node.buildAll args nodes).1.count '/' = slashes nodes := by
  induction nodes with
  | nil => rfl
  | cons node rest ih =>
    have hrest := ih fun children hc => h children (List.mem_cons_of_mem _ hc)
    have hnode : (node.build args).1.count '/' = if node.isDelimiter then 1 else 0 := by
      cases node with
      | literal text => exact count_encode _
      | delimiter => rfl
      | param p => exact count_encode _
      | option children => exact absurd List.mem_cons_self (h children)
    rw [Node.buildAll, List.count_append, hnode, hrest, slashes_cons, Nat.add_comm]

/-- A text that is cut along a path without groups has its delimiters for slashes at least. -/
theorem slashes_le_count (h : ∀ children, .option children ∉ nodes)
    (hcut : Node.CutAll kinds nodes w vs) : slashes nodes ≤ w.count '/' := by
  induction nodes generalizing w vs with
  | nil => exact Nat.zero_le _
  | cons node rest ih =>
    obtain ⟨u, us, v, vs', hnode, hrest, rfl, -⟩ := hcut
    have hle := ih (fun children hc => h children (List.mem_cons_of_mem _ hc)) hrest
    have hfirst : (if node.isDelimiter then 1 else 0) ≤ u.count '/' := by
      cases node with
      | delimiter =>
        obtain ⟨rfl, -⟩ := hnode
        exact Nat.le_refl 1
      | _ => exact Nat.zero_le _
    rw [slashes_cons, List.count_append]
    omega

/-- Where a text has no other slashes than the delimiters, none is left for literal text. -/
theorem slash_not_mem_of_cutAll {text : String}
    (h : ∀ children, .option children ∉ Node.literal text :: rest) {u v : List Char}
    (hcut : Node.CutAll kinds rest v vs)
    (hcount : (u ++ v).count '/' = slashes (.literal text :: rest)) :
    '/' ∉ u ∧ v.count '/' = slashes rest := by
  have hle := slashes_le_count (fun children hc => h children (List.mem_cons_of_mem _ hc)) hcut
  have hslashes : slashes (.literal text :: rest) = slashes rest := slashes_cons
  rw [hslashes, List.count_append] at hcount
  exact ⟨List.count_eq_zero.mp (by omega), by omega⟩

end Slashes

section Cuts

variable {kinds : Kinds} {args : Bindings} {nodes rest : List Node} {u v w x y : List Char}
  {vs : List (Option String)}

/-- Paths without groups in which no param shares its segment with another one, and in which literal
text has no other one beside it and is stable in front of a param. -/
structure Spread (nodes : List Node) : Prop where
  flat : ∀ children, .option children ∉ nodes
  single : ∀ before p middle q after,
    nodes = before ++ .param p :: (middle ++ .param q :: after) → .delimiter ∈ middle
  chain : nodes.IsChain fun a b => ¬ Pattern.BothLiteral a b
  stable : ∀ before text p after,
    nodes = before ++ .literal text :: .param p :: after → Stable text.toList

theorem Spread.tail {node : Node} (h : Spread (node :: rest)) : Spread rest where
  flat children hc := h.flat children (List.mem_cons_of_mem _ hc)
  single before p middle q after hrest :=
    h.single (node :: before) p middle q after (by rw [hrest]; rfl)
  chain := h.chain.tail
  stable before text p after hrest := h.stable (node :: before) text p after (by rw [hrest]; rfl)

/-- Behind a value the rest of its segment is cut from the end of the segment on. -/
theorem eq_of_append_cutAll (h : ∀ children, .option children ∉ rest)
    (hfree : ∀ middle q after, rest = middle ++ .param q :: after → .delimiter ∈ middle)
    (hcut : Node.CutAll kinds rest v vs) (hcount : v.count '/' = slashes rest)
    (hx : '/' ∉ x) (hy : '/' ∉ y) (hv : y ++ v = x ++ (Node.buildAll args rest).1) :
    y = x ∧ v = (Node.buildAll args rest).1 := by
  induction rest generalizing v vs x y with
  | nil =>
    obtain ⟨rfl, -⟩ := hcut
    rw [List.append_nil] at hv
    exact ⟨hv.trans (List.append_nil x), rfl⟩
  | cons node rest ih =>
    cases node with
    | delimiter =>
      obtain ⟨v', -, rfl⟩ := cutAll_delimiter hcut
      exact atSlash_cons.append_inj atSlash_cons hy hx hv
    | param q => exact absurd (hfree [] q rest rfl) List.not_mem_nil
    | option children => exact absurd List.mem_cons_self (h children)
    | literal text =>
      obtain ⟨u, v', hu, hcut', rfl⟩ := cutAll_literal hcut
      obtain ⟨huslash, hcount'⟩ := slash_not_mem_of_cutAll h hcut' hcount
      rw [Node.buildAll_literal, ← List.append_assoc, ← List.append_assoc] at hv
      have hyu : '/' ∉ y ++ u := by
        rw [List.mem_append, not_or]
        exact ⟨hy, huslash⟩
      have hxe : '/' ∉ x ++ Percent.encode text.toList := by
        rw [List.mem_append, not_or]
        exact ⟨hx, slash_not_mem_encode _⟩
      have hfree' : ∀ middle q after, rest = middle ++ .param q :: after → .delimiter ∈ middle := by
        intro middle q after hrest
        have hmem := hfree (.literal text :: middle) q after (by rw [hrest]; rfl)
        exact (List.mem_cons.mp hmem).resolve_left nofun
      obtain ⟨hpieces, rfl⟩ := ih (fun children hc => h children (List.mem_cons_of_mem _ hc)) hfree'
        hcut' hcount' hxe hyu hv
      obtain ⟨rfl, rfl⟩ := eq_encode_of_append_eq hu hpieces
      exact ⟨rfl, (Node.buildAll_literal text).symm⟩

/-- Literal text of a spread path is cut as it is written, whatever follows. -/
theorem Spread.eq_of_cutAll_literal {text : String} (h : Spread (.literal text :: rest))
    (hu : u ∈ spellings text.toList) (hcut : Node.CutAll kinds rest v vs)
    (huv : u ++ v = Percent.encode text.toList ++ (Node.buildAll args rest).1) :
    v = (Node.buildAll args rest).1 := by
  have hcount : (Node.buildAll args (.literal text :: rest)).1.count '/' =
      slashes (.literal text :: rest) := count_buildAll h.flat
  rw [Node.buildAll_literal, ← huv] at hcount
  obtain ⟨huslash, -⟩ := slash_not_mem_of_cutAll h.flat hcut hcount
  cases rest with
  | nil =>
    obtain ⟨rfl, -⟩ := hcut
    exact (atSlash_nil.append_inj atSlash_nil huslash (slash_not_mem_encode _) huv).2
  | cons node rest =>
    cases node with
    | delimiter =>
      obtain ⟨v', -, rfl⟩ := cutAll_delimiter hcut
      exact (atSlash_cons.append_inj atSlash_cons huslash (slash_not_mem_encode _) huv).2
    | param p =>
      -- in front of a value only the condition on percent signs says where the text ends
      have hstable : Stable text.toList := h.stable [] text p rest rfl
      have hsame : u = Percent.encode text.toList :=
        hstable.eq_encode hu (huv ▸ List.prefix_append u v)
      rw [hsame] at huv
      exact List.append_cancel_left huv
    | literal other => exact absurd trivial (List.isChain_cons_cons.mp h.chain).1
    | option children =>
      exact absurd (List.mem_cons_of_mem _ List.mem_cons_self) (h.flat children)

/-- What is built of a spread path is cut into the values that were given, as they are written. -/
theorem Spread.eq_given_of_cutAll (h : Spread nodes)
    (hfull : ∀ q ∈ Node.paramsOf nodes, q.resolved args ≠ "")
    (hcut : Node.CutAll kinds nodes (Node.buildAll args nodes).1 vs) :
    (∀ q ∈ Node.paramsOf nodes, Percent.encode (q.resolved args).toList ∈ q.values kinds) ∧
      vs = (Node.paramsOf nodes).map fun q => (q.given? args).map written := by
  induction nodes generalizing vs with
  | nil => exact ⟨List.forall_mem_nil _, hcut.2⟩
  | cons node rest ih =>
    cases node with
    | option children => exact absurd List.mem_cons_self (h.flat children)
    | delimiter =>
      obtain ⟨v, hrest, hv⟩ := cutAll_delimiter hcut
      obtain ⟨-, rfl⟩ := List.cons.inj hv
      exact ih h.tail hfull hrest
    | literal text =>
      obtain ⟨u, v, hu, hrest, huv⟩ := cutAll_literal hcut
      obtain rfl := h.eq_of_cutAll_literal hu hrest huv.symm
      exact ih h.tail hfull hrest
    | param p =>
      rw [paramsOf_param] at hfull ⊢
      obtain ⟨hvalue, hvalues⟩ := List.forall_mem_cons.mp hfull
      have hcount : (Node.buildAll args (.param p :: rest)).1.count '/' =
          slashes (.param p :: rest) := count_buildAll h.flat
      obtain ⟨u, v, vs', hu, hrest, huv, rfl⟩ := cutAll_param hcut
      have hslashes : slashes (.param p :: rest) = slashes rest := slashes_cons
      have hle := slashes_le_count h.tail.flat hrest
      rw [huv, List.count_append, hslashes] at hcount
      have huslash : '/' ∉ u := List.count_eq_zero.mp (by omega)
      rw [Node.buildAll_param] at huv
      -- all slashes are delimiters, so that the value ends in its own segment
      obtain ⟨rfl, rfl⟩ := eq_of_append_cutAll h.tail.flat
        (fun middle q after hmiddle => h.single [] p middle q after (by rw [hmiddle]; rfl)) hrest
        (by omega) (slash_not_mem_encode _) huslash huv.symm
      obtain ⟨hmem, hvs⟩ := ih h.tail hvalues hrest
      have hgiven : p.given? args = some (p.resolved args) := if_neg hvalue
      rw [List.map_cons, hgiven, ← hvs]
      exact ⟨List.forall_mem_cons.mpr ⟨hu, hmem⟩, rfl⟩

end Cuts

section Arguments

variable {p : Pattern} {args : Bindings} {q : Param}

/-- Whether arguments are texts that are not empty, one for each param. -/
structure Pattern.Fitted (p : Pattern) (args : Bindings) : Prop where
  names : args.names.Perm (p.params.map (·.name))
  texts : ∀ e ∈ args, ∃ s, s ≠ "" ∧ e.2 = .text s

/-- Each of the params takes its argument if they have distinct names. -/
theorem Pattern.Fitted.resolved {source : String} (h : p.Fitted args)
    (hread : Pattern.read source = .ok p) (hsimple : ∀ q ∈ p.params, q.Simple)
    (hdistinct : (p.params.map (·.name)).Nodup) (hq : q ∈ p.params) :
    q.resolved args ≠ "" ∧ args.get? q.name = some (.text (q.resolved args)) := by
  have hname : q.name ∈ args.names := h.names.mem_iff.mpr (List.mem_map_of_mem hq)
  obtain ⟨e, he, heq⟩ := List.mem_map.mp hname
  obtain ⟨s, hs, htext⟩ := h.texts e he
  have hget : args.get? q.name = some (.text s) := by
    rw [← heq, Bindings.get?_of_mem (h.names.nodup_iff.mpr hdistinct) he, htext]
  obtain ⟨i, hi⟩ := List.mem_iff_getElem?.mp hq
  have hfirst : q.occurrence = 0 := by
    have hplace : (p.params.map (·.name))[i]? = some q.name := by
      rw [List.getElem?_map, hi]
      rfl
    rw [Pattern.occurrence_eq_count hread hi, List.map_take]
    exact Bindings.count_take_of_nodup hdistinct hplace
  have hgathered : args.get? q.name = Bindings.gathered [s] := hget
  have hresolved : q.resolved args = s := by
    rw [Param.resolved_of_gathered (hsimple q hq).name (hsimple q hq).default hgathered, hfirst]
    rfl
  rw [hresolved]
  exact ⟨hs, hget⟩

/-- The texts that the params take bind what the arguments do, in the order of the path. -/
theorem Pattern.Fitted.collectAll_perm {source : String} (h : p.Fitted args)
    (hread : Pattern.read source = .ok p) (hsimple : ∀ q ∈ p.params, q.Simple)
    (hdistinct : (p.params.map (·.name)).Nodup) :
    (Bindings.collectAll []
      ((p.params.map (·.name)).zip ((p.params.map (·.resolved args)).map some))).Perm args := by
  have hundotted : ∀ name ∈ p.params.map (·.name), '.' ∉ name.toList := by
    rw [List.forall_mem_map]
    exact fun q hq => (hsimple q hq).name
  have hlength : (p.params.map (·.name)).length = (p.params.map (·.resolved args)).length := by
    rw [List.length_map, List.length_map]
  have hbound : (Bindings.collectAll []
      ((p.params.map (·.name)).zip ((p.params.map (·.resolved args)).map some))).names =
        p.params.map (·.name) := by
    rw [Bindings.names_collectAll hundotted hlength]
    exact Bindings.foldl_addName_of_nodup hdistinct
  apply Bindings.perm_of_get?
  · rw [hbound]
    exact hdistinct
  · rw [hbound]
    exact h.names.symm
  · -- each name is bound to the text of its param
    rw [hbound, List.forall_mem_map]
    intro q hq
    obtain ⟨i, hi⟩ := List.mem_iff_getElem?.mp hq
    have hname : (p.params.map (·.name))[i]? = some q.name := by
      rw [List.getElem?_map, hi]
      rfl
    have htext : (p.params.map (·.resolved args))[i]? = some (q.resolved args) := by
      rw [List.getElem?_map, hi]
      rfl
    rw [Bindings.get?_collectAll hundotted, Bindings.textsOf_of_nodup hlength hdistinct hname htext,
      (h.resolved hread hsimple hdistinct hq).2]
    rfl

/-- What is built for the arguments is cut into what is written for the params. -/
theorem Pattern.Fitted.eq_of_cutAll {kinds : Kinds} {source : String} {vs : List (Option String)}
    (h : p.Fitted args) (hread : Pattern.read source = .ok p) (hspread : Spread p.path)
    (hsimple : ∀ q ∈ p.params, q.Simple) (hdistinct : (p.params.map (·.name)).Nodup)
    (hcut : Node.CutAll kinds p.path (Node.buildAll args p.path).1 vs) :
    vs = ((p.params.map (·.resolved args)).map some).map (Option.map RoutePattern.written) := by
  have hfull (q : Param) (hq : q ∈ p.params) : q.resolved args ≠ "" :=
    (h.resolved hread hsimple hdistinct hq).1
  obtain ⟨-, hvs⟩ := hspread.eq_given_of_cutAll hfull hcut
  rw [hvs, List.map_map, List.map_map]
  apply List.map_congr_left
  intro q hq
  rw [Param.given?, if_neg (hfull q hq)]
  rfl

end Arguments

/-- Arguments for params that have their segments to themselves come back from the URL that is built
for them, in the order of the path. Literal text in front of a param must be stable. -/
theorem Rule.matchUrl?_build_segments {α : Type} {source : String} {data : RuleData α}
    {kinds : Kinds} {rule : Rule α} (hmake : make source data kinds = .ok rule)
    (hoptions : data.options = {}) (hquery : rule.pattern.query = [])
    (hflat : ∀ children, .option children ∉ rule.pattern.path)
    (hsingle : ∀ before p middle q after,
      rule.pattern.path = before ++ .param p :: (middle ++ .param q :: after) → .delimiter ∈ middle)
    (hbare : ∀ q ∈ rule.pattern.params, q.Bare)
    (hdistinct : (rule.pattern.params.map (·.name)).Nodup)
    (hstable : ∀ before text p after,
      rule.pattern.path = before ++ .literal text :: .param p :: after → Stable text.toList)
    (args : Bindings) (hargs : rule.pattern.Fitted args) :
    ∃ path, rule.matchUrl? (rule.build args) = some ⟨path, []⟩ ∧ path.Perm args := by
  have hread := read_of_make hmake
  obtain ⟨spelled, hpath⟩ := Pattern.pathText_of_read hread
  have hspread : Spread rule.pattern.path := ⟨hflat, hsingle, hpath.isChain, hstable⟩
  have hsimple (q : Param) (hq : q ∈ rule.pattern.params) : q.Simple := (hbare q hq).simple
  have hfree : ∀ q ∈ rule.pattern.params, q.constraint = .any ∧ q.choices = [] :=
    fun q hq => ⟨(hbare q hq).any, (hbare q hq).choices⟩
  have hfull : (Node.buildAll args rule.pattern.path).2 = false :=
    Node.buildAll_eq_false_iff.mpr fun q hq =>
      (hargs.resolved hread hsimple hdistinct (mem_paramsOf hq)).1
  have hleft : rule.pattern.leftover args = [] :=
    Pattern.leftover_eq_nil fun name hname => hargs.names.mem_iff.mp hname
  exact ⟨_, matchUrl?_build_eq hmake hoptions hquery hfree hfull hleft
    fun _ => hargs.eq_of_cutAll hread hspread hsimple hdistinct,
    hargs.collectAll_perm hread hsimple hdistinct⟩

/-- A path with literal text around a param, which has a percent sign in it. -/
def discount : Pattern where
  source := "/50%-<x>.json/<y>"
  path :=
    [.delimiter, .literal "50%-", .param { name := "x" }, .literal ".json", .delimiter,
      .param { name := "y" }]
  query := []

theorem stable_discount : Stable "50%-".toList := by
  intro before after h
  have htext : "50%-".toList = ['5', '0', '%', '-'] := rfl
  rw [htext] at h
  have hafter : after = ['-'] := by
    simp [List.cons_eq_append_iff] at h
    exact h.2
  rw [hafter]
  decide

theorem Rule.matchUrl?_build_discount :
    ∃ rule : Rule Unit, make discount.source { payload := () } ∅ = .ok rule ∧
      ∃ path,
        rule.matchUrl? (rule.build [("y", .text "%/"), ("x", .text "a?b")]) = some ⟨path, []⟩ ∧
        path.Perm [("y", .text "%/"), ("x", .text "a?b")] := by
  let data : RuleData Unit := { payload := () }
  have hmade : (make discount.source data ∅).toOption.isSome = true := by decide +kernel
  have hread : Pattern.read discount.source = .ok discount := rfl
  obtain ⟨rule, hmake, hpattern⟩ := exists_of_read hread hmade
  have hparams : discount.params = [{ name := "x" }, { name := "y" }] := rfl
  have hbare (name : String) (h : '.' ∉ name.toList) : Param.Bare { name } := ⟨rfl, rfl, rfl, h⟩
  refine ⟨rule, hmake, ?_⟩
  refine matchUrl?_build_segments hmake rfl ?_ ?_ ?_ ?_ ?_ ?_ _ ?_ <;> rw [hpattern]
  · rfl
  · intro children h
    simp [discount] at h
  · intro before p middle q after h
    simp [discount, List.cons_eq_append_iff] at h
    obtain ⟨-, -, hmiddle⟩ := h
    simp [List.append_eq_cons_iff] at hmiddle
    obtain ⟨more, rfl, hmore⟩ := hmiddle
    simp [List.cons_eq_append_iff] at hmore
    rw [hmore.1]
    exact List.mem_cons_of_mem _ List.mem_cons_self
  · rw [hparams, List.forall_mem_cons, List.forall_mem_singleton]
    exact ⟨hbare "x" (by decide), hbare "y" (by decide)⟩
  · rw [hparams]
    decide
  · intro before text p after h
    have htext : text = "50%-" := by
      simp [discount, List.cons_eq_append_iff] at h
      exact h.2.1
    rw [htext]
    exact stable_discount
  · refine ⟨List.Perm.swap _ _ _, ?_⟩
    rw [List.forall_mem_cons, List.forall_mem_singleton]
    exact ⟨⟨"%/", by decide, rfl⟩, ⟨"a?b", by decide, rfl⟩⟩

/-- Behind a lone percent sign what is built of it is taken for the beginning of the value. -/
theorem Rule.matchUrl?_build_percent :
    ∃ rule : Rule Unit, make "/%<x>" { payload := () } ∅ = .ok rule ∧
      rule.pattern.path = [.delimiter, .literal "%", .param { name := "x" }] ∧
      rule.matchUrl? (rule.build [("x", .text "a")]) = some ⟨[("x", .text "25a")], []⟩ := by
  let data : RuleData Unit := { payload := () }
  let path : List Node := [.delimiter, .literal "%", .param { name := "x" }]
  have hfound : ((make "/%<x>" data ∅).toOption.bind fun rule =>
      (rule.compiled.path.regex.captures? "/%25a").map (·.group? 1)) = some (some "25a") := by
    decide +kernel
  have hmade : (make "/%<x>" data ∅).toOption.isSome = true := by decide +kernel
  have hread : Pattern.read "/%<x>" = .ok ⟨"/%<x>", path, []⟩ := rfl
  obtain ⟨rule, hmake, hpattern⟩ := exists_of_read hread hmade
  rw [hmake] at hfound
  obtain ⟨captures, hcaptures, hgroup⟩ := Option.map_eq_some_iff.mp hfound
  obtain ⟨pattern, compiled, -, hcompile, rfl⟩ := make_eq_ok hmake
  obtain rfl : pattern = _ := hpattern
  refine ⟨_, hmake, rfl, ?_⟩
  obtain ⟨hpath, -, hslots⟩ := Pattern.compile_eq_ok hcompile
  have hempty : compiled.slots = [] := List.map_eq_nil_iff.mp hslots
  have hgroups : compiled.path.groups = ["x"] := by
    obtain ⟨text, item, -, -, -, -, hr⟩ := Pattern.pathRegex_eq_ok hpath
    rw [hr]
    rfl
  have hbound : pathBindings ["x"] captures = [("x", .text "25a")] := by
    have hcollect : pathBindings ["x"] captures = Bindings.collect [] "x"
      ((captures.group? 1).map fun text => String.ofList (Percent.decode text.toList)) := rfl
    rw [hcollect, hgroup]
    rfl
  have hbuild : Pattern.build ⟨"/%<x>", path, []⟩ [("x", .text "a")] = "/%25a" := rfl
  have hurl : Query.splitUrl "/%25a" = ("/%25a", none) := rfl
  rw [matchUrl?, build, hbuild, hurl]
  simp only [hcaptures, bind, Option.bind_some, hempty, hgroups, hbound]
  rfl

end RoutePattern
