import RoutePattern.Proofs.Build.Pieces
import RoutePattern.Proofs.Build.Recovery
import RoutePattern.Proofs.Pattern.Numbering

/-! Paths whose groups come last, one within the other: what is built of such a path as far as some
group is found again, and no more. -/
namespace RoutePattern

open Text

/-- Paths in which each group comes last, begins with a delimiter and has a param of its own, and in
which bare params stand right behind delimiters and are followed by a delimiter, a group or
nothing. -/
inductive Tiered : List Node → Prop
  | nil : Tiered []
  | literal {text : String} {rest : List Node} : Tiered rest → Tiered (.literal text :: rest)
  | delimiter {rest : List Node} : Tiered rest → Tiered (.delimiter :: rest)
  | param {p : Param} {rest : List Node} : p.Bare → Tiered rest →
    (∀ text more, rest ≠ .literal text :: more) → Tiered (.delimiter :: .param p :: rest)
  | option {children : List Node} : Tiered (.delimiter :: children) →
    (∃ p, .param p ∈ children) → Tiered [.option (.delimiter :: children)]

mutual
/-- The params of a part of a path with at most so many groups around them, from left to right. -/
def Node.upTo : Node → Nat → List Param
  | .literal _, _ | .delimiter, _ => []
  | .param p, _ => [p]
  | .option _, 0 => []
  | .option children, k + 1 => Node.upToOf children k
termination_by structural node => node

/-- The params of a path with at most so many groups around them, from left to right. -/
def Node.upToOf : List Node → Nat → List Param
  | [], _ => []
  | node :: rest, k => node.upTo k ++ Node.upToOf rest k
termination_by structural nodes => nodes
end

section Levels

variable {nodes rest children : List Node} {p q : Param} {k : Nat}

theorem mem_upToOf (h : .param q ∈ nodes) (k : Nat) : q ∈ Node.upToOf nodes k := by
  obtain ⟨before, after, rfl⟩ := List.append_of_mem h
  induction before with
  | nil => exact List.mem_append_left _ List.mem_cons_self
  | cons node before ih =>
    exact List.mem_append_right _ (ih (List.mem_append_right _ List.mem_cons_self))

theorem upToOf_option_succ : Node.upToOf [.option children] (k + 1) = Node.upToOf children k :=
  List.append_nil _

/-- The params up to a level come before those behind it. -/
theorem Tiered.upToOf_prefix (h : Tiered nodes) (k : Nat) :
    Node.upToOf nodes k <+: Node.paramsOf nodes := by
  induction h generalizing k with
  | nil => exact List.prefix_rfl
  | literal _ ih => exact ih k
  | delimiter _ ih => exact ih k
  | param _ _ _ ih => exact List.cons_prefix_cons.mpr ⟨rfl, ih k⟩
  | option _ _ ih =>
    rw [paramsOf_option]
    cases k with
    | zero => exact List.nil_prefix
    | succ k =>
      rw [upToOf_option_succ]
      exact ih k

theorem Tiered.bare (h : Tiered nodes) : ∀ q ∈ Node.paramsOf nodes, q.Bare := by
  induction h with
  | nil => exact nofun
  | literal _ ih => exact ih
  | delimiter _ ih => exact ih
  | param hp _ _ ih => exact List.forall_mem_cons.mpr ⟨hp, ih⟩
  | option _ _ ih =>
    rw [paramsOf_option]
    exact ih

end Levels

section Cuts

variable {kinds : Kinds} {args : Bindings} {nodes rest : List Node} {p : Param} {k : Nat}
  {u v w x y z : List Char} {vs : List (Option String)}

/-- Where no literal text comes first, a cut text begins with a slash. -/
theorem Tiered.atSlash_of_cutAll (h : Tiered nodes)
    (hfirst : ∀ text more, nodes ≠ .literal text :: more)
    (hcut : Node.CutAll kinds nodes w vs) : AtSlash w := by
  have hslash {rest : List Node} {w : List Char} {vs : List (Option String)}
      (hcut : Node.CutAll kinds (.delimiter :: rest) w vs) : AtSlash w := by
    obtain ⟨v, -, rfl⟩ := cutAll_delimiter hcut
    exact atSlash_cons
  cases h with
  | nil =>
    obtain ⟨rfl, -⟩ := hcut
    exact atSlash_nil
  | literal h => exact absurd rfl (hfirst _ _)
  | delimiter h => exact hslash hcut
  | param hp h hrest => exact hslash hcut
  | option h hp =>
    rcases cutAll_option hcut with hcut | ⟨rfl, -⟩
    · exact hslash hcut
    · exact atSlash_nil

/-- Where no literal text comes first, a built text begins with a slash. -/
theorem Tiered.atSlash_buildAll (h : Tiered nodes)
    (hfirst : ∀ text more, nodes ≠ .literal text :: more) :
    AtSlash (Node.buildAll args nodes).1 := by
  cases h with
  | nil => exact atSlash_nil
  | literal h => exact absurd rfl (hfirst _ _)
  | delimiter h | param hp h hrest => exact atSlash_cons
  | @option children h hp =>
    rw [Node.buildAll, Node.build]
    split
    · exact atSlash_nil
    · exact atSlash_cons

/-- In front of what is built nothing else can be cut, unless it has a slash. -/
theorem Tiered.eq_nil_of_cutAll (h : Tiered nodes)
    (hcut : Node.CutAll kinds nodes (z ++ (Node.buildAll args nodes).1) vs) (hz : '/' ∉ z) :
    z = [] := by
  induction h generalizing z vs with
  | @literal text rest h ih =>
    obtain ⟨u, v, hu, hcut, huv⟩ := cutAll_literal hcut
    rw [Node.buildAll_literal, ← List.append_assoc] at huv
    obtain ⟨z', hz', rfl⟩ := exists_of_append_eq_encode_append hu huv.symm
    have hfree : '/' ∉ z ++ Percent.encode text.toList := by
      rw [List.mem_append, not_or]
      exact ⟨hz, slash_not_mem_encode _⟩
    have hnil : z' = [] := ih hcut fun hm => hfree (hz' ▸ List.mem_append_right _ hm)
    -- the literal is spelled with no more characters than are written for it
    have hlength := congrArg List.length hz'
    have hle := length_le_of_mem_spellings hu
    rw [hnil, List.append_nil, List.length_append] at hlength
    exact List.length_eq_zero_iff.mp (by omega)
  | nil => exact (Tiered.nil.atSlash_of_cutAll nofun hcut).eq_nil hz
  | delimiter h => exact ((Tiered.delimiter h).atSlash_of_cutAll nofun hcut).eq_nil hz
  | param hp h hrest => exact ((Tiered.param hp h hrest).atSlash_of_cutAll nofun hcut).eq_nil hz
  | option h hp => exact ((Tiered.option h hp).atSlash_of_cutAll nofun hcut).eq_nil hz

/-- Whether the params up to a level have values, and those behind it have none. -/
structure FilledTo (args : Bindings) (nodes : List Node) (k : Nat) : Prop where
  full : ∀ q ∈ Node.upToOf nodes k, q.resolved args ≠ ""
  empty : ∀ q ∈ (Node.paramsOf nodes).drop (Node.upToOf nodes k).length, q.resolved args = ""

theorem FilledTo.children {children : List Node} (h : FilledTo args [.option children] (k + 1)) :
    FilledTo args children k := by
  obtain ⟨hfull, hempty⟩ := h
  rw [upToOf_option_succ] at hfull hempty
  rw [paramsOf_option] at hempty
  exact ⟨hfull, hempty⟩

theorem FilledTo.none_within {children : List Node} (h : FilledTo args [.option children] 0) :
    ∀ q ∈ Node.paramsOf children, q.resolved args = "" := by
  have hempty := h.empty
  rw [paramsOf_option] at hempty
  exact hempty

/-- What is built of a path up to a level is cut into the values that were given. -/
theorem Tiered.eq_given_of_cutAll (h : Tiered nodes) (hfilled : FilledTo args nodes k)
    (hcut : Node.CutAll kinds nodes (Node.buildAll args nodes).1 vs) :
    vs = (Node.paramsOf nodes).map fun q => (q.given? args).map written := by
  -- along the path; the level goes down by one with each group
  induction h generalizing k vs with
  | nil => exact hcut.2
  | @literal text rest h ih =>
    obtain ⟨u, v, hu, hcut, huv⟩ := cutAll_literal hcut
    rw [Node.buildAll_literal, ← List.nil_append (Percent.encode text.toList)] at huv
    obtain ⟨z, hz, rfl⟩ := exists_of_append_eq_encode_append hu huv.symm
    rw [List.nil_append] at hz
    -- what a raw spelling would leave to the rest has no slash in it, and the rest cannot take it
    have hfree : '/' ∉ z := by
      intro hm
      have hmem : '/' ∈ Percent.encode text.toList := by
        rw [hz]
        exact List.mem_append_right _ hm
      exact slash_not_mem_encode _ hmem
    have hnil : z = [] := h.eq_nil_of_cutAll hcut hfree
    rw [hnil, List.nil_append] at hcut
    exact ih ⟨hfilled.full, hfilled.empty⟩ hcut
  | @delimiter rest h ih =>
    obtain ⟨v, hcut, hv⟩ := cutAll_delimiter hcut
    rw [Node.buildAll_delimiter, List.cons.injEq] at hv
    rw [← hv.2] at hcut
    exact ih ⟨hfilled.full, hfilled.empty⟩ hcut
  | @param p rest hp h hrest ih =>
    obtain ⟨w, hbehind, hw⟩ := cutAll_delimiter hcut
    obtain ⟨u, v, vs', hu, hafter, rfl, rfl⟩ := cutAll_param hbehind
    rw [hp.values_eq] at hu
    rw [Node.buildAll_delimiter, Node.buildAll_param, List.cons.injEq] at hw
    -- a value reaches to the next slash in both
    obtain ⟨rfl, rfl⟩ := (h.atSlash_of_cutAll hrest hafter).append_inj (h.atSlash_buildAll hrest)
      hu.2 (slash_not_mem_encode _) hw.2.symm
    have hgiven : p.given? args = some (p.resolved args) :=
      if_neg (hfilled.full p List.mem_cons_self)
    have hparams : Node.paramsOf (.delimiter :: .param p :: rest) = p :: Node.paramsOf rest := rfl
    have hvalues := ih
      ⟨fun q hq => hfilled.full q (List.mem_cons_of_mem _ hq), hfilled.empty⟩ hafter
    rw [hparams, List.map_cons, hgiven, ← hvalues]
    rfl
  | @option children h hp ih =>
    obtain ⟨p, hp⟩ := hp
    rw [Node.buildAll_option] at hcut
    rw [paramsOf_option]
    cases k with
    | zero =>
      -- the group has a param, and none of its params has a value
      have hnone := hfilled.none_within
      have hlacks : (Node.buildAll args (.delimiter :: children)).2 = true := by
        by_contra hfull
        rw [Bool.not_eq_true, Node.buildAll_eq_false_iff] at hfull
        have hmem : .param p ∈ Node.delimiter :: children := List.mem_cons_of_mem _ hp
        exact hfull p hmem (hnone p (mem_paramsOf hmem))
      rw [if_pos hlacks] at hcut
      rcases cutAll_option hcut with hcut | ⟨-, rfl⟩
      · obtain ⟨v, -, hv⟩ := cutAll_delimiter hcut
        cases hv
      · symm
        rw [List.map_eq_replicate_iff]
        intro q hq
        rw [Param.given?, if_pos (hnone q hq)]
        rfl
    | succ k =>
      have hlacks : (Node.buildAll args (.delimiter :: children)).2 = false :=
        Node.buildAll_eq_false_iff.mpr fun q hq => hfilled.children.full q (mem_upToOf hq k)
      rw [hlacks] at hcut
      rcases cutAll_option hcut with hcut | ⟨hnil, -⟩
      · exact ih hfilled.children hcut
      · cases hnil

end Cuts

section Arguments

variable {p : Pattern} {q : Param} {k i : Nat} {values : List String}

theorem Pattern.paramNames_eq_foldl (p : Pattern) :
    p.paramNames = (p.params.map (·.name)).foldl addName [] := by
  rw [paramNames, List.foldl_map]
  rfl

/-- The arguments for the params up to a level: each of them with a value. -/
def Pattern.argsTo (p : Pattern) (k : Nat) (values : List String) : Bindings :=
  Bindings.collectAll [] (((Node.upToOf p.path k).map (·.name)).zip (values.map some))

theorem undotted_upTo (h : Tiered p.path) :
    ∀ name ∈ (Node.upToOf p.path k).map (·.name), '.' ∉ name.toList := by
  rw [List.forall_mem_map]
  intro q hq
  exact (h.bare q ((h.upToOf_prefix k).subset hq)).name

theorem names_argsTo (h : Tiered p.path)
    (hlength : values.length = (Node.upToOf p.path k).length) :
    (p.argsTo k values).names = ((Node.upToOf p.path k).map (·.name)).foldl addName [] := by
  have hnames : ((Node.upToOf p.path k).map (·.name)).length = values.length := by
    rw [List.length_map, hlength]
  exact Bindings.names_collectAll (undotted_upTo h) hnames []

theorem mem_names_argsTo {name : String} (h : Tiered p.path)
    (hlength : values.length = (Node.upToOf p.path k).length) :
    name ∈ (p.argsTo k values).names ↔ name ∈ (Node.upToOf p.path k).map (·.name) := by
  rw [names_argsTo h hlength, Bindings.mem_foldl_addName]
  exact or_iff_right List.not_mem_nil

/-- A param takes the value in its place; those behind the level take none. -/
theorem resolved_argsTo {source : String} (hread : Pattern.read source = .ok p)
    (h : Tiered p.path) (hlength : values.length = (Node.upToOf p.path k).length)
    (hq : p.params[i]? = some q) : q.resolved (p.argsTo k values) = values[i]?.getD "" := by
  obtain ⟨more, hmore⟩ := h.upToOf_prefix k
  have hbare := h.bare q (List.mem_of_getElem? hq)
  let names := (Node.upToOf p.path k).map (·.name)
  have hnames : names.length = values.length := by rw [List.length_map, hlength]
  have hget : (p.argsTo k values).get? q.name =
      Bindings.gathered (Bindings.textsOf (names.zip values) q.name) :=
    Bindings.get?_collectAll (undotted_upTo h) q.name
  have hparams : p.params = Node.upToOf p.path k ++ more := hmore.symm
  rw [Param.resolved_of_gathered hbare.name hbare.default hget,
    Pattern.occurrence_eq_count hread hq]
  by_cases hi : i < values.length
  · -- up to the level the names in front of a param are those in front of its value
    have hplace : names[i]? = some q.name := by
      rw [hparams, List.getElem?_append_left (hlength ▸ hi)] at hq
      rw [List.getElem?_map, hq]
      rfl
    have hbefore : (p.params.take i).map (·.name) = names.take i := by
      rw [hparams, List.take_append_of_le_length (hlength ▸ Nat.le_of_lt hi), List.map_take]
    rw [hbefore, Bindings.textsOf_getElem? hnames hplace]
  · -- behind the level all the values of the name were taken before
    have hle : values.length ≤ i := Nat.le_of_not_lt hi
    have hbefore : names <+: (p.params.take i).map (·.name) := by
      rw [hparams, List.take_append, List.take_of_length_le (hlength ▸ hle), List.map_append]
      exact List.prefix_append _ _
    have hcount : (Bindings.textsOf (names.zip values) q.name).length ≤
        ((p.params.take i).map (·.name)).count q.name := by
      rw [Bindings.length_textsOf hnames]
      exact hbefore.sublist.count_le q.name
    rw [List.getElem?_eq_none hcount, List.getElem?_eq_none hle]

theorem filledTo_argsTo {source : String} (hread : Pattern.read source = .ok p)
    (h : Tiered p.path) (hlength : values.length = (Node.upToOf p.path k).length)
    (hvalues : ∀ v ∈ values, v ≠ "") : FilledTo (p.argsTo k values) p.path k where
  full q hq := by
    obtain ⟨i, hi, rfl⟩ := List.mem_iff_getElem.mp hq
    have hplace : p.params[i]? = some (Node.upToOf p.path k)[i] := by
      obtain ⟨more, hmore⟩ := h.upToOf_prefix k
      rw [Pattern.params, ← hmore, List.getElem?_append_left hi, List.getElem?_eq_getElem]
    have hv : i < values.length := hlength ▸ hi
    rw [resolved_argsTo hread h hlength hplace, List.getElem?_eq_getElem hv]
    exact hvalues _ (List.getElem_mem hv)
  empty q hq := by
    obtain ⟨i, hi⟩ := List.mem_iff_getElem?.mp hq
    rw [List.getElem?_drop] at hi
    rw [resolved_argsTo hread h hlength hi, List.getElem?_eq_none (by omega)]
    rfl

/-- The values that the params are given: up to the level those of the arguments, and then none. -/
theorem map_given?_argsTo {source : String} {more : List Param}
    (hread : Pattern.read source = .ok p) (h : Tiered p.path)
    (hlength : values.length = (Node.upToOf p.path k).length) (hvalues : ∀ v ∈ values, v ≠ "")
    (hmore : Node.upToOf p.path k ++ more = Node.paramsOf p.path) :
    (Node.upToOf p.path k).map (·.given? (p.argsTo k values)) = values.map some ∧
      more.map (·.given? (p.argsTo k values)) = more.map fun _ => none := by
  have hfilled := filledTo_argsTo hread h hlength hvalues
  constructor
  · apply List.ext_getElem
    · rw [List.length_map, List.length_map, hlength]
    · intro i hi hv
      rw [List.length_map] at hi hv
      have hplace : p.params[i]? = some (Node.upToOf p.path k)[i] := by
        rw [Pattern.params, ← hmore, List.getElem?_append_left hi, List.getElem?_eq_getElem]
      have hresolved : (Node.upToOf p.path k)[i].resolved (p.argsTo k values) = values[i] := by
        rw [resolved_argsTo hread h hlength hplace, List.getElem?_eq_getElem hv]
        rfl
      rw [List.getElem_map, List.getElem_map, Param.given?, hresolved]
      exact if_neg (hvalues _ (List.getElem_mem hv))
  · apply List.map_congr_left
    intro q hq
    apply if_pos
    apply hfilled.empty
    rw [← hmore, List.drop_left]
    exact hq

/-- The values that the params are given bind what the arguments do, and the names that come behind
the level only to nothing. -/
theorem collectAll_given?_argsTo {source : String} (hread : Pattern.read source = .ok p)
    (h : Tiered p.path) (hlength : values.length = (Node.upToOf p.path k).length)
    (hvalues : ∀ v ∈ values, v ≠ "") :
    Bindings.collectAll []
        ((p.params.map (·.name)).zip (p.params.map (·.given? (p.argsTo k values)))) =
      p.argsTo k values ++
        (p.paramNames.filter (· ∉ (Node.upToOf p.path k).map (·.name))).map
          fun name => (name, .null) := by
  obtain ⟨more, hmore⟩ := h.upToOf_prefix k
  obtain ⟨hgiven, hrest⟩ := map_given?_argsTo hread h hlength hvalues hmore
  let names := (Node.upToOf p.path k).map (·.name)
  have hentries :
      (p.params.map (·.name)).zip (p.params.map (·.given? (p.argsTo k values))) =
        names.zip (values.map some) ++ (more.map (·.name)).map fun name => (name, none) := by
    have hsame : names.length = (values.map some).length := by
      rw [List.length_map, List.length_map, hlength]
    rw [Pattern.params, ← hmore, List.map_append, List.map_append, hgiven, hrest,
      List.zip_append hsame, List.zip_map', List.map_map]
    rfl
  -- the params behind the level add their names, those that are not bound yet
  have hundotted : ∀ name ∈ more.map (·.name), '.' ∉ name.toList := by
    rw [List.forall_mem_map]
    intro q hq
    exact (h.bare q (hmore ▸ List.mem_append_right _ hq)).name
  obtain ⟨new, hnew, hunbound, hall⟩ :=
    Bindings.collectAll_none hundotted (p.argsTo k values)
  have hfold : p.paramNames = (p.argsTo k values).names ++ new := by
    rw [Pattern.paramNames_eq_foldl, Pattern.params, ← hmore, List.map_append, List.foldl_append,
      ← hnew, names_argsTo h hlength]
  have hparamNames : p.paramNames.filter (· ∉ names) = new := by
    rw [hfold, List.filter_append, List.filter_eq_nil_iff.mpr, List.filter_eq_self.mpr,
      List.nil_append]
    · intro name hname
      exact decide_eq_true fun hn => hunbound name hname ((mem_names_argsTo h hlength).mpr hn)
    · intro name hname hn
      exact of_decide_eq_true hn ((mem_names_argsTo h hlength).mp hname)
  calc Bindings.collectAll []
        ((p.params.map (·.name)).zip (p.params.map (·.given? (p.argsTo k values))))
      = Bindings.collectAll (p.argsTo k values)
          ((more.map (·.name)).map fun name => (name, none)) := by
        rw [hentries, Bindings.collectAll_append]
        rfl
    _ = p.argsTo k values ++ new.map fun name => (name, .null) := hall
    _ = p.argsTo k values ++ (p.paramNames.filter (· ∉ names)).map fun name => (name, .null) := by
        rw [hparamNames]

end Arguments

/-- Arguments for the params with at most `k` groups around them come back from the URL that is
built for them; the names of the other params are bound to nothing. -/
theorem Rule.matchUrl?_build_tiers {α : Type} {source : String} {data : RuleData α} {kinds : Kinds}
    {rule : Rule α} (hmake : make source data kinds = .ok rule) (hoptions : data.options = {})
    (hquery : rule.pattern.query = []) (htiered : Tiered rule.pattern.path) (k : Nat)
    (values : List String)
    (hlength : values.length = (Node.upToOf rule.pattern.path k).length)
    (hvalues : ∀ v ∈ values, v ≠ "") :
    let names := (Node.upToOf rule.pattern.path k).map (·.name)
    let args := Bindings.collectAll [] (names.zip (values.map some))
    rule.matchUrl? (rule.build args) = some
      ⟨args ++ (rule.pattern.paramNames.filter (· ∉ names)).map fun name => (name, .null), []⟩ := by
  intro names args
  have hread := read_of_make hmake
  have hargs : args = rule.pattern.argsTo k values := rfl
  have hfilled := filledTo_argsTo hread htiered hlength hvalues
  have hfree : ∀ q ∈ rule.pattern.params, q.constraint = .any ∧ q.choices = [] :=
    fun q hq => ⟨(htiered.bare q hq).any, (htiered.bare q hq).choices⟩
  have hfull : (Node.buildAll args rule.pattern.path).2 = false :=
    Node.buildAll_eq_false_iff.mpr fun q hq => hfilled.full q (mem_upToOf hq k)
  have hleft : rule.pattern.leftover args = [] := by
    apply Pattern.leftover_eq_nil
    intro name hname
    rw [hargs, mem_names_argsTo htiered hlength] at hname
    exact ((htiered.upToOf_prefix k).map _).subset hname
  have hcut : ∀ vs, Node.CutAll kinds rule.pattern.path
      (Node.buildAll args rule.pattern.path).1 vs →
        vs = (rule.pattern.params.map (·.given? args)).map (Option.map written) := by
    intro vs hcut
    rw [List.map_map]
    exact htiered.eq_given_of_cutAll hfilled hcut
  rw [matchUrl?_build_eq hmake hoptions hquery hfree hfull hleft hcut, hargs,
    collectAll_given?_argsTo hread htiered hlength hvalues]

/-- A path with a group in a group, in which a name comes twice. -/
def chapters : Pattern where
  source := "/<x>(/<y>/<x>(/<z>))"
  path :=
    [.delimiter, .param { name := "x" },
      .option [.delimiter, .param { name := "y" }, .delimiter,
        .param { name := "x", occurrence := 1 }, .option [.delimiter, .param { name := "z" }]]]
  query := []

theorem tiered_chapters : Tiered chapters.path := by
  have hbare (name : String) (n : Nat) (h : '.' ∉ name.toList) :
      Param.Bare { name, occurrence := n } := ⟨rfl, rfl, rfl, h⟩
  refine .param (hbare "x" 0 (by decide)) (.option ?_ ⟨{ name := "y" }, List.mem_cons_self⟩) nofun
  refine .param (hbare "y" 0 (by decide)) ?_ nofun
  refine .param (hbare "x" 1 (by decide)) (.option ?_ ⟨{ name := "z" }, List.mem_cons_self⟩) nofun
  exact .param (hbare "z" 0 (by decide)) .nil nofun

theorem Rule.matchUrl?_build_chapters :
    ∃ rule : Rule Unit, make chapters.source { payload := () } ∅ = .ok rule ∧
      rule.matchUrl? (rule.build
        [("x", .array [.text "a/b", .text "?"]), ("y", .text "%é")]) = some
          ⟨[("x", .array [.text "a/b", .text "?"]), ("y", .text "%é"), ("z", .null)], []⟩ := by
  let data : RuleData Unit := { payload := () }
  have hmade : (make chapters.source data ∅).toOption.isSome = true := by decide +kernel
  have hread : Pattern.read chapters.source = .ok chapters := rfl
  obtain ⟨rule, hmake, hpattern⟩ := exists_of_read hread hmade
  have hlength : ["a/b", "%é", "?"].length = (Node.upToOf chapters.path 1).length := rfl
  have hargs : Bindings.collectAll [] (((Node.upToOf chapters.path 1).map (·.name)).zip
      (["a/b", "%é", "?"].map some)) =
        [("x", .array [.text "a/b", .text "?"]), ("y", .text "%é")] := rfl
  have hnames : chapters.paramNames.filter
      (· ∉ (Node.upToOf chapters.path 1).map (·.name)) = ["z"] := by decide
  have hmatch := matchUrl?_build_tiers hmake rfl (hpattern ▸ rfl) (hpattern ▸ tiered_chapters) 1
    ["a/b", "%é", "?"] (hpattern ▸ hlength) (by decide)
  dsimp only at hmatch
  rw [hpattern, hargs, hnames] at hmatch
  exact ⟨rule, hmake, hmatch⟩

end RoutePattern
