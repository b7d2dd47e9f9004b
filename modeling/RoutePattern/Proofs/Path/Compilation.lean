import Mathlib.Tactic.IntervalCases
import RoutePattern.Proofs.Path.Anchors
import RoutePattern.Proofs.Path.Cut
import RoutePattern.Proofs.Path.Marks
import RoutePattern.Proofs.Regex.Whole
import RoutePattern.Proofs.Rule.Making

/-! The regex of a path matches the texts that can be cut along it, and its groups give the values
of the params. -/
namespace RoutePattern

open Regex

mutual
/-- Whether a text is found as a part of a path, with these values of its params, where case counts or not
and `held` has the texts of each param. -/
def Node.Parted (fold : Bool) (held : Param → Language Char) :
    Node → List Char → List (Option String) → Prop
  | .literal text, w, values => w ∈ literalTexts fold text.toList ∧ values = []
  | .delimiter, w, values => w ∈ foldings fold ['/'] ∧ values = []
  | .param p, w, values => w ∈ held p ∧ values = [some (String.ofList w)]
  | .option children, w, values =>
    Node.PartedAll fold held children w values ∨
      w = [] ∧ values = List.replicate (Node.paramsOf children).length none
termination_by structural node => node

/-- Whether a text is found as a path, with these values of its params. -/
def Node.PartedAll (fold : Bool) (held : Param → Language Char) :
    List Node → List Char → List (Option String) → Prop
  | [], w, values => w = [] ∧ values = []
  | node :: rest, w, values =>
    ∃ u us v vs, node.Parted fold held u us ∧ Node.PartedAll fold held rest v vs ∧ w = u ++ v ∧
      values = us ++ vs
termination_by structural nodes => nodes
end

variable {kinds : Kinds} {fold : Bool} {held : Param → Language Char}

section Nodes

mutual
/-- What is read of the regex for a part of a path. -/
theorem Node.exists_items (node : Node)
    (h : ∀ p ∈ node.params, ∃ body, p.regex kinds fold = .ok body ∧ Means fold body (held p)) (g : Nat) :
    ∃ text items, node.regex kinds fold = .ok text ∧
      Reads fold g text (g + node.params.length) items ∧
      Denotes g (items.map Item.term) (node.Parted fold held) node.params.length := by
  -- the group of a param takes the next number, those in its body none
  cases node with
  | literal text =>
    obtain ⟨items, hr, hg, hc⟩ := spells_literalRegex fold text
    exact ⟨_, items, rfl, hr g, denotes_of_consumes hc (lastGroupOf_of_noGroup hg)⟩
  | delimiter =>
    exact ⟨_, [charItem fold '/'], rfl, reads_char (by decide),
      denotes_of_consumes (consumes_chars fold ['/']) rfl⟩
  | param p =>
    obtain ⟨body, hbody, item, hf, hg, hc⟩ := h p List.mem_cons_self
    refine ⟨'(' :: body ++ [')'], [State.grouped (some (g + 1)) item], ?_, (hf (g + 1)).capture,
      denotes_group hc hg⟩
    rw [Node.regex, hbody]
    rfl
  | option children =>
    obtain ⟨text, items, htext, hr, hd⟩ := Node.exists_itemsAll children h g
    refine ⟨"(?:".toList ++ text ++ [')', '?'], [optionalItem (Item.concat items.reverse)], ?_,
      hr.fills.optional, ?_⟩
    · rw [Node.regex, htext]
      rfl
    · apply hd.optional
      · intro x y
        rw [runs_itemConcat, List.reverse_reverse]
      · rw [lastGroup_itemConcat, List.reverse_reverse]
termination_by structural node

/-- What is read of the regex for a path. -/
theorem Node.exists_itemsAll (nodes : List Node)
    (h : ∀ p ∈ Node.paramsOf nodes, ∃ body, p.regex kinds fold = .ok body ∧ Means fold body (held p))
    (g : Nat) :
    ∃ text items, Node.regexOf kinds fold nodes = .ok text ∧
      Reads fold g text (g + (Node.paramsOf nodes).length) items ∧
      Denotes g (items.map Item.term) (Node.PartedAll fold held nodes) (Node.paramsOf nodes).length := by
  cases nodes with
  | nil =>
    have hc : Consumes (Term.RunsAll []) 1 := consumes_skip
    exact ⟨[], [], rfl, reads_nil, denotes_of_consumes hc rfl⟩
  | cons node rest =>
    rw [paramsOf_cons] at h
    obtain ⟨text, items, htext, hr, hd⟩ :=
      Node.exists_items node (fun p hp => h p (List.mem_append_left _ hp)) g
    obtain ⟨more, others, hmore, hr', hd'⟩ :=
      Node.exists_itemsAll rest (fun p hp => h p (List.mem_append_right _ hp))
        (g + node.params.length)
    refine ⟨text ++ more, items ++ others, ?_, ?_, ?_⟩
    · rw [Node.regexOf, htext, hmore]
      rfl
    · rw [paramsOf_cons, List.length_append, ← Nat.add_assoc]
      exact hr.append hr'
    · rw [paramsOf_cons, List.length_append, List.map_append]
      exact hd.append hd'
termination_by structural nodes
end

mutual
/-- A part of a path that is found as a text is cut as this text. -/
theorem Node.parted_values (node : Node) : node.Parted false (·.values kinds) = node.Cut kinds := by
  cases node with
  | literal text =>
    funext w values
    rw [Parted, Cut, literalTexts_false]
  | delimiter =>
    funext w values
    rw [Parted, Cut, foldings_false]
    rfl
  | param p => rfl
  | option children =>
    funext w values
    rw [Parted, Cut, Node.partedAll_values children]
termination_by structural node

theorem Node.partedAll_values (nodes : List Node) :
    Node.PartedAll false (·.values kinds) nodes = Node.CutAll kinds nodes := by
  cases nodes with
  | nil => rfl
  | cons node rest =>
    funext w values
    rw [PartedAll, CutAll, Node.parted_values node, Node.partedAll_values rest]
termination_by structural nodes
end

end Nodes

section Paths

/-- The anchors and the mark for case add no groups. -/
theorem lastGroup_anchored {options : Options} {items : List Item} :
    (Item.concat (anchored options items).reverse).term.lastGroup =
      lastGroupOf (items.map Item.term) := by
  apply eq_of_forall_ge_iff
  intro k
  rw [Term.lastGroup_le_iff, indices_anchored, lastGroupOf_le_iff, List.forall_mem_map]
  simp only [Term.lastGroup_le_iff]

/-- The regex for a whole path: what stands between its anchors. -/
theorem Pattern.exists_item {p : Pattern} {options : Options} (hcase : options.ignoreCase = false)
    (hstart : options.anchorStart = true) (hstop : options.anchorEnd = true)
    (hmeant : ∀ q ∈ p.params, q.Meant kinds) :
    ∃ text item ts, p.regexText kinds options = .ok (String.ofList text) ∧
      readItem? text = some item ∧ item.term.lastGroup = p.params.length ∧
      Denotes 0 ts (Node.CutAll kinds p.path) p.params.length ∧
      ∀ x y, item.term.Runs x y ↔ Term.RunsAll (.look .textStart :: ts ++ [.look .textStop]) x y := by
  obtain ⟨body, items, hbody, hr, hd⟩ := Node.exists_itemsAll p.path hmeant 0
  rw [Node.partedAll_values] at hd
  refine ⟨frontText options ++ body ++ backText options, _, items.map Item.term, ?_,
    readItem?_of_reads (hcase ▸ hr), ?_, hd, fun _ _ => runs_anchored hstart hstop⟩
  · rw [regexText_eq, hcase, hbody]
    rfl
  · have hparams : Node.paramsOf p.path = p.params := rfl
    rw [lastGroup_anchored, hd.last, hparams]
    split_ifs with hnone
    · exact hnone.symm
    · exact Nat.zero_add _

variable {text : List Char} {t : Term} {ts : List Term} {n : Nat}
  {cut : List Char → List (Option String) → Prop}

/-- A match between the anchors is a cut of the whole text. -/
theorem exists_cut_of_runs (hd : Denotes 0 ts cut n)
    (ht : ∀ x y, t.Runs x y ↔ Term.RunsAll (.look .textStart :: ts ++ [.look .textStop]) x y)
    {start stop : Cursor} {m : Marks} (hon : start.On text)
    (hr : (Term.group 0 t).Runs (start, []) (stop, m)) :
    ∃ values, cut text values ∧
      ∀ i v, values[i]? = some v → (Captures.mk text m).group? (i + 1) = v := by
  obtain ⟨⟨cur, m'⟩, hy, hmarks⟩ := hr
  obtain ⟨rfl, rfl, hts⟩ := (runsAll_anchored_iff hon).mp ((ht _ _).mp hy)
  obtain ⟨w, values, cur', marks, hcut, hp, hspot, hn⟩ := hd.sound hon hts
  obtain ⟨rfl, rfl⟩ := Prod.mk.inj hspot
  have hw : w = text := by
    have hbegin : (Cursor.nth text 0).rest = text := rfl
    have hend : (Cursor.nth text text.length).rest = [] := List.drop_length
    rw [← List.append_nil w, ← hend, ← hp.rest_offset.1, hbegin]
  refine ⟨values, hw ▸ hcut, ?_⟩
  intro i v hv
  obtain ⟨-, rfl⟩ := Prod.mk.inj hmarks
  -- the marks of group 0 are made first and last, around those of the params
  have hafter : ∀ mark ∈ [(2 * 0 + 1, text.length)], mark.1 / 2 ≠ i + 1 := by
    intro mark hm
    rw [List.mem_singleton.mp hm]
    omega
  have hbefore : ∀ mark ∈ [(2 * 0, 0)], mark.1 / 2 ≠ i + 1 := by
    intro mark hm
    rw [List.mem_singleton.mp hm]
    omega
  have hgroup := hn.groups i v hv
  rw [Nat.zero_add, Nat.add_comm] at hgroup
  let opening : Marks := [(2 * 0, 0)]
  calc (Captures.mk text ([(2 * 0 + 1, text.length)] ++ (marks ++ opening))).group? (i + 1)
      = (Captures.mk text (marks ++ opening)).group? (i + 1) :=
        group?_append_left hafter
    _ = (Captures.mk text marks).group? (i + 1) := group?_append_right hbefore
    _ = v := hgroup

/-- A cut of the whole text is a match between the anchors. -/
theorem exists_runs_of_cut (hd : Denotes 0 ts cut n)
    (ht : ∀ x y, t.Runs x y ↔ Term.RunsAll (.look .textStart :: ts ++ [.look .textStop]) x y)
    {values : List (Option String)} (hcut : cut text values) :
    ∃ start y, start.On text ∧ (Term.group 0 t).Runs (start, []) y := by
  have hrest : (Cursor.nth text 0).rest = text ++ [] := (List.append_nil text).symm
  obtain ⟨stop, hp, hnil⟩ := Cursor.exists_passes hrest
  obtain ⟨m, hr⟩ := hd.complete [(2 * 0, 0)] hcut hp
  have hon : (Cursor.nth text 0).On text := ⟨0, Nat.zero_le _, rfl⟩
  have hall := (runsAll_anchored_iff hon).mpr ⟨rfl, (hon.passes hp).eq_stop hnil, hr⟩
  exact ⟨.nth text 0, _, hon, _, (ht _ _).mpr hall, rfl⟩

/-- The regex of a path matches the texts that can be cut along the path, and its groups give the values
of the params for such a cut. -/
theorem Pattern.captures_iff_cut {p : Pattern} {options : Options} {r : PathRegex}
    (h : p.pathRegex kinds options = .ok r) (hcase : options.ignoreCase = false)
    (hstart : options.anchorStart = true) (hstop : options.anchorEnd = true)
    (hmeant : ∀ q ∈ p.params, q.Meant kinds) :
    (∀ path, (r.regex.captures? path).isSome = true ↔
      ∃ values, Node.CutAll kinds p.path path.toList values) ∧
    ∀ path cs, r.regex.captures? path = some cs →
      Node.CutAll kinds p.path path.toList
        ((List.range p.params.length).map fun i => cs.group? (i + 1)) := by
  obtain ⟨_, item, htext, hitem, -, -, rfl⟩ := pathRegex_eq_ok h
  obtain ⟨text, found, ts, hfound, hread, -, hd, hruns⟩ := exists_item hcase hstart hstop hmeant
  obtain rfl := Except.ok.inj (hfound.symm.trans htext)
  rw [String.toList_ofList, hread] at hitem
  obtain rfl := Option.some.inj hitem
  let regex : Regex := ⟨String.ofList text, found.term, found.term.program⟩
  have hcaptured (path : String) (cs : Captures) (h : regex.captures? path = some cs) :
      ∃ values, Node.CutAll kinds p.path path.toList values ∧
        ∀ i v, values[i]? = some v → cs.group? (i + 1) = v := by
    obtain ⟨m, hm, rfl⟩ := Option.map_eq_some_iff.mp h
    obtain ⟨start, stop, hon, hr⟩ := (Term.run_program found.term path.toList).1 m hm
    exact exists_cut_of_runs hd hruns hon hr
  refine ⟨?_, ?_⟩
  · intro path
    constructor
    · intro h
      obtain ⟨cs, hcs⟩ := Option.isSome_iff_exists.mp h
      obtain ⟨values, hcut, -⟩ := hcaptured path cs hcs
      exact ⟨values, hcut⟩
    · intro hx
      obtain ⟨values, hcut⟩ := hx
      obtain ⟨start, y, hon, hr⟩ := exists_runs_of_cut hd hruns hcut
      rw [Regex.captures?, Option.isSome_map]
      exact Term.run_program_isSome hon hr
  · intro path cs h
    obtain ⟨values, hcut, hgroups⟩ := hcaptured path cs h
    have hvalues : (List.range p.params.length).map (fun i => cs.group? (i + 1)) = values := by
      apply List.ext_getElem
      · rw [List.length_map, List.length_range, hd.length hcut]
      · intro i _ hi
        rw [List.getElem_map, List.getElem_range]
        exact hgroups i _ (List.getElem?_eq_getElem hi)
    rw [hvalues]
    exact hcut

/-- Whether the regex for a path keeps to the limits for regexes. -/
def Pattern.KeepsLimits (p : Pattern) (kinds : Kinds) (options : Options) : Prop :=
  ∀ text item, p.regexText kinds options = .ok text → readItem? text.toList = some item →
    item.height ≤ nestLimit ∧ item.term.fits = true

/-- For plain params the regex of a path is written. It matches the texts that can be cut along the
path, and its groups give the values of the params for such a cut. -/
theorem Pattern.pathRegex_captures_iff_cut (p : Pattern) (kinds : Kinds) (options : Options)
    (hcase : options.ignoreCase = false) (hstart : options.anchorStart = true)
    (hstop : options.anchorEnd = true) (hplain : ∀ q ∈ p.params, q.Plain kinds)
    (hlimits : p.KeepsLimits kinds options) :
    ∃ r, p.pathRegex kinds options = .ok r ∧ r.groups = p.params.map (·.name) ∧
      (∀ path, (r.regex.captures? path).isSome = true ↔
        ∃ values, Node.CutAll kinds p.path path.toList values) ∧
      ∀ path cs, r.regex.captures? path = some cs →
        Node.CutAll kinds p.path path.toList
          ((List.range p.params.length).map fun i => cs.group? (i + 1)) := by
  have hmeant (q : Param) (hq : q ∈ p.params) : q.Meant kinds := (hplain q hq).meant
  obtain ⟨text, item, ts, htext, hread, hlast, -, -⟩ := exists_item hcase hstart hstop hmeant
  have hlist : readItem? (String.ofList text).toList = some item := by
    rw [String.toList_ofList]
    exact hread
  obtain ⟨hheight, hfits⟩ := hlimits _ item htext hlist
  let regex : Regex := ⟨String.ofList text, item.term, item.term.program⟩
  have hregex : Regex.ofText? (String.ofList text) = some regex :=
    ofText?_eq_some_iff.mpr ⟨item, hlist, hheight, hfits, rfl⟩
  have hcompile : p.pathRegex kinds options = .ok ⟨regex, p.params.map (·.name)⟩ := by
    have hgroups : regex.groups = (p.params.map (·.name)).length := by
      rw [List.length_map]
      exact hlast
    rw [Pattern.pathRegex, htext]
    simp only [bind, Except.bind, hregex]
    exact if_pos hgroups
  exact ⟨_, hcompile, rfl, captures_iff_cut hcompile hcase hstart hstop hmeant⟩

/-- A path with an inline regex, and with choices in an option. -/
def ticket : Pattern where
  source := "/<{[0-9]+}:id>(.<ext=json,x>)"
  path :=
    [.delimiter, .param { name := "id", constraint := .regex "[0-9]+" },
      .option [.literal ".", .param { name := "ext", choices := ["json", "x"] }]]
  query := []

theorem plain_digits : Regex.Plain "[0-9]+".toList where
  read := ⟨_, _, rfl, rfl, rfl, trivial⟩
  flags before after st htext hst := by
    have hlength : before.length ≤ 6 := by
      have htotal := congrArg List.length htext
      rw [List.length_append] at htotal
      change 6 = _ at htotal
      omega
    have htake : before = "[0-9]+".toList.take before.length := by rw [htext, List.take_left]
    rw [htake] at hst
    generalize before.length = n at hlength hst
    intro hflags
    obtain ⟨marks, hmarks⟩ := hflags
    -- the mode behind each beginning of the text is known
    interval_cases n
    all_goals
      cases hst
      cases hmarks

theorem plain_ticket : ∀ q ∈ ticket.params, q.Plain ∅ := by
  intro q hq
  rcases List.mem_cons.mp hq with rfl | hq
  · intro _
    exact plain_digits
  · rw [List.mem_singleton.mp hq]
    intro h
    cases h

theorem keepsLimits_ticket : ticket.KeepsLimits ∅ {} := by
  intro text item htext hitem
  obtain rfl : "^/([0-9]+)(?:\\.((?:json|x)))?$" = text := Except.ok.inj htext
  have hall : ((readItem? "^/([0-9]+)(?:\\.((?:json|x)))?$".toList).all fun item =>
      decide (item.height ≤ nestLimit) && item.term.fits) = true := by decide +kernel
  rw [hitem, Option.all_some, Bool.and_eq_true, decide_eq_true_eq] at hall
  exact hall

theorem captures_ticket :
    ∃ r, ticket.pathRegex ∅ {} = .ok r ∧ (r.regex.captures? "/7.x").isSome = true := by
  obtain ⟨r, hr, -, hmatch, -⟩ :=
    Pattern.pathRegex_captures_iff_cut ticket ∅ {} rfl rfl rfl plain_ticket keepsLimits_ticket
  have hid : ['7'] ∈ languageOf "[0-9]+".toList :=
    ⟨0, nofun, Language.mem_pow.mpr
      ⟨[['7']], rfl, rfl, List.forall_mem_singleton.mpr ⟨'7', rfl, rfl⟩⟩⟩
  have hdot : ['.'] ∈ spellings ['.'] := ⟨['.'], Or.inl rfl, [], rfl, rfl⟩
  have hext : ['x'] ∈ choiceSpellings ["json", "x"] :=
    ⟨"x", List.mem_cons_of_mem _ List.mem_cons_self, ['x'], Or.inl rfl, [], rfl, rfl⟩
  have hoption : Node.CutAll ∅ [.literal ".", .param { name := "ext", choices := ["json", "x"] }]
      ['.', 'x'] [some "x"] :=
    ⟨['.'], [], ['x'], [some "x"], ⟨hdot, rfl⟩,
      ⟨['x'], [some "x"], [], [], ⟨hext, rfl⟩, ⟨rfl, rfl⟩, rfl, rfl⟩, rfl, rfl⟩
  refine ⟨r, hr, (hmatch "/7.x").mpr ⟨[some "7", some "x"], ?_⟩⟩
  exact ⟨['/'], [], ['7', '.', 'x'], _, ⟨rfl, rfl⟩,
    ⟨['7'], [some "7"], ['.', 'x'], [some "x"], ⟨hid, rfl⟩,
      ⟨['.', 'x'], [some "x"], [], [], Or.inl hoption, ⟨rfl, rfl⟩, rfl, rfl⟩, rfl, rfl⟩, rfl, rfl⟩

end Paths

end RoutePattern
