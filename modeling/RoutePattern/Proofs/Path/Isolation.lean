import Mathlib.Data.List.Fold
import RoutePattern.Proofs.Path.Layout
import RoutePattern.Proofs.Path.Openings
import RoutePattern.Proofs.Regex.Enclosed
import RoutePattern.Proofs.Rule.Making

/-! Compilation keeps the fragments of a pattern apart: each is a regex on its own, and each param has
the group that its own parentheses make. -/
namespace RoutePattern

open Regex State

/-- Whether the body of a param is what a group encloses, and its fragment is a regex on its own, which
nests no more than this and has no groups. -/
def Param.Isolated (p : Param) (kinds : Kinds) (fold : Bool) (before : List Char) (i height : Nat) :
    Prop :=
  ∃ body, p.regex kinds fold = .ok body ∧ Encloses before body i ∧
    ∀ text, p.fragment? kinds = some text → ∃ item, readItem? text.toList = some item ∧
      item.height ≤ height ∧ item.term.lastGroup = 0

/-- What is read of a part of a path, where groups are counted from one number to another. There is one
group at least for each param, and there are no others if the fragments open none. If there are no others,
each param has its own. -/
structure Counted (kinds : Kinds) (fold : Bool) (g : Nat) (items : List Item) (g' : Nat)
    (openings : List (List Char × Param)) : Prop where
  count : g + openings.length ≤ g'
  positive : ∀ item ∈ items, item.term.Indices (0 < ·)
  opened : (∀ o ∈ openings, o.2.Ungrouped kinds) → g' = g + openings.length
  last : ∀ n, (∀ item ∈ items, item.term.Indices (· ≤ n)) → openings ≠ [] → g + openings.length ≤ n
  -- groups that were counted may be lost where nothing is repeated, so one of the numbers is too high
  isolated : ∀ n height, (∀ item ∈ items, item.term.Indices (· ≤ n) ∧ item.height ≤ height) →
    g' = g + openings.length ∨ n ≤ g + openings.length → ∀ i before (p : Param),
      openings[i]? = some (before, p) → p.Isolated kinds fold before (g + i + 1) height

section Counting

variable {kinds : Kinds} {fold : Bool} {g g' g'' : Nat} {items others : List Item}
  {openings later : List (List Char × Param)} {before : List Char} {p : Param}

theorem counted_of_noGroup (h : ∀ item ∈ items, item.term.NoGroup) :
    Counted kinds fold g items g [] where
  count := Nat.le_refl g
  positive item hi := (Term.noGroup_iff.mp (h item hi)).mono fun _ => False.elim
  opened _ := rfl
  last _ _ hne := absurd rfl hne
  isolated _ _ _ _ _ _ _ h := nomatch h

theorem Counted.append (h : Counted kinds fold g items g' openings)
    (h' : Counted kinds fold g' others g'' later) :
    Counted kinds fold g (items ++ others) g'' (openings ++ later) where
  count := by
    have hcount := h.count
    have hcount' := h'.count
    rw [List.length_append]
    omega
  positive := List.forall_mem_append.mpr ⟨h.positive, h'.positive⟩
  opened hfree := by
    obtain ⟨hfree, hlater⟩ := List.forall_mem_append.mp hfree
    rw [h'.opened hlater, h.opened hfree, List.length_append, Nat.add_assoc]
  last n hn hne := by
    obtain ⟨hitems, hothers⟩ := List.forall_mem_append.mp hn
    have hcount := h.count
    rw [List.length_append]
    by_cases hlater : later = []
    · rw [hlater, List.append_nil] at hne
      have hlast := h.last n hitems hne
      rw [hlater, List.length_nil]
      omega
    · have hlast := h'.last n hothers hlater
      omega
  isolated n height hn hcase i before p hi := by
    obtain ⟨hitems, hothers⟩ := List.forall_mem_append.mp hn
    have hcount := h.count
    have hcount' := h'.count
    rw [List.length_append] at hcase
    -- the last param of all tells how many groups there are in front of it
    have hlast : later = [] ∨ g' + later.length ≤ n := by
      by_cases hlater : later = []
      · exact Or.inl hlater
      · exact Or.inr (h'.last n (fun item hi => (hothers item hi).1) hlater)
    by_cases hlength : i < openings.length
    · rw [List.getElem?_append_left hlength] at hi
      refine h.isolated n height hitems ?_ i before p hi
      rcases hlast with hnil | hlast
      · rw [hnil, List.length_nil] at hcase hcount'
        omega
      · omega
    · rw [List.getElem?_append_right (Nat.le_of_not_lt hlength)] at hi
      have hne : later ≠ [] := by
        rintro rfl
        cases hi
      have hlast := hlast.resolve_left hne
      have hisolated := h'.isolated n height hothers (by omega) _ before p hi
      have hindex : g' + (i - openings.length) + 1 = g + i + 1 := by omega
      rw [hindex] at hisolated
      exact hisolated

theorem maxHeight_le_iff {n : Nat} : Item.maxHeight items ≤ n ↔ ∀ item ∈ items, item.height ≤ n := by
  rw [Item.maxHeight, List.foldl_eq_foldr]
  induction items with
  | nil => exact iff_of_true (Nat.zero_le n) (List.forall_mem_nil _)
  | cons item items ih =>
    rw [List.map_cons, List.foldr_cons, max_le_iff, ih, List.forall_mem_cons]

theorem height_le_itemConcat {item : Item} (h : item ∈ items) :
    item.height ≤ (Item.concat items).height := by
  match items with
  | [only] =>
    rw [List.mem_singleton.mp h]
    exact Nat.le_refl _
  | _ :: _ :: _ => exact Nat.le_succ_of_le (maxHeight_le_iff.mp (Nat.le_refl _) item h)

theorem Counted.optional (h : Counted kinds fold g items g' openings) :
    Counted kinds fold g [optionalItem (Item.concat items.reverse)] g' openings := by
  refine ⟨h.count, ?_, h.opened, ?_, ?_⟩
  · rw [List.forall_mem_singleton, indices_optionalItem]
    exact h.positive
  · intro n hn
    rw [List.forall_mem_singleton, indices_optionalItem] at hn
    exact h.last n hn
  · intro n height hn
    rw [List.forall_mem_singleton, indices_optionalItem] at hn
    refine h.isolated n height fun item hi => ⟨hn.1 item hi, ?_⟩
    have hle : item.height ≤ (Item.concat items.reverse).height :=
      height_le_itemConcat (List.mem_reverse.mpr hi)
    exact hle.trans ((Nat.le_add_right _ 2).trans hn.2)

/-- The body of a param is contained if its fragment is. -/
theorem Param.exists_contained (h : ∀ text, p.fragment? kinds = some text →
      isContained text.toList = true) {body : List Char} (hbody : p.regex kinds fold = .ok body) :
    ∃ fs, fs.Alike (caseFlags fold) ∧ Contained fs body ∧
      ∀ text, p.fragment? kinds = some text → fs = {} ∧ body = text.toList := by
  cases hfragment : p.fragment? kinds with
  | none =>
    obtain ⟨items, hreads, -⟩ := exists_reads hfragment hbody
    refine ⟨caseFlags fold, .refl _, (hreads 0).contained, fun text htext => ?_⟩
    cases htext
  | some found =>
    obtain rfl := Except.ok.inj ((regex_of_fragment? hfragment).symm.trans hbody)
    refine ⟨{}, caseFlags_alike fold, isContained_iff.mp (h found hfragment), fun text htext => ?_⟩
    rw [Option.some.inj htext]
    exact ⟨rfl, rfl⟩

section Captured

variable {fs : Flags} {body : List Char} {a : State} {x y : Item} {names names' : List (List Char)}

/-- The body of a param opens no group if its fragment opens none. -/
theorem Param.groups_eq (hbody : p.regex kinds fold = .ok body)
    (hfragment : ∀ text, p.fragment? kinds = some text → fs = {} ∧ body = text.toList)
    (ha : body.foldlM step { flags := fs } = some a) (hreads : ReadsOn fold g names ('(' :: body ++ [')'])
      (a.groups + (g + 1)) names' [grouped (some (g + 1)) y]) (hfree : p.Ungrouped kinds) :
    a.groups = 0 := by
  cases hcase : p.fragment? kinds with
  | some text =>
    obtain ⟨-, hopened⟩ := hfree text hcase
    obtain ⟨rfl, rfl⟩ := hfragment text hcase
    rw [opened?, ha, Option.map_some, Option.some.injEq] at hopened
    exact hopened
  | none =>
    obtain ⟨items, hitems, -⟩ := exists_reads hcase hbody
    obtain ⟨hgroups, -⟩ := hreads.unique ((hitems (g + 1)).fills.capture.readsOn names)
    omega

/-- The group of a param is counted, and isolates it if no group of its fragment is. -/
theorem Param.counted (hbody : p.regex kinds fold = .ok body)
    (hfragment : ∀ text, p.fragment? kinds = some text → fs = {} ∧ body = text.toList)
    (ha : body.foldlM step { flags := fs } = some a) (hx : a.finish? = some x)
    (halike : x.Alike (g + 1) y) (hencloses : Encloses before body (g + 1))
    (hreads : ReadsOn fold g names ('(' :: body ++ [')']) (a.groups + (g + 1)) names'
      [grouped (some (g + 1)) y]) :
    Counted kinds fold g [grouped (some (g + 1)) y] (a.groups + (g + 1)) [(before, p)] := by
  refine ⟨Nat.le_add_left _ _, ?_, ?_, ?_, ?_⟩
  · rw [List.forall_mem_singleton]
    refine ⟨Nat.succ_pos g, (halike.indices _).mpr (x.term.indices_true.mono fun i _ => ?_)⟩
    omega
  · rw [List.forall_mem_singleton]
    intro hfree
    rw [Param.groups_eq hbody hfragment ha hreads hfree, Nat.zero_add]
    rfl
  · intro n hn _
    exact (List.forall_mem_singleton.mp hn).1
  · intro n height hn hcase i before' p' hi
    obtain ⟨⟨-, hindices⟩, hheight⟩ := List.forall_mem_singleton.mp hn
    obtain ⟨rfl, hp⟩ : i = 0 ∧ (before, p) = (before', p') := by
      cases i with
      | zero => exact ⟨rfl, Option.some.inj hi⟩
      | succ i => cases hi
    obtain ⟨rfl, rfl⟩ := Prod.mk.inj hp
    refine ⟨body, hbody, hencloses, fun text htext => ?_⟩
    obtain ⟨rfl, rfl⟩ := hfragment text htext
    refine ⟨x, by rw [readItem?, ha]; exact hx, ?_, ?_⟩
    · rw [← halike.height]
      exact (Nat.le_succ _).trans hheight
    · rcases hcase with hcount | hn
      · -- no group was counted within the body
        rw [List.length_singleton] at hcount
        have hgroups : a.groups = 0 := by omega
        exact (noGroup_of_read ha hgroups hx).lastGroup_eq
      · -- a group of the body that is left would have an index behind that of the param
        have hle : x.term.Indices (· ≤ 0) := ((halike.indices _).mp hindices).mono fun i hi => by
          rw [List.length_singleton] at hn
          omega
        exact Nat.le_zero.mp (Term.lastGroup_le_iff.mpr hle)

/-- The group of a param has the next index. Without a fragment the items in it are known. -/
theorem Param.laid (hbody : p.regex kinds fold = .ok body)
    (hfragment : ∀ text, p.fragment? kinds = some text → fs = {} ∧ body = text.toList)
    (ha : body.foldlM step { flags := fs } = some a) (hx : a.finish? = some x)
    (halike : x.Alike (g + 1) y) (hreads : ReadsOn fold g names ('(' :: body ++ [')'])
      (a.groups + (g + 1)) names' [grouped (some (g + 1)) y]) :
    Laid kinds fold g [grouped (some (g + 1)) y] (a.groups + (g + 1)) [(g + 1, p)] := by
  cases hcase : p.fragment? kinds with
  | some text =>
    refine .group (by omega) (fun hfree => (halike.indices _).mpr ?_) fun hne => ?_
    · have hgroups := Param.groups_eq hbody hfragment ha hreads hfree
      obtain ⟨rfl, rfl⟩ := hfragment text hcase
      exact (Term.noGroup_iff.mp (noGroup_of_read ha hgroups hx)).mono fun _ => False.elim
    · exact absurd (List.isEmpty_iff.mp (fragment?_eq_some hcase).1) hne
  | none =>
    obtain ⟨items, hitems, hgroups, hchoices⟩ := exists_reads hcase hbody
    have hplain := (hitems (g + 1)).fills.capture.readsOn names
    obtain ⟨-, -, hsame⟩ := hreads.unique hplain
    rw [hsame]
    refine .group (by omega) (fun _ => ?_) fun hne => ?_
    · exact (Term.noGroup_iff.mp (noGroup_itemConcat fun item hi =>
        hgroups item (List.mem_reverse.mp hi))).mono fun _ => False.elim
    · refine (hchoices hne).congr fun x y => ?_
      rw [runs_itemConcat, List.reverse_reverse]

end Captured

/-- What is read of the parentheses of a param is a group whose index is the next one. -/
theorem Param.exists_item {st st' : State} {level : Level} {outer : List Frame}
    {names : List (List Char)}
    (h : ∀ text, p.fragment? kinds = some text → isContained text.toList = true) {body : List Char}
    (hbody : p.regex kinds fold = .ok body) (hbefore : before.foldlM step {} = some st)
    (hst : st.settled = between fold level outer g names)
    (hrun : ('(' :: body ++ [')']).foldlM step st = some st') :
    ∃ item g' names', ReadsOn fold g names ('(' :: body ++ [')']) g' names' [item] ∧
      Counted kinds fold g [item] g' [(before, p)] ∧ Laid kinds fold g [item] g' [(g + 1, p)] := by
  obtain ⟨fs, hfs, hcontained, hfragment⟩ := Param.exists_contained h hbody
  obtain ⟨a, x, y, names', ha, hx, halike, -, hreads⟩ := hcontained.exists_captured hfs hst hrun
  have hencloses := hcontained.encloses hfs hbefore hst hrun
  exact ⟨_, _, names', hreads, Param.counted hbody hfragment ha hx halike hencloses hreads,
    Param.laid hbody hfragment ha hx halike hreads⟩

mutual
/-- What is read of a part of a path is counted and laid out, whatever stands around it. -/
theorem Node.exists_laid (node : Node) (h : ∀ p ∈ node.params, ∀ text,
      p.fragment? kinds = some text → isContained text.toList = true)
    {st st' : State} {level : Level} {outer : List Frame} {g : Nat} {names : List (List Char)}
    {before text : List Char} (htext : node.regex kinds fold = .ok text)
    (hbefore : before.foldlM step {} = some st) (hst : st.settled = between fold level outer g names)
    (hrun : text.foldlM step st = some st') :
    ∃ items g' names' slots, ReadsOn fold g names text g' names' items ∧
      Counted kinds fold g items g' (node.openings kinds fold before) ∧
      Laid kinds fold g items g' slots ∧ slots.map Prod.snd = node.params := by
  cases node with
  | literal literal =>
    obtain ⟨items, hr, hg, -⟩ := spells_literalRegex fold literal
    cases htext
    exact ⟨items, g, names, [], (hr g).readsOn names, counted_of_noGroup hg, .plain hg, rfl⟩
  | delimiter =>
    cases htext
    have hg : ∀ item ∈ [charItem fold '/'], item.term.NoGroup := by
      rw [List.forall_mem_singleton]
      trivial
    exact ⟨_, g, names, [], (reads_char (by decide)).readsOn names, counted_of_noGroup hg,
      .plain hg, rfl⟩
  | param p =>
    obtain ⟨body, hbody, rfl⟩ := regex_param_eq_ok htext
    obtain ⟨item, g', names', hreads, hc, hl⟩ :=
      Param.exists_item (h p List.mem_cons_self) hbody hbefore hst hrun
    exact ⟨[item], g', names', _, hreads, hc, hl, rfl⟩
  | option children =>
    obtain ⟨inner, hinner, rfl⟩ := regex_option_eq_ok htext
    -- the parts within are read on the level of the group, which is closed and made optional
    have hopen := foldlM_openPlain_settled hst
    rw [List.append_assoc, foldlM_append_of_foldlM hopen, List.foldlM_append] at hrun
    obtain ⟨mid, hmid, -⟩ := Option.bind_eq_some_iff.mp hrun
    obtain ⟨items, g', names', slots, hreads, hc, hl, hslots⟩ := Node.exists_laidOf children h
      hinner ((foldlM_append_of_foldlM hbefore).trans hopen) rfl hmid
    exact ⟨_, g', names', slots, hreads.optional, hc.optional, hl.optional, hslots⟩
termination_by structural node

/-- What is read of a path is counted and laid out, whatever stands around it. -/
theorem Node.exists_laidOf (nodes : List Node) (h : ∀ p ∈ Node.paramsOf nodes, ∀ text,
      p.fragment? kinds = some text → isContained text.toList = true)
    {st st' : State} {level : Level} {outer : List Frame} {g : Nat} {names : List (List Char)}
    {before text : List Char} (htext : Node.regexOf kinds fold nodes = .ok text)
    (hbefore : before.foldlM step {} = some st) (hst : st.settled = between fold level outer g names)
    (hrun : text.foldlM step st = some st') :
    ∃ items g' names' slots, ReadsOn fold g names text g' names' items ∧
      Counted kinds fold g items g' (Node.openingsOf kinds fold before nodes) ∧
      Laid kinds fold g items g' slots ∧ slots.map Prod.snd = Node.paramsOf nodes := by
  cases nodes with
  | nil =>
    cases htext
    have hg : ∀ item ∈ ([] : List Item), item.term.NoGroup := List.forall_mem_nil _
    exact ⟨[], g, names, [], reads_nil.readsOn names, counted_of_noGroup hg, .plain hg, rfl⟩
  | cons node rest =>
    obtain ⟨first, more, hfirst, hmore, rfl⟩ := regexOf_cons_eq_ok htext
    rw [List.foldlM_append] at hrun
    obtain ⟨mid, hmid, hrun⟩ := Option.bind_eq_some_iff.mp hrun
    rw [paramsOf_cons, List.forall_mem_append] at h
    obtain ⟨items, g', names', slots, hreads, hc, hl, hslots⟩ :=
      Node.exists_laid node h.1 hfirst hbefore hst hmid
    obtain ⟨others, g'', names'', later, hreads', hc', hl', hlater⟩ := Node.exists_laidOf rest h.2
      hmore ((foldlM_append_of_foldlM hbefore).trans hmid) (hreads.settled_eq hst hmid) hrun
    rw [openingsOf, hfirst, paramsOf_cons, ← hslots, ← hlater, ← List.map_append]
    exact ⟨items ++ others, g'', names'', slots ++ later, hreads.append hreads', hc.append hc',
      hl.append hl', rfl⟩
termination_by structural nodes
end

end Counting

section Compiled

variable {p : Pattern} {kinds : Kinds} {options : Options} {r : PathRegex}

/-- The regex of a path is what its parts are read as between the anchors. The parts are counted and laid
out, with as many groups as there are params. -/
theorem Pattern.exists_laid (h : p.pathRegex kinds options = .ok r)
    (hc : ∀ q ∈ p.params, ∀ text, q.fragment? kinds = some text → isContained text.toList = true) :
    ∃ body items g' names' slots, Node.regexOf kinds options.ignoreCase p.path = .ok body ∧
      r.regex = ⟨String.ofList (frontText options ++ body ++ backText options),
        (Item.concat (anchored options items).reverse).term,
        (Item.concat (anchored options items).reverse).term.program⟩ ∧
      ReadsOn options.ignoreCase 0 [] body g' names' items ∧
      Counted kinds options.ignoreCase 0 items g' (p.openings kinds options) ∧
      Laid kinds options.ignoreCase 0 items g' slots ∧ slots.map Prod.snd = p.params ∧
      ∀ item ∈ items, item.term.Indices (· ≤ p.params.length) ∧ item.height ≤ nestLimit := by
  obtain ⟨text, item, htext, hitem, hheight, hlast, rfl⟩ := pathRegex_eq_ok h
  rw [regexText_eq] at htext
  cases hbody : Node.regexOf kinds options.ignoreCase p.path with
  | error e =>
    rw [hbody] at htext
    cases htext
  | ok body =>
    rw [hbody] at htext
    cases htext
    have hfront := foldlM_frontText options
    rw [String.toList_ofList, readItem?, List.append_assoc, foldlM_append_of_foldlM hfront,
      List.foldlM_append, Option.bind_eq_bind, Option.bind_assoc] at hitem
    obtain ⟨st, hst, hback⟩ := Option.bind_eq_some_iff.mp hitem
    obtain ⟨items, g', names', slots, hreads, hcounted, hlaid, hslots⟩ :=
      Node.exists_laidOf p.path hc hbody hfront rfl hst
    rw [finish?_backText (hreads.settled_eq rfl hst)] at hback
    obtain rfl := Option.some.inj hback
    refine ⟨body, items, g', names', slots, rfl, rfl, hreads, hcounted, hlaid, hslots,
      fun item hi => ⟨?_, ?_⟩⟩
    · rw [← hlast]
      exact indices_anchored.mp (Term.lastGroup_le_iff.mp (Nat.le_refl _)) item hi
    · have hmem : item ∈ (anchored options items).reverse := by
        rw [List.mem_reverse, anchored]
        simp only [List.mem_append, hi, true_or, or_true]
      exact (height_le_itemConcat hmem).trans hheight

theorem Pattern.map_openings : (p.openings kinds options).map Prod.snd = p.params :=
  Node.map_openingsOf _ _

theorem Pattern.length_openings : (p.openings kinds options).length = p.params.length := by
  rw [← map_openings, List.length_map]

/-- The regex of a path opens as many groups as there are params, if their fragments open none. -/
theorem Pattern.opened?_source (h : p.pathRegex kinds options = .ok r)
    (hc : ∀ q ∈ p.params, ∀ text, q.fragment? kinds = some text → isContained text.toList = true)
    (halone : ∀ q ∈ p.params, q.Ungrouped kinds) :
    opened? r.regex.source.toList = some p.params.length := by
  obtain ⟨body, items, g', names', slots, -, hwritten, hreads, hcounted, -⟩ := exists_laid h hc
  obtain ⟨st, hst, hsettled⟩ := hreads.run (frontLevel options) []
    (between options.ignoreCase (frontLevel options) [] 0 []) rfl
  obtain ⟨st', hst', hsettled'⟩ := exists_foldlM_backText hsettled
  have hfree : ∀ o ∈ p.openings kinds options, o.2.Ungrouped kinds := fun o ho =>
    halone o.2 (map_openings ▸ List.mem_map_of_mem ho)
  have hgroups : st'.groups = p.params.length := by
    rw [← groups_settled, hsettled', ← length_openings, ← Nat.zero_add (p.openings kinds options).length,
      ← hcounted.opened hfree]
    rfl
  rw [hwritten, String.toList_ofList, opened?, List.append_assoc,
    foldlM_append_of_foldlM (foldlM_frontText options), foldlM_append_of_foldlM hst, hst',
    Option.map_some, hgroups]

/-- Each param of a compiled pattern has the group of its place to itself. -/
theorem Pattern.isolated (h : p.pathRegex kinds options = .ok r)
    (hc : ∀ q ∈ p.params, ∀ text, q.fragment? kinds = some text → isContained text.toList = true)
    {i : Nat} {before : List Char} {q : Param}
    (hi : (p.openings kinds options)[i]? = some (before, q)) :
    q.Isolated kinds options.ignoreCase before (i + 1) nestLimit := by
  obtain ⟨body, items, g', names', slots, -, -, -, hcounted, -, -, hitems⟩ := exists_laid h hc
  have hle : p.params.length ≤ 0 + (p.openings kinds options).length := by
    rw [length_openings, Nat.zero_add]
  have hisolated := hcounted.isolated _ _ hitems (Or.inr hle) i before q hi
  rw [Nat.zero_add] at hisolated
  exact hisolated

/-- The fragments in a compiled path open no groups, unless one loses all that it opens. -/
theorem Pattern.ungrouped (h : p.pathRegex kinds options = .ok r)
    (hc : ∀ q ∈ p.params, ∀ text, q.fragment? kinds = some text → isContained text.toList = true)
    (hkept : ∀ q ∈ p.params, ∀ text, q.fragment? kinds = some text → ∀ t,
      read? text.toList = some t → t.lastGroup = 0 → opened? text.toList = some 0) :
    ∀ q ∈ p.params, q.Ungrouped kinds := by
  intro q hq text htext
  have hopening : q ∈ (p.openings kinds options).map Prod.snd := by rwa [map_openings]
  obtain ⟨⟨before, q'⟩, hb, rfl⟩ := List.mem_map.mp hopening
  obtain ⟨i, hi⟩ := List.mem_iff_getElem?.mp hb
  obtain ⟨-, -, -, hfragment⟩ := isolated h hc hi
  obtain ⟨item, hitem, hheight, hlast⟩ := hfragment text htext
  have hread : read? text.toList = some item.term := by
    rw [read?, hitem, Option.bind_some, if_pos hheight]
  exact ⟨Option.isSome_of_eq_some hread, hkept _ hq text htext item.term hread hlast⟩

/-- The fragment of a query rule is read if the rule is compiled. -/
theorem QueryRule.exists_read {rule : QueryRule} {slot : QuerySlot} {ignoreCase : Bool}
    (h : QuerySlot.make rule kinds ignoreCase = .ok slot) {text : String}
    (htext : rule.fragment? kinds = some text) (hs : staysInside text.toList = true) :
    ∃ t, read? text.toList = some t := by
  obtain ⟨-, hcheck⟩ := QuerySlot.make_eq_ok h
  obtain ⟨check, -, hread⟩ := hcheck _ (body_of_fragment? htext)
  obtain ⟨item, hitem, hheight, -, -⟩ := ofText?_eq_some_iff.mp hread
  -- the fragment stands in brackets between the anchors
  let opening : Level := frontLevel { ignoreCase }
  have hfront : ((if ignoreCase then "(?i)".toList else []) ++ "^(?:".toList).foldlM step {} =
      some (between ignoreCase {} [⟨opening, none, caseFlags ignoreCase⟩] 0 []) := by
    cases ignoreCase <;> rfl
  have hend : text.toList ++ ")$".toList = text.toList ++ ')' :: ['$'] := rfl
  rw [String.toList_ofList, readItem?, List.append_assoc, foldlM_append_of_foldlM hfront, hend] at hitem
  obtain ⟨st, hst, hfinish⟩ := Option.bind_eq_some_iff.mp hitem
  obtain ⟨x, y, g', names', hx, halike, hrest⟩ :=
    exists_closed hs (by decide) hst (outer_eq_nil_of_finish? hfinish)
  have hlevel : item = Item.concat ({ term := .look .textStop } :: grouped none y ::
      opening.items) := by
    cases hrest
    exact (Option.some.inj hfinish).symm
  have hgroup : (grouped none y).height ≤ item.height := by
    rw [hlevel]
    exact height_le_itemConcat (List.mem_cons_of_mem _ List.mem_cons_self)
  have hle : x.height ≤ nestLimit := by
    rw [← halike.height]
    exact (Nat.le_succ _).trans (hgroup.trans hheight)
  exact ⟨x.term, by rw [read?, hx, Option.bind_some, if_pos hle]⟩

/-- A match leads from one position of the text to another, which its outermost marks tell. -/
theorem Regex.Term.span?_of_run {text : List Char} {t : Term} {m : Marks} (hpos : t.Indices (0 < ·))
    (hm : t.program.run text = some m) :
    ∃ (start stop : Cursor) (new : Marks), start.On text ∧ stop.On text ∧
      t.Runs (start, [(2 * 0, start.offset)]) (stop, new) ∧
      (Captures.mk text m).span? 0 = some (start.offset, stop.offset) := by
  obtain ⟨start, stop, hon, ⟨cur, m'⟩, hruns, hmarks⟩ := (Term.run_program t text).1 m hm
  obtain ⟨w, new, hpasses, hnew, hindices, -⟩ := Term.adds_runs hpos _ _ hruns
  obtain ⟨rfl, rfl⟩ := Prod.mk.inj hmarks
  obtain rfl : m' = new ++ [(2 * 0, start.offset)] := hnew
  refine ⟨start, stop, _, hon, hon.passes hpasses, hruns, ?_⟩
  -- the marks between the first and the last are of other groups
  have hnone : new.lookup 0 = none :=
    (lookup_eq_none fun mark hmark => Nat.ne_of_gt (hindices mark hmark)).1
  have hstop : List.lookup (2 * 0 + 1) ((2 * 0 + 1, stop.offset) :: (new ++ [(2 * 0, start.offset)])) =
      some stop.offset := List.lookup_cons_self
  have hstart : List.lookup (2 * 0) ((2 * 0 + 1, stop.offset) :: (new ++ [(2 * 0, start.offset)])) =
      some start.offset := by
    have hne : (2 * 0 == 2 * 0 + 1) = false := rfl
    rw [List.lookup_cons, hne, List.lookup_append, hnone]
    rfl
  have hspan : (Captures.mk text
      ((2 * 0 + 1, stop.offset) :: (new ++ [(2 * 0, start.offset)]))).span? 0 =
        some (start.offset, stop.offset) := by
    rw [Captures.span?, hstart, hstop]
    rfl
  exact hspan

end Compiled

/-- Where no fragment reaches over the parentheses that it is put between, and none in the path opens
groups only to lose them all, compilation isolates each: on its own it is a regex, in the path one that
opens no group. The groups of the regex for the path, all that it opens, are the parentheses around the
bodies of the params, in their order, and a match between both anchors is one of the whole path. -/
theorem Pattern.compile_isolates {p : Pattern} {kinds : Kinds} {options : Options}
    {compiled : Compiled} (h : p.compile kinds options = .ok compiled)
    (hpath : ∀ q ∈ p.params, ∀ text, q.fragment? kinds = some text →
      isContained text.toList = true)
    -- a fragment like `(a){0}` opens a group, and is a regex without groups
    (hkept : ∀ q ∈ p.params, ∀ text, q.fragment? kinds = some text → ∀ t,
      read? text.toList = some t → t.lastGroup = 0 → opened? text.toList = some 0)
    (hquery : ∀ rule ∈ p.query, ∀ text, rule.fragment? kinds = some text →
      staysInside text.toList = true) :
    (∀ q ∈ p.params, q.Ungrouped kinds) ∧
    (∀ rule ∈ p.query, ∀ text, rule.fragment? kinds = some text →
      ∃ t, read? text.toList = some t) ∧
    opened? compiled.path.regex.source.toList = some p.params.length ∧
    (p.openings kinds options).map Prod.snd = p.params ∧
    (∀ i before q, (p.openings kinds options)[i]? = some (before, q) →
      ∃ body, q.regex kinds options.ignoreCase = .ok body ∧
        before ++ '(' :: body ++ [')'] <+: compiled.path.regex.source.toList ∧
        Encloses before body (i + 1)) ∧
    (options.anchorStart = true → options.anchorEnd = true → ∀ path captures,
      compiled.path.regex.captures? path = some captures →
        captures.span? 0 = some (0, path.toList.length)) := by
  obtain ⟨hregex, hslots, -⟩ := compile_eq_ok h
  have halone : ∀ q ∈ p.params, q.Ungrouped kinds := Pattern.ungrouped hregex hpath hkept
  refine ⟨halone, ?_, opened?_source hregex hpath halone, map_openings, ?_, ?_⟩
  · intro rule hrule text htext
    have hmade : ∀ rule ∈ p.query, ∃ slot, QuerySlot.make rule kinds options.ignoreCase = .ok slot :=
      ((List.forall₂_and_left _ _).mp (hslots.imp fun _ slot hslot => ⟨⟨slot, hslot⟩, hslot⟩)).1
    obtain ⟨slot, hslot⟩ := hmade rule hrule
    exact rule.exists_read hslot htext (hquery rule hrule text htext)
  · intro i before q hi
    obtain ⟨body, hbody, hencloses, -⟩ := isolated hregex hpath hi
    obtain ⟨whole, items, g', names', slots, hwhole, hwritten, -⟩ := exists_laid hregex hpath
    obtain ⟨body', hbody', hprefix⟩ := Node.exists_bodyOf p.path _ hwhole (List.mem_of_getElem? hi)
    obtain rfl : body = body' := Except.ok.inj (hbody.symm.trans hbody')
    refine ⟨body, hbody, ?_, hencloses⟩
    rw [hwritten, String.toList_ofList]
    exact hprefix.trans (List.prefix_append _ _)
  · intro hstart hstop path captures hcaptures
    obtain ⟨body, items, g', names', slots, -, hwritten, -, hcounted, -⟩ :=
      exists_laid hregex hpath
    obtain ⟨m, hm, rfl⟩ := Option.map_eq_some_iff.mp hcaptures
    rw [hwritten] at hm
    obtain ⟨start, stop, new, hon, hon', hruns, hspan⟩ :=
      Term.span?_of_run (indices_anchored.mpr hcounted.positive) hm
    obtain ⟨hbefore, -, hrest⟩ := runs_anchored_iff.mp hruns
    rw [hon.eq_start (hbefore hstart), hon'.eq_stop (hrest hstop)] at hspan
    exact hspan

/-- Both branches of a fragment stay between the parentheses of its param. -/
theorem Pattern.encloses_alternation :
    ∃ compiled, compile { source := "/<{a|b}:x>?q<{c}>"
                          path := [.delimiter, .param { name := "x", constraint := .regex "a|b" }]
                          query := [{ name := "q", constraint := .regex "c" }] } ∅ {} =
        .ok compiled ∧
      Encloses "^/".toList "a|b".toList 1 := by
  let p : Pattern :=
    { source := "/<{a|b}:x>?q<{c}>"
      path := [.delimiter, .param { name := "x", constraint := .regex "a|b" }]
      query := [{ name := "q", constraint := .regex "c" }] }
  have hmade : (p.compile ∅ {}).toOption.isSome = true := by decide +kernel
  have hpath : ∀ q ∈ p.params, ∀ text, q.fragment? ∅ = some text →
      isContained text.toList = true := by
    intro q hq text htext
    obtain rfl := List.mem_singleton.mp hq
    obtain rfl : "a|b" = text := Option.some.inj htext
    decide +kernel
  have hkept : ∀ q ∈ p.params, ∀ text, q.fragment? ∅ = some text → ∀ t,
      read? text.toList = some t → t.lastGroup = 0 → opened? text.toList = some 0 := by
    intro q hq text htext t _ _
    obtain rfl := List.mem_singleton.mp hq
    obtain rfl : "a|b" = text := Option.some.inj htext
    rfl
  have hquery : ∀ rule ∈ p.query, ∀ text, rule.fragment? ∅ = some text →
      staysInside text.toList = true := by
    intro rule hrule text htext
    obtain rfl := List.mem_singleton.mp hrule
    obtain rfl : "c" = text := Option.some.inj htext
    decide +kernel
  cases hcompile : p.compile ∅ {} with
  | error e =>
    rw [hcompile] at hmade
    cases hmade
  | ok compiled =>
    obtain ⟨-, -, -, -, hopenings, -⟩ := compile_isolates hcompile hpath hkept hquery
    obtain ⟨body, hbody, -, hencloses⟩ := hopenings 0 "^/".toList _ rfl
    obtain rfl : "a|b".toList = body := Except.ok.inj hbody
    exact ⟨compiled, rfl, hencloses⟩

/-- A fragment that closes the parenthesis of its param and opens another one is compiled, though it is
no regex on its own, and the alternation that it makes of the whole regex parts the anchors. -/
theorem Pattern.compile_unbalanced :
    ∃ p compiled, readAndCompile "/<{a)|(?:b}:x>" ∅ {} = .ok (p, compiled) ∧
      p.params.map (·.fragment? ∅) = [some "a)|(?:b"] ∧ read? "a)|(?:b".toList = none ∧
      ∃ captures, compiled.path.regex.captures? "/axyz" = some captures ∧
        captures.span? 0 = some (0, 2) := by
  have hread : readItem? "a)|(?:b".toList = none := rfl
  have hfound : ((readAndCompile "/<{a)|(?:b}:x>" ∅ {}).toOption.map fun made =>
      (made.1.params.map (·.fragment? ∅),
        (made.2.path.regex.captures? "/axyz").bind (·.span? 0))) =
      some ([some "a)|(?:b"], some (0, 2)) := by decide +kernel
  cases hmade : readAndCompile "/<{a)|(?:b}:x>" ∅ {} with
  | error e =>
    rw [hmade] at hfound
    cases hfound
  | ok made =>
    obtain ⟨p, compiled⟩ := made
    rw [hmade] at hfound
    obtain ⟨hparams, hspan⟩ := Prod.mk.inj (Option.some.inj hfound)
    obtain ⟨captures, hcaptures, hspan⟩ := Option.bind_eq_some_iff.mp hspan
    exact ⟨p, compiled, rfl, hparams, by rw [read?, hread]; rfl, captures, hcaptures, hspan⟩

end RoutePattern
