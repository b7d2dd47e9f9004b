import RoutePattern.Proofs.Path.Compilation

/-! The texts that a path is found as, under any options, where its params take any text or one of their
choices. -/
namespace RoutePattern

open Regex

/-- The texts that a param is found as, where case counts or not, if it takes any text or one of its
choices. -/
def Param.texts (fold : Bool) (q : Param) : Language Char :=
  if q.choices.isEmpty then withinSegment else eitherOf (choiceForms fold q.choices)

mutual
/-- The texts that a part of a path is found as, where case counts or not. -/
def Node.texts (fold : Bool) : Node → Language Char
  | .literal text => literalTexts fold text.toList
  | .delimiter => foldings fold ['/']
  | .param q => q.texts fold
  | .option children => Node.textsOf fold children + 1
termination_by structural node => node

/-- The texts that a path is found as, where case counts or not. -/
def Node.textsOf (fold : Bool) : List Node → Language Char
  | [] => 1
  | node :: rest => node.texts fold * Node.textsOf fold rest
termination_by structural nodes => nodes
end

/-- Whether a text of a language stands in a text, right at its ends where there are anchors. -/
def Options.Finds (options : Options) (L : Language Char) (text : List Char) : Prop :=
  ∃ before w after, text = before ++ w ++ after ∧ w ∈ L ∧
    (options.anchorStart = true → before = []) ∧ (options.anchorEnd = true → after = [])

/-- Whether a param takes any text or one of its choices. -/
def Param.Free (q : Param) : Prop := q.choices ≠ [] ∨ q.constraint = .any

variable {kinds : Kinds} {fold : Bool} {options : Options} {p : Pattern} {q : Param}

theorem Param.Free.exists_means (h : q.Free) (kinds : Kinds) (fold : Bool) :
    ∃ body, q.regex kinds fold = .ok body ∧ Means fold body (q.texts fold) := by
  rw [Param.regex, Param.texts]
  by_cases hempty : q.choices = []
  · have hany : q.constraint = .any := h.resolve_left (not_not_intro hempty)
    have hnone : q.choices.isEmpty = true := List.isEmpty_iff.mpr hempty
    rw [if_pos hnone, if_pos hnone, hany]
    exact ⟨_, rfl, means_segment fold⟩
  · have hsome : ¬ q.choices.isEmpty = true := fun h => hempty (List.isEmpty_iff.mp h)
    rw [if_neg hsome, if_neg hsome]
    exact ⟨_, rfl, (spells_choicesRegex fold hempty).means⟩

section Nodes

mutual
/-- A text that a part of a path is found as gives its params some values. -/
theorem Node.exists_parted_iff (node : Node) {w : List Char} :
    (∃ values, node.Parted fold (·.texts fold) w values) ↔ w ∈ node.texts fold := by
  cases node with
  | literal text => exact exists_and_left.trans (and_iff_left exists_eq)
  | delimiter => exact exists_and_left.trans (and_iff_left exists_eq)
  | param q => exact exists_and_left.trans (and_iff_left exists_eq)
  | option children =>
    simp only [Node.Parted]
    rw [exists_or, Node.exists_partedAll_iff children, exists_and_left, and_iff_left exists_eq]
    rfl
termination_by structural node

theorem Node.exists_partedAll_iff (nodes : List Node) {w : List Char} :
    (∃ values, Node.PartedAll fold (·.texts fold) nodes w values) ↔ w ∈ Node.textsOf fold nodes := by
  cases nodes with
  | nil => exact exists_and_left.trans (and_iff_left exists_eq)
  | cons node rest =>
    constructor
    · rintro ⟨_, u, us, v, vs, hu, hv, rfl, rfl⟩
      exact Language.append_mem_mul ((Node.exists_parted_iff node).mp ⟨us, hu⟩)
        ((Node.exists_partedAll_iff rest).mp ⟨vs, hv⟩)
    · rintro ⟨u, hu, v, hv, rfl⟩
      obtain ⟨us, hu⟩ := (Node.exists_parted_iff node).mpr hu
      obtain ⟨vs, hv⟩ := (Node.exists_partedAll_iff rest).mpr hv
      exact ⟨us ++ vs, u, us, v, vs, hu, hv, rfl, rfl⟩
termination_by structural nodes
end

end Nodes

section Paths

variable {text : List Char} {items : List Item} {n : Nat} {L : Language Char}
  {cut : List Char → List (Option String) → Prop}

/-- Between its anchors a regex finds the texts that its parts match. -/
theorem exists_runs_anchored_iff (hd : Denotes 0 (items.map Item.term) cut n)
    (hcut : ∀ w, (∃ values, cut w values) ↔ w ∈ L) :
    (∃ start y, Cursor.On text start ∧
        (Term.group 0 (Item.concat (anchored options items).reverse).term).Runs (start, []) y) ↔
      options.Finds L text := by
  constructor
  · rintro ⟨start, _, hon, y, hruns, -⟩
    obtain ⟨hstart, hitems, hstop⟩ := runs_anchored_iff.mp hruns
    obtain ⟨w, values, stop, marks, hw, hp, rfl, -⟩ := hd.sound hon hitems
    obtain ⟨before, hbefore, htext⟩ := hon.append_rest
    refine ⟨before, w, stop.rest, ?_, (hcut w).mp ⟨values, hw⟩, fun h => ?_, hstop⟩
    · rw [htext, hp.rest_offset.1, List.append_assoc]
    · rw [hon.eq_start (hstart h)] at hbefore
      exact List.length_eq_zero_iff.mp hbefore
  · rintro ⟨before, w, after, rfl, hw, hbefore, hafter⟩
    obtain ⟨values, hw⟩ := (hcut w).mpr hw
    have hon : (Cursor.nth (before ++ w ++ after) before.length).On (before ++ w ++ after) :=
      ⟨_, by rw [List.append_assoc, List.length_append]; exact Nat.le_add_right _ _, rfl⟩
    have hrest : (Cursor.nth (before ++ w ++ after) before.length).rest = w ++ after := by
      rw [List.append_assoc]
      exact List.drop_left
    obtain ⟨stop, hp, hstop⟩ := Cursor.exists_passes hrest
    obtain ⟨m, hitems⟩ := hd.complete [(2 * 0, before.length)] hw hp
    refine ⟨_, _, hon, _, runs_anchored_iff.mpr ⟨fun h => ?_, hitems, fun h => ?_⟩, rfl⟩
    · rw [hbefore h]
      rfl
    · rw [hstop]
      exact hafter h

/-- The regex for a path finds the texts of the path. -/
theorem Pattern.isMatch_iff {r : PathRegex} (h : p.pathRegex kinds options = .ok r)
    (hfree : ∀ q ∈ p.params, q.Free) (path : String) :
    r.regex.isMatch path = true ↔
      options.Finds (Node.textsOf options.ignoreCase p.path) path.toList := by
  obtain ⟨body, items, hbody, hreads, hd⟩ :=
    Node.exists_itemsAll p.path (fun q hq => (hfree q hq).exists_means kinds options.ignoreCase) 0
  obtain ⟨text, item, htext, hitem, -, -, rfl⟩ := pathRegex_eq_ok h
  rw [regexText_eq, hbody] at htext
  cases htext
  rw [String.toList_ofList, readItem?_of_reads hreads] at hitem
  obtain rfl := Option.some.inj hitem
  rw [← exists_runs_anchored_iff hd fun _ => Node.exists_partedAll_iff p.path, Regex.isMatch, Regex.captures?, Option.isSome_map]
  constructor
  · intro h
    obtain ⟨m, hm⟩ := Option.isSome_iff_exists.mp h
    obtain ⟨start, stop, hon, hruns⟩ := (Term.run_program _ _).1 m hm
    exact ⟨start, _, hon, hruns⟩
  · rintro ⟨start, y, hon, hruns⟩
    exact Term.run_program_isSome hon hruns

/-- A path is compiled if its regex keeps to the limits. -/
theorem Pattern.exists_pathRegex (hfree : ∀ q ∈ p.params, q.Free) (hlimits : p.KeepsLimits kinds options) :
    ∃ r, p.pathRegex kinds options = .ok r := by
  obtain ⟨body, items, hbody, hreads, hd⟩ :=
    Node.exists_itemsAll p.path (fun q hq => (hfree q hq).exists_means kinds options.ignoreCase) 0
  have htext : p.regexText kinds options =
      .ok (String.ofList (frontText options ++ body ++ backText options)) := by
    rw [regexText_eq, hbody]
    rfl
  have hread := readItem?_of_reads hreads
  rw [← String.toList_ofList (l := frontText options ++ body ++ backText options)] at hread
  obtain ⟨hheight, hfits⟩ := hlimits _ _ htext hread
  refine ⟨_, pathRegex_of_ofText? htext (ofText?_eq_some_iff.mpr ⟨_, hread, hheight, hfits, rfl⟩) ?_⟩
  have hparams : Node.paramsOf p.path = p.params := rfl
  rw [Regex.groups, lastGroup_anchored, hd.last, hparams]
  split_ifs with hnone
  · exact hnone.symm
  · exact Nat.zero_add _

end Paths

end RoutePattern
