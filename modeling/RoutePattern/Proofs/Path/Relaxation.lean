import RoutePattern.Proofs.Path.Isolation
import RoutePattern.Proofs.Regex.Lockstep

/-! The regex for a path without one of its anchors, or without both. It matches where the regex with both
does, from the start of the path, and has the same groups unless it stops before the end. -/
namespace RoutePattern

open Regex State

/-- What is read of the regex for a path with those items, under the options. -/
def anchoredTerm (options : Options) (items : List Item) : Term :=
  (Item.concat (anchored options items).reverse).term

section Terms

variable {options options' : Options} {items : List Item} {text : List Char} {m : Marks}

/-- The mark for case is no part of the program. -/
theorem fragment_anchoredTerm (options : Options) (items : List Item) :
    (anchoredTerm options items).fragment =
      (Fragment.chain ((anchorItems options.anchorStart .textStart).map (·.term.fragment))).seq
        ((Fragment.chain (items.map (·.term.fragment))).seq
          (Fragment.chain ((anchorItems options.anchorEnd .textStop).map (·.term.fragment)))) := by
  have hopening : Fragment.chain ((openingItems options.ignoreCase).map (·.term.fragment)) =
      Fragment.skip := by
    cases options.ignoreCase with
    | false => rfl
    | true => exact Fragment.seq_skip
  rw [anchoredTerm, fragment_itemConcat, List.reverse_reverse, anchored, List.map_append,
    List.map_append, List.map_append, Fragment.chain_append, Fragment.chain_append,
    Fragment.chain_append, hopening, Fragment.skip_seq, Fragment.seq_assoc]

theorem program_anchoredTerm_congr (hstart : options'.anchorStart = options.anchorStart)
    (hstop : options'.anchorEnd = options.anchorEnd) :
    (anchoredTerm options' items).program = (anchoredTerm options items).program := by
  rw [Term.program, Term.program, fragment_anchoredTerm, fragment_anchoredTerm, hstart, hstop]

/-- The groups are those of the items, with the anchors and without. -/
theorem lastGroup_anchoredTerm :
    (anchoredTerm options' items).lastGroup = (anchoredTerm options items).lastGroup := by
  have hle (n : Nat) : (anchoredTerm options' items).lastGroup ≤ n ↔
      (anchoredTerm options items).lastGroup ≤ n := by
    rw [Term.lastGroup_le_iff, Term.lastGroup_le_iff]
    exact indices_anchored.trans indices_anchored.symm
  exact Nat.le_antisymm ((hle _).mpr (Nat.le_refl _)) ((hle _).mp (Nat.le_refl _))

/-- The end anchor is the last instruction in front of the end of a match. -/
theorem exists_run_of_anchorEnd (options' : Options) (hstop : options.anchorEnd = true)
    (hsame : options'.anchorStart = options.anchorStart)
    (hm : (anchoredTerm options items).program.run text = some m) :
    ∃ m', (anchoredTerm options' items).program.run text = some m' ∧
      ((Captures.mk text m').span? 0 = some (0, text.length) → m' = m) := by
  cases hend : options'.anchorEnd with
  | true =>
    rw [program_anchoredTerm_congr hsame (hend.trans hstop.symm)]
    exact ⟨m, hm, fun _ => rfl⟩
  | false =>
    refine Term.run_of_textStop ?_ (fun x y hr => ?_) hm
    · have hchain : Fragment.chain ((anchorItems true .textStop).map (·.term.fragment)) =
          .one (.look .textStop) := Fragment.chain_singleton
      have hnil : Fragment.chain ((anchorItems false .textStop).map (·.term.fragment)) = .skip := rfl
      rw [fragment_anchoredTerm, fragment_anchoredTerm, hsame, hstop, hend, hchain, hnil,
        Fragment.seq_skip, Fragment.seq_assoc]
    · obtain ⟨hbefore, hitems, -⟩ := runs_anchored_iff.mp hr
      refine runs_anchored_iff.mpr ⟨fun h => hbefore (hsame ▸ h), hitems, fun h => ?_⟩
      rw [hend] at h
      cases h

/-- The start anchor holds at the first position, where the search begins. -/
theorem run_of_anchorStart (hm : (anchoredTerm options items).program.run text = some m)
    (hstart : options.anchorStart = true) (hsame : options'.anchorEnd = options.anchorEnd) :
    (anchoredTerm options' items).program.run text = some m := by
  cases hbegin : options'.anchorStart with
  | true =>
    rw [program_anchoredTerm_congr (hbegin.trans hstart.symm) hsame]
    exact hm
  | false =>
    refine Term.run_of_textStart ?_ (fun x y hr => ?_) hm
    · have hchain : Fragment.chain ((anchorItems true .textStart).map (·.term.fragment)) =
          .one (.look .textStart) := Fragment.chain_singleton
      have hnil : Fragment.chain ((anchorItems false .textStart).map (·.term.fragment)) = .skip := rfl
      rw [fragment_anchoredTerm, fragment_anchoredTerm, hsame, hstart, hbegin, hchain, hnil,
        Fragment.skip_seq]
    · obtain ⟨hbefore, hitems, hrest⟩ := runs_anchored_iff.mp hr
      refine ⟨hbefore hstart, runs_anchored_iff.mpr ⟨fun h => ?_, hitems, fun h => hrest (hsame ▸ h)⟩⟩
      rw [hbegin] at h
      cases h

/-- A match with both anchors gives one without some of them, which begins where the text does, and is
the same one if it ends where the text does. -/
theorem exists_run_relaxed (options' : Options) (hstart : options.anchorStart = true)
    (hstop : options.anchorEnd = true) (hpos : ∀ item ∈ items, item.term.Indices (0 < ·))
    (hm : (anchoredTerm options items).program.run text = some m) :
    ∃ m' stop, (anchoredTerm options' items).program.run text = some m' ∧
      (Captures.mk text m').span? 0 = some (0, stop) ∧ stop ≤ text.length ∧
      (options'.anchorEnd = true → stop = text.length) ∧ (stop = text.length → m' = m) := by
  -- the anchor at the end goes first, while the one at the start still tells where the match begins
  let half : Options := { options' with anchorStart := true }
  obtain ⟨m', hm', heq⟩ := exists_run_of_anchorEnd half hstop hstart.symm hm
  obtain ⟨start, stop, new, hon, hon', hruns, hspan⟩ :=
    Term.span?_of_run (indices_anchored.mpr hpos) hm'
  obtain ⟨hbefore, -, hrest⟩ := runs_anchored_iff.mp hruns
  rw [hon.eq_start (hbefore rfl)] at hspan
  refine ⟨m', stop.offset, run_of_anchorStart hm' rfl rfl, hspan, hon'.eq_nth.1, fun hend => ?_,
    fun hend => ?_⟩
  · exact congrArg Cursor.offset (hon'.eq_stop (hrest hend))
  · rw [hend] at hspan
    exact heq hspan

end Terms

section Heights

variable {options options' : Options} {items : List Item}

theorem height_itemConcat_le (items : List Item) :
    (Item.concat items).height ≤ Item.maxHeight items + 1 := by
  match items with
  | [] => exact Nat.zero_le _
  | [item] =>
    have hmax : Item.maxHeight [item] = max 0 item.height := rfl
    rw [hmax, Nat.zero_max]
    exact Nat.le_succ item.height
  | _ :: _ :: _ => exact Nat.le_refl _

theorem height_itemConcat (h : 2 ≤ items.length) :
    (Item.concat items).height = Item.maxHeight items + 1 := by
  match items with
  | _ :: _ :: _ => rfl

/-- What stands around the items does not nest. -/
theorem mem_anchored {item : Item} (h : item ∈ anchored options items) :
    item ∈ items ∨ item.height = 0 := by
  have hanchor {shown : Bool} {l : Look} (h : item ∈ anchorItems shown l) : item.height = 0 := by
    cases shown with
    | false => cases h
    | true => rw [List.mem_singleton.mp h]
  rw [anchored, List.mem_append, List.mem_append, List.mem_append] at h
  rcases h with h | (h | h) | h
  · right
    cases hcase : options.ignoreCase with
    | false =>
      rw [hcase] at h
      cases h
    | true =>
      rw [hcase] at h
      rw [List.mem_singleton.mp h]
  · exact Or.inr (hanchor h)
  · exact Or.inl h
  · exact Or.inr (hanchor h)

/-- Without an anchor a regex does not nest deeper than with both. -/
theorem height_anchored_le (hstart : options.anchorStart = true) (hstop : options.anchorEnd = true) :
    (Item.concat (anchored options' items).reverse).height ≤
      (Item.concat (anchored options items).reverse).height := by
  have hlength : 2 ≤ (anchored options items).reverse.length := by
    rw [List.length_reverse, anchored, hstart, hstop]
    simp only [anchorItems, if_true, List.length_append, List.length_singleton]
    omega
  rw [height_itemConcat hlength]
  refine (height_itemConcat_le _).trans (Nat.succ_le_succ (maxHeight_le_iff.mpr fun item hi => ?_))
  rcases mem_anchored (List.mem_reverse.mp hi) with hitem | hzero
  · have hmem : item ∈ (anchored options items).reverse := by
      rw [List.mem_reverse, anchored]
      simp only [List.mem_append, hitem, true_or, or_true]
    exact maxHeight_le_iff.mp (Nat.le_refl _) item hmem
  · rw [hzero]
    exact Nat.zero_le _

end Heights

section Compiled

variable {p : Pattern} {kinds : Kinds} {options options' : Options} {r : PathRegex}

theorem readItem?_of_readsOn {text : List Char} {items : List Item} {n : Nat}
    {names : List (List Char)} (h : ReadsOn options.ignoreCase 0 [] text n names items) :
    readItem? (frontText options ++ text ++ backText options) =
      some (Item.concat (anchored options items).reverse) := by
  obtain ⟨st, hst, hsettled⟩ := h.run (frontLevel options) []
    (between options.ignoreCase (frontLevel options) [] 0 []) rfl
  rw [readItem?, List.append_assoc, foldlM_append_of_foldlM (foldlM_frontText options),
    foldlM_append_of_foldlM hst]
  exact finish?_backText hsettled

/-- If a path is compiled with both anchors, then also without some of them, unless the automaton becomes
too large. The regexes find the same groups where the one without anchors ends with the path. -/
theorem Pattern.pathRegex_relaxed (h : p.pathRegex kinds options = .ok r)
    (hc : ∀ q ∈ p.params, ∀ text, q.fragment? kinds = some text → isContained text.toList = true)
    (hstart : options.anchorStart = true) (hstop : options.anchorEnd = true)
    (hcase : options'.ignoreCase = options.ignoreCase) :
    (∃ r', p.pathRegex kinds options' = .ok r' ∧ r'.groups = r.groups ∧
      ∀ path captures, r.regex.captures? path = some captures → ∃ captures' stop,
        r'.regex.captures? path = some captures' ∧ captures'.span? 0 = some (0, stop) ∧
        stop ≤ path.toList.length ∧ (options'.anchorEnd = true → stop = path.toList.length) ∧
        (stop = path.toList.length → captures' = captures)) ∨
      p.pathRegex kinds options' = .error (.invalidRegex p.source .malformed) ∧
        ∃ text t, p.regexText kinds options' = .ok text ∧ read? text.toList = some t ∧
          t.fits = false := by
  obtain ⟨body, items, g', names', slots, hbody, -, hreads, hcounted, -⟩ := exists_laid h hc
  obtain ⟨text, item, htext, hitem, hheight, hlast, rfl⟩ := pathRegex_eq_ok h
  rw [regexText_eq, hbody] at htext
  obtain rfl := Except.ok.inj htext
  rw [String.toList_ofList, readItem?_of_readsOn hreads] at hitem
  obtain rfl := Option.some.inj hitem
  let text' := String.ofList (frontText options' ++ body ++ backText options')
  have htext' : p.regexText kinds options' = .ok text' := by
    rw [regexText_eq, hcase, hbody]
    rfl
  have hitem' : readItem? text'.toList = some (Item.concat (anchored options' items).reverse) := by
    rw [String.toList_ofList]
    exact readItem?_of_readsOn (hcase ▸ hreads)
  have hread : read? text'.toList = some (anchoredTerm options' items) := by
    rw [read?, hitem', Option.bind_some, if_pos ((height_anchored_le hstart hstop).trans hheight)]
    rfl
  have hlast' : (anchoredTerm options' items).lastGroup = p.params.length :=
    lastGroup_anchoredTerm.trans hlast
  cases hfits : (anchoredTerm options' items).fits with
  | false =>
    have hnone : Regex.ofText? text' = none := by
      rw [Regex.ofText?, hread, Option.bind_eq_bind, Option.bind_some, hfits]
      rfl
    refine Or.inr ⟨?_, text', _, htext', hread, hfits⟩
    simp only [pathRegex, bind, Except.bind, htext', hnone]
  | true =>
    let regex : Regex :=
      ⟨text', anchoredTerm options' items, (anchoredTerm options' items).program⟩
    have hsome : Regex.ofText? text' = some regex := by
      rw [Regex.ofText?, hread, Option.bind_eq_bind, Option.bind_some, if_pos hfits]
    refine Or.inl ⟨_, pathRegex_of_ofText? htext' hsome hlast', rfl, fun path captures hcaptures => ?_⟩
    obtain ⟨m, hm, rfl⟩ := Option.map_eq_some_iff.mp hcaptures
    obtain ⟨m', stop, hm', hspan, hle, hend, hsame⟩ :=
      exists_run_relaxed options' hstart hstop hcounted.positive hm
    exact ⟨⟨path.toList, m'⟩, stop, Option.map_eq_some_iff.mpr ⟨m', hm', rfl⟩, hspan, hle, hend,
      fun hstop => congrArg (Captures.mk path.toList) (hsame hstop)⟩

end Compiled

end RoutePattern
