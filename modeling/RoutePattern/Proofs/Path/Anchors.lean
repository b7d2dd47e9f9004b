import RoutePattern.PathRegex
import RoutePattern.Proofs.Regex.Search
import RoutePattern.Proofs.Regex.Spelling

/-! What stands around the regex for the parts of a path: the mark for case, and the anchors. -/
namespace RoutePattern

open Regex

/-- What the mark in front of a regex where case does not count is read as. -/
def openingItems (fold : Bool) : List Item :=
  if fold then [{ term := .empty, repeatable := false }] else []

/-- What an anchor is read as, if there is one. -/
def anchorItems (anchored : Bool) (l : Look) : List Item :=
  if anchored then [{ term := .look l }] else []

/-- The items of the regex for a path with those items, under the options. -/
def anchored (options : Options) (items : List Item) : List Item :=
  openingItems options.ignoreCase ++
    (anchorItems options.anchorStart .textStart ++ items ++
      anchorItems options.anchorEnd .textStop)

/-- What stands in front of the parts of a path. -/
def frontText (options : Options) : List Char :=
  (if options.ignoreCase then "(?i)".toList else []) ++
    (if options.anchorStart then ['^'] else [])

/-- What stands behind the parts of a path. -/
def backText (options : Options) : List Char := if options.anchorEnd then ['$'] else []

/-- The level on which the parts of a path are read. -/
def frontLevel (options : Options) : Level :=
  Level.pushAll {} (openingItems options.ignoreCase ++ anchorItems options.anchorStart .textStart)

section Reading

variable {options : Options} {items : List Item} {st : State} {g : Nat} {names : List (List Char)}
  {x y : Spot}

theorem Pattern.regexText_eq (p : Pattern) (kinds : Kinds) (options : Options) :
    p.regexText kinds options = (Node.regexOf kinds options.ignoreCase p.path).map fun body =>
      String.ofList (frontText options ++ body ++ backText options) := rfl

theorem foldlM_frontText (options : Options) : (frontText options).foldlM State.step {} =
    some (State.between options.ignoreCase (frontLevel options) [] 0 []) := by
  obtain ⟨fold, start, stop⟩ := options
  cases fold <;> cases start <;> rfl

/-- What stands behind the parts of a path opens no group. -/
theorem exists_foldlM_backText
    (h : st.settled = State.between options.ignoreCase ((frontLevel options).pushAll items) [] g names) :
    ∃ st', (backText options).foldlM State.step st = some st' ∧ st'.settled =
      State.between options.ignoreCase (Level.pushAll {} (anchored options items)) [] g names := by
  have hstop : Reads options.ignoreCase g (backText options) g
      (anchorItems options.anchorEnd .textStop) := by
    rw [backText]
    cases options.anchorEnd with
    | false => exact reads_nil
    | true => exact reads_step (by decide) fun _ _ _ => rfl
  obtain ⟨st', hst', hsettled⟩ := hstop.run _ [] names st h
  have hlevel : ((frontLevel options).pushAll items).pushAll
      (anchorItems options.anchorEnd .textStop) = Level.pushAll {} (anchored options items) := by
    simp only [frontLevel, ← Level.pushAll_append, anchored, List.append_assoc]
  exact ⟨st', hst', hlevel ▸ hsettled⟩

/-- What stands behind the parts of a path ends the regex. -/
theorem finish?_backText
    (h : st.settled = State.between options.ignoreCase ((frontLevel options).pushAll items) [] g names) :
    ((backText options).foldlM State.step st).bind State.finish? =
      some (Item.concat (anchored options items).reverse) := by
  obtain ⟨st', hst', hsettled⟩ := exists_foldlM_backText h
  rw [hst', Option.bind_some, State.finish?_settled hsettled]
  exact congrArg (fun items => some (Item.concat items)) (List.append_nil _)

theorem readItem?_of_reads {text : List Char} {n : Nat} (h : Reads options.ignoreCase 0 text n items) :
    readItem? (frontText options ++ text ++ backText options) =
      some (Item.concat (anchored options items).reverse) := by
  obtain ⟨st, hst, hsettled⟩ := h.run (frontLevel options) [] []
    (State.between options.ignoreCase (frontLevel options) [] 0 []) rfl
  rw [readItem?, List.append_assoc, State.foldlM_append_of_foldlM (foldlM_frontText options),
    State.foldlM_append_of_foldlM hst]
  exact finish?_backText hsettled

/-- Neither the anchors nor the mark for case have groups. -/
theorem indices_anchored {P : Nat → Prop} :
    (Item.concat (anchored options items).reverse).term.Indices P ↔
      ∀ item ∈ items, item.term.Indices P := by
  have hopening : ∀ item ∈ openingItems options.ignoreCase, item.term.Indices P := by
    intro item hi
    rw [openingItems] at hi
    split at hi
    · rw [List.mem_singleton.mp hi]
      trivial
    · cases hi
  have hanchor (shown : Bool) (l : Look) : ∀ item ∈ anchorItems shown l, item.term.Indices P := by
    intro item hi
    rw [anchorItems] at hi
    split at hi
    · rw [List.mem_singleton.mp hi]
      trivial
    · cases hi
  simp only [indices_itemConcat, List.mem_reverse, anchored, List.forall_mem_append,
    iff_true_intro hopening, iff_true_intro (hanchor _ _), true_and, and_true]

/-- The mark for case matches the empty text. -/
theorem runs_openingItems {fold : Bool} :
    Term.RunsAll ((openingItems fold).map Item.term) x y ↔ y = x := by
  cases fold with
  | false => exact Iff.rfl
  | true => exact Term.runsAll_singleton

theorem runs_anchorItems {shown : Bool} {l : Look} :
    Term.RunsAll ((anchorItems shown l).map Item.term) x y ↔
      (shown = true → l.holds x.1.before x.1.rest.head? = true) ∧ y = x := by
  cases shown with
  | false => exact ⟨fun h => ⟨nofun, h⟩, And.right⟩
  | true => exact Term.runsAll_singleton.trans ⟨fun h => ⟨fun _ => h.1, h.2⟩, fun h => ⟨h.1 rfl, h.2⟩⟩

/-- Between its anchors a regex matches what its parts match, from the start of the text and to its end if
it has them. -/
theorem runs_anchored_iff :
    (Item.concat (anchored options items).reverse).term.Runs x y ↔
      (options.anchorStart = true → x.1.before = none) ∧ Term.RunsAll (items.map Item.term) x y ∧
        (options.anchorEnd = true → y.1.rest = []) := by
  have hstart : Look.textStart.holds x.1.before x.1.rest.head? = true ↔ x.1.before = none :=
    Option.isNone_iff_eq_none
  have hstop : Look.textStop.holds y.1.before y.1.rest.head? = true ↔ y.1.rest = [] :=
    Option.isNone_iff_eq_none.trans List.head?_eq_none_iff
  have hclose (z : Spot) : Term.RunsAll ((anchorItems options.anchorEnd .textStop).map Item.term) z y ↔
      (options.anchorEnd = true → y.1.rest = []) ∧ y = z := by
    rw [runs_anchorItems]
    exact and_congr_left fun hz => by rw [← hz, hstop]
  rw [runs_itemConcat, List.reverse_reverse, anchored]
  simp only [List.map_append, Term.runsAll_append, runs_openingItems, runs_anchorItems, hclose,
    exists_eq_left, hstart]
  constructor
  · rintro ⟨z, ⟨w, ⟨hbefore, rfl⟩, hitems⟩, hafter, rfl⟩
    exact ⟨hbefore, hitems, hafter⟩
  · rintro ⟨hbefore, hitems, hafter⟩
    exact ⟨y, ⟨x, ⟨hbefore, rfl⟩, hitems⟩, hafter, rfl⟩

/-- A regex with both anchors is a chain that begins and ends with them. -/
theorem runs_anchored (hstart : options.anchorStart = true) (hstop : options.anchorEnd = true) :
    (Item.concat (anchored options items).reverse).term.Runs x y ↔
      Term.RunsAll (.look .textStart :: items.map Item.term ++ [.look .textStop]) x y := by
  rw [runs_itemConcat, List.reverse_reverse, anchored, hstart, hstop, List.map_append,
    List.map_append, List.map_append, Term.runsAll_append]
  simp only [runs_openingItems, exists_eq_left]
  rfl

end Reading

end RoutePattern
