import RoutePattern.Kind
import RoutePattern.Proofs.Regex.Fragment
import RoutePattern.Proofs.Regex.Whole

/-! Kinds hold whole values to their fragments as these are read alone. -/
namespace RoutePattern

open Regex

section Fragments

variable {fragment : String} {item : Item}

/-- What a fragment is read as in brackets that do not capture. -/
theorem readItem?_bracketed (hs : staysInside fragment.toList = true) :
    readItem? (s!"(?:{fragment})").toList = some item ↔
      ∃ x, readItem? fragment.toList = some x ∧ State.grouped none x = item := by
  have htext : (s!"(?:{fragment})").toList = [] ++ ("(?:".toList ++ (fragment.toList ++ [')'])) := by
    simp [toString]
  have hstart : [].foldlM State.step {} = some (State.between false {} [] 0 []) := rfl
  rw [htext, readItem?_wrapped_eq_some_iff hs List.not_mem_nil hstart]
  constructor
  · intro h
    obtain ⟨a, x, ha, hx, hitem⟩ := h
    exact ⟨x, by rw [readItem?, ha]; exact hx, Option.some.inj hitem⟩
  · intro h
    obtain ⟨x, hx, rfl⟩ := h
    obtain ⟨a, ha, hx⟩ := Option.bind_eq_some_iff.mp hx
    exact ⟨a, x, ha, hx, rfl⟩

/-- What a fragment is read as in brackets that do not capture, between the anchors. -/
theorem readItem?_anchored (hs : staysInside fragment.toList = true)
    (h : readItem? (s!"^(?:{fragment})$").toList = some item) :
    ∃ x, readItem? fragment.toList = some x ∧
      item = Item.concat [{ term := .look .textStop }, State.grouped none x,
        { term := .look .textStart }] := by
  have htext : (s!"^(?:{fragment})$").toList =
      ['^'] ++ ("(?:".toList ++ (fragment.toList ++ ')' :: ['$'])) := by
    simp [toString]
  have hstart : ['^'].foldlM State.step {} =
      some (State.between false { items := [{ term := .look .textStart }] } [] 0 []) := rfl
  rw [htext, readItem?_wrapped_eq_some_iff hs (by decide) hstart] at h
  obtain ⟨a, x, ha, hx, hitem⟩ := h
  exact ⟨x, by rw [readItem?, ha]; exact hx, (Option.some.inj hitem).symm⟩

/-- A kind accepts the values that its fragment, as it is read alone, matches as a whole. -/
theorem Kind.accepts_iff_matchesWhole {k : Kind} (hs : staysInside k.fragment.toList = true)
    (hx : readItem? k.fragment.toList = some item) {value : String} :
    k.accepts value = true ↔ item.term.MatchesWhole value.toList := by
  obtain ⟨exact, hexact, -, -, hregex⟩ := ofText?_eq_some_iff.mp k.exact_eq
  obtain ⟨y, hy, rfl⟩ := readItem?_anchored hs hexact
  obtain rfl : item = y := Option.some.inj (hx.symm.trans hy)
  rw [accepts, Regex.isMatch, Regex.captures?, hregex, Option.isSome_map]
  exact run_isSome_iff_matchesWhole fun _ _ => runs_itemConcat

end Fragments

/-- A fragment that keeps to its brackets is taken for a kind if and only if it is a regex on its own
without groups, which nests less deeply than it may. A kind accepts the values that its fragment, as a
regex on its own, matches as a whole. -/
theorem Kind.isFragment_and_accepts_iff (fragment : String)
    (hs : staysInside fragment.toList = true) :
    (RoutePattern.isFragment fragment = true ↔ ∃ r, Regex.ofText? fragment = some r ∧ r.groups = 0 ∧
      ∀ item, readItem? fragment.toList = some item → item.height < nestLimit) ∧
    ∀ name k, Kind.make name fragment = .ok k → ∃ r, Regex.ofText? fragment = some r ∧
      r.groups = 0 ∧ ∀ value, k.accepts value = true ↔ r.term.MatchesWhole value.toList := by
  have hfragment : RoutePattern.isFragment fragment = true ↔ ∃ r, Regex.ofText? fragment = some r ∧
      r.groups = 0 ∧ ∀ item, readItem? fragment.toList = some item → item.height < nestLimit := by
    rw [RoutePattern.isFragment, Option.any_eq_true]
    constructor
    · intro h
      obtain ⟨r, hr, hgroups⟩ := h
      obtain ⟨item, hitem, hheight, hfits, rfl⟩ := ofText?_eq_some_iff.mp hr
      obtain ⟨x, hx, rfl⟩ := (readItem?_bracketed hs).mp hitem
      refine ⟨_, ofText?_eq_some_iff.mpr ⟨x, hx, Nat.le_of_succ_le hheight, hfits, rfl⟩,
        of_decide_eq_true hgroups, fun y hy => ?_⟩
      obtain rfl : x = y := Option.some.inj (hx.symm.trans hy)
      exact hheight
    · intro h
      obtain ⟨r, hr, hgroups, hnest⟩ := h
      obtain ⟨x, hx, -, hfits, rfl⟩ := ofText?_eq_some_iff.mp hr
      exact ⟨_, ofText?_eq_some_iff.mpr
        ⟨State.grouped none x, (readItem?_bracketed hs).mpr ⟨x, hx, rfl⟩, hnest x hx, hfits, rfl⟩,
        decide_eq_true hgroups⟩
  refine ⟨hfragment, fun name k hk => ?_⟩
  obtain ⟨-, rfl⟩ := make_eq_ok hk
  obtain ⟨r, hr, hgroups, -⟩ := hfragment.mp k.isFragment
  refine ⟨r, hr, hgroups, fun value => ?_⟩
  obtain ⟨x, hx, -, -, rfl⟩ := ofText?_eq_some_iff.mp hr
  exact accepts_iff_matchesWhole hs hx

/-- Both branches of a fragment are held against the whole value. -/
theorem Kind.accepts_alternation :
    ∃ k, Kind.make "word" "a|ab" = .ok k ∧ k.accepts "ab" = true := by
  have hinside : staysInside "a|ab".toList = true := by decide +kernel
  have hmade : (Kind.make "word" "a|ab").toOption.isSome = true := by decide +kernel
  have hread : readItem? "a|ab".toList = some
      { term := .alt (.set (CharSet.singleton 'a'))
          (.cat (.set (CharSet.singleton 'a')) (.set (CharSet.singleton 'b'))), height := 2 } := rfl
  obtain ⟨-, hkinds⟩ := Kind.isFragment_and_accepts_iff "a|ab" hinside
  cases hk : Kind.make "word" "a|ab" with
  | error e =>
    rw [hk] at hmade
    cases hmade
  | ok k =>
    obtain ⟨r, hr, -, haccepts⟩ := hkinds "word" k hk
    obtain ⟨item, hitem, -, -, rfl⟩ := ofText?_eq_some_iff.mp hr
    obtain rfl := Option.some.inj (hread.symm.trans hitem)
    have hmatch : (Regex.Term.alt (.set (CharSet.singleton 'a'))
        (.cat (.set (CharSet.singleton 'a')) (.set (CharSet.singleton 'b')))).MatchesWhole
          ['a', 'b'] :=
      ⟨[], Or.inr ⟨_, ⟨'a', _, rfl, rfl, rfl⟩, 'b', _, rfl, rfl, rfl⟩⟩
    exact ⟨k, rfl, (haccepts "ab").mpr hmatch⟩

/-- A fragment that closes the brackets around it and opens others is taken for a kind, though it is no
regex on its own, and the kind accepts more than whole values. -/
theorem Kind.accepts_unbalanced :
    RoutePattern.isFragment "a)|(?:b" = true ∧ Regex.ofText? "a)|(?:b" = none ∧
      ∃ k, Kind.make "K" "a)|(?:b" = .ok k ∧ k.accepts "axx" = true ∧ k.accepts "zzb" = true := by
  have hfound : ((Kind.make "K" "a)|(?:b").toOption.map fun k =>
      (k.accepts "axx", k.accepts "zzb")) = some (true, true) := by decide +kernel
  have hread : readItem? "a)|(?:b".toList = none := rfl
  refine ⟨by decide +kernel, ?_, ?_⟩
  · rw [Regex.ofText?, read?, hread]
    rfl
  · cases hk : Kind.make "K" "a)|(?:b" with
    | error e =>
      rw [hk] at hfound
      cases hfound
    | ok k =>
      rw [hk] at hfound
      obtain ⟨haxx, hzzb⟩ := Prod.mk.inj (Option.some.inj hfound)
      exact ⟨k, rfl, haxx, hzzb⟩

/-- Whether the fragment of a kind is a regex on its own that opens no group that captures and makes no
conditions on positions. -/
def Kind.Sound (k : Kind) : Prop :=
  ∃ st item, k.fragment.toList.foldlM State.step {} = some st ∧ st.finish? = some item ∧
    st.groups = 0 ∧ item.term.NoLook

section Sound

variable {k : Kind}

/-- In brackets a fragment is read only if they are closed, so that it does not end in a comment. -/
theorem Kind.comment_eq {st : State} (h : k.fragment.toList.foldlM State.step {} = some st) :
    st.comment = false := by
  obtain ⟨r, hr, -⟩ := (Option.any_eq_true _ _).mp k.isFragment
  obtain ⟨item, hitem, -⟩ := ofText?_eq_some_iff.mp hr
  have htext : (s!"(?:{k.fragment})").toList =
      "(?:".toList ++ (k.fragment.toList ++ [')']) := by
    simp [toString]
  let frame : Frame := ⟨{}, none, State.caseFlags false⟩
  have hopen : "(?:".toList.foldlM State.step {} = some (State.within [frame] 0 [] {}) := rfl
  have hinside := State.foldlM_within [frame] 0 [] h (Or.inr ⟨rfl, rfl⟩)
  rw [htext, readItem?, State.foldlM_append_of_foldlM hopen,
    State.foldlM_append_of_foldlM hinside] at hitem
  by_contra hcomment
  rw [Bool.not_eq_false] at hcomment
  have hstep : (st.within [frame] 0 []).step ')' = some (st.within [frame] 0 []) := by
    obtain ⟨flags, level, outer, groups, names, classes, mode, comment⟩ := st
    obtain rfl : comment = true := hcomment
    rfl
  rw [State.foldlM_cons_of_step hstep] at hitem
  have houter : st.outer ++ [frame] = [] := State.outer_eq_nil_of_finish? hitem
  exact List.cons_ne_nil _ _ (List.append_eq_nil_iff.mp houter).2

theorem Kind.Sound.means (h : k.Sound) :
    Means false k.fragment.toList (languageOf k.fragment.toList) := by
  obtain ⟨st, item, hread, hfinish, hgroups, hlook⟩ := h
  rw [languageOf_of_finish? hread hfinish]
  exact means_of_finish? hread hfinish hgroups (comment_eq hread) hlook

/-- A sound kind accepts the texts that its fragment stands for. -/
theorem Kind.Sound.accepts_iff (h : k.Sound) {value : String} :
    k.accepts value = true ↔ value.toList ∈ languageOf k.fragment.toList := by
  obtain ⟨st, item, hread, hfinish, hgroups, hlook⟩ := h
  have hitem : readItem? k.fragment.toList = some item := by
    rw [readItem?, hread]
    exact hfinish
  have hinside : staysInside k.fragment.toList = true := by
    rw [staysInside, State.closesOwn_of_foldlM hread, hread, Option.all_some, comment_eq hread]
    rfl
  rw [languageOf_of_finish? hread hfinish, accepts_iff_matchesWhole hinside hitem]
  exact (Term.consumes_language hlook (noGroup_of_read hread hgroups hfinish)).matchesWhole_iff

end Sound

end RoutePattern
