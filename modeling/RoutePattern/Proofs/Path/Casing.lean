import RoutePattern.Proofs.Path.Texts
import RoutePattern.Proofs.Regex.Casing

/-! Paths where case does not count. Their regexes do not tell letters in different case apart, and find
what is found where case counts. -/
namespace RoutePattern

open Regex Text

section Blind

theorem caseBlind_withinSegment : CaseBlind withinSegment := by
  rintro v w h ⟨hne, hslash⟩
  refine ⟨?_, fun hmem => ?_⟩
  · rintro rfl
    exact hne (List.map_eq_nil_iff.mp h)
  · have hmap : '/'.toLower ∈ v.map Char.toLower := h ▸ List.mem_map_of_mem hmem
    obtain ⟨c, hc, hlower⟩ := List.mem_map.mp hmap
    rcases eq_or_otherCase hlower.symm with rfl | ⟨hletter, -⟩
    · exact hslash hc
    · exact absurd hletter (by decide)

theorem caseBlind_charTexts (c : Char) : CaseBlind (charTexts true c) := by
  rw [charTexts]
  split
  · exact caseBlind_foldings [c]
  · refine caseBlind_eitherOf ?_
    rw [charForms, List.forall_mem_cons, List.forall_mem_cons]
    refine ⟨caseBlind_foldings _, caseBlind_foldings _, ?_⟩
    split_ifs
    · exact List.forall_mem_singleton.mpr (caseBlind_foldings _)
    · exact List.forall_mem_nil _

theorem caseBlind_literalTexts (text : List Char) : CaseBlind (literalTexts true text) := by
  induction text with
  | nil => exact caseBlind_one
  | cons c text ih => exact (caseBlind_charTexts c).mul ih

theorem Param.caseBlind_texts (q : Param) : CaseBlind (q.texts true) := by
  rw [texts]
  split
  · exact caseBlind_withinSegment
  · refine caseBlind_eitherOf ?_
    rw [choiceForms, List.forall_mem_map]
    exact fun choice _ => caseBlind_literalTexts choice.toList

mutual
theorem Node.caseBlind_texts (node : Node) : CaseBlind (node.texts true) := by
  cases node with
  | literal text => exact caseBlind_literalTexts text.toList
  | delimiter => exact caseBlind_foldings ['/']
  | param q => exact q.caseBlind_texts
  | option children => exact (Node.caseBlind_textsOf children).add caseBlind_one
termination_by structural node

theorem Node.caseBlind_textsOf (nodes : List Node) : CaseBlind (Node.textsOf true nodes) := by
  cases nodes with
  | nil => exact caseBlind_one
  | cons node rest => exact (Node.caseBlind_texts node).mul (Node.caseBlind_textsOf rest)
termination_by structural nodes
end

end Blind

section Wider

theorem mem_charTexts_true {c : Char} {w : List Char} (h : w ∈ charTexts false c) :
    w ∈ charTexts true c := by
  rw [charTexts_false] at h
  rcases h with rfl | rfl
  · rw [charTexts]
    split
    · exact mem_foldings true [c]
    · exact ⟨_, List.mem_cons_self, mem_foldings true [c]⟩
  · exact encodeChar_mem_charTexts true c

theorem mem_literalTexts_true {text w : List Char} (h : w ∈ literalTexts false text) :
    w ∈ literalTexts true text := by
  induction text generalizing w with
  | nil => exact h
  | cons c text ih =>
    obtain ⟨u, hu, v, hv, rfl⟩ := Language.mem_mul.mp h
    exact Language.append_mem_mul (mem_charTexts_true hu) (ih hv)

theorem Param.mem_texts_true {q : Param} {w : List Char} (h : w ∈ q.texts false) : w ∈ q.texts true := by
  rw [texts] at h ⊢
  split at h
  · next hempty =>
    rw [if_pos hempty]
    exact h
  · next hempty =>
    obtain ⟨form, hform, hw⟩ := h
    obtain ⟨choice, hchoice, rfl⟩ := List.mem_map.mp hform
    rw [if_neg hempty]
    exact ⟨_, List.mem_map_of_mem hchoice, mem_literalTexts_true hw⟩

mutual
theorem Node.mem_texts_true (node : Node) {w : List Char} (h : w ∈ node.texts false) :
    w ∈ node.texts true := by
  cases node with
  | literal text => exact mem_literalTexts_true h
  | delimiter =>
    rw [Node.texts, foldings_false] at h
    rw [h]
    exact mem_foldings true ['/']
  | param q => exact Param.mem_texts_true h
  | option children => exact h.imp (Node.mem_textsOf_true children) id
termination_by structural node

theorem Node.mem_textsOf_true (nodes : List Node) {w : List Char} (h : w ∈ Node.textsOf false nodes) :
    w ∈ Node.textsOf true nodes := by
  cases nodes with
  | nil => exact h
  | cons node rest =>
    obtain ⟨u, hu, v, hv, rfl⟩ := Language.mem_mul.mp h
    exact Language.append_mem_mul (Node.mem_texts_true node hu) (Node.mem_textsOf_true rest hv)
termination_by structural nodes
end

end Wider

section Paths

variable {options : Options} {L M : Language Char} {v w : List Char}

theorem Options.Finds.mono (h : options.Finds L w) (hsub : ∀ v ∈ L, v ∈ M) : options.Finds M w := by
  obtain ⟨before, found, after, htext, hfound, hends⟩ := h
  exact ⟨before, found, after, htext, hsub found hfound, hends⟩

theorem Options.Finds.of_map_toLower_eq (h : options.Finds L v) (hL : CaseBlind L)
    (hcase : v.map Char.toLower = w.map Char.toLower) : options.Finds L w := by
  obtain ⟨before, found, after, rfl, hfound, hstart, hstop⟩ := h
  rw [List.map_append, List.map_append] at hcase
  obtain ⟨_, after', rfl, hcase, hafter⟩ := List.append_eq_map_iff.mp hcase
  obtain ⟨before', found', rfl, hbefore, hfound'⟩ := List.append_eq_map_iff.mp hcase.symm
  refine ⟨before', found', after', rfl, hL _ _ hfound'.symm hfound, fun h => ?_, fun h => ?_⟩
  · rw [hstart h] at hbefore
    exact List.map_eq_nil_iff.mp hbefore
  · rw [hstop h] at hafter
    exact List.map_eq_nil_iff.mp hafter

/-- Where case does not count, and each param takes any text or one of its choices, the regex for a path
matches texts in any case of their ASCII letters or in none, and all those that it matches where case
counts. -/
theorem Pattern.pathRegex_ignoreCase (p : Pattern) (kinds : Kinds) (options : Options)
    (hfree : ∀ q ∈ p.params, q.choices ≠ [] ∨ q.constraint = .any) :
    (∀ fold, p.KeepsLimits kinds { options with ignoreCase := fold } →
      ∃ r, p.pathRegex kinds { options with ignoreCase := fold } = .ok r) ∧
    (∀ r, p.pathRegex kinds { options with ignoreCase := true } = .ok r → ∀ s t : String,
      s.toList.map Char.toLower = t.toList.map Char.toLower →
        r.regex.isMatch s = r.regex.isMatch t) ∧
    ∀ exact blind, p.pathRegex kinds { options with ignoreCase := false } = .ok exact →
      p.pathRegex kinds { options with ignoreCase := true } = .ok blind →
        ∀ s, exact.regex.isMatch s = true → blind.regex.isMatch s = true := by
  refine ⟨fun fold => p.exists_pathRegex hfree, fun r hr s t hcase => ?_,
    fun exact blind hexact hblind s hs => ?_⟩
  · have hblind := Node.caseBlind_textsOf p.path
    rw [Bool.eq_iff_iff, isMatch_iff hr hfree, isMatch_iff hr hfree]
    exact ⟨fun h => h.of_map_toLower_eq hblind hcase, fun h => h.of_map_toLower_eq hblind hcase.symm⟩
  · rw [isMatch_iff hexact hfree] at hs
    exact (isMatch_iff hblind hfree s).mpr (Options.Finds.mono hs fun _ => Node.mem_textsOf_true p.path)

/-- A path with choices. -/
def menu : Pattern where
  source := "/<mark=a,b>"
  path := [.delimiter, .param { name := "mark", default := some "a", choices := ["a", "b"] }]
  query := []

theorem keepsLimits_menu (fold : Bool) : menu.KeepsLimits ∅ { ignoreCase := fold } := by
  intro text item htext hitem
  have hall : ∀ fold, ((menu.regexText ∅ { ignoreCase := fold }).toOption.all fun text =>
      (readItem? text.toList).all fun item =>
        decide (item.height ≤ nestLimit) && item.term.fits) = true := by decide +kernel
  have hfold := hall fold
  rw [htext, Except.toOption, Option.all_some, hitem, Option.all_some, Bool.and_eq_true,
    decide_eq_true_eq] at hfold
  exact hfold

theorem isMatch_menu : (∀ q ∈ menu.params, q.choices ≠ [] ∨ q.constraint = .any) ∧
    ∃ exact blind, menu.pathRegex ∅ {} = .ok exact ∧
      menu.pathRegex ∅ { ignoreCase := true } = .ok blind ∧
      exact.regex.isMatch "/b" = true ∧ blind.regex.isMatch "/b" = true ∧
        blind.regex.isMatch "/B" = true := by
  have hfree : ∀ q ∈ menu.params, q.choices ≠ [] ∨ q.constraint = .any := by decide
  obtain ⟨hcompiles, hblind, hwider⟩ := menu.pathRegex_ignoreCase ∅ {} hfree
  obtain ⟨exact, hexact⟩ := hcompiles false (keepsLimits_menu false)
  obtain ⟨blind, hcompiled⟩ := hcompiles true (keepsLimits_menu true)
  have hwritten : ['b'] ∈ literalTexts false ['b'] := written_mem_literalTexts false ['b']
  have hchoice : ['b'] ∈ Node.textsOf false [.param { name := "mark", choices := ["a", "b"] }] :=
    ⟨_, ⟨_, List.mem_cons_of_mem _ List.mem_cons_self, hwritten⟩, [], rfl, rfl⟩
  have hmatch : exact.regex.isMatch "/b" = true := (Pattern.isMatch_iff hexact hfree "/b").mpr
    ⟨[], _, [], rfl, ⟨['/'], mem_foldings false ['/'], _, hchoice, rfl⟩, fun _ => rfl, fun _ => rfl⟩
  have hwide := hwider exact blind hexact hcompiled _ hmatch
  refine ⟨hfree, exact, blind, hexact, hcompiled, hmatch, hwide, ?_⟩
  rw [← hblind blind hcompiled "/b" _ (by decide)]
  exact hwide

end Paths

end RoutePattern
