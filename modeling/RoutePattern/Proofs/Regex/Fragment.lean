import RoutePattern.Proofs.Regex.Mirror

/-! Fragments are texts that are put between the parentheses of a group. One that closes no group but its
own is read there as it is read alone. -/
namespace RoutePattern.Regex

namespace State

/-- Whether no parenthesis of a text closes a group around it. One does that where the text could have
ended. -/
def closesOwn : State → List Char → Bool
  | _, [] => true
  | st, c :: rest =>
    match st.step c with
    | some next => next.closesOwn rest
    | none => !(c == ')' && st.finish?.isSome)

variable {o : List Frame} {lo : Nat} {a a' b b' st : State} {text rest : List Char} {x : Item} {c : Char}

theorem closesOwn_cons_of_step (h : st.step c = some a) :
    st.closesOwn (c :: text) = a.closesOwn text := by
  rw [closesOwn, h]

theorem closesOwn_of_not_mem (h : ')' ∉ text) : st.closesOwn text = true := by
  induction text generalizing st with
  | nil => rfl
  | cons c text ih =>
    rw [List.mem_cons, not_or] at h
    rw [closesOwn]
    split
    · exact ih h.2
    · rw [beq_eq_false_iff_ne.mpr (Ne.symm h.1)]
      rfl

/-- A text that can be read closes no group around it. -/
theorem closesOwn_of_foldlM (h : text.foldlM step st = some a) : st.closesOwn text = true := by
  induction text generalizing st with
  | nil => rfl
  | cons c text ih =>
    obtain ⟨mid, hs, h⟩ := foldlM_cons_eq_some h
    rw [closesOwn_cons_of_step hs]
    exact ih h

/-- At the beginning of a text nothing has been read alone, and nothing of the text inside. -/
theorem mirrors_start {fs fs' : Flags} (h : fs.Alike fs') (o : List Frame) (lo : Nat)
    (names : List (List Char)) :
    Mirrors o lo { flags := fs } { flags := fs', outer := o, groups := lo, names } where
  flags := h
  level := ⟨.nil, .nil⟩
  outer := ⟨[], rfl, .nil⟩
  groups := (Nat.zero_add lo).symm
  names := List.nil_subset names
  classes := .nil
  mode := rfl
  comment := rfl

/-- A text that closes no group around it is read alone if it is read inside. -/
theorem Mirrors.exists_foldlM (h : Mirrors o lo a b) (ht : a.Tidy) (hown : a.closesOwn text = true)
    (hb : text.foldlM step b = some b') :
    ∃ a', text.foldlM step a = some a' ∧ Mirrors o lo a' b' ∧ a'.Tidy := by
  induction text generalizing a b with
  | nil =>
    cases hb
    exact ⟨a, rfl, h, ht⟩
  | cons c text ih =>
    obtain ⟨mid, hmid, hb⟩ := foldlM_cons_eq_some hb
    rcases follows_step h ht mid hmid with ⟨next, hnext, hmirrors⟩ | ⟨hnone, rfl, x, hx, -⟩
    · rw [closesOwn_cons_of_step hnext] at hown
      obtain ⟨a', ha', hmirrors', ht'⟩ := ih hmirrors ((grows_step hnext).tidy ht) hown hb
      exact ⟨a', (foldlM_cons_of_step hnext).trans ha', hmirrors', ht'⟩
    · rw [closesOwn, hnone, hx] at hown
      cases hown

theorem outer_eq_nil_of_finish? (h : a.finish? = some x) : a.outer = [] := by
  obtain ⟨flags, level, outer, groups, names, classes, mode, comment⟩ := a
  cases outer with
  | nil => rfl
  | cons frame outer => cases mode <;> cases h

/-- Where a text could end a parenthesis has nothing to close. -/
theorem step_close_of_outer_nil (hc : a.comment = false) (hf : a.finish? = some x) :
    a.step ')' = none := by
  have hblank : Unicode.blank.contains ')' = false := by decide +kernel
  have hor (st : State) (next : Option State) : st.orBlank ')' next = next := by
    rw [orBlank, hblank]
    split <;> rfl
  obtain ⟨flags, level, outer, groups, names, classes, mode, comment⟩ := a
  subst hc
  cases outer with
  | cons frame outer => cases mode <;> cases hf
  | nil =>
    cases mode with
    | item => exact hor _ _
    | repeated operand low high wide =>
      cases wide with
      | false => exact hor _ _
      | true => exact (hor _ _).trans (hor _ _)
    | boundary => exact hor _ _
    | _ => cases hf

/-- The parenthesis behind a text that could end closes the group around it. -/
theorem Mirrors.closes (h : Mirrors o lo a b) (ht : a.Tidy) (hc : a.comment = false)
    (hf : a.finish? = some x) (hb : b.step ')' = some b') : Closes o lo x b b' := by
  have hnone := step_close_of_outer_nil hc hf
  rcases follows_step h ht b' hb with ⟨next, hnext, -⟩ | ⟨-, -, y, hy, hcloses⟩
  · rw [hnone] at hnext
    cases hnext
  · obtain rfl : x = y := Option.some.inj (hf.symm.trans hy)
    exact hcloses

/-- If all groups are closed behind a text, and by its own parenthesis only, the text could end in front
of it. -/
theorem Mirrors.exists_finish? (h : Mirrors o lo a b) (ht : a.Tidy) (ho : o ≠ []) (hrest : ')' ∉ rest)
    (hb : (')' :: rest).foldlM step b = some b') (houter : b'.outer = []) :
    ∃ x, a.finish? = some x := by
  obtain ⟨mid, hmid, hb⟩ := foldlM_cons_eq_some hb
  rcases follows_step h ht mid hmid with ⟨next, hnext, hmirrors⟩ | ⟨-, -, x, hx, -⟩
  · -- the parenthesis belongs to the text, and then the group around it stays open
    obtain ⟨a', -, hmirrors', -⟩ := hmirrors.exists_foldlM ((grows_step hnext).tidy ht)
      (closesOwn_of_not_mem hrest) hb
    obtain ⟨frames, hframes, -⟩ := hmirrors'.outer
    rw [houter] at hframes
    exact absurd (List.append_eq_nil_iff.mp hframes.symm).2 ho
  · exact ⟨x, hx⟩

end State

open State

/-- Whether a text keeps to the parentheses that it is put between: it does not close them, and does not
end in a comment, which would go on behind it. -/
def staysInside (text : List Char) : Bool :=
  closesOwn {} text && (text.foldlM step {}).all (!·.comment)

/-- The number of groups that a text opens, with those that are left out of what it is read as. -/
def opened? (text : List Char) : Option Nat := (text.foldlM step {}).map State.groups

section Wrapped

variable {text front rest : List Char} {fold : Bool} {level : Level} {index : Option Nat}
  {outer : List Frame} {g : Nat} {names : List (List Char)} {st' : State} {item : Item}

theorem comment_eq_of_staysInside {a : State} (hs : staysInside text = true)
    (ha : text.foldlM step {} = some a) : a.comment = false := by
  have hcomment := (Bool.and_eq_true_iff.mp hs).2
  rw [ha, Option.all_some, Bool.not_eq_true'] at hcomment
  exact hcomment

theorem caseFlags_alike (fold : Bool) : Flags.Alike {} (caseFlags fold) := ⟨fold, rfl⟩

/-- A text that keeps to its parentheses is read alone if it is read between them, and what is read is
the same but for case. -/
theorem exists_closed (hs : staysInside text = true) (hrest : ')' ∉ rest)
    (h : (text ++ ')' :: rest).foldlM step
      (between fold {} (⟨level, index, caseFlags fold⟩ :: outer) g names) = some st')
    (houter : st'.outer = []) :
    ∃ x y g' names', readItem? text = some x ∧ x.Alike g y ∧
      rest.foldlM step (between fold (level.push (grouped index y)) outer g' names') = some st' := by
  rw [List.foldlM_append] at h
  obtain ⟨b, hb, h⟩ := Option.bind_eq_some_iff.mp h
  have hstart := mirrors_start (caseFlags_alike fold) (⟨level, index, caseFlags fold⟩ :: outer) g names
  obtain ⟨a, ha, hmirrors, ht⟩ :=
    hstart.exists_foldlM (fun _ => rfl) (Bool.and_eq_true_iff.mp hs).1 hb
  obtain ⟨x, hx⟩ := hmirrors.exists_finish? ht (List.cons_ne_nil _ _) hrest h houter
  obtain ⟨mid, hmid, h⟩ := foldlM_cons_eq_some h
  obtain ⟨frame, outer', y, ho, halike, rfl⟩ :=
    hmirrors.closes ht (comment_eq_of_staysInside hs ha) hx hmid
  obtain ⟨rfl, rfl⟩ := List.cons.inj ho
  refine ⟨x, y, _, _, ?_, halike, h⟩
  rw [readItem?, ha]
  exact hx

/-- Where no group captures, a text that keeps to its parentheses is read between them if and only if
it is read alone, and as the same item. -/
theorem readItem?_wrapped_eq_some_iff (hs : staysInside text = true) (hrest : ')' ∉ rest)
    (hfront : front.foldlM step {} = some (between false level [] 0 [])) :
    readItem? (front ++ ("(?:".toList ++ (text ++ ')' :: rest))) = some item ↔
      ∃ a x, text.foldlM step {} = some a ∧ a.finish? = some x ∧
        (rest.foldlM step (between false (level.push (grouped none x)) [] a.groups a.names)).bind
          finish? = some item := by
  -- alone as inside, since nothing outside has an index or a name
  have hwithin (a : State) (x : Item) (ha : text.foldlM step {} = some a)
      (hx : a.finish? = some x) :
      (text ++ ')' :: rest).foldlM step
          (between false {} [⟨level, none, caseFlags false⟩] 0 []) =
        rest.foldlM step (between false (level.push (grouped none x)) [] a.groups a.names) := by
    have hinside := foldlM_within [⟨level, none, caseFlags false⟩] 0 [] ha (Or.inr ⟨rfl, rfl⟩)
    have htidy : a.Tidy := tidy_of_foldlM ha fun _ => rfl
    have hclose : (a.within [⟨level, none, caseFlags false⟩] 0 []).step ')' =
        some (between false (level.push (grouped none x)) [] a.groups (a.names ++ [])) :=
      step_close_of_finish? (comment_eq_of_staysInside hs ha) htidy hx
    rw [List.append_nil] at hclose
    have hstart : State.within [⟨level, none, caseFlags false⟩] 0 [] {} =
        between false {} [⟨level, none, caseFlags false⟩] 0 [] := rfl
    rw [hstart] at hinside
    rw [foldlM_append_of_foldlM hinside, foldlM_cons_of_step hclose]
  have hopen : readItem? (front ++ ("(?:".toList ++ (text ++ ')' :: rest))) =
      ((text ++ ')' :: rest).foldlM step
        (between false {} [⟨level, none, caseFlags false⟩] 0 [])).bind finish? := by
    rw [readItem?, foldlM_append_of_foldlM hfront, foldlM_append_of_foldlM foldlM_openPlain]
  rw [hopen]
  constructor
  · intro h
    obtain ⟨st', hst', hfinish⟩ := Option.bind_eq_some_iff.mp h
    obtain ⟨x, -, -, -, hread, -, -⟩ :=
      exists_closed hs hrest hst' (outer_eq_nil_of_finish? hfinish)
    obtain ⟨a, ha, hx⟩ := Option.bind_eq_some_iff.mp hread
    refine ⟨a, x, ha, hx, ?_⟩
    rw [← hwithin a x ha hx]
    exact h
  · intro h
    obtain ⟨a, x, ha, hx, h⟩ := h
    rw [hwithin a x ha hx]
    exact h

end Wrapped

end RoutePattern.Regex
