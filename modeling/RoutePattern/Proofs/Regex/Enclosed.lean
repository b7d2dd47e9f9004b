import RoutePattern.Proofs.Regex.Fragment

/-! Bodies of groups that capture. A text that is contained by the parentheses it is put between is all
that they enclose. -/
namespace RoutePattern.Regex

open State

/-- Whether a text keeps to the parentheses that it is put between, though they capture: it gives the
first one no other meaning, closes no group but its own, and leaves nothing open that the last one would
be part of. -/
structure Contained (fs : Flags) (text : List Char) : Prop where
  head : text.head? ≠ some '?'
  own : closesOwn { flags := fs } text = true
  ends : ∀ st, text.foldlM step { flags := fs } = some st →
    st.comment = false ∧ ∃ item, st.finish? = some item

def isContained (text : List Char) : Bool :=
  text.head? != some '?' && closesOwn {} text &&
    (text.foldlM step {}).all fun st => !st.comment && st.finish?.isSome

/-- Whether the parenthesis behind a text opens the group of an index, and the one behind the body closes
it: the group is open as long as the body is read, and is one item behind it. -/
def Encloses (before body : List Char) (i : Nat) : Prop :=
  ∃ st, before.foldlM step {} = some st ∧ i = st.settled.groups + 1 ∧
    (∀ front, front ≠ [] → front <+: body → ∃ st' frames,
      (before ++ '(' :: front).foldlM step {} = some st' ∧
        st'.outer = frames ++ ⟨st.settled.level, some i, st.settled.flags⟩ :: st.settled.outer) ∧
    ∃ st' item, (before ++ '(' :: body ++ [')']).foldlM step {} = some st' ∧
      st'.outer = st.settled.outer ∧ st'.level = st.settled.level.push (grouped (some i) item)

variable {text body front before more : List Char} {fs : Flags} {fold : Bool}
  {items others : List Item} {st st' : State} {level : Level} {outer : List Frame} {g g' g'' : Nat}
  {names names' names'' : List (List Char)}

theorem isContained_iff : isContained text = true ↔ Contained {} text := by
  rw [isContained, Bool.and_eq_true, Bool.and_eq_true, bne_iff_ne, Option.all_eq_true]
  constructor
  · intro h
    refine ⟨h.1.1, h.1.2, fun st hst => ?_⟩
    obtain ⟨hcomment, hfinish⟩ := Bool.and_eq_true_iff.mp (h.2 st hst)
    exact ⟨by simpa using hcomment, Option.isSome_iff_exists.mp hfinish⟩
  · intro h
    refine ⟨⟨h.head, h.own⟩, fun st hst => ?_⟩
    obtain ⟨hcomment, hfinish⟩ := h.ends st hst
    rw [hcomment, Option.isSome_iff_exists.mpr hfinish]
    rfl

/-- A text that is read between two items is contained. -/
theorem Reads.contained (h : Reads fold 0 text 0 items) : Contained (caseFlags fold) text := by
  obtain ⟨st, hst, hsettled⟩ := h.run {} [] [] (between fold {} [] 0 []) rfl
  refine ⟨h.head, closesOwn_of_foldlM hst, fun st' hst' => ?_⟩
  obtain rfl : st = st' := Option.some.inj (hst.symm.trans hst')
  refine ⟨?_, _, finish?_settled hsettled⟩
  have hcomment : st.settled.comment = st.comment := by
    rw [settled]
    split <;> rfl
  rw [← hcomment, hsettled]
  rfl

theorem closesOwn_of_append (h : st.closesOwn (text ++ front) = true) : st.closesOwn text = true := by
  induction text generalizing st with
  | nil => rfl
  | cons c text ih =>
    rw [List.cons_append, closesOwn] at h
    rw [closesOwn]
    split at h
    · exact ih h
    · exact h

/-- Behind an item a parenthesis opens a group. -/
theorem foldlM_open_settled (hst : st.settled = between fold level outer g names)
    (hhead : text.head? ≠ some '?') (hne : text ≠ []) :
    ('(' :: text).foldlM step st = text.foldlM step
      (between fold {} (⟨level, some (g + 1), caseFlags fold⟩ :: outer) (g + 1) names) := by
  rw [foldlM_settled hst (head?_cons_ne (by decide)) (List.cons_ne_nil _ _), foldlM_open hhead hne]

/-- Behind an item brackets open a group that has no index. -/
theorem foldlM_openPlain_settled (hst : st.settled = between fold level outer g names) :
    ("(?:".toList).foldlM step st =
      some (between fold {} (⟨level, none, caseFlags fold⟩ :: outer) g names) := by
  rw [foldlM_settled hst (by decide) (by decide), foldlM_openPlain]

/-- Whether a text between two items is read as some items, whatever stands around it, and leads from one
number of groups and some names to others. -/
structure ReadsOn (fold : Bool) (g : Nat) (names : List (List Char)) (text : List Char) (g' : Nat)
    (names' : List (List Char)) (items : List Item) : Prop where
  head : text.head? ≠ some '?'
  run : ∀ level outer (st : State), st.settled = between fold level outer g names →
    ∃ st', text.foldlM step st = some st' ∧
      st'.settled = between fold (level.pushAll items) outer g' names'

theorem Reads.readsOn (h : Reads fold g text g' items) (names : List (List Char)) :
    ReadsOn fold g names text g' names items where
  head := h.head
  run level outer st hst := h.run level outer names st hst

theorem ReadsOn.settled_eq (h : ReadsOn fold g names text g' names' items)
    (hst : st.settled = between fold level outer g names) (hrun : text.foldlM step st = some st') :
    st'.settled = between fold (level.pushAll items) outer g' names' := by
  obtain ⟨found, hfound, hsettled⟩ := h.run level outer st hst
  obtain rfl : found = st' := Option.some.inj (hfound.symm.trans hrun)
  exact hsettled

/-- What is read of a text is determined by the groups and the names in front of it. -/
theorem ReadsOn.unique (h : ReadsOn fold g names text g' names' items)
    (h' : ReadsOn fold g names text g'' names'' others) :
    g' = g'' ∧ names' = names'' ∧ items = others := by
  obtain ⟨st', hst', hsettled⟩ := h.run {} [] (between fold {} [] g names) rfl
  have hsame := hsettled.symm.trans (h'.settled_eq rfl hst')
  simp only [between, Level.pushAll, List.append_nil, State.mk.injEq, Level.mk.injEq, true_and,
    and_true, List.reverse_inj] at hsame
  exact ⟨hsame.2.1, hsame.2.2, hsame.1⟩

theorem ReadsOn.append (h : ReadsOn fold g names text g' names' items)
    (h' : ReadsOn fold g' names' more g'' names'' others) :
    ReadsOn fold g names (text ++ more) g'' names'' (items ++ others) where
  head := by
    cases text with
    | nil => exact h'.head
    | cons c text => exact h.head
  run level outer st hst := by
    obtain ⟨mid, hmid, hsettled⟩ := h.run level outer st hst
    obtain ⟨st', hst', hsettled'⟩ := h'.run _ outer mid hsettled
    refine ⟨st', (foldlM_append_of_foldlM hmid).trans hst', ?_⟩
    rw [hsettled', Level.pushAll_append]

/-- In brackets with a question mark behind them the items are one that may be left out. -/
theorem ReadsOn.optional (h : ReadsOn fold g names text g' names' items) :
    ReadsOn fold g names ("(?:".toList ++ text ++ [')', '?']) g' names'
      [optionalItem (Item.concat items.reverse)] where
  head := head?_cons_ne (by decide)
  run level outer st hst := by
    obtain ⟨mid, hmid, hsettled⟩ := h.run {} (⟨level, none, caseFlags fold⟩ :: outer)
      (between fold {} (⟨level, none, caseFlags fold⟩ :: outer) g names) rfl
    have hclose := (step_settled hsettled (by decide : ')' ≠ '?')).trans step_close
    have hbody : (Level.pushAll {} items).close = Item.concat items.reverse :=
      congrArg Item.concat (List.append_nil _)
    rw [hbody] at hclose
    obtain ⟨last, hlast, hoptional⟩ := exists_step_optional level outer names'
    refine ⟨last, ?_, hoptional⟩
    rw [List.append_assoc, foldlM_append_of_foldlM (foldlM_openPlain_settled hst),
      foldlM_append_of_foldlM hmid, foldlM_cons_of_step hclose, foldlM_cons_of_step hlast]
    rfl

/-- Where a state alone mirrors the one inside, no group outside has been closed. -/
theorem State.Mirrors.not_closes {o : List Frame} {lo lo' : Nat} {a b b' : State} {x : Item}
    (h : Mirrors o lo a b') : ¬ Closes o lo' x b b' := by
  intro hcloses
  obtain ⟨frame, outer, y, rfl, -, rfl⟩ := hcloses
  obtain ⟨frames, hframes, -⟩ := h.outer
  have hlength : outer.length = frames.length + (outer.length + 1) := by
    rw [← List.length_cons (a := frame), ← List.length_append]
    exact congrArg List.length hframes
  omega

/-- A text that is read inside, and alone from one state, is read alone from any state that mirrors the
one inside: a parenthesis that closes the groups outside would do so for both. -/
theorem State.Mirrors.exists_foldlM_of_alone {o : List Frame} {lo lo' : Nat} {a a' b b' : State}
    {next : State} (h : Mirrors o lo a b) (h' : Mirrors o lo' a' b) (ht : a.Tidy) (ht' : a'.Tidy)
    (ha : text.foldlM step a = some next) (hb : text.foldlM step b = some b') :
    ∃ next', text.foldlM step a' = some next' ∧ Mirrors o lo' next' b' ∧ next'.Tidy := by
  induction text generalizing a a' b with
  | nil =>
    cases hb
    exact ⟨a', rfl, h', ht'⟩
  | cons c text ih =>
    obtain ⟨mid, hmid, hb⟩ := foldlM_cons_eq_some hb
    obtain ⟨first, hfirst, ha⟩ := foldlM_cons_eq_some ha
    rcases follows_step h ht mid hmid with ⟨_, hstep, hmirrors⟩ | ⟨hnone, -⟩
    · obtain rfl := Option.some.inj (hstep.symm.trans hfirst)
      rcases follows_step h' ht' mid hmid with ⟨first', hfirst', hmirrors'⟩ | ⟨-, -, x, -, hcloses⟩
      · obtain ⟨next', hnext', hlast⟩ := ih hmirrors hmirrors' ((grows_step hfirst).tidy ht)
          ((grows_step hfirst').tidy ht') ha hb
        exact ⟨next', (foldlM_cons_of_step hfirst').trans hnext', hlast⟩
      · exact absurd hcloses hmirrors.not_closes
    · rw [hfirst] at hnone
      cases hnone

/-- A body that is read alone, and up to its end as that of a group, is read as the body of any group
with the same index, and leaves the same group behind. -/
theorem exists_foldlM_captured {a b mid : State} {x : Item} (hf : fs.Alike (caseFlags fold))
    (ha : body.foldlM step { flags := fs } = some a) (hcomment : a.comment = false)
    (hx : a.finish? = some x)
    (hb : body.foldlM step
      (between fold {} (⟨level, some (g + 1), caseFlags fold⟩ :: outer) (g + 1) names) = some b)
    (hmirrors : Mirrors (⟨level, some (g + 1), caseFlags fold⟩ :: outer) (g + 1) a b) (ht : a.Tidy)
    (hmid : step b ')' = some mid) :
    ∃ y g' names', ∀ level outer, (body ++ [')']).foldlM step
      (between fold {} (⟨level, some (g + 1), caseFlags fold⟩ :: outer) (g + 1) names) =
        some (between fold (level.push (grouped (some (g + 1)) y)) outer g' names') := by
  have hstart := mirrors_start hf (⟨level, some (g + 1), caseFlags fold⟩ :: outer) (g + 1) names
  -- alone, but with the groups and the names that were there, it is read as inside of any others
  let alone : State := { flags := caseFlags fold, groups := g + 1, names }
  have hwithin (level : Level) (outer : List Frame) :
      alone.within (⟨level, some (g + 1), caseFlags fold⟩ :: outer) 0 [] =
        between fold {} (⟨level, some (g + 1), caseFlags fold⟩ :: outer) (g + 1) names := by
    rw [State.within, List.append_nil]
    rfl
  have hsame : Mirrors (⟨level, some (g + 1), caseFlags fold⟩ :: outer) 0 alone
      (between fold {} (⟨level, some (g + 1), caseFlags fold⟩ :: outer) (g + 1) names) :=
    ⟨.refl _, ⟨.nil, .nil⟩, ⟨[], rfl, .nil⟩, rfl, List.Subset.refl _, .nil, rfl, rfl⟩
  obtain ⟨a', ha', hmirrors', ht'⟩ :=
    hstart.exists_foldlM_of_alone hsame (fun _ => rfl) (fun _ => rfl) ha hb
  have hcomment' : a'.comment = false := by
    rw [← hmirrors'.comment, hmirrors.comment, hcomment]
  obtain ⟨y, hy⟩ : ∃ y, a'.finish? = some y := by
    rcases follows_step hmirrors' ht' mid hmid with ⟨next, -, hnext⟩ | ⟨-, -, y, hy, -⟩
    · exact absurd (hmirrors.closes ht hcomment hx hmid) hnext.not_closes
    · exact ⟨y, hy⟩
  refine ⟨y, a'.groups, a'.names, fun level outer => ?_⟩
  have hinside := foldlM_within (⟨level, some (g + 1), caseFlags fold⟩ :: outer) 0 [] ha'
    (Or.inr ⟨rfl, rfl⟩)
  rw [hwithin] at hinside
  rw [foldlM_append_of_foldlM hinside,
    foldlM_cons_of_step (step_close_of_finish? hcomment' ht' hy), List.append_nil]
  rfl

/-- A contained text is read alone if it is read as the body of a group, and the group then holds what
is read, with higher indices; it is the same group wherever it stands. -/
theorem Contained.exists_captured (hs : Contained fs body) (hf : fs.Alike (caseFlags fold))
    (hst : st.settled = between fold level outer g names)
    (h : ('(' :: body ++ [')']).foldlM step st = some st') :
    ∃ a x y names', body.foldlM step { flags := fs } = some a ∧ a.finish? = some x ∧
      x.Alike (g + 1) y ∧
      st' = between fold (level.push (grouped (some (g + 1)) y)) outer (a.groups + (g + 1)) names' ∧
      ReadsOn fold g names ('(' :: body ++ [')']) (a.groups + (g + 1)) names'
        [grouped (some (g + 1)) y] := by
  have hhead : (body ++ [')']).head? ≠ some '?' := by
    cases body with
    | nil => exact head?_cons_ne (by decide)
    | cons c body => exact hs.head
  have hne : body ++ [')'] ≠ [] := List.append_ne_nil_of_right_ne_nil _ (List.cons_ne_nil _ _)
  rw [List.cons_append, foldlM_open_settled hst hhead hne] at h
  have hrun := h
  rw [List.foldlM_append] at h
  obtain ⟨b, hb, h⟩ := Option.bind_eq_some_iff.mp h
  have hstart := mirrors_start hf (⟨level, some (g + 1), caseFlags fold⟩ :: outer) (g + 1) names
  obtain ⟨a, ha, hmirrors, ht⟩ := hstart.exists_foldlM (fun _ => rfl) hs.own hb
  obtain ⟨hcomment, x, hx⟩ := hs.ends a ha
  obtain ⟨mid, hmid, h⟩ := foldlM_cons_eq_some h
  obtain ⟨frame, outer', y, ho, halike, hclosed⟩ := hmirrors.closes ht hcomment hx hmid
  obtain ⟨rfl, rfl⟩ := List.cons.inj ho
  obtain rfl : mid = st' := Option.some.inj h
  have hread : mid = between fold (level.push (grouped (some (g + 1)) y)) outer (a.groups + (g + 1))
      b.names := by
    rw [hclosed, hmirrors.groups]
    rfl
  refine ⟨a, x, y, b.names, ha, hx, halike, hread, head?_cons_ne (by decide),
    fun level' outer' st hst => ?_⟩
  -- what is left behind here tells what is left behind anywhere
  obtain ⟨y', g', names', hany⟩ := exists_foldlM_captured hf ha hcomment hx hb hmirrors ht hmid
  rw [hany, hread] at hrun
  have hstate := Option.some.inj hrun
  simp only [between, State.mk.injEq, true_and, and_true] at hstate
  obtain ⟨hlevel, rfl, rfl⟩ := hstate
  have hgroup : grouped (some (g + 1)) y' = grouped (some (g + 1)) y :=
    (List.cons.inj (congrArg Level.items hlevel)).1
  rw [List.cons_append, foldlM_open_settled hst hhead hne, hany, hgroup]
  exact ⟨_, rfl, rfl⟩

/-- The parentheses around a contained text enclose it. -/
theorem Contained.encloses (hs : Contained fs body) (hf : fs.Alike (caseFlags fold))
    (hbefore : before.foldlM step {} = some st)
    (hst : st.settled = between fold level outer g names)
    (h : ('(' :: body ++ [')']).foldlM step st = some st') : Encloses before body (g + 1) := by
  refine ⟨st, hbefore, by rw [hst]; rfl, ?_, ?_⟩
  · rintro front hne ⟨rest, rfl⟩
    have hhead : front.head? ≠ some '?' := by
      cases front with
      | nil => exact absurd rfl hne
      | cons c front => exact hs.head
    -- the beginning of the body is read above the frame of the group, and closes it no more than the body
    rw [List.cons_append, List.append_assoc, ← List.cons_append, List.foldlM_append] at h
    obtain ⟨b, hb, -⟩ := Option.bind_eq_some_iff.mp h
    have hopen := hb
    rw [foldlM_open_settled hst hhead hne] at hopen
    have hstart := mirrors_start hf (⟨level, some (g + 1), caseFlags fold⟩ :: outer) (g + 1) names
    obtain ⟨a, -, hmirrors, -⟩ :=
      hstart.exists_foldlM (fun _ => rfl) (closesOwn_of_append hs.own) hopen
    obtain ⟨frames, hframes, -⟩ := hmirrors.outer
    refine ⟨b, frames, (foldlM_append_of_foldlM hbefore).trans hb, ?_⟩
    rw [hst]
    exact hframes
  · obtain ⟨a, x, y, names', -, -, -, rfl, -⟩ := hs.exists_captured hf hst h
    have hread : (before ++ '(' :: body ++ [')']).foldlM step {} =
        some (between fold (level.push (grouped (some (g + 1)) y)) outer (a.groups + (g + 1))
          names') := by
      rw [List.append_assoc, foldlM_append_of_foldlM hbefore]
      exact h
    rw [hst]
    exact ⟨_, y, hread, rfl, rfl⟩

end RoutePattern.Regex
