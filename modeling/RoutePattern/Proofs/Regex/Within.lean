import Mathlib.Tactic.Common
import RoutePattern.Proofs.Regex.Effect

/-! A text that opens no groups of its own is read inside of other groups as it is read alone. -/
namespace RoutePattern.Regex.State

/-- A state inside of the groups of another one, of which so many capture, some by these names. -/
def within (o : List Frame) (g : Nat) (ns : List (List Char)) (st : State) : State :=
  { st with outer := st.outer ++ o, groups := st.groups + g, names := st.names ++ ns }

section Within

variable (o : List Frame) (g : Nat) (ns : List (List Char)) (st : State)

@[simp] theorem within_flags : (st.within o g ns).flags = st.flags := rfl

@[simp] theorem within_level : (st.within o g ns).level = st.level := rfl

@[simp] theorem within_classes : (st.within o g ns).classes = st.classes := rfl

@[simp] theorem within_mode : (st.within o g ns).mode = st.mode := rfl

@[simp] theorem within_comment : (st.within o g ns).comment = st.comment := rfl

@[simp] theorem within_ascii : (st.within o g ns).ascii = st.ascii := rfl

@[simp] theorem within_goto (mode : Mode) :
    (st.within o g ns).goto mode = (st.goto mode).within o g ns := rfl

@[simp] theorem within_pushTerm (t : Term) :
    (st.within o g ns).pushTerm t = (st.pushTerm t).within o g ns := rfl

@[simp] theorem within_pushChar (c : Char) :
    (st.within o g ns).pushChar c = (st.pushChar c).within o g ns := rfl

@[simp] theorem within_pushBoundary :
    (st.within o g ns).pushBoundary = st.pushBoundary.within o g ns := rfl

@[simp] theorem within_nextBranch :
    (st.within o g ns).nextBranch = st.nextBranch.within o g ns := rfl

@[simp] theorem within_openClass : (st.within o g ns).openClass = st.openClass.within o g ns := rfl

@[simp] theorem within_inClass (change : ClassLevel → ClassLevel) (mode : Mode) :
    (st.within o g ns).inClass change mode = (st.inClass change mode).within o g ns := by
  rw [inClass, inClass, within_classes]
  cases st.classes <;> rfl

@[simp] theorem within_addMember (s : CharSet) (mode : Mode) :
    (st.within o g ns).addMember s mode = (st.addMember s mode).within o g ns :=
  within_inClass o g ns st _ _

@[simp] theorem within_beginOperand (op : ClassOp) :
    (st.within o g ns).beginOperand op = (st.beginOperand op).within o g ns :=
  within_inClass o g ns st _ _

theorem within_operand? :
    (st.within o g ns).operand? = st.operand?.map fun (item, st) => (item, st.within o g ns) := by
  rw [operand?, operand?, within_level]
  cases st.level.items with
  | nil => rfl
  | cons item items =>
    dsimp only
    split_ifs <;> rfl

theorem within_orBlank (c : Char) (next : Option State) :
    (st.within o g ns).orBlank c (next.map (within o g ns)) =
      (st.orBlank c next).map (within o g ns) := by
  rw [orBlank, orBlank, within_flags]
  split_ifs <;> rfl

theorem within_addPrim? (p : Prim) :
    (st.within o g ns).addPrim? p = (st.addPrim? p).map (within o g ns) := by
  cases p with
  | char c =>
    simp only [addPrim?, within_ascii, within_addMember]
    split_ifs <;> rfl
  | set s => simp only [addPrim?, within_addMember, Option.map_some]
  | look l => rfl

theorem within_addBounds? (lo hi : Char) :
    (st.within o g ns).addBounds? lo hi = (st.addBounds? lo hi).map (within o g ns) := by
  simp only [addBounds?, within_ascii, within_addMember]
  split_ifs <;> rfl

theorem within_closeClass? :
    (st.within o g ns).closeClass? = st.closeClass?.map (within o g ns) := by
  simp only [closeClass?, within_classes]
  cases st.classes with
  | nil => rfl
  | cons level outer =>
    simp only [Option.bind_eq_bind, Option.bind_some, Option.map_bind, within_flags]
    congr 1
    funext s
    cases outer <;> rfl

theorem within_deliver? (place : Place) (p : Prim) :
    (st.within o g ns).deliver? place p = (st.deliver? place p).map (within o g ns) := by
  cases place with
  | body => cases p <;> rfl
  | member => cases p <;> rfl
  | bound lo =>
    cases p with
    | char hi => exact within_addBounds? o g ns st lo hi
    | set s => rfl
    | look l => rfl

theorem within_deliverCode? (place : Place) (code : Nat) :
    (st.within o g ns).deliverCode? place code =
      (st.deliverCode? place code).map (within o g ns) := by
  simp only [deliverCode?, within_deliver?, Option.map_bind]
  rfl

theorem within_stepCount (operand : Item) (count : Count) (c : Char) :
    (st.within o g ns).stepCount operand count c =
      (st.stepCount operand count c).map (within o g ns) := by
  unfold stepCount
  rw [← within_orBlank]
  congr 1
  cases count with
  | low digits closed =>
    cases digits with
    | none =>
      dsimp only
      split
      · rfl
      · split
        · split
          · rfl
          · rw [Option.map_bind]
            rfl
        · rfl
    | some n =>
      dsimp only
      split
      · rfl
      · split
        · split
          · rfl
          · rw [Option.map_bind]
            rfl
        · split
          · rfl
          · split <;> rfl
  | comma low =>
    dsimp only
    split
    · rfl
    · split
      · rfl
      · split
        · rw [Option.map_bind]
          rfl
        · rfl
  | high low digits closed =>
    cases digits with
    | none =>
      dsimp only
      split
      · rfl
      · split
        · split
          · rfl
          · rw [Option.map_bind]
            rfl
        · rfl
    | some n =>
      dsimp only
      split
      · rfl
      · split
        · split
          · rfl
          · rw [Option.map_bind]
            rfl
        · split <;> rfl

theorem within_stepEscape (place : Place) (c : Char) :
    (st.within o g ns).stepEscape place c = (st.stepEscape place c).map (within o g ns) := by
  have hletter : ((st.within o g ns).flags.letterClass? c).bind
      (fun s => (st.within o g ns).deliver? place (.set s)) =
        ((st.flags.letterClass? c).bind fun s => st.deliver? place (.set s)).map
          (within o g ns) := by
    simp only [Option.map_bind, within_deliver?]
    rfl
  -- only the delivery looks at the state, everything else depends on flags that are the same
  unfold stepEscape
  split
  · rfl
  · split
    · rfl
    · rfl
    · rfl
    · rfl
    · rfl
    · exact hletter
    · exact hletter
    · exact hletter
    · exact hletter
    · exact hletter
    · exact hletter
    · split
      · exact within_deliver? o g ns st place _
      · cases letterChar? c with
        | some d => exact within_deliver? o g ns st place _
        | none =>
          rw [within_ascii]
          cases letterLook? st.ascii c with
          | none => rfl
          | some l =>
            cases place with
            | body =>
              dsimp only
              split <;> rfl
            | member => rfl
            | bound lo => rfl

theorem within_stepHexDigit (place : Place) (left value : Nat) (short : Bool) (c : Char) :
    (st.within o g ns).stepHexDigit place left value short c =
      (st.stepHexDigit place left value short c).map (within o g ns) := by
  rw [stepHexDigit, stepHexDigit, Option.map_bind]
  congr 1
  funext d
  simp only [within_ascii, within_deliverCode?, Function.comp_apply]
  split_ifs <;> rfl

theorem within_deliverProperty? (place : Place) (negated : Bool) (found : Option (CharSet × Bool)) :
    (st.within o g ns).deliverProperty? place negated found =
      (st.deliverProperty? place negated found).map (within o g ns) := by
  cases found with
  | none => rfl
  | some found =>
    obtain ⟨s, inverse⟩ := found
    simp only [deliverProperty?, within_ascii, within_flags, within_deliver?, Option.bind_eq_bind,
      Option.bind_some]
    split_ifs
    · rfl
    · rw [Option.map_bind]
      rfl

theorem within_stepBoundaryName (name : List Char) (c : Char) :
    (st.within o g ns).stepBoundaryName name c =
      (st.stepBoundaryName name c).map (within o g ns) := by
  rw [stepBoundaryName, stepBoundaryName, ← within_orBlank]
  congr 1
  split_ifs
  · rfl
  · rw [Option.map_map]
    rfl
  · rfl

theorem within_stepMember (c : Char) :
    (st.within o g ns).stepMember c = (st.stepMember c).map (within o g ns) := by
  unfold stepMember
  rw [← within_orBlank]
  congr 1
  split
  · rfl
  · exact within_closeClass? o g ns st
  · rfl
  · rfl
  · rfl
  · rfl
  · rfl

theorem within_stepLower (p : Prim) (c : Char) :
    (st.within o g ns).stepLower p c = (st.stepLower p c).map (within o g ns) := by
  rw [stepLower, stepLower, ← within_orBlank]
  congr 1
  split_ifs
  · rfl
  · simp only [within_addPrim?, Option.bind_map, Option.map_bind, Function.comp_def,
      within_stepMember]

theorem within_stepDashed (p : Prim) (spaced : Bool) (c : Char) :
    (st.within o g ns).stepDashed p spaced c = (st.stepDashed p spaced c).map (within o g ns) := by
  unfold stepDashed
  rw [← within_orBlank, within_goto]
  congr 1
  split
  · simp only [within_addPrim?, Option.bind_map, Option.map_bind, Option.bind_assoc,
      Function.comp_def, within_closeClass?]
  · split
    · simp only [within_addPrim?, Option.bind_map, Option.map_bind, Function.comp_def]
      congr 1
      funext st
      split
      · rfl
      · rw [within_beginOperand]
        rfl
    · cases p with
      | char lo =>
        dsimp only
        split
        · rfl
        · exact within_addBounds? o g ns st lo c
      | set s => rfl
      | look l => rfl

theorem within_stepClassStart (first : Bool) (c : Char) :
    (st.within o g ns).stepClassStart first c =
      (st.stepClassStart first c).map (within o g ns) := by
  rw [stepClassStart, stepClassStart, ← within_orBlank]
  congr 1
  simp only [within_inClass, within_addMember, within_classes, within_goto, within_stepMember]
  split_ifs <;> rfl

theorem within_foldl_addMember (sets : List CharSet) :
    sets.foldl addMember (st.within o g ns) = (sets.foldl addMember st).within o g ns := by
  induction sets generalizing st with
  | nil => rfl
  | cons s sets ih => rw [List.foldl_cons, within_addMember, ih, List.foldl_cons]

theorem within_stepClassName (name : List Char) (c : Char) :
    (st.within o g ns).stepClassName name c = (st.stepClassName name c).map (within o g ns) := by
  unfold stepClassName
  dsimp only
  cases classSpellings.find? (·.1 = (c :: name).reverse) with
  | some found =>
    obtain ⟨_, s, negated⟩ := found
    simp only [within_flags, within_addMember, Option.map_map]
    rfl
  | none =>
    dsimp only
    split
    · rfl
    · cases name ++ [':'] with
      | nil => rfl
      | cons last earlier =>
        simp only [within_openClass, within_foldl_addMember, within_goto, within_stepLower]

end Within

/-- What a step answers inside of other groups, given what it answers alone: the same, unless it has
opened a group that captures and some of those around it capture too. -/
def Kept (o : List Frame) (g : Nat) (ns : List (List Char)) (alone inside : Option State) : Prop :=
  ∀ st, alone = some st → st.groups = 0 ∨ g = 0 ∧ ns = [] → inside = some (st.within o g ns)

section Kept

variable {o : List Frame} {g : Nat} {ns : List (List Char)} {st : State}

theorem kept_of_eq {alone inside : Option State} (h : inside = alone.map (within o g ns)) :
    Kept o g ns alone inside := by
  rintro st rfl _
  exact h

theorem kept_some : Kept o g ns (some st) (some (st.within o g ns)) := kept_of_eq rfl

theorem kept_orBlank {alone inside : Option State} {c : Char} (h : Kept o g ns alone inside) :
    Kept o g ns (st.orBlank c alone) ((st.within o g ns).orBlank c inside) := by
  rw [orBlank, orBlank, within_flags]
  split
  · exact h
  · split
    · exact kept_some
    · split
      · exact kept_of_eq rfl
      · exact h

theorem kept_closeGroup? : Kept o g ns st.closeGroup? (st.within o g ns).closeGroup? := by
  unfold closeGroup?
  -- the group that is closed was opened by the text itself, not around it
  cases ho : st.outer with
  | nil =>
    intro st' h
    cases h
  | cons frame outer =>
    have hinside : (st.within o g ns).outer = frame :: (outer ++ o) := by
      rw [within, ho]
      rfl
    apply kept_of_eq
    simp only [hinside, within_level]
    rfl

theorem kept_stepItem (c : Char) : Kept o g ns (st.stepItem c) ((st.within o g ns).stepItem c) := by
  have hoperand (next : Item → Mode) :
      Kept o g ns (st.operand?.map fun (item, st) => st.goto (next item))
        ((st.within o g ns).operand?.map fun (item, st) => st.goto (next item)) := by
    apply kept_of_eq
    rw [within_operand?, Option.map_map, Option.map_map]
    rfl
  unfold stepItem
  apply kept_orBlank
  simp only [within_goto, within_nextBranch, within_openClass, within_pushTerm, within_pushChar,
    within_flags]
  split
  · exact kept_some
  · exact kept_closeGroup?
  · exact kept_some
  · exact kept_some
  · exact hoperand fun item => .repeated item 0 (some 1) false
  · exact hoperand fun item => .repeated item 0 none false
  · exact hoperand fun item => .repeated item 1 none false
  · exact hoperand fun item => .count item (.low none false)
  · exact kept_some
  · apply kept_of_eq
    rw [Option.map_map]
    rfl
  · exact kept_some
  · exact kept_some
  · exact kept_some

theorem kept_stepRepeated (operand : Item) (low : Nat) (high : Option Nat) (wide : Bool) (c : Char) :
    Kept o g ns (st.stepRepeated operand low high wide c)
      ((st.within o g ns).stepRepeated operand low high wide c) := by
  have hnext : Kept o g ns
      (if c = '?' then some (st.pushRepeated operand low high false)
        else ((st.pushRepeated operand low high true).goto .item).stepItem c)
      (if c = '?' then some ((st.within o g ns).pushRepeated operand low high false)
        else (((st.within o g ns).pushRepeated operand low high true).goto .item).stepItem c) := by
    split
    · exact kept_some
    · exact kept_stepItem c
  unfold stepRepeated
  dsimp only
  split
  · exact kept_orBlank hnext
  · exact hnext

theorem kept_stepFlags (marks : List (Option Flag)) (c : Char) :
    Kept o g ns (st.stepFlags marks c) ((st.within o g ns).stepFlags marks c) := by
  apply kept_of_eq
  unfold stepFlags
  dsimp only
  split
  · split
    · rfl
    · split
      · rfl
      · split <;> rfl
  · rw [Option.map_bind]
    congr 1
    funext mark
    rw [Function.comp_apply]
    split <;> rfl

/-- A character that opens a group that captures leaves nothing to be kept, unless no group around it
captures. -/
theorem kept_openCapture {alone inside : Option State}
    (h : ∀ st', alone = some st' → st.groups < st'.groups)
    (hzero : g = 0 → ns = [] → Kept o g ns alone inside) : Kept o g ns alone inside := by
  rintro st' hst' (hg | ⟨rfl, rfl⟩)
  · have hlt := h st' hst'
    omega
  · exact hzero rfl rfl st' hst' (Or.inr ⟨rfl, rfl⟩)

theorem kept_step (c : Char) : Kept o g ns (st.step c) ((st.within o g ns).step c) := by
  -- one case for each mode; only where a group may capture is there more than an equation
  unfold step
  rw [within_comment, within_mode]
  split
  · exact kept_some
  · split
    · exact kept_stepItem c
    · exact kept_stepRepeated _ _ _ _ c
    · exact kept_of_eq (within_stepCount o g ns st _ _ c)
    · apply kept_orBlank
      split
      · exact kept_some
      · apply kept_openCapture
        · intro st' h
          have hgrows : Grows False st.openCapture st' ∧ st'.groups = st.groups + 1 :=
            grows_stepItem not_false rfl h
          have hgroups := hgrows.2
          rw [hgroups]
          exact Nat.lt_succ_self _
        · rintro rfl -
          exact kept_stepItem c
    · split
      · exact kept_some
      · exact kept_some
      · exact kept_stepFlags [] _
    · split
      · exact kept_some
      · exact kept_of_eq rfl
    · split
      · next name _ _ =>
        apply kept_openCapture
        · intro st' h
          split at h
          · cases h
          · cases h
            exact Nat.lt_succ_self _
        · rintro rfl rfl
          have hnames : (st.within o 0 []).names.contains name = st.names.contains name :=
            congrArg (·.contains name) (List.append_nil st.names)
          apply kept_of_eq
          rw [hnames]
          split <;> rfl
      · split
        · exact kept_some
        · exact kept_of_eq rfl
    · exact kept_stepFlags _ c
    · exact kept_of_eq (within_stepEscape o g ns st _ c)
    · apply kept_orBlank
      split
      · exact kept_some
      · exact kept_of_eq (within_stepHexDigit o g ns st _ _ _ _ c)
    · apply kept_orBlank
      exact kept_of_eq (within_stepHexDigit o g ns st _ _ _ _ c)
    · apply kept_orBlank
      split
      · apply kept_of_eq
        simp only [within_deliverCode?, Option.map_bind]
        rfl
      · apply kept_of_eq
        rw [Option.map_map]
        rfl
    · apply kept_orBlank
      split
      · exact kept_some
      · split
        · exact kept_of_eq rfl
        · exact kept_of_eq (within_deliverProperty? o g ns st _ _ _)
    · apply kept_orBlank
      split
      · exact kept_of_eq (within_deliverProperty? o g ns st _ _ _)
      · exact kept_some
    · split
      · exact kept_some
      · exact kept_stepItem c
    · apply kept_orBlank
      split
      · exact kept_some
      · apply kept_of_eq
        rw [within_pushBoundary, within_operand?, Option.bind_map, Option.map_bind]
        congr 1
        funext found
        exact within_stepCount o g ns found.2 found.1 (.low none false) c
    · exact kept_of_eq (within_stepBoundaryName o g ns st _ c)
    · exact kept_of_eq (within_stepClassStart o g ns st _ c)
    · exact kept_of_eq (within_stepMember o g ns st c)
    · split
      · rw [within_beginOperand]
        exact kept_some
      · rw [within_goto]
        exact kept_of_eq (within_stepLower o g ns _ _ c)
    · exact kept_of_eq (within_stepLower o g ns st _ c)
    · exact kept_of_eq (within_stepDashed o g ns st _ _ c)
    · split
      · exact kept_some
      · rw [within_openClass]
        exact kept_of_eq (within_stepClassStart o g ns _ _ c)
    · exact kept_of_eq (within_stepClassName o g ns st _ c)

end Kept

/-- A text without groups that capture is read in the same way inside of other groups, and so is any
text if none of these captures. -/
theorem foldlM_within {text : List Char} {st st' : State} (o : List Frame) (g : Nat)
    (ns : List (List Char)) (h : text.foldlM step st = some st')
    (hg : st'.groups = 0 ∨ g = 0 ∧ ns = []) :
    text.foldlM step (st.within o g ns) = some (st'.within o g ns) := by
  induction text generalizing st with
  | nil =>
    cases h
    rfl
  | cons c text ih =>
    obtain ⟨mid, hs, h⟩ := foldlM_cons_eq_some h
    -- if no group is open at the end none was opened on the way, since their number does not fall
    have hmid : mid.groups = 0 ∨ g = 0 ∧ ns = [] := by
      have hle := groups_le_of_foldlM h
      exact hg.imp_left fun hg => by omega
    have hkept : (st.within o g ns).step c = some (mid.within o g ns) := kept_step c mid hs hmid
    rw [List.foldlM_cons, hkept]
    exact ih h

end RoutePattern.Regex.State
