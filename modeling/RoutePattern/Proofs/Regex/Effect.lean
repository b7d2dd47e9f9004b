import Mathlib.Logic.Basic
import RoutePattern.Proofs.Regex.Groups
import RoutePattern.Regex.Basic

/-! What a character changes in the state of the reader of regexes. -/
namespace RoutePattern.Regex

/-- Whether what an escape stands for belongs to a class. -/
def Place.InClass : Place → Prop
  | body => False
  | member | bound _ => True

/-- Whether the next character is read inside of brackets. -/
def Mode.InClass : Mode → Prop
  | escape place | hex place _ | hexDigits place _ _ _ | hexBraces place _ | property place _
  | propertyName place _ _ => place.InClass
  | classStart _ | member | operator _ _ | lower _ | dashed _ _ | nested | className _ => True
  | _ => False

/-- The item that waits for the end of an operator. -/
def Mode.operand? : Mode → Option Item
  | repeated operand _ _ _ | count operand _ => some operand
  | _ => none

/-- Whether none of the items of a group has groups. -/
def Level.Bare (level : Level) : Prop :=
  ∀ item ∈ level.branches ++ level.items, item.term.NoGroup

theorem Level.Bare.push {level : Level} {item : Item} (h : level.Bare) (hi : item.term.NoGroup) :
    (level.push item).Bare := by
  intro other ho
  rcases List.mem_append.mp ho with ho | ho
  · exact h other (List.mem_append_left _ ho)
  · rcases List.mem_cons.mp ho with rfl | ho
    · exact hi
    · exact h other (List.mem_append_right _ ho)

section Terms

open Term

theorem noGroup_repeated {t : Term} (h : t.NoGroup) (low : Nat) (high : Option Nat)
    (greedy : Bool) : (t.repeated low high greedy).NoGroup :=
  noGroup_iff.mpr (indices_repeated.mpr (Or.inr (noGroup_iff.mp h)))

theorem noGroup_itemConcat {items : List Item} (h : ∀ item ∈ items, item.term.NoGroup) :
    (Item.concat items).term.NoGroup :=
  noGroup_iff.mpr (indices_itemConcat.mpr fun item hi => noGroup_iff.mp (h item hi))

theorem Level.Bare.close {level : Level} (h : level.Bare) : level.close.term.NoGroup :=
  noGroup_iff.mpr (indices_close.mpr fun item hi => noGroup_iff.mp (h item hi))

end Terms

namespace State

/-- Whether the items of the innermost group have no groups. -/
def Bare (st : State) : Prop := st.level.Bare ∧ ∀ item ∈ st.mode.operand?, item.term.NoGroup

/-- Whether classes are open inside of brackets only. -/
def Tidy (st : State) : Prop := ¬ st.mode.InClass → st.classes = []

/-- What happens within the innermost group. -/
structure Local (st st' : State) : Prop where
  outer : st'.outer = st.outer
  groups : st'.groups = st.groups
  names : st'.names = st.names
  flags : st'.flags = st.flags
  comment : st.flags.extended = false → st.comment = false → st'.comment = false
  bare : st.Bare → st'.Bare
  tidy : st.Tidy → st'.Tidy

variable {st st' st'' : State} {place : Place} {c : Char}

theorem Local.refl (st : State) : Local st st :=
  ⟨rfl, rfl, rfl, rfl, fun _ h => h, fun h => h, fun h => h⟩

theorem Local.trans (h : Local st st') (h' : Local st' st'') : Local st st'' where
  outer := h'.outer.trans h.outer
  groups := h'.groups.trans h.groups
  names := h'.names.trans h.names
  flags := h'.flags.trans h.flags
  comment he hc := h'.comment (by rw [h.flags, he]) (h.comment he hc)
  bare hb := h'.bare (h.bare hb)
  tidy ht := h'.tidy (h.tidy ht)

theorem local_goto {mode : Mode} (h : mode.operand? = none)
    (hm : mode.InClass ∨ ¬ st.mode.InClass) : Local st (st.goto mode) where
  outer := rfl
  groups := rfl
  names := rfl
  flags := rfl
  comment _ hc := hc
  bare hb := ⟨hb.1, fun item hi => by rw [goto, h] at hi; cases hi⟩
  tidy ht hn := ht (hm.resolve_left hn)

theorem local_push {item : Item} (h : item.term.NoGroup) (hm : ¬ st.mode.InClass) :
    Local st (st.push item) where
  outer := rfl
  groups := rfl
  names := rfl
  flags := rfl
  comment _ hc := hc
  bare hb := ⟨hb.1.push h, nofun⟩
  tidy ht _ := ht hm

theorem local_inClass {change : ClassLevel → ClassLevel} {mode : Mode} (h : mode.operand? = none)
    (hm : mode.InClass) : Local st (st.inClass change mode) := by
  rw [inClass]
  split
  · exact .refl st
  · refine ⟨rfl, rfl, rfl, rfl, fun _ hc => hc, fun hb => ⟨hb.1, fun item hi => ?_⟩, fun _ hn => ?_⟩
    · rw [h] at hi
      cases hi
    · exact absurd hm hn

theorem local_addMember {s : CharSet} {mode : Mode} (h : mode.operand? = none) (hm : mode.InClass) :
    Local st (st.addMember s mode) := local_inClass h hm

theorem local_openClass : Local st st.openClass :=
  ⟨rfl, rfl, rfl, rfl, fun _ hc => hc, fun hb => ⟨hb.1, nofun⟩, fun _ hn => absurd trivial hn⟩

theorem local_orBlank {mid : State} {next : Option State} (hm : Local st mid)
    (h : mid.orBlank c next = some st') (hn : next = some st' → Local st st') : Local st st' := by
  rw [orBlank] at h
  split at h
  · exact hn h
  · next hext =>
    split at h
    · cases h
      exact hm
    · split at h
      · cases h
        -- a comment begins only where blanks are passed over
        have hext : st.flags.extended = true := by simpa [hm.flags] using hext
        exact ⟨hm.outer, hm.groups, hm.names, hm.flags, fun he => absurd (hext.symm.trans he) nofun, hm.bare,
          hm.tidy⟩
      · exact hn h

theorem local_addPrim? {p : Prim} (h : st.addPrim? p = some st') : Local st st' := by
  unfold addPrim? at h
  split at h
  · split at h
    · cases h
    · cases h
      exact local_addMember rfl trivial
  · cases h
    exact local_addMember rfl trivial
  · cases h

theorem local_addBounds? {lo hi : Char} (h : st.addBounds? lo hi = some st') : Local st st' := by
  unfold addBounds? at h
  split at h
  · cases h
  · cases h
    exact local_addMember rfl trivial

theorem local_closeClass? (h : st.closeClass? = some st') : Local st st' := by
  unfold closeClass? at h
  cases hc : st.classes with
  | nil =>
    rw [hc] at h
    cases h
  | cons level outer =>
    rw [hc] at h
    simp only [Option.bind_eq_bind, Option.bind_some, Option.bind_eq_some_iff] at h
    obtain ⟨s, -, h⟩ := h
    -- the last class leaves the brackets, any other one stays within those around it
    cases outer with
    | nil =>
      cases h
      exact ⟨rfl, rfl, rfl, rfl, fun _ hc => hc, fun hb => ⟨hb.1.push trivial, nofun⟩, fun _ _ => rfl⟩
    | cons up rest =>
      cases h
      exact ⟨rfl, rfl, rfl, rfl, fun _ hc => hc, fun hb => ⟨hb.1, nofun⟩, fun _ hn => absurd trivial hn⟩

theorem local_deliver? {p : Prim} (hp : st.mode.InClass → place.InClass)
    (h : st.deliver? place p = some st') : Local st st' := by
  unfold deliver? at h
  split at h
  · cases h
    exact local_push trivial hp
  · cases h
    exact local_push trivial hp
  · cases h
    exact local_push trivial hp
  · cases h
  · cases h
    exact local_goto rfl (Or.inl trivial)
  · exact local_addBounds? h
  · cases h

theorem local_deliverCode? {code : Nat} (hp : st.mode.InClass → place.InClass)
    (h : st.deliverCode? place code = some st') : Local st st' := by
  obtain ⟨c, -, h⟩ := Option.bind_eq_some_iff.mp h
  exact local_deliver? hp h

theorem local_stepCount {operand : Item} {count : Count} (hc : ¬ st.mode.InClass)
    (hm : st.Bare → operand.term.NoGroup) (h : st.stepCount operand count c = some st') :
    Local st st' := by
  have hbare (mode : Mode) (ho : mode.operand? = some operand) (hb : st.Bare) :
      (st.goto mode).Bare := by
    refine ⟨hb.1, fun item hi => ?_⟩
    obtain rfl : operand = item := Option.some.inj (ho.symm.trans hi)
    exact hm hb
  have hstay (count : Count) : Local st (st.goto (.count operand count)) :=
    ⟨rfl, rfl, rfl, rfl, fun _ hc => hc, hbare _ rfl, fun ht _ => ht hc⟩
  have hclose (low : Nat) (high : Option Nat) : Local st (st.closeCount operand low high) :=
    ⟨rfl, rfl, rfl, rfl, fun _ hc => hc, hbare _ rfl, fun ht _ => ht hc⟩
  unfold stepCount at h
  refine local_orBlank (.refl st) h fun h => ?_
  -- the cases are those of the count: the lower bound, the comma, the upper bound
  dsimp only at h
  split at h
  · split at h
    · cases h
      exact hstay _
    · split at h
      · split at h
        · cases h
        · obtain ⟨n, -, h⟩ := Option.bind_eq_some_iff.mp h
          cases h
          exact hstay _
      · split at h
        · cases h
        · split at h
          · cases h
            exact hstay _
          · split at h
            · cases h
              exact hclose _ _
            · cases h
  · split at h
    · cases h
      exact hclose _ _
    · split at h
      · cases h
        exact hstay _
      · split at h
        · obtain ⟨n, -, h⟩ := Option.bind_eq_some_iff.mp h
          cases h
          exact hstay _
        · cases h
  · split at h
    · cases h
      exact hstay _
    · split at h
      · split at h
        · cases h
        · obtain ⟨n, -, h⟩ := Option.bind_eq_some_iff.mp h
          cases h
          exact hstay _
      · split at h
        · cases h
        · split at h
          · cases h
            exact hclose _ _
          · cases h

theorem local_stepEscape (hp : st.mode.InClass → place.InClass)
    (h : st.stepEscape place c = some st') : Local st st' := by
  have hletter (h : ((st.flags.letterClass? c).bind fun s =>
      st.deliver? place (.set s)) = some st') : Local st st' := by
    obtain ⟨s, -, h⟩ := Option.bind_eq_some_iff.mp h
    exact local_deliver? hp h
  have hgoto := or_not_of_imp hp
  unfold stepEscape at h
  split at h
  · cases h
  -- escapes that go on, those for a set by the letter, and those of a single character
  · split at h
    · cases h
      exact local_goto rfl hgoto
    · cases h
      exact local_goto rfl hgoto
    · cases h
      exact local_goto rfl hgoto
    · cases h
      exact local_goto rfl hgoto
    · cases h
      exact local_goto rfl hgoto
    · exact hletter h
    · exact hletter h
    · exact hletter h
    · exact hletter h
    · exact hletter h
    · exact hletter h
    · split at h
      · exact local_deliver? hp h
      · split at h
        · exact local_deliver? hp h
        · split at h
          · split at h
            · cases h
              exact local_goto rfl (Or.inr hp)
            · cases h
              exact local_push trivial hp
          · cases h

theorem local_stepHexDigit {left value : Nat} {short : Bool}
    (hp : st.mode.InClass → place.InClass)
    (h : st.stepHexDigit place left value short c = some st') : Local st st' := by
  obtain ⟨d, -, h⟩ := Option.bind_eq_some_iff.mp h
  dsimp only at h
  split at h
  · cases h
    exact local_goto rfl (or_not_of_imp hp)
  · split at h
    · cases h
    · exact local_deliverCode? hp h

theorem local_deliverProperty? {negated : Bool} {found : Option (CharSet × Bool)}
    (hp : st.mode.InClass → place.InClass)
    (h : st.deliverProperty? place negated found = some st') : Local st st' := by
  obtain ⟨⟨s, inverse⟩, -, h⟩ := Option.bind_eq_some_iff.mp h
  dsimp only at h
  split at h
  · cases h
  · obtain ⟨s, -, h⟩ := Option.bind_eq_some_iff.mp h
    exact local_deliver? hp h

theorem local_stepBoundaryName {name : List Char} (hc : ¬ st.mode.InClass)
    (h : st.stepBoundaryName name c = some st') : Local st st' := by
  unfold stepBoundaryName at h
  refine local_orBlank (.refl st) h fun h => ?_
  split at h
  · cases h
    exact local_goto rfl (Or.inr hc)
  · split at h
    · obtain ⟨edge, -, h⟩ := Option.map_eq_some_iff.mp h
      cases h
      exact local_push trivial hc
    · cases h

theorem local_stepMember (h : st.stepMember c = some st') : Local st st' := by
  unfold stepMember at h
  refine local_orBlank (.refl st) h fun h => ?_
  split at h
  · cases h
    exact local_goto rfl (Or.inl trivial)
  · exact local_closeClass? h
  · cases h
    exact local_goto rfl (Or.inl trivial)
  · cases h
    exact local_goto rfl (Or.inl trivial)
  · cases h
    exact local_goto rfl (Or.inl trivial)
  · cases h
    exact local_goto rfl (Or.inl trivial)
  · cases h
    exact local_goto rfl (Or.inl trivial)

theorem local_stepLower {p : Prim} (h : st.stepLower p c = some st') : Local st st' := by
  unfold stepLower at h
  refine local_orBlank (.refl st) h fun h => ?_
  split at h
  · cases h
    exact local_goto rfl (Or.inl trivial)
  · obtain ⟨mid, hm, h⟩ := Option.bind_eq_some_iff.mp h
    exact (local_addPrim? hm).trans (local_stepMember h)

theorem local_beginOperand {op : ClassOp} : Local st (st.beginOperand op) := local_inClass rfl trivial

theorem local_stepDashed {p : Prim} {spaced : Bool} (h : st.stepDashed p spaced c = some st') :
    Local st st' := by
  have hdashed : Local st (st.goto (.dashed p true)) := local_goto rfl (Or.inl trivial)
  unfold stepDashed at h
  refine local_orBlank hdashed h fun h => ?_
  split at h
  · obtain ⟨mid, hm, h⟩ := Option.bind_eq_some_iff.mp h
    obtain ⟨first, hf, hm⟩ := Option.bind_eq_some_iff.mp hm
    exact (local_addPrim? hf).trans ((local_addPrim? hm).trans (local_closeClass? h))
  · split at h
    · obtain ⟨mid, hm, h⟩ := Option.bind_eq_some_iff.mp h
      refine (local_addPrim? hm).trans ?_
      split at h
      · cases h
        exact local_goto rfl (Or.inl trivial)
      · cases h
        exact local_beginOperand
    · split at h
      · split at h
        · cases h
          exact local_goto rfl (Or.inl trivial)
        · exact local_addBounds? h
      · cases h

theorem local_stepClassStart {first : Bool} (h : st.stepClassStart first c = some st') :
    Local st st' := by
  unfold stepClassStart at h
  refine local_orBlank (.refl st) h fun h => ?_
  split at h
  · cases h
    exact local_inClass rfl trivial
  · split at h
    · cases h
      exact local_addMember rfl trivial
    · split at h
      · cases h
        exact local_addMember rfl trivial
      · have hgoto : Local st (st.goto .member) := local_goto rfl (Or.inl trivial)
        exact hgoto.trans (local_stepMember h)

theorem local_foldl_addMember (sets : List CharSet) : Local st (sets.foldl addMember st) := by
  induction sets generalizing st with
  | nil => exact .refl st
  | cons s sets ih =>
    have hadd : Local st (st.addMember s) := local_addMember rfl trivial
    exact hadd.trans ih

theorem local_stepClassName {name : List Char} (h : st.stepClassName name c = some st') :
    Local st st' := by
  unfold stepClassName at h
  dsimp only at h
  split at h
  · obtain ⟨s, -, h⟩ := Option.map_eq_some_iff.mp h
    cases h
    exact local_addMember rfl trivial
  · split at h
    · cases h
      exact local_goto rfl (Or.inl trivial)
    · split at h
      · cases h
      · next last earlier _ =>
        -- the text was no name of a class: it is read again, as members of a nested class
        have hopen : Local st st.openClass := local_openClass
        have hadd : Local st.openClass ((earlier.reverse.map CharSet.singleton).foldl addMember
            st.openClass) := local_foldl_addMember _
        have hlower (mid : State) : Local mid (mid.goto (.lower (.char last))) :=
          local_goto rfl (Or.inl trivial)
        exact hopen.trans (hadd.trans ((hlower _).trans (local_stepLower h)))

theorem local_pushRepeated {operand : Item} {low : Nat} {high : Option Nat} {greedy : Bool}
    (hc : ¬ st.mode.InClass) (hm : st.mode.operand? = some operand) :
    Local st (st.pushRepeated operand low high greedy) where
  outer := rfl
  groups := rfl
  names := rfl
  flags := rfl
  comment _ hc := hc
  bare hb := ⟨hb.1.push (noGroup_repeated (hb.2 operand hm) _ _ _), nofun⟩
  tidy ht _ := ht hc

theorem local_nextBranch (hc : ¬ st.mode.InClass) (hm : st.mode.operand? = none) :
    Local st st.nextBranch where
  outer := rfl
  groups := rfl
  names := rfl
  flags := rfl
  comment _ hc := hc
  bare hb := by
    refine ⟨fun item hi => ?_, fun item hi => by rw [nextBranch, hm] at hi; cases hi⟩
    rw [nextBranch, List.append_nil] at hi
    rcases List.mem_cons.mp hi with rfl | hi
    · exact noGroup_itemConcat fun item hi => hb.1 item (List.mem_append_right _ hi)
    · exact hb.1 item (List.mem_append_left _ hi)
  tidy ht _ := ht hc

theorem local_operand? {item : Item} {mid : State} {next : Mode} (hc : ¬ st.mode.InClass)
    (h : st.operand? = some (item, mid)) (hn : next.operand? = some item) :
    Local st (mid.goto next) := by
  unfold operand? at h
  split at h
  · cases h
  · next first items hitems =>
    split at h
    · cases h
      refine ⟨rfl, rfl, rfl, rfl, fun _ hc => hc, fun hb => ⟨fun other ho => ?_, fun other ho => ?_⟩,
        fun ht _ => ht hc⟩
      · apply hb.1 other
        rw [hitems]
        rcases List.mem_append.mp ho with ho | ho
        · exact List.mem_append_left _ ho
        · exact List.mem_append_right _ (List.mem_cons_of_mem _ ho)
      · obtain rfl : item = other := Option.some.inj (hn.symm.trans ho)
        apply hb.1
        rw [hitems]
        exact List.mem_append_right _ List.mem_cons_self
    · cases h

/-- Whether no items have groups, and none of the open groups captures. -/
def Tame (st : State) : Prop := st.Bare ∧ ∀ frame ∈ st.outer, frame.index = none ∧ frame.level.Bare

/-- Whether all flags are as at the beginning of a text. -/
def Clean (st : State) : Prop :=
  st.flags = {} ∧ st.comment = false ∧ ∀ frame ∈ st.outer, frame.flags = {}

/-- What all steps have in common: groups that capture are opened or not, and if not, no item gets
groups. The flags stay as they are provided that `Unset` holds, and no class is left open. -/
structure Grows (Unset : Prop) (st st' : State) : Prop where
  groups : st.groups ≤ st'.groups
  names : st'.groups = st.groups → st'.names = st.names
  tame : st'.groups = st.groups → st.Tame → st'.Tame
  clean : Unset → st.Clean → st'.Clean
  tidy : st.Tidy → st'.Tidy

section Grows

variable {Unset : Prop}

theorem Grows.trans (h : Grows Unset st st') (h' : Grows Unset st' st'') : Grows Unset st st'' where
  groups := h.groups.trans h'.groups
  names he := by
    have := h.groups
    have := h'.groups
    exact (h'.names (by omega)).trans (h.names (by omega))
  tame he ht := by
    have := h.groups
    have := h'.groups
    exact h'.tame (by omega) (h.tame (by omega) ht)
  clean hu hc := h'.clean hu (h.clean hu hc)
  tidy ht := h'.tidy (h.tidy ht)

theorem Local.grows (h : Local st st') : Grows Unset st st' where
  groups := Nat.le_of_eq h.groups.symm
  names _ := h.names
  tame _ ht := ⟨h.bare ht.1, by rw [h.outer]; exact ht.2⟩
  clean _ hc := by
    refine ⟨h.flags.trans hc.1, h.comment ?_ hc.2.1, ?_⟩
    · rw [hc.1]
    · rw [h.outer]
      exact hc.2.2
  tidy := h.tidy

theorem grows_openGroup {flags : Flags} (hm : ¬ st.mode.InClass) (hf : Unset → flags = st.flags) :
    Grows Unset st (st.openGroup none flags) where
  groups := Nat.le_refl _
  names _ := rfl
  tame _ ht := by
    refine ⟨⟨nofun, nofun⟩, fun frame hf => ?_⟩
    rcases List.mem_cons.mp hf with rfl | hf
    · exact ⟨rfl, ht.1.1⟩
    · exact ht.2 frame hf
  clean hu hc := by
    refine ⟨(hf hu).trans hc.1, hc.2.1, fun frame hf => ?_⟩
    rcases List.mem_cons.mp hf with rfl | hf
    · exact hc.1
    · exact hc.2.2 frame hf
  tidy ht _ := ht hm

theorem grows_openCapture (hm : ¬ st.mode.InClass) (names : List (List Char)) :
    Grows Unset st { st.openCapture with names } where
  groups := Nat.le_succ _
  names he := absurd he (Nat.succ_ne_self _)
  -- the number of groups has grown, so that nothing is asked of the items
  tame he := absurd he (Nat.succ_ne_self _)
  clean _ hc := by
    refine ⟨hc.1, hc.2.1, fun frame hf => ?_⟩
    rcases List.mem_cons.mp hf with rfl | hf
    · exact hc.1
    · exact hc.2.2 frame hf
  tidy ht _ := ht hm

theorem grows_closeGroup? (hm : ¬ st.mode.InClass) (h : st.closeGroup? = some st') :
    Grows Unset st st' ∧ st'.groups = st.groups := by
  unfold closeGroup? at h
  cases ho : st.outer with
  | nil =>
    rw [ho] at h
    cases h
  | cons frame outer =>
    rw [ho] at h
    cases h
    refine ⟨⟨Nat.le_refl _, fun _ => rfl, ?_, ?_, fun ht _ => ht hm⟩, rfl⟩
    -- the group had no index, so that its item is the one of its body
    · rintro - ⟨hb, hf⟩
      rw [ho] at hf
      obtain ⟨hframe, hf⟩ := List.forall_mem_cons.mp hf
      refine ⟨⟨hframe.2.push ?_, nofun⟩, hf⟩
      rw [hframe.1]
      exact hb.1.close
    · rintro - ⟨-, hc, hf⟩
      rw [ho] at hf
      obtain ⟨hframe, hf⟩ := List.forall_mem_cons.mp hf
      exact ⟨hframe, hc, hf⟩

theorem local_or_of_orBlank {next : Option State} (h : st.orBlank c next = some st') :
    Local st st' ∨ next = some st' := by
  by_cases hn : next = some st'
  · exact Or.inr hn
  · exact Or.inl (local_orBlank (.refl st) h fun h => absurd h hn)

theorem grows_stepItem (hc : ¬ st.mode.InClass) (hm : st.mode.operand? = none)
    (h : st.stepItem c = some st') : Grows Unset st st' ∧ st'.groups = st.groups := by
  have hlocal (hl : Local st st') : Grows Unset st st' ∧ st'.groups = st.groups :=
    ⟨hl.grows, hl.groups⟩
  have hoperand (next : Item → Mode) (hn : ∀ item, (next item).operand? = some item)
      (h : (st.operand?.map fun found => found.2.goto (next found.1)) = some st') :
      Grows Unset st st' ∧ st'.groups = st.groups := by
    obtain ⟨⟨item, mid⟩, ho, rfl⟩ := Option.map_eq_some_iff.mp h
    exact hlocal (local_operand? hc ho (hn item))
  unfold stepItem at h
  rcases local_or_of_orBlank h with hl | h
  · exact hlocal hl
  · split at h
    · cases h
      exact hlocal (local_goto rfl (Or.inr hc))
    · exact grows_closeGroup? hc h
    · cases h
      exact hlocal (local_nextBranch hc hm)
    · cases h
      exact hlocal local_openClass
    · exact hoperand (fun item => .repeated item 0 (some 1) false) (fun _ => rfl) h
    · exact hoperand (fun item => .repeated item 0 none false) (fun _ => rfl) h
    · exact hoperand (fun item => .repeated item 1 none false) (fun _ => rfl) h
    · exact hoperand (fun item => .count item (.low none false)) (fun _ => rfl) h
    · cases h
      exact hlocal (local_goto rfl (Or.inr hc))
    · obtain ⟨s, -, rfl⟩ := Option.map_eq_some_iff.mp h
      exact hlocal (local_push trivial hc)
    · cases h
      exact hlocal (local_push trivial hc)
    · cases h
      exact hlocal (local_push trivial hc)
    · cases h
      exact hlocal (local_push trivial hc)

theorem grows_stepRepeated {operand : Item} {low : Nat} {high : Option Nat} {wide : Bool}
    (hc : ¬ st.mode.InClass) (hm : st.mode.operand? = some operand)
    (h : st.stepRepeated operand low high wide c = some st') : Grows Unset st st' := by
  have hnext (h : (if c = '?' then some (st.pushRepeated operand low high false)
      else ((st.pushRepeated operand low high true).goto .item).stepItem c) = some st') :
      Grows Unset st st' := by
    split at h
    · cases h
      exact (local_pushRepeated hc hm).grows
    · have hpush : Local st ((st.pushRepeated operand low high true).goto .item) :=
        (local_pushRepeated hc hm).trans (local_goto rfl (Or.inr not_false))
      refine hpush.grows.trans (grows_stepItem ?_ rfl h).1
      exact not_false
  unfold stepRepeated at h
  dsimp only at h
  split at h
  · rcases local_or_of_orBlank h with hl | h
    · exact hl.grows
    · exact hnext h
  · exact hnext h

theorem grows_stepFlags {marks : List (Option Flag)} (hc : ¬ st.mode.InClass)
    (hu : Unset → marks = [] ∧ ∀ marks, st'.mode ≠ .flagList marks)
    (h : st.stepFlags marks c = some st') : Grows Unset st st' := by
  unfold stepFlags at h
  dsimp only at h
  -- a group with flags, flags on their own, or one more mark
  split at h
  · split at h
    · cases h
    · split at h
      · cases h
        apply grows_openGroup hc
        intro hset
        rw [(hu hset).1]
        rfl
      · split at h
        · cases h
        · next hne =>
          cases h
          refine ⟨Nat.le_refl _, fun _ => rfl, fun _ ht => ⟨⟨ht.1.1.push trivial, nofun⟩, ht.2⟩, fun hset => ?_,
            fun ht _ => ht hc⟩
          rw [(hu hset).1] at hne
          exact absurd rfl hne
  · obtain ⟨mark, -, h⟩ := Option.bind_eq_some_iff.mp h
    split at h
    · cases h
    · cases h
      refine ⟨Nat.le_refl _, fun _ => rfl, fun _ ht => ⟨⟨ht.1.1, nofun⟩, ht.2⟩, fun hset => ?_,
        fun ht _ => ht hc⟩
      exact absurd rfl ((hu hset).2 _)

end Grows

/-- Whether the flags of a group are being read. -/
def ListsFlags (st : State) : Prop := ∃ marks, st.mode = .flagList marks

theorem grows_step (h : st.step c = some st') :
    Grows (¬ st.ListsFlags ∧ ¬ st'.ListsFlags) st st' := by
  -- one case for each mode, in the order of the modes of a step
  unfold step at h
  split at h
  · next hc =>
    cases h
    exact Local.grows
      ⟨rfl, rfl, rfl, rfl, fun _ hn => absurd (hc.symm.trans hn) nofun, fun hb => hb, fun ht => ht⟩
  · split at h
    · next hm => exact (grows_stepItem (by rw [hm]; exact not_false) (by rw [hm]; rfl) h).1
    · next hm => exact grows_stepRepeated (by rw [hm]; exact not_false) (by rw [hm]; rfl) h
    · next operand count hm =>
      refine (local_stepCount (by rw [hm]; exact not_false) (fun hb => ?_) h).grows
      exact hb.2 operand (by rw [hm]; rfl)
    · next hm =>
      have hout : ¬ st.mode.InClass := by rw [hm]; exact not_false
      rcases local_or_of_orBlank h with hl | h
      · exact hl.grows
      · split at h
        · cases h
          exact (local_goto rfl (Or.inr hout)).grows
        · refine (grows_openCapture hout st.names).trans (grows_stepItem ?_ rfl h).1
          exact not_false
    · next hm =>
      have hout : ¬ st.mode.InClass := by rw [hm]; exact not_false
      split at h
      · cases h
        exact (local_goto rfl (Or.inr hout)).grows
      · cases h
        exact (local_goto rfl (Or.inr hout)).grows
      · refine grows_stepFlags hout (fun hu => ⟨rfl, fun marks hm => ?_⟩) h
        exact hu.2 ⟨marks, hm⟩
    · next hm =>
      split at h
      · cases h
        exact (local_goto rfl (Or.inr (by rw [hm]; exact not_false))).grows
      · cases h
    · next hm =>
      have hout : ¬ st.mode.InClass := by rw [hm]; exact not_false
      split at h
      · split at h
        · cases h
        · cases h
          exact grows_openCapture hout _
      · split at h
        · cases h
          exact (local_goto rfl (Or.inr hout)).grows
        · cases h
    · next marks hm =>
      exact grows_stepFlags (by rw [hm]; exact not_false) (fun hu => absurd ⟨marks, hm⟩ hu.1) h
    · next hm => exact (local_stepEscape (by rw [hm]; exact id) h).grows
    · next place _ hm =>
      have hp : st.mode.InClass → place.InClass := by rw [hm]; exact id
      refine (local_orBlank (.refl st) h fun h => ?_).grows
      split at h
      · cases h
        exact local_goto rfl (or_not_of_imp hp)
      · exact local_stepHexDigit hp h
    · next hm =>
      exact (local_orBlank (.refl st) h fun h => local_stepHexDigit (by rw [hm]; exact id) h).grows
    · next place _ hm =>
      have hp : st.mode.InClass → place.InClass := by rw [hm]; exact id
      refine (local_orBlank (.refl st) h fun h => ?_).grows
      split at h
      · obtain ⟨n, -, h⟩ := Option.bind_eq_some_iff.mp h
        exact local_deliverCode? hp h
      · obtain ⟨d, -, rfl⟩ := Option.map_eq_some_iff.mp h
        exact local_goto rfl (or_not_of_imp hp)
    · next place _ hm =>
      have hp : st.mode.InClass → place.InClass := by rw [hm]; exact id
      refine (local_orBlank (.refl st) h fun h => ?_).grows
      split at h
      · cases h
        exact local_goto rfl (or_not_of_imp hp)
      · split at h
        · cases h
        · exact local_deliverProperty? hp h
    · next place _ _ hm =>
      have hp : st.mode.InClass → place.InClass := by rw [hm]; exact id
      refine (local_orBlank (.refl st) h fun h => ?_).grows
      split at h
      · exact local_deliverProperty? hp h
      · cases h
        exact local_goto rfl (or_not_of_imp hp)
    · next hm =>
      have hout : ¬ st.mode.InClass := by rw [hm]; exact not_false
      split at h
      · cases h
        exact (local_goto rfl (Or.inr hout)).grows
      · have hpush : Local st st.pushBoundary := local_push trivial hout
        refine hpush.grows.trans (grows_stepItem ?_ rfl h).1
        exact not_false
    · next hm =>
      have hout : ¬ st.mode.InClass := by rw [hm]; exact not_false
      refine (local_orBlank (.refl st) h fun h => ?_).grows
      split at h
      · cases h
        exact local_goto rfl (Or.inr hout)
      · obtain ⟨⟨item, mid⟩, ho, h⟩ := Option.bind_eq_some_iff.mp h
        have hmid : Local st mid ∧ item.term.NoGroup ∧ ¬ mid.mode.InClass := by
          cases ho
          exact ⟨⟨rfl, rfl, rfl, rfl, fun _ hc => hc, fun hb => ⟨hb.1, nofun⟩, fun ht _ => ht hout⟩,
            trivial, not_false⟩
        exact hmid.1.trans (local_stepCount hmid.2.2 (fun _ => hmid.2.1) h)
    · next hm => exact (local_stepBoundaryName (by rw [hm]; exact not_false) h).grows
    · exact (local_stepClassStart h).grows
    · exact (local_stepMember h).grows
    · split at h
      · cases h
        exact local_beginOperand.grows
      · have hlower (p : Prim) : Local st (st.goto (.lower p)) := local_goto rfl (Or.inl trivial)
        exact ((hlower _).trans (local_stepLower h)).grows
    · exact (local_stepLower h).grows
    · exact (local_stepDashed h).grows
    · split at h
      · cases h
        have hname : Local st (st.goto (.className [])) := local_goto rfl (Or.inl trivial)
        exact hname.grows
      · exact (local_openClass.trans (local_stepClassStart h)).grows
    · exact (local_stepClassName h).grows

section Texts

variable {text : List Char}

theorem foldlM_cons_eq_some (h : (c :: text).foldlM step st = some st'') :
    ∃ st', st.step c = some st' ∧ text.foldlM step st' = some st'' := by
  rw [List.foldlM_cons] at h
  exact Option.bind_eq_some_iff.mp h

theorem groups_le_of_foldlM (h : text.foldlM step st = some st') : st.groups ≤ st'.groups := by
  induction text generalizing st with
  | nil =>
    cases h
    exact Nat.le_refl _
  | cons c text ih =>
    obtain ⟨mid, hs, h⟩ := foldlM_cons_eq_some h
    exact (grows_step hs).groups.trans (ih h)

/-- A text without groups that capture gives none a name. -/
theorem names_of_foldlM (h : text.foldlM step st = some st') (hg : st'.groups = st.groups) :
    st'.names = st.names := by
  induction text generalizing st with
  | nil =>
    cases h
    rfl
  | cons c text ih =>
    obtain ⟨mid, hs, h⟩ := foldlM_cons_eq_some h
    have hmid := (grows_step hs).groups
    have hle := groups_le_of_foldlM h
    exact (ih h (by omega)).trans ((grows_step hs).names (by omega))

/-- A text without groups that capture leaves no groups in the items. -/
theorem tame_of_foldlM (h : text.foldlM step st = some st') (hg : st'.groups = st.groups)
    (ht : st.Tame) : st'.Tame := by
  induction text generalizing st with
  | nil =>
    cases h
    exact ht
  | cons c text ih =>
    obtain ⟨mid, hs, h⟩ := foldlM_cons_eq_some h
    -- the number of groups only grows, so that it stays what it is at both ends
    have hmid := (grows_step hs).groups
    have hle := groups_le_of_foldlM h
    exact ih h (by omega) ((grows_step hs).tame (by omega) ht)

/-- A text that sets no flags leaves them as they are. -/
theorem clean_of_foldlM (h : text.foldlM step st = some st')
    (hf : ∀ before after mid, text = before ++ after → before.foldlM step st = some mid →
      ¬ mid.ListsFlags)
    (hc : st.Clean) : st'.Clean := by
  induction text generalizing st with
  | nil =>
    cases h
    exact hc
  | cons c text ih =>
    obtain ⟨mid, hs, h⟩ := foldlM_cons_eq_some h
    have hst : ¬ st.ListsFlags := hf [] (c :: text) st rfl rfl
    have hfold (before : List Char) : (c :: before).foldlM step st = before.foldlM step mid := by
      rw [List.foldlM_cons, hs]
      rfl
    have hmid : ¬ mid.ListsFlags := hf [c] text mid rfl (hfold [])
    refine ih h ?_ ((grows_step hs).clean ⟨hst, hmid⟩ hc)
    intro before after mid' htext hb
    exact hf (c :: before) after mid' (by rw [htext]; rfl) ((hfold before).trans hb)

/-- Classes that a text opens are closed where the brackets end. -/
theorem tidy_of_foldlM (h : text.foldlM step st = some st') (ht : st.Tidy) : st'.Tidy := by
  induction text generalizing st with
  | nil =>
    cases h
    exact ht
  | cons c text ih =>
    obtain ⟨mid, hs, h⟩ := foldlM_cons_eq_some h
    exact ih h ((grows_step hs).tidy ht)

end Texts

end State

end RoutePattern.Regex
