import RoutePattern.Proofs.Regex.Search
import RoutePattern.Proofs.Regex.Spelling

/-! The groups of a match, by the marks that were made on the way to it. -/
namespace RoutePattern.Regex

section Groups

variable {text : List Char} {new old : Marks} {i : Nat}

theorem lookup_eq_none (h : ∀ mark ∈ new, mark.1 / 2 ≠ i) :
    new.lookup (2 * i) = none ∧ new.lookup (2 * i + 1) = none := by
  constructor
  · rw [List.lookup_eq_none_iff]
    intro mark hm
    have hne := h mark hm
    rw [bne_iff_ne]
    omega
  · rw [List.lookup_eq_none_iff]
    intro mark hm
    have hne := h mark hm
    rw [bne_iff_ne]
    omega

/-- Marks of other groups that were made later make no difference to a group. -/
theorem group?_append_left (h : ∀ mark ∈ new, mark.1 / 2 ≠ i) :
    (Captures.mk text (new ++ old)).group? i = (Captures.mk text old).group? i := by
  obtain ⟨hstart, hstop⟩ := lookup_eq_none h
  simp only [Captures.group?, Captures.span?, List.lookup_append, hstart, hstop, Option.none_or]

/-- Marks of other groups that were made before make no difference to a group. -/
theorem group?_append_right (h : ∀ mark ∈ old, mark.1 / 2 ≠ i) :
    (Captures.mk text (new ++ old)).group? i = (Captures.mk text new).group? i := by
  obtain ⟨hstart, hstop⟩ := lookup_eq_none h
  simp only [Captures.group?, Captures.span?, List.lookup_append, hstart, hstop, Option.or_none]

theorem group?_nil : (Captures.mk text []).group? i = none := rfl

end Groups

/-- Whether marks belong to the groups behind `g`, and give these the values. -/
structure Notes (text : List Char) (g : Nat) (values : List (Option String)) (marks : Marks) :
    Prop where
  indices : ∀ mark ∈ marks, g < mark.1 / 2 ∧ mark.1 / 2 ≤ g + values.length
  groups : ∀ i v, values[i]? = some v → (Captures.mk text marks).group? (g + 1 + i) = v

section Notes

variable {text w : List Char} {g n : Nat} {values others : List (Option String)}
  {marks later : Marks} {cur cur' : Cursor}

theorem notes_none : Notes text g (List.replicate n none) [] where
  indices := nofun
  groups i v hv := by
    obtain ⟨-, rfl⟩ := List.mem_replicate.mp (List.mem_of_getElem? hv)
    exact group?_nil

theorem notes_group (ht : cur.On text) (hp : cur.Passes w cur') :
    Notes text g [some (String.ofList w)]
      [(2 * (g + 1) + 1, cur'.offset), (2 * (g + 1), cur.offset)] where
  indices := by
    intro mark hm
    rcases List.mem_cons.mp hm with rfl | hm
    · exact ⟨by omega, by rw [List.length_singleton]; omega⟩
    · rw [List.mem_singleton.mp hm]
      exact ⟨by omega, by rw [List.length_singleton]; omega⟩
  groups i v hv := by
    obtain ⟨rfl, rfl⟩ : i = 0 ∧ v = some (String.ofList w) := by
      cases i with
      | zero => exact ⟨rfl, (Option.some.inj hv).symm⟩
      | succ i => cases hv
    obtain ⟨before, hbefore, htext⟩ := ht.append_rest
    obtain ⟨hrest, hoffset⟩ := hp.rest_offset
    -- the later mark is found first, and the earlier one behind it
    have hstop : List.lookup (2 * (g + 1 + 0) + 1)
        [(2 * (g + 1) + 1, cur'.offset), (2 * (g + 1), cur.offset)] = some cur'.offset :=
      List.lookup_cons_self
    have hne : (2 * (g + 1) == 2 * (g + 1) + 1) = false := by
      rw [beq_eq_false_iff_ne]
      omega
    have hstart : List.lookup (2 * (g + 1 + 0))
        [(2 * (g + 1) + 1, cur'.offset), (2 * (g + 1), cur.offset)] = some cur.offset := by
      rw [Nat.add_zero, List.lookup_cons, hne]
      exact List.lookup_cons_self
    have hslice : (text.drop cur.offset).take (cur'.offset - cur.offset) = w := by
      rw [htext, ← hbefore, List.drop_left, hrest, hoffset, hbefore, Nat.add_sub_cancel_left,
        List.take_left]
    simp only [Captures.group?, Captures.span?, hstart, hstop]
    exact congrArg (fun w => some (String.ofList w)) hslice

theorem Notes.append (h : Notes text g values marks)
    (h' : Notes text (g + values.length) others later) :
    Notes text g (values ++ others) (later ++ marks) where
  indices mark hm := by
    rw [List.length_append]
    rcases List.mem_append.mp hm with hm | hm
    · have hindex := h'.indices mark hm
      omega
    · have hindex := h.indices mark hm
      omega
  groups i v hv := by
    -- a group belongs to one of the two parts, and the marks of the other are passed over
    by_cases hi : i < values.length
    · have hother : ∀ mark ∈ later, mark.1 / 2 ≠ g + 1 + i := by
        intro mark hm
        have hindex := h'.indices mark hm
        omega
      rw [List.getElem?_append_left hi] at hv
      rw [group?_append_left hother]
      exact h.groups i v hv
    · have hother : ∀ mark ∈ marks, mark.1 / 2 ≠ g + 1 + i := by
        intro mark hm
        have hindex := h.indices mark hm
        omega
      have hshift : g + values.length + 1 + (i - values.length) = g + 1 + i := by omega
      rw [List.getElem?_append_right (Nat.le_of_not_lt hi)] at hv
      rw [group?_append_right hother, ← hshift]
      exact h'.groups _ v hv

end Notes

/-- The highest index of a group in several terms. -/
def lastGroupOf (ts : List Term) : Nat := (ts.map Term.lastGroup).foldr max 0

/-- Whether terms match the texts of a relation, and mark the values in as many groups behind
`g`. -/
structure Denotes (g : Nat) (ts : List Term) (cut : List Char → List (Option String) → Prop)
    (n : Nat) : Prop where
  sound : ∀ {text cur m y}, Cursor.On text cur → Term.RunsAll ts (cur, m) y →
    ∃ w values cur' marks, cut w values ∧ cur.Passes w cur' ∧ y = (cur', marks ++ m) ∧
      Notes text g values marks
  complete : ∀ {w values cur cur'} (m : Marks), cut w values → cur.Passes w cur' →
    ∃ m', Term.RunsAll ts (cur, m) (cur', m')
  length : ∀ {w values}, cut w values → values.length = n
  last : lastGroupOf ts = if n = 0 then 0 else g + n

section Denotes

variable {g n k : Nat} {ts us : List Term} {t : Term} {L : Language Char}
  {cut cut' : List Char → List (Option String) → Prop}

theorem lastGroupOf_append : lastGroupOf (ts ++ us) = max (lastGroupOf ts) (lastGroupOf us) := by
  induction ts with
  | nil => exact (Nat.zero_max _).symm
  | cons t ts ih =>
    have hcons (ts : List Term) : lastGroupOf (t :: ts) = max t.lastGroup (lastGroupOf ts) := rfl
    rw [List.cons_append, hcons, hcons, ih, Nat.max_assoc]

theorem lastGroupOf_singleton : lastGroupOf [t] = t.lastGroup := Nat.max_zero _

theorem lastGroupOf_le_iff {k : Nat} : lastGroupOf ts ≤ k ↔ ∀ t ∈ ts, t.lastGroup ≤ k := by
  induction ts with
  | nil => exact iff_of_true (Nat.zero_le k) nofun
  | cons t ts ih =>
    rw [List.forall_mem_cons, ← ih]
    exact Nat.max_le

theorem lastGroup_itemConcat {items : List Item} :
    (Item.concat items).term.lastGroup = lastGroupOf (items.reverse.map Item.term) := by
  apply eq_of_forall_ge_iff
  intro k
  rw [Term.lastGroup_le_iff, indices_itemConcat, lastGroupOf_le_iff, List.forall_mem_map]
  simp only [List.mem_reverse, Term.lastGroup_le_iff]

theorem lastGroupOf_of_noGroup {items : List Item} (h : ∀ item ∈ items, item.term.NoGroup) :
    lastGroupOf (items.map Item.term) = 0 := by
  rw [← Nat.le_zero, lastGroupOf_le_iff, List.forall_mem_map]
  exact fun item hi => Nat.le_of_eq (h item hi).lastGroup_eq

theorem Denotes.append (h : Denotes g ts cut n) (h' : Denotes (g + n) us cut' k) :
    Denotes g (ts ++ us)
      (fun w values => ∃ u us v vs, cut u us ∧ cut' v vs ∧ w = u ++ v ∧ values = us ++ vs)
      (n + k) where
  sound ht hr := by
    obtain ⟨y, hts, hus⟩ := Term.runsAll_append.mp hr
    obtain ⟨u, us, mid, marks, hcu, hpu, rfl, hnu⟩ := h.sound ht hts
    obtain ⟨v, vs, cur', later, hcv, hpv, rfl, hnv⟩ := h'.sound (ht.passes hpu) hus
    rw [← h.length hcu] at hnv
    refine ⟨u ++ v, us ++ vs, cur', later ++ marks, ⟨u, us, v, vs, hcu, hcv, rfl, rfl⟩,
      Cursor.passes_append.mpr ⟨mid, hpu, hpv⟩, ?_, hnu.append hnv⟩
    rw [List.append_assoc]
  complete m hc hp := by
    obtain ⟨u, us, v, vs, hcu, hcv, rfl, rfl⟩ := hc
    obtain ⟨mid, hpu, hpv⟩ := Cursor.passes_append.mp hp
    obtain ⟨m', hts⟩ := h.complete m hcu hpu
    obtain ⟨m'', hus⟩ := h'.complete m' hcv hpv
    exact ⟨m'', Term.runsAll_append.mpr ⟨_, hts, hus⟩⟩
  length hc := by
    obtain ⟨u, us, v, vs, hcu, hcv, rfl, rfl⟩ := hc
    rw [List.length_append, h.length hcu, h'.length hcv]
  last := by
    rw [lastGroupOf_append, h.last, h'.last]
    split_ifs <;> omega

/-- Terms without groups give no values. -/
theorem denotes_of_consumes (hc : Consumes (Term.RunsAll ts) L) (hg : lastGroupOf ts = 0) :
    Denotes g ts (fun w values => w ∈ L ∧ values = []) 0 where
  sound _ hr := by
    obtain ⟨w, hw, cur', hp, rfl⟩ := (hc _ _ _).mp hr
    exact ⟨w, [], cur', [], ⟨hw, rfl⟩, hp, rfl, notes_none (n := 0)⟩
  complete m hcut hp := ⟨m, (hc _ _ _).mpr ⟨_, hcut.1, _, hp, rfl⟩⟩
  length hcut := by
    rw [hcut.2]
    rfl
  last := hg

/-- A group gives the text that it matches. -/
theorem denotes_group (hc : Consumes t.Runs L) (hg : t.NoGroup) :
    Denotes g [.group (g + 1) t] (fun w values => w ∈ L ∧ values = [some (String.ofList w)]) 1 where
  sound ht hr := by
    obtain ⟨y, hy, rfl⟩ := Term.runsAll_singleton.mp hr
    obtain ⟨w, hw, cur', hp, rfl⟩ := (hc _ _ _).mp hy
    exact ⟨w, _, cur', _, ⟨hw, rfl⟩, hp, rfl, notes_group ht hp⟩
  complete {w values cur cur'} m hcut hp := by
    have hr : t.Runs (cur, (2 * (g + 1), cur.offset) :: m) (cur', (2 * (g + 1), cur.offset) :: m) :=
      (hc _ _ _).mpr ⟨w, hcut.1, cur', hp, rfl⟩
    exact ⟨_, Term.runsAll_singleton.mpr ⟨_, hr, rfl⟩⟩
  length hcut := by
    rw [hcut.2]
    rfl
  last := by
    rw [lastGroupOf_singleton, Term.lastGroup, hg.lastGroup_eq]
    rfl

/-- Where a part is left out, its groups give nothing. -/
theorem Denotes.optional (h : Denotes g ts cut n) (ht : ∀ x y, t.Runs x y ↔ Term.RunsAll ts x y)
    (hg : t.lastGroup = lastGroupOf ts) :
    Denotes g [.rep t 0 (some 1) true]
      (fun w values => cut w values ∨ w = [] ∧ values = List.replicate n none) n where
  sound hon hr := by
    rcases Term.runs_optional.mp (Term.runsAll_singleton.mp hr) with rfl | hr
    · exact ⟨[], _, _, [], Or.inr ⟨rfl, rfl⟩, rfl, rfl, notes_none⟩
    · obtain ⟨w, values, cur', marks, hc, hp, rfl, hn⟩ := h.sound hon ((ht _ _).mp hr)
      exact ⟨w, values, cur', marks, Or.inl hc, hp, rfl, hn⟩
  complete {w values cur cur'} m hcut hp := by
    rcases hcut with hc | ⟨rfl, rfl⟩
    · obtain ⟨m', hr⟩ := h.complete m hc hp
      exact ⟨m', Term.runsAll_singleton.mpr (Term.runs_optional.mpr (Or.inr ((ht _ _).mpr hr)))⟩
    · obtain rfl : cur' = cur := hp
      exact ⟨m, Term.runsAll_singleton.mpr (Term.runs_optional.mpr (Or.inl rfl))⟩
  length hcut := by
    rcases hcut with hc | ⟨-, rfl⟩
    · exact h.length hc
    · exact List.length_replicate
  last := by
    rw [lastGroupOf_singleton, Term.lastGroup, hg]
    exact h.last

end Denotes

end RoutePattern.Regex
