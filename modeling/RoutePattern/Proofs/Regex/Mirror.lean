import Mathlib.Data.List.Forall2
import RoutePattern.Proofs.Regex.Spelling
import RoutePattern.Proofs.Text.Ascii

/-! A text that is read inside of other groups, where case may not count, is read alone as well, up to a
parenthesis that closes a group it did not open. What is read alone mirrors what is read inside. -/
namespace RoutePattern.Regex

/-- Whether flags are the same, or differ in whether case counts. -/
def Flags.Alike (fs fs' : Flags) : Prop := ∃ ignoreCase, fs' = { fs with ignoreCase }

/-- Whether two sets keep to ASCII where sets have to. -/
def KeepAscii (unicode : Bool) (s s' : CharSet) : Prop :=
  unicode = false → s.isAscii = true ∧ s'.isAscii = true

/-- Whether two items are the same but for their sets, and for the indices of their groups, which are
higher by `lo` in the second one. -/
structure Item.Alike (lo : Nat) (x y : Item) : Prop where
  height : y.height = x.height
  repeatable : y.repeatable = x.repeatable
  indices : ∀ P, y.term.Indices P ↔ x.term.Indices fun i => P (i + lo)

structure Level.Alike (lo : Nat) (a b : Level) : Prop where
  branches : List.Forall₂ (Item.Alike lo) a.branches b.branches
  items : List.Forall₂ (Item.Alike lo) a.items b.items

structure Frame.Alike (lo : Nat) (a b : Frame) : Prop where
  level : a.level.Alike lo b.level
  index : b.index = a.index.map (· + lo)
  flags : a.flags.Alike b.flags

/-- Whether the operands to the left of an operator in two classes are alike. -/
def leftAlike (unicode : Bool) :
    Option (ClassOp × CharSet × Nat) → Option (ClassOp × CharSet × Nat) → Prop
  | none, left => left = none
  | some (op, s, height), left =>
    ∃ s', left = some (op, s', height) ∧ KeepAscii unicode s s'

structure ClassLevel.Alike (unicode : Bool) (a b : ClassLevel) : Prop where
  negated : b.negated = a.negated
  left : leftAlike unicode a.left b.left
  set : KeepAscii unicode a.set b.set
  count : b.count = a.count
  height : b.height = a.height

def Prim.Alike (unicode : Bool) : Prim → Prim → Prop
  | set s, p => ∃ s', p = set s' ∧ KeepAscii unicode s s'
  | p, p' => p' = p

def Mode.Alike (lo : Nat) (unicode : Bool) : Mode → Mode → Prop
  | repeated x low high wide, m => ∃ y, m = repeated y low high wide ∧ x.Alike lo y
  | count x n, m => ∃ y, m = count y n ∧ x.Alike lo y
  | lower p, m => ∃ p', m = lower p' ∧ p.Alike unicode p'
  | dashed p spaced, m => ∃ p', m = dashed p' spaced ∧ p.Alike unicode p'
  | className name, m => m = className name ∧ ∀ c ∈ name, c.toNat < 128
  | m, m' => m' = m

section Flags

variable {fs fs' : Flags} {s s' t t' : CharSet} {unicode : Bool}

theorem Flags.Alike.refl (fs : Flags) : fs.Alike fs := ⟨fs.ignoreCase, rfl⟩

theorem Flags.Alike.unicode_eq (h : fs.Alike fs') : fs'.unicode = fs.unicode := by
  obtain ⟨b, rfl⟩ := h
  rfl

theorem Flags.Alike.extended_eq (h : fs.Alike fs') : fs'.extended = fs.extended := by
  obtain ⟨b, rfl⟩ := h
  rfl

theorem Flags.Alike.dot?_eq (h : fs.Alike fs') : fs'.dot? = fs.dot? := by
  obtain ⟨b, rfl⟩ := h
  rfl

theorem Flags.Alike.letterClass?_eq (h : fs.Alike fs') (c : Char) :
    fs'.letterClass? c = fs.letterClass? c := by
  obtain ⟨b, rfl⟩ := h
  rfl

theorem Flags.Alike.put (h : fs.Alike fs') (on : Bool) (f : Flag) :
    (fs.put on f).Alike (fs'.put on f) := by
  obtain ⟨b, rfl⟩ := h
  cases f with
  | ignoreCase => exact ⟨on, rfl⟩
  | _ => exact ⟨b, rfl⟩

theorem Flags.Alike.foldl_put (h : fs.Alike fs') (on : Bool) (marks : List Flag) :
    (marks.foldl (fun fs f => fs.put on f) fs).Alike (marks.foldl (fun fs f => fs.put on f) fs') := by
  induction marks generalizing fs fs' with
  | nil => exact h
  | cons f marks ih => exact ih (h.put on f)

theorem Flags.Alike.update (h : fs.Alike fs') (marks : List (Option Flag)) :
    (fs.update marks).Alike (fs'.update marks) :=
  (h.foldl_put true _).foldl_put false _

theorem KeepAscii.union (h : KeepAscii unicode s s') (h' : KeepAscii unicode t t') :
    KeepAscii unicode (s.union t) (s'.union t') :=
  fun hu => ⟨CharSet.isAscii_union.mpr ⟨(h hu).1, (h' hu).1⟩,
    CharSet.isAscii_union.mpr ⟨(h hu).2, (h' hu).2⟩⟩

theorem keepAscii_self (h : unicode = false → s.isAscii = true) : KeepAscii unicode s s :=
  fun hu => ⟨h hu, h hu⟩

theorem isAscii_apply (op : ClassOp) (hs : s.isAscii = true) (ht : t.isAscii = true) :
    (op.apply s t).isAscii = true := by
  cases op with
  | inter => exact CharSet.isAscii_inter hs ht
  | diff => exact CharSet.isAscii_diff hs ht
  | symmDiff => exact CharSet.isAscii_symmDiff hs ht

theorem KeepAscii.apply (op : ClassOp) (h : KeepAscii unicode s s') (h' : KeepAscii unicode t t') :
    KeepAscii unicode (op.apply s t) (op.apply s' t') :=
  fun hu => ⟨isAscii_apply op (h hu).1 (h' hu).1, isAscii_apply op (h hu).2 (h' hu).2⟩

/-- Letters of ASCII are ASCII in both cases. -/
theorem Flags.isAscii_meant (hu : fs.unicode = false) (h : s.isAscii = true) :
    (fs.meant s).isAscii = true := by
  have himages (first last image : Nat) (hlast : image + (last - first) < 128) (r : Nat × Nat) :
      ∀ r' ∈ Unicode.CasePairs.images ⟨first, last, 1, image⟩ r, r'.2 < 128 := by
    intro r' hr'
    unfold Unicode.CasePairs.images at hr'
    dsimp only at hr'
    rw [if_pos rfl] at hr'
    split at hr'
    · cases hr'
    · rw [List.mem_singleton.mp hr']
      dsimp only
      omega
  rw [meant, hu]
  split
  · exact h
  · rw [if_neg nofun]
    refine CharSet.isAscii_union.mpr ⟨CharSet.isAscii_ofRanges fun r' hr' => ?_, h⟩
    obtain ⟨r, -, hr'⟩ := List.mem_flatMap.mp hr'
    rcases List.mem_append.mp hr' with hr' | hr'
    · exact himages _ _ _ (by decide) r r' hr'
    · exact himages _ _ _ (by decide) r r' hr'

theorem Flags.Alike.keepAscii_meant (h : fs.Alike fs') (hs : KeepAscii fs.unicode s s') :
    KeepAscii fs.unicode (fs.meant s) (fs'.meant s') :=
  fun hu => ⟨isAscii_meant hu (hs hu).1, isAscii_meant (h.unicode_eq.trans hu) (hs hu).2⟩

/-- Without Unicode a class must keep to ASCII, and none does that is negated. -/
theorem Flags.Alike.exists_class? (h : fs.Alike fs') (hs : KeepAscii fs.unicode s s')
    {negated : Bool} (hclass : fs'.class? negated s' = some t') :
    ∃ t, fs.class? negated s = some t ∧ KeepAscii fs.unicode t t' := by
  unfold class? at hclass ⊢
  rw [h.unicode_eq] at hclass
  cases hu : fs.unicode with
  | true => exact ⟨_, rfl, nofun⟩
  | false =>
    obtain ⟨hmeant, hmeant'⟩ := h.keepAscii_meant hs hu
    rw [hu] at hclass
    cases negated with
    | true => simp [CharSet.not_isAscii_compl hmeant'] at hclass
    | false =>
      simp only [Bool.false_eq_true, if_false, hmeant', hmeant, Bool.false_or, if_true,
        Option.some.injEq] at hclass ⊢
      exact ⟨_, rfl, fun _ => ⟨hmeant, hclass ▸ hmeant'⟩⟩

theorem Flags.isAscii_of_letterClass? {c : Char} (hu : fs.unicode = false)
    (h : fs.letterClass? c = some s) : s.isAscii = true := by
  unfold letterClass? at h
  rw [hu] at h
  obtain ⟨t, ht, h⟩ := Option.bind_eq_some_iff.mp h
  split at h
  · obtain rfl := Option.some.inj h
    split at ht
    · cases ht
      decide
    · cases ht
      decide
    · cases ht
      decide
    · cases ht
  · cases h

theorem isAscii_of_mem_classSpellings {p : List Char × CharSet × Bool}
    (h : p ∈ classSpellings) : p.2.1.isAscii = true ∧ ∀ c ∈ p.1, c.toNat < 128 := by
  have hall : classSpellings.all (fun p => p.2.1.isAscii && p.1.all fun c => decide (c.toNat < 128)) =
      true := by decide +kernel
  obtain ⟨hset, htext⟩ := Bool.and_eq_true_iff.mp (List.all_eq_true.mp hall p h)
  exact ⟨hset, fun c hc => of_decide_eq_true (List.all_eq_true.mp htext c hc)⟩

end Flags

section Items

open List (Forall₂)

variable {lo : Nat} {x y : Item} {xs ys : List Item} {a b : Level}

theorem alike_leaf {t t' : Term} (ht : ∀ P, t.Indices P) (ht' : ∀ P, t'.Indices P) :
    Item.Alike lo { term := t } { term := t' } :=
  ⟨rfl, rfl, fun P => iff_of_true (ht' P) (ht _)⟩

theorem maxHeight_of_alike (h : Forall₂ (Item.Alike lo) xs ys) :
    Item.maxHeight ys = Item.maxHeight xs := by
  have hheights : ys.map Item.height = xs.map Item.height := by
    induction h with
    | nil => rfl
    | cons hxy _ ih => rw [List.map_cons, List.map_cons, hxy.height, ih]
  rw [Item.maxHeight, Item.maxHeight, hheights]

theorem forall_indices_of_alike (h : Forall₂ (Item.Alike lo) xs ys) (P : Nat → Prop) :
    (∀ y ∈ ys, y.term.Indices P) ↔ ∀ x ∈ xs, x.term.Indices fun i => P (i + lo) := by
  induction h with
  | nil => exact iff_of_true nofun nofun
  | cons hxy _ ih => rw [List.forall_mem_cons, List.forall_mem_cons, hxy.indices P, ih]

theorem alike_concat (h : Forall₂ (Item.Alike lo) xs ys) :
    (Item.concat xs).Alike lo (Item.concat ys) where
  height := by
    match h with
    | .nil => rfl
    | .cons hxy .nil => exact hxy.height
    | .cons hxy (.cons hxy' more) =>
      exact congrArg (· + 1) (maxHeight_of_alike (.cons hxy (.cons hxy' more)))
  repeatable := by
    match h with
    | .nil => rfl
    | .cons hxy .nil => exact hxy.repeatable
    | .cons _ (.cons _ _) => rfl
  indices P := by rw [indices_itemConcat, indices_itemConcat, forall_indices_of_alike h P]

theorem alike_alternation (h : Forall₂ (Item.Alike lo) xs ys) :
    (Item.alternation xs).Alike lo (Item.alternation ys) where
  height := congrArg (· + 1) (maxHeight_of_alike h)
  repeatable := rfl
  indices P := by
    rw [indices_itemAlternation, indices_itemAlternation, forall_indices_of_alike h P]

theorem Level.Alike.push (h : a.Alike lo b) (hxy : x.Alike lo y) :
    (a.push x).Alike lo (b.push y) :=
  ⟨h.branches, .cons hxy h.items⟩

theorem Level.Alike.close (h : a.Alike lo b) : a.close.Alike lo b.close := by
  obtain ⟨branches, items⟩ := a
  obtain ⟨branches', items'⟩ := b
  obtain ⟨hbranches, hitems⟩ := h
  cases hbranches with
  | nil => exact alike_concat hitems
  | cons hxy hmore => exact alike_alternation (.cons (alike_concat hitems) (.cons hxy hmore))

end Items

section Classes

variable {unicode : Bool} {fs fs' : Flags} {s s' : CharSet} {l l' : ClassLevel}

theorem ClassLevel.Alike.add (h : l.Alike unicode l')
    (hs : KeepAscii unicode s s') (height : Nat) :
    (l.add s height).Alike unicode (l'.add s' height) where
  negated := h.negated
  left := h.left
  set := h.set.union hs
  count := congrArg (· + 1) h.count
  height := congrArg (max · height) h.height

theorem ClassLevel.Alike.total (h : l.Alike fs.unicode l')
    (hf : fs.Alike fs') :
    (l'.total fs').2 = (l.total fs).2 ∧
      KeepAscii fs.unicode (l.total fs).1 (l'.total fs').1 := by
  have hleft := h.left
  rw [ClassLevel.total, ClassLevel.total, h.count, h.height]
  cases hl : l.left with
  | none =>
    rw [hl] at hleft
    rw [show l'.left = none from hleft]
    exact ⟨rfl, h.set⟩
  | some left =>
    obtain ⟨op, t, height⟩ := left
    rw [hl] at hleft
    obtain ⟨t', hl', ht⟩ := hleft
    rw [hl']
    exact ⟨rfl, (hf.keepAscii_meant ht).apply op (hf.keepAscii_meant h.set)⟩

end Classes

namespace State

/-- Whether a state alone mirrors one inside of open groups, by which so many groups that capture were
opened. -/
structure Mirrors (o : List Frame) (lo : Nat) (a b : State) : Prop where
  flags : a.flags.Alike b.flags
  level : a.level.Alike lo b.level
  outer : ∃ frames, b.outer = frames ++ o ∧ List.Forall₂ (Frame.Alike lo) a.outer frames
  groups : b.groups = a.groups + lo
  names : a.names ⊆ b.names
  classes : List.Forall₂ (ClassLevel.Alike a.flags.unicode) a.classes b.classes
  mode : a.mode.Alike lo a.flags.unicode b.mode
  comment : b.comment = a.comment

/-- What a step answers alone, given what it answers inside: a state that mirrors the one inside, unless
the text ends here for the states of `ends`. -/
def Follows (o : List Frame) (lo : Nat) (ends : State → Prop) (alone inside : Option State) : Prop :=
  ∀ b, inside = some b → (∃ a, alone = some a ∧ Mirrors o lo a b) ∨ alone = none ∧ ends b

section Mirrors

variable {o : List Frame} {lo : Nat} {a b : State} {c : Char} {alone inside : Option State}
  {m m' : Mode} {x y : Item} {s s' : CharSet} {p p' : Prim} {place : Place} {ends : State → Prop}

theorem Mirrors.ascii_eq (h : Mirrors o lo a b) : b.ascii = a.ascii := by
  rw [ascii, ascii, h.flags.unicode_eq]

/-- Where no class is open, none is, whatever the flags. -/
theorem Mirrors.classes_of_nil (h : Mirrors o lo a b) (hclasses : a.classes = []) {unicode : Bool} :
    List.Forall₂ (ClassLevel.Alike unicode) a.classes b.classes := by
  have hb := h.classes
  rw [hclasses] at hb ⊢
  rw [List.forall₂_nil_left_iff.mp hb]
  exact .nil

theorem Mirrors.goto (h : Mirrors o lo a b) (hm : m.Alike lo a.flags.unicode m') :
    Mirrors o lo (a.goto m) (b.goto m') :=
  { h with mode := hm }

theorem Mirrors.push (h : Mirrors o lo a b) (hxy : x.Alike lo y) :
    Mirrors o lo (a.push x) (b.push y) :=
  { h with level := h.level.push hxy, mode := rfl }

theorem Mirrors.pushTerm (h : Mirrors o lo a b) {t t' : Term} (ht : ∀ P, t.Indices P)
    (ht' : ∀ P, t'.Indices P) : Mirrors o lo (a.pushTerm t) (b.pushTerm t') :=
  h.push (alike_leaf ht ht')

theorem Mirrors.pushChar (h : Mirrors o lo a b) : Mirrors o lo (a.pushChar c) (b.pushChar c) :=
  h.pushTerm (fun _ => trivial) (fun _ => trivial)

theorem Mirrors.pushBoundary (h : Mirrors o lo a b) : Mirrors o lo a.pushBoundary b.pushBoundary :=
  h.pushTerm (fun _ => trivial) (fun _ => trivial)

theorem Mirrors.pushRepeated (h : Mirrors o lo a b) (hxy : x.Alike lo y) (low : Nat)
    (high : Option Nat) (greedy : Bool) :
    Mirrors o lo (a.pushRepeated x low high greedy) (b.pushRepeated y low high greedy) := by
  refine h.push ⟨congrArg (· + 1) hxy.height, rfl, fun P => ?_⟩
  rw [Term.indices_repeated, Term.indices_repeated, hxy.indices P]

theorem Mirrors.nextBranch (h : Mirrors o lo a b) : Mirrors o lo a.nextBranch b.nextBranch :=
  { h with level := ⟨.cons (alike_concat h.level.items) h.level.branches, .nil⟩ }

theorem Mirrors.openGroup (h : Mirrors o lo a b) {index : Option Nat} {fs fs' : Flags}
    (hf : fs.Alike fs') (hclasses : a.classes = []) :
    Mirrors o lo (a.openGroup index fs) (b.openGroup (index.map (· + lo)) fs') where
  flags := hf
  level := ⟨.nil, .nil⟩
  outer := by
    obtain ⟨frames, hb, hframes⟩ := h.outer
    refine ⟨⟨b.level, index.map (· + lo), b.flags⟩ :: frames, ?_, .cons ⟨h.level, rfl, h.flags⟩ hframes⟩
    rw [List.cons_append, ← hb]
    rfl
  groups := by
    have hgroups := h.groups
    cases index with
    | none => exact hgroups
    | some i =>
      change b.groups + 1 = a.groups + 1 + lo
      omega
  names := h.names
  classes := h.classes_of_nil hclasses
  mode := rfl
  comment := h.comment

theorem Mirrors.openCapture (h : Mirrors o lo a b) (hclasses : a.classes = []) :
    Mirrors o lo a.openCapture b.openCapture := by
  have hopen : Mirrors o lo (a.openGroup (some (a.groups + 1)) a.flags)
      (b.openGroup ((some (a.groups + 1)).map (· + lo)) b.flags) := h.openGroup h.flags hclasses
  have hindex : (some (a.groups + 1)).map (· + lo) = some (b.groups + 1) := by
    rw [h.groups, Option.map_some]
    congr 1
    omega
  rw [hindex] at hopen
  exact hopen

theorem follows_some (h : Mirrors o lo a b) : Follows o lo ends (some a) (some b) := by
  intro b' hb
  obtain rfl := Option.some.inj hb
  exact Or.inl ⟨a, rfl, h⟩

theorem follows_none : Follows o lo ends alone none := by
  intro b hb
  cases hb

theorem Follows.bind (h : Follows o lo (fun _ => False) alone inside) {f g : State → Option State}
    (hfg : ∀ a b, Mirrors o lo a b → Follows o lo ends (f a) (g b)) :
    Follows o lo ends (alone.bind f) (inside.bind g) := by
  intro b' hb
  obtain ⟨b, hinside, hb'⟩ := Option.bind_eq_some_iff.mp hb
  obtain ⟨a, rfl, hab⟩ := (h b hinside).resolve_right fun hends => hends.2
  exact hfg a b hab b' hb'

theorem follows_orBlank (h : Mirrors o lo a b) (hn : Follows o lo ends alone inside) :
    Follows o lo ends (a.orBlank c alone) (b.orBlank c inside) := by
  rw [orBlank, orBlank, h.flags.extended_eq]
  split_ifs
  · exact hn
  · exact follows_some h
  · exact follows_some { h with comment := rfl }
  · exact hn

theorem follows_closeGroup? (h : Mirrors o lo a b) (hclasses : a.classes = [])
    (hends : a.outer = [] → ∀ b', b.closeGroup? = some b' → ends b') :
    Follows o lo ends a.closeGroup? b.closeGroup? := by
  obtain ⟨frames, hb, hframes⟩ := h.outer
  cases ha : a.outer with
  | nil =>
    have hnone : a.closeGroup? = none := by rw [closeGroup?, ha]
    exact fun b' hb' => Or.inr ⟨hnone, hends ha b' hb'⟩
  | cons frame outer =>
    rw [ha] at hframes
    cases hframes with
    | cons hframe hmore =>
      have hbody := h.level.close
      rw [closeGroup?, closeGroup?, ha, hb]
      apply follows_some
      refine { h with
        flags := hframe.flags, level := hframe.level.push ?_, outer := ⟨_, rfl, hmore⟩, mode := rfl
        classes := h.classes_of_nil hclasses }
      refine ⟨congrArg (· + 1) hbody.height, rfl, fun P => ?_⟩
      rw [hframe.index]
      cases frame.index with
      | none => exact hbody.indices P
      | some i => exact and_congr Iff.rfl (hbody.indices P)

/-- What the parenthesis behind a text makes of the state inside: it closes the group around the text,
which is an item like the one that the text is read as alone. -/
def Closes (o : List Frame) (lo : Nat) (x : Item) (b b' : State) : Prop :=
  ∃ frame outer y, o = frame :: outer ∧ x.Alike lo y ∧
    b' =
      { flags := frame.flags, level := frame.level.push (grouped frame.index y), outer
        groups := b.groups, names := b.names }

theorem closes_closeGroup? {b' : State} (h : Mirrors o lo a b) (hclasses : a.classes = [])
    (hcomment : a.comment = false) (ha : a.outer = []) (hb' : b.closeGroup? = some b') :
    Closes o lo a.level.close b b' := by
  obtain ⟨frames, hb, hframes⟩ := h.outer
  rw [ha] at hframes
  cases hframes
  rw [List.nil_append] at hb
  rw [closeGroup?, hb] at hb'
  cases ho : o with
  | nil =>
    rw [ho] at hb'
    cases hb'
  | cons frame outer =>
    rw [ho] at hb'
    have hclasses' : b.classes = [] := by
      have hb := h.classes
      rw [hclasses] at hb
      exact List.forall₂_nil_left_iff.mp hb
    have hcomment' : b.comment = false := h.comment.trans hcomment
    obtain rfl := Option.some.inj hb'
    refine ⟨frame, outer, b.level.close, rfl, h.level.close, ?_⟩
    rw [hclasses', hcomment']
    rfl

theorem follows_operand? (h : Mirrors o lo a b) {f : Item → State → Option State}
    (hf : ∀ x y a b, x.Alike lo y → Mirrors o lo a b → Follows o lo ends (f x a) (f y b)) :
    Follows o lo ends (a.operand?.bind fun (x, a) => f x a) (b.operand?.bind fun (y, b) => f y b) := by
  have hitems := h.level.items
  rw [operand?, operand?]
  revert hitems
  cases a.level.items with
  | nil =>
    intro hitems
    rw [List.forall₂_nil_left_iff.mp hitems]
    exact follows_none
  | cons x xs =>
    intro hitems
    obtain ⟨y, ys, hxy, hmore, hb⟩ := List.forall₂_cons_left_iff.mp hitems
    rw [hb]
    dsimp only
    rw [hxy.repeatable]
    split
    · exact hf x y _ _ hxy { h with level := ⟨h.level.branches, hmore⟩ }
    · exact follows_none

theorem Mirrors.inClass (h : Mirrors o lo a b) {change change' : ClassLevel → ClassLevel}
    (hchange : ∀ l l', l.Alike a.flags.unicode l' →
      (change l).Alike a.flags.unicode (change' l'))
    (hm : m.Alike lo a.flags.unicode m') :
    Mirrors o lo (a.inClass change m) (b.inClass change' m') := by
  have hclasses := h.classes
  rw [State.inClass, State.inClass]
  cases ha : a.classes with
  | nil =>
    rw [ha] at hclasses
    rw [List.forall₂_nil_left_iff.mp hclasses]
    exact h
  | cons l outer =>
    rw [ha] at hclasses
    obtain ⟨l', outer', hl, hmore, hb⟩ := List.forall₂_cons_left_iff.mp hclasses
    rw [hb]
    exact { h with classes := .cons (hchange l l' hl) hmore, mode := hm }

theorem Mirrors.addMember (h : Mirrors o lo a b) (hs : KeepAscii a.flags.unicode s s')
    (hm : m.Alike lo a.flags.unicode m') : Mirrors o lo (a.addMember s m) (b.addMember s' m') :=
  h.inClass (fun _ _ hl => hl.add hs 0) hm

theorem Mirrors.openClass (h : Mirrors o lo a b) : Mirrors o lo a.openClass b.openClass :=
  { h with classes := .cons ⟨rfl, rfl, fun _ => ⟨rfl, rfl⟩, rfl, rfl⟩ h.classes, mode := rfl }

theorem Mirrors.beginOperand (h : Mirrors o lo a b) (op : ClassOp) :
    Mirrors o lo (a.beginOperand op) (b.beginOperand op) := by
  refine h.inClass (fun l l' hl => ?_) rfl
  obtain ⟨hheight, hset⟩ := hl.total h.flags
  exact ⟨hl.negated, ⟨_, by rw [← hheight], hset⟩, fun _ => ⟨rfl, rfl⟩, rfl, rfl⟩

theorem keepAscii_char (hc : (a.ascii && 128 ≤ c.toNat) = false) :
    KeepAscii a.flags.unicode (CharSet.singleton c) (CharSet.singleton c) := by
  refine keepAscii_self fun hu => CharSet.isAscii_range ?_
  rw [ascii, hu] at hc
  simpa using hc

theorem follows_addPrim? (h : Mirrors o lo a b) (hp : p.Alike a.flags.unicode p') :
    Follows o lo ends (a.addPrim? p) (b.addPrim? p') := by
  cases p with
  | char d =>
    obtain rfl : p' = .char d := hp
    rw [addPrim?, addPrim?, h.ascii_eq]
    split
    · exact follows_none
    · next hd => exact follows_some (h.addMember (keepAscii_char (Bool.not_eq_true _ ▸ hd)) rfl)
  | set s =>
    obtain ⟨s', rfl, hs⟩ := hp
    exact follows_some (h.addMember hs rfl)
  | look l =>
    obtain rfl : p' = .look l := hp
    exact follows_none

theorem follows_addBounds? (h : Mirrors o lo a b) (first last : Char) :
    Follows o lo ends (a.addBounds? first last) (b.addBounds? first last) := by
  rw [addBounds?, addBounds?, h.ascii_eq]
  split
  · exact follows_none
  · next hc =>
    refine follows_some (h.addMember (keepAscii_self fun hu => CharSet.isAscii_range ?_) rfl)
    rw [ascii, hu] at hc
    simp at hc
    exact hc.2

theorem follows_closeClass? (h : Mirrors o lo a b) :
    Follows o lo ends a.closeClass? b.closeClass? := by
  have hclasses := h.classes
  rw [closeClass?, closeClass?]
  cases ha : a.classes with
  | nil =>
    rw [ha] at hclasses
    rw [List.forall₂_nil_left_iff.mp hclasses]
    exact follows_none
  | cons l outer =>
    rw [ha] at hclasses
    obtain ⟨l', outer', hl, hmore, hb⟩ := List.forall₂_cons_left_iff.mp hclasses
    obtain ⟨hheight, hset⟩ := hl.total h.flags
    intro b' hb'
    simp only [hb, hl.negated, Option.bind_eq_bind, Option.bind_some] at hb' ⊢
    obtain ⟨t', hclass, hb'⟩ := Option.bind_eq_some_iff.mp hb'
    obtain ⟨t, ht, htt'⟩ := h.flags.exists_class? hset hclass
    rw [ht]
    refine Or.inl ?_
    -- the class becomes an item, or a member of the class around it
    cases hmore with
    | nil =>
      obtain rfl := Option.some.inj hb'
      have hitem : Item.Alike lo { term := .set t, height := (l.total a.flags).2 + 1 }
          { term := .set t', height := (l'.total b.flags).2 + 1 } :=
        ⟨congrArg (· + 1) hheight, rfl, fun _ => Iff.rfl⟩
      exact ⟨_, rfl, { h with level := h.level.push hitem, mode := rfl, classes := .nil }⟩
    | cons hup hrest =>
      obtain rfl := Option.some.inj hb'
      refine ⟨_, rfl, { h with mode := rfl, classes := .cons ?_ hrest }⟩
      dsimp only
      rw [hheight]
      exact hup.add htt' _

theorem follows_deliver? (h : Mirrors o lo a b) (hp : p.Alike a.flags.unicode p') :
    Follows o lo ends (a.deliver? place p) (b.deliver? place p') := by
  cases place with
  | body =>
    cases p with
    | char d =>
      obtain rfl : p' = .char d := hp
      exact follows_some h.pushChar
    | set s =>
      obtain ⟨s', rfl, -⟩ := hp
      exact follows_some (h.pushTerm (fun _ => trivial) fun _ => trivial)
    | look l =>
      obtain rfl : p' = .look l := hp
      exact follows_some (h.pushTerm (fun _ => trivial) fun _ => trivial)
  | member =>
    cases p with
    | char d =>
      obtain rfl : p' = .char d := hp
      exact follows_some (h.goto ⟨_, rfl, rfl⟩)
    | set s =>
      obtain ⟨s', rfl, hs⟩ := hp
      exact follows_some (h.goto ⟨_, rfl, s', rfl, hs⟩)
    | look l =>
      obtain rfl : p' = .look l := hp
      exact follows_none
  | bound first =>
    cases p with
    | char d =>
      obtain rfl : p' = .char d := hp
      exact follows_addBounds? h first d
    | set s =>
      obtain ⟨s', rfl, -⟩ := hp
      exact follows_none
    | look l =>
      obtain rfl : p' = .look l := hp
      exact follows_none

theorem follows_deliverCode? (h : Mirrors o lo a b) (code : Nat) :
    Follows o lo ends (a.deliverCode? place code) (b.deliverCode? place code) := by
  rw [deliverCode?, deliverCode?]
  cases charOf? code with
  | none => exact follows_none
  | some d => exact follows_deliver? h rfl

theorem follows_bind {α : Type} (v : Option α) {f g : α → Option State}
    (hfg : ∀ i, v = some i → Follows o lo ends (f i) (g i)) :
    Follows o lo ends (v.bind f) (v.bind g) := by
  cases v with
  | none => exact follows_none
  | some i => exact hfg i rfl

theorem follows_map {α : Type} (v : Option α) {f g : α → State}
    (hfg : ∀ i, v = some i → Mirrors o lo (f i) (g i)) :
    Follows o lo ends (v.map f) (v.map g) := by
  cases v with
  | none => exact follows_none
  | some i => exact follows_some (hfg i rfl)

theorem follows_stepItem (h : Mirrors o lo a b) (hclasses : a.classes = [])
    (hends : c = ')' → a.outer = [] → ∀ b', b.closeGroup? = some b' → ends b') :
    Follows o lo ends (a.stepItem c) (b.stepItem c) := by
  have hoperand (next : Item → Mode)
      (hn : ∀ u x y, Item.Alike lo x y → Mode.Alike lo u (next x) (next y)) :
      Follows o lo ends (a.operand?.map fun (x, a) => a.goto (next x))
        (b.operand?.map fun (y, b) => b.goto (next y)) := by
    rw [Option.map_eq_bind, Option.map_eq_bind]
    exact follows_operand? h fun x y a b hxy hab => follows_some (hab.goto (hn _ x y hxy))
  unfold stepItem
  apply follows_orBlank h
  split
  · exact follows_some (h.goto rfl)
  · exact follows_closeGroup? h hclasses (hends rfl)
  · exact follows_some h.nextBranch
  · exact follows_some h.openClass
  · exact hoperand (fun x => .repeated x 0 (some 1) false) fun _ _ y hxy => ⟨y, rfl, hxy⟩
  · exact hoperand (fun x => .repeated x 0 none false) fun _ _ y hxy => ⟨y, rfl, hxy⟩
  · exact hoperand (fun x => .repeated x 1 none false) fun _ _ y hxy => ⟨y, rfl, hxy⟩
  · exact hoperand (fun x => .count x (.low none false)) fun _ _ y hxy => ⟨y, rfl, hxy⟩
  · exact follows_some (h.goto rfl)
  · rw [h.flags.dot?_eq]
    exact follows_map _ fun _ _ => h.pushTerm (fun _ => trivial) fun _ => trivial
  · exact follows_some (h.pushTerm (fun _ => trivial) fun _ => trivial)
  · exact follows_some (h.pushTerm (fun _ => trivial) fun _ => trivial)
  · exact follows_some h.pushChar

theorem follows_stepRepeated (h : Mirrors o lo a b) (hclasses : a.classes = [])
    (hxy : x.Alike lo y) (low : Nat) (high : Option Nat) (wide : Bool)
    (hends : c = ')' → a.outer = [] →
      ∀ b', (b.pushRepeated y low high true).closeGroup? = some b' → ends b') :
    Follows o lo ends (a.stepRepeated x low high wide c) (b.stepRepeated y low high wide c) := by
  have hnext : Follows o lo ends
      (if c = '?' then some (a.pushRepeated x low high false)
        else ((a.pushRepeated x low high true).goto .item).stepItem c)
      (if c = '?' then some (b.pushRepeated y low high false)
        else ((b.pushRepeated y low high true).goto .item).stepItem c) := by
    split
    · exact follows_some (h.pushRepeated hxy low high false)
    · exact follows_stepItem ((h.pushRepeated hxy low high true).goto rfl) hclasses hends
  unfold stepRepeated
  dsimp only
  split
  · exact follows_orBlank h hnext
  · exact hnext

theorem follows_stepCount (h : Mirrors o lo a b) (hxy : x.Alike lo y) (n : Count) :
    Follows o lo ends (a.stepCount x n c) (b.stepCount y n c) := by
  have hstay (n : Count) :
      Follows o lo ends (some (a.goto (.count x n))) (some (b.goto (.count y n))) :=
    follows_some (h.goto ⟨y, rfl, hxy⟩)
  have hclose (low : Nat) (high : Option Nat) :
      Follows o lo ends (some (a.closeCount x low high)) (some (b.closeCount y low high)) :=
    follows_some (h.goto ⟨y, rfl, hxy⟩)
  unfold stepCount
  apply follows_orBlank h
  -- the cases are those of the count: the lower bound, the comma, the upper bound
  cases n with
  | low digits closed =>
    dsimp only
    split
    · exact hstay _
    · split
      · split
        · exact follows_none
        · exact follows_bind _ fun n _ => hstay _
      · cases digits with
        | none => exact follows_none
        | some n =>
          dsimp only
          split
          · exact hstay _
          · split
            · exact hclose _ _
            · exact follows_none
  | comma low =>
    dsimp only
    split
    · exact hclose _ _
    · split
      · exact hstay _
      · split
        · exact follows_bind _ fun n _ => hstay _
        · exact follows_none
  | high low digits closed =>
    dsimp only
    split
    · exact hstay _
    · split
      · split
        · exact follows_none
        · exact follows_bind _ fun n _ => hstay _
      · cases digits with
        | none => exact follows_none
        | some n =>
          dsimp only
          split
          · exact hclose _ _
          · exact follows_none

theorem follows_stepFlags (h : Mirrors o lo a b) (hclasses : a.classes = [])
    (marks : List (Option Flag)) : Follows o lo ends (a.stepFlags marks c) (b.stepFlags marks c) := by
  have hflags := h.flags.update marks.reverse
  unfold stepFlags
  dsimp only
  -- a group with flags, flags on their own, or one more mark
  split
  · split
    · exact follows_none
    · split
      · exact follows_some (h.openGroup hflags hclasses)
      · split
        · exact follows_none
        · have hitem : Item.Alike lo { term := .empty, repeatable := false }
              { term := .empty, repeatable := false } := ⟨rfl, rfl, fun _ => Iff.rfl⟩
          exact follows_some
            { h.push hitem with flags := hflags, classes := h.classes_of_nil hclasses, mode := rfl }
  · refine follows_bind _ fun mark _ => ?_
    split
    · exact follows_none
    · exact follows_some (h.goto rfl)

theorem follows_stepEscape (h : Mirrors o lo a b) :
    Follows o lo ends (a.stepEscape place c) (b.stepEscape place c) := by
  have hletter : Follows o lo ends
      ((a.flags.letterClass? c).bind fun s => a.deliver? place (.set s))
      ((b.flags.letterClass? c).bind fun s => b.deliver? place (.set s)) := by
    rw [h.flags.letterClass?_eq]
    exact follows_bind _ fun s hs => follows_deliver? h
      ⟨s, rfl, keepAscii_self fun hu => Flags.isAscii_of_letterClass? hu hs⟩
  unfold stepEscape
  split
  · exact follows_none
  -- escapes that go on, those for a set by the letter, and those of a single character
  · split
    · exact follows_some (h.goto rfl)
    · exact follows_some (h.goto rfl)
    · exact follows_some (h.goto rfl)
    · exact follows_some (h.goto rfl)
    · exact follows_some (h.goto rfl)
    · exact hletter
    · exact hletter
    · exact hletter
    · exact hletter
    · exact hletter
    · exact hletter
    · split
      · exact follows_deliver? h rfl
      · cases letterChar? c with
        | some d => exact follows_deliver? h rfl
        | none =>
          rw [h.ascii_eq]
          cases letterLook? a.ascii c with
          | none => exact follows_none
          | some l =>
            cases place with
            | body =>
              dsimp only
              split
              · exact follows_some (h.goto rfl)
              · exact follows_some (h.pushTerm (fun _ => trivial) fun _ => trivial)
            | member => exact follows_none
            | bound first => exact follows_none

theorem follows_stepHexDigit (h : Mirrors o lo a b) (left value : Nat) (short : Bool) :
    Follows o lo ends (a.stepHexDigit place left value short c)
      (b.stepHexDigit place left value short c) := by
  refine follows_bind _ fun d _ => ?_
  rw [h.ascii_eq]
  dsimp only
  split
  · exact follows_some (h.goto rfl)
  · split
    · exact follows_none
    · exact follows_deliverCode? h _

theorem follows_deliverProperty? (h : Mirrors o lo a b) (negated : Bool)
    (found : Option (CharSet × Bool)) :
    Follows o lo ends (a.deliverProperty? place negated found)
      (b.deliverProperty? place negated found) := by
  refine follows_bind _ fun found _ => ?_
  obtain ⟨s, inverse⟩ := found
  dsimp only
  rw [h.ascii_eq]
  split
  · exact follows_none
  · next hascii =>
    -- the sets are asked for with Unicode only, and then nothing else is asked of them
    have hunicode : KeepAscii a.flags.unicode s s := fun hu => absurd (by rw [ascii, hu]; rfl) hascii
    intro b' hb'
    obtain ⟨t', hclass, hb'⟩ := Option.bind_eq_some_iff.mp hb'
    obtain ⟨t, ht, htt'⟩ := h.flags.exists_class? hunicode hclass
    have hset : Prim.Alike a.flags.unicode (.set t) (.set t') := ⟨t', rfl, htt'⟩
    simp only [Option.bind_eq_bind, ht, Option.bind_some]
    exact follows_deliver? h hset b' hb'

theorem follows_stepBoundaryName (h : Mirrors o lo a b) (name : List Char) :
    Follows o lo ends (a.stepBoundaryName name c) (b.stepBoundaryName name c) := by
  apply follows_orBlank h
  split
  · exact follows_some (h.goto rfl)
  · split
    · exact follows_map _ fun _ _ => h.pushTerm (fun _ => trivial) fun _ => trivial
    · exact follows_none

theorem follows_stepMember (h : Mirrors o lo a b) :
    Follows o lo ends (a.stepMember c) (b.stepMember c) := by
  unfold stepMember
  apply follows_orBlank h
  split
  · exact follows_some (h.goto rfl)
  · exact follows_closeClass? h
  · exact follows_some (h.goto rfl)
  · exact follows_some (h.goto rfl)
  · exact follows_some (h.goto rfl)
  · exact follows_some (h.goto rfl)
  · exact follows_some (h.goto ⟨_, rfl, rfl⟩)

theorem follows_stepLower (h : Mirrors o lo a b) (hp : p.Alike a.flags.unicode p') :
    Follows o lo ends (a.stepLower p c) (b.stepLower p' c) := by
  apply follows_orBlank h
  split
  · exact follows_some (h.goto ⟨p', rfl, hp⟩)
  · exact (follows_addPrim? h hp).bind fun a b hab => follows_stepMember hab

theorem follows_stepDashed (h : Mirrors o lo a b) (hp : p.Alike a.flags.unicode p')
    (spaced : Bool) : Follows o lo ends (a.stepDashed p spaced c) (b.stepDashed p' spaced c) := by
  have hdash (a b : State) (hab : Mirrors o lo a b) :
      Follows o lo (fun _ => False) (a.addPrim? (.char '-')) (b.addPrim? (.char '-')) :=
    follows_addPrim? hab rfl
  have hdashed : Mode.Alike lo a.flags.unicode (.dashed p true) (.dashed p' true) := ⟨p', rfl, hp⟩
  apply follows_orBlank (h.goto hdashed)
  split
  · exact ((follows_addPrim? h hp).bind hdash).bind fun a b hab => follows_closeClass? hab
  · split
    · refine (follows_addPrim? h hp).bind fun a b hab => ?_
      split
      · exact follows_some (hab.goto ⟨_, rfl, rfl⟩)
      · exact follows_some (hab.beginOperand .diff)
    · cases p with
      | char first =>
        obtain rfl : p' = .char first := hp
        dsimp only
        split
        · exact follows_some (h.goto rfl)
        · exact follows_addBounds? h first c
      | set s =>
        obtain ⟨s', rfl, -⟩ := hp
        exact follows_none
      | look l =>
        obtain rfl : p' = .look l := hp
        exact follows_none

theorem follows_stepClassStart (h : Mirrors o lo a b) (first : Bool) :
    Follows o lo ends (a.stepClassStart first c) (b.stepClassStart first c) := by
  have hsingle (d : Char) (hd : d.toNat < 128) :
      KeepAscii a.flags.unicode (CharSet.singleton d) (CharSet.singleton d) :=
    keepAscii_self fun _ => CharSet.isAscii_range hd
  have hcount : b.classes.head?.any (·.count = 0) = a.classes.head?.any (·.count = 0) := by
    have hclasses := h.classes
    cases ha : a.classes with
    | nil =>
      rw [ha] at hclasses
      rw [List.forall₂_nil_left_iff.mp hclasses]
    | cons l outer =>
      rw [ha] at hclasses
      obtain ⟨l', outer', hl, -, hb⟩ := List.forall₂_cons_left_iff.mp hclasses
      rw [hb]
      exact congrArg (fun n => decide (n = 0)) hl.count
  apply follows_orBlank h
  rw [hcount]
  split
  · exact follows_some (h.inClass (fun _ _ hl => { hl with negated := rfl }) rfl)
  · split
    · exact follows_some (h.addMember (hsingle '-' (by decide)) rfl)
    · split
      · exact follows_some (h.addMember (hsingle ']' (by decide)) rfl)
      · exact follows_stepMember (h.goto rfl)

theorem Mirrors.foldl_addMember (h : Mirrors o lo a b) {sets : List CharSet}
    (hsets : a.flags.unicode = false → ∀ s ∈ sets, s.isAscii = true) :
    Mirrors o lo (sets.foldl State.addMember a) (sets.foldl State.addMember b) := by
  induction sets generalizing a b with
  | nil => exact h
  | cons s sets ih =>
    have hflags : (a.addMember s).flags = a.flags := by
      rw [State.addMember, State.inClass]
      split <;> rfl
    have hadd : Mirrors o lo (a.addMember s) (b.addMember s) :=
      h.addMember (keepAscii_self fun hu => hsets hu s List.mem_cons_self) rfl
    refine ih hadd fun hu t ht => ?_
    rw [hflags] at hu
    exact hsets hu t (List.mem_cons_of_mem _ ht)

theorem follows_stepClassName (h : Mirrors o lo a b) {name : List Char}
    (hname : ∀ d ∈ name, d.toNat < 128) :
    Follows o lo ends (a.stepClassName name c) (b.stepClassName name c) := by
  unfold stepClassName
  dsimp only
  cases hfind : classSpellings.find? (·.1 = (c :: name).reverse) with
  | some found =>
    obtain ⟨text, s, negated⟩ := found
    have hset : s.isAscii = true :=
      (isAscii_of_mem_classSpellings (List.mem_of_find?_eq_some hfind)).1
    intro b' hb'
    obtain ⟨t', hclass, rfl⟩ := Option.map_eq_some_iff.mp hb'
    obtain ⟨t, ht, htt'⟩ := h.flags.exists_class? (keepAscii_self fun _ => hset) hclass
    have hadd : Mirrors o lo (a.addMember t) (b.addMember t') := h.addMember htt' rfl
    refine Or.inl ⟨_, ?_, hadd⟩
    dsimp only
    rw [ht]
    rfl
  | none =>
    dsimp only
    split
    · next hany =>
      -- what begins the name of a class is ASCII as the name is
      obtain ⟨p, hp, hprefix⟩ := List.any_eq_true.mp hany
      have hascii := (isAscii_of_mem_classSpellings hp).2
      refine follows_some (h.goto ⟨rfl, fun d hd => hascii d ?_⟩)
      exact (List.isPrefixOf_iff_prefix.mp hprefix).subset (List.mem_reverse.mpr hd)
    · cases hchars : name ++ [':'] with
      | nil => exact follows_none
      | cons last earlier =>
        have hearlier : ∀ s ∈ earlier.reverse.map CharSet.singleton, s.isAscii = true := by
          rw [List.forall_mem_map]
          intro d hd
          have hmem : d ∈ name ++ [':'] := by
            rw [hchars]
            exact List.mem_cons_of_mem _ (List.mem_reverse.mp hd)
          refine CharSet.isAscii_range ?_
          rcases List.mem_append.mp hmem with hd | hd
          · exact hname d hd
          · rw [List.mem_singleton.mp hd]
            decide
        have hopened := h.openClass.foldl_addMember fun _ => hearlier
        exact follows_stepLower (hopened.goto ⟨_, rfl, rfl⟩) rfl

/-- A name that is new inside is new alone. -/
theorem follows_named (h : Mirrors o lo a b) (hclasses : a.classes = []) (name : List Char) :
    Follows o lo ends
      (if name.isEmpty || a.names.contains name then none
        else some { a.openCapture with names := name :: a.names })
      (if name.isEmpty || b.names.contains name then none
        else some { b.openCapture with names := name :: b.names }) := by
  have hopened := h.openCapture hclasses
  cases hb : name.isEmpty || b.names.contains name with
  | true => exact follows_none
  | false =>
    obtain ⟨hempty, hnew⟩ := Bool.or_eq_false_iff.mp hb
    have ha : (name.isEmpty || a.names.contains name) = false := by
      rw [hempty, Bool.false_or, ← Bool.not_eq_true, List.contains_iff_mem]
      intro hmem
      rw [List.contains_iff_mem.mpr (h.names hmem)] at hnew
      cases hnew
    rw [ha]
    exact follows_some { hopened with names := List.cons_subset_cons name h.names }

/-- What is answered alone to a character mirrors what is answered inside, unless the text could end
here alone and the character closes the group around it inside. -/
theorem follows_step (h : Mirrors o lo a b) (ht : a.Tidy) :
    Follows o lo (fun b' => c = ')' ∧ ∃ x, a.finish? = some x ∧ Closes o lo x b b') (a.step c)
      (b.step c) := by
  have hmode := h.mode
  have hout (hm : ¬ a.mode.InClass) : a.classes = [] := ht hm
  have hempty (a : State) (ha : a.outer = []) :
      (if a.outer.isEmpty then some a.level.close else none) = some a.level.close := by
    rw [ha]
    rfl
  -- one case for each mode, in the order of the modes of a step
  unfold step
  rw [h.comment]
  split
  · exact follows_some { h with comment := rfl }
  · next hcomment =>
    rw [Bool.not_eq_true] at hcomment
    cases hm : a.mode with
    | item =>
      rw [hm] at hmode hout
      rw [show b.mode = .item from hmode]
      refine follows_stepItem h (hout not_false) fun hc ha b' hb' =>
        ⟨hc, a.level.close, ?_, ?_⟩
      · rw [finish?, hm]
        exact hempty a ha
      · exact closes_closeGroup? h (hout not_false) hcomment ha hb'
    | repeated x low high wide =>
      rw [hm] at hmode hout
      obtain ⟨y, hb, hxy⟩ := hmode
      rw [hb]
      have hpush := h.pushRepeated hxy low high true
      refine follows_stepRepeated h (hout not_false) hxy low high wide fun hc ha b' hb' =>
        ⟨hc, (a.pushRepeated x low high true).level.close, ?_, ?_⟩
      · rw [finish?, hm]
        exact hempty _ ha
      · have hcloses := closes_closeGroup? hpush (hout not_false) hcomment ha hb'
        exact hcloses
    | count x n =>
      rw [hm] at hmode
      obtain ⟨y, hb, hxy⟩ := hmode
      rw [hb]
      exact follows_stepCount h hxy n
    | opened =>
      rw [hm] at hmode hout
      rw [show b.mode = .opened from hmode]
      apply follows_orBlank h
      split
      · exact follows_some (h.goto rfl)
      · exact follows_stepItem (h.openCapture (hout not_false)) (hout not_false) fun _ => nofun
    | marked =>
      rw [hm] at hmode hout
      rw [show b.mode = .marked from hmode]
      dsimp only
      split
      · exact follows_some (h.goto rfl)
      · exact follows_some (h.goto rfl)
      · exact follows_stepFlags h (hout not_false) []
    | markedP =>
      rw [hm] at hmode
      rw [show b.mode = .markedP from hmode]
      dsimp only
      split
      · exact follows_some (h.goto rfl)
      · exact follows_none
    | groupName name =>
      rw [hm] at hmode hout
      rw [show b.mode = .groupName name from hmode]
      dsimp only
      split
      · exact follows_named h (hout not_false) name
      · split
        · exact follows_some (h.goto rfl)
        · exact follows_none
    | flagList marks =>
      rw [hm] at hmode hout
      rw [show b.mode = .flagList marks from hmode]
      exact follows_stepFlags h (hout not_false) marks
    | escape place =>
      rw [hm] at hmode
      rw [show b.mode = .escape place from hmode]
      exact follows_stepEscape h
    | hex place width =>
      rw [hm] at hmode
      rw [show b.mode = .hex place width from hmode]
      apply follows_orBlank h
      split
      · exact follows_some (h.goto rfl)
      · exact follows_stepHexDigit h _ _ _
    | hexDigits place left value short =>
      rw [hm] at hmode
      rw [show b.mode = .hexDigits place left value short from hmode]
      exact follows_orBlank h (follows_stepHexDigit h _ _ _)
    | hexBraces place value =>
      rw [hm] at hmode
      rw [show b.mode = .hexBraces place value from hmode]
      apply follows_orBlank h
      split
      · exact follows_bind _ fun n _ => follows_deliverCode? h n
      · exact follows_map _ fun d _ => h.goto rfl
    | property place negated =>
      rw [hm] at hmode
      rw [show b.mode = .property place negated from hmode]
      apply follows_orBlank h
      split
      · exact follows_some (h.goto rfl)
      · split
        · exact follows_none
        · exact follows_deliverProperty? h _ _
    | propertyName place negated name =>
      rw [hm] at hmode
      rw [show b.mode = .propertyName place negated name from hmode]
      apply follows_orBlank h
      split
      · exact follows_deliverProperty? h _ _
      · exact follows_some (h.goto rfl)
    | boundary =>
      rw [hm] at hmode hout
      rw [show b.mode = .boundary from hmode]
      dsimp only
      split
      · exact follows_some (h.goto rfl)
      · refine follows_stepItem h.pushBoundary (hout not_false) fun hc ha b' hb' =>
          ⟨hc, a.pushBoundary.level.close, ?_, ?_⟩
        · rw [finish?, hm]
          exact hempty _ ha
        · have hcloses := closes_closeGroup? h.pushBoundary (hout not_false) hcomment ha hb'
          exact hcloses
    | boundaryBrace =>
      rw [hm] at hmode
      rw [show b.mode = .boundaryBrace from hmode]
      apply follows_orBlank h
      split
      · exact follows_some (h.goto rfl)
      · exact follows_operand? h.pushBoundary fun x y a b hxy hab =>
          follows_stepCount hab hxy (.low none false)
    | boundaryName name =>
      rw [hm] at hmode
      rw [show b.mode = .boundaryName name from hmode]
      exact follows_stepBoundaryName h name
    | classStart first =>
      rw [hm] at hmode
      rw [show b.mode = .classStart first from hmode]
      exact follows_stepClassStart h first
    | member =>
      rw [hm] at hmode
      rw [show b.mode = .member from hmode]
      exact follows_stepMember h
    | operator char op =>
      rw [hm] at hmode
      rw [show b.mode = .operator char op from hmode]
      dsimp only
      split
      · exact follows_some (h.beginOperand op)
      · exact follows_stepLower (h.goto ⟨_, rfl, rfl⟩) rfl
    | lower p =>
      rw [hm] at hmode
      obtain ⟨p', hb, hp⟩ := hmode
      rw [hb]
      exact follows_stepLower h hp
    | dashed p spaced =>
      rw [hm] at hmode
      obtain ⟨p', hb, hp⟩ := hmode
      rw [hb]
      exact follows_stepDashed h hp spaced
    | nested =>
      rw [hm] at hmode
      rw [show b.mode = .nested from hmode]
      dsimp only
      split
      · exact follows_some (h.goto ⟨rfl, nofun⟩)
      · exact follows_stepClassStart h.openClass true
    | className name =>
      rw [hm] at hmode
      obtain ⟨hb, hname⟩ := hmode
      rw [hb]
      exact follows_stepClassName h hname

end Mirrors

end State

end RoutePattern.Regex
