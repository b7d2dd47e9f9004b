import Mathlib.Computability.Language
import RoutePattern.Regex.Search

/-! What terms match, whatever they prefer: relations between a position and another one that is
reached from it, with the marks made on the way. -/
namespace RoutePattern.Regex

/-- A position, and the marks that were made on the way to it. -/
abbrev Spot := Cursor × Marks

/-- So many steps of a relation one after the other. -/
def Repeats (R : Spot → Spot → Prop) : Nat → Spot → Spot → Prop
  | 0, x, y => y = x
  | n + 1, x, z => ∃ y, R x y ∧ Repeats R n y z

theorem repeats_add {R : Spot → Spot → Prop} {n k : Nat} {x y : Spot} :
    Repeats R (n + k) x y ↔ ∃ z, Repeats R n x z ∧ Repeats R k z y := by
  induction n generalizing x with
  | zero =>
    rw [Nat.zero_add]
    constructor
    · exact fun h => ⟨x, rfl, h⟩
    · intro hx
      obtain ⟨z, rfl, h⟩ := hx
      exact h
  | succ n ih =>
    rw [Nat.succ_add]
    simp only [Repeats, ih]
    constructor
    · intro hx
      obtain ⟨w, hR, z, hn, hk⟩ := hx
      exact ⟨z, ⟨w, hR, hn⟩, hk⟩
    · intro hx
      obtain ⟨z, ⟨w, hR, hn⟩, hk⟩ := hx
      exact ⟨w, hR, z, hn, hk⟩

namespace Cursor

/-- From a position one comes to another along a text. -/
def Passes : Cursor → List Char → Cursor → Prop
  | cur, [], cur' => cur' = cur
  | cur, c :: w, cur' => ∃ mid, cur.next? = some (c, mid) ∧ mid.Passes w cur'

variable {cur cur' : Cursor} {c : Char} {v w rest : List Char}

theorem next?_eq_some_iff :
    cur.next? = some (c, cur') ↔
      ∃ rest, cur.rest = c :: rest ∧ cur' = ⟨some c, rest, cur.offset + 1⟩ := by
  rw [next?]
  split
  · next h => simp [h]
  · next d rest h =>
    simp only [h, Option.some.injEq, Prod.mk.injEq, List.cons.injEq]
    constructor
    · intro hx
      obtain ⟨rfl, rfl⟩ := hx
      exact ⟨rest, ⟨rfl, rfl⟩, rfl⟩
    · intro hx
      obtain ⟨_, ⟨rfl, rfl⟩, rfl⟩ := hx
      exact ⟨rfl, rfl⟩

theorem passes_singleton : cur.Passes [c] cur' ↔ cur.next? = some (c, cur') := by
  constructor
  · intro hx
    obtain ⟨mid, h, rfl⟩ := hx
    exact h
  · exact fun h => ⟨cur', h, rfl⟩

theorem passes_append : cur.Passes (v ++ w) cur' ↔ ∃ mid, cur.Passes v mid ∧ mid.Passes w cur' := by
  induction v generalizing cur with
  | nil =>
    constructor
    · exact fun h => ⟨cur, rfl, h⟩
    · intro hx
      obtain ⟨mid, rfl, h⟩ := hx
      exact h
  | cons c v ih =>
    simp only [List.cons_append, Passes, ih]
    constructor
    · intro hx
      obtain ⟨next, hn, mid, hv, hw⟩ := hx
      exact ⟨mid, ⟨next, hn, hv⟩, hw⟩
    · intro hx
      obtain ⟨mid, ⟨next, hn, hv⟩, hw⟩ := hx
      exact ⟨next, hn, mid, hv, hw⟩

theorem Passes.rest_offset (h : cur.Passes w cur') :
    cur.rest = w ++ cur'.rest ∧ cur'.offset = cur.offset + w.length := by
  induction w generalizing cur with
  | nil =>
    obtain rfl : cur' = cur := h
    exact ⟨rfl, rfl⟩
  | cons c w ih =>
    obtain ⟨mid, hn, hw⟩ := h
    obtain ⟨rest, hr, rfl⟩ := next?_eq_some_iff.mp hn
    obtain ⟨hrest, hoffset⟩ := ih hw
    constructor
    · rw [hr, List.cons_append, ← hrest]
    · rw [hoffset, List.length_cons, Nat.add_assoc, Nat.add_comm 1]

theorem exists_passes (h : cur.rest = w ++ rest) : ∃ cur', cur.Passes w cur' ∧ cur'.rest = rest := by
  induction w generalizing cur with
  | nil => exact ⟨cur, rfl, h⟩
  | cons c w ih =>
    have hrest : (⟨some c, w ++ rest, cur.offset + 1⟩ : Cursor).rest = w ++ rest := rfl
    obtain ⟨cur', hw, hr⟩ := ih hrest
    exact ⟨cur', ⟨_, next?_eq_some_iff.mpr ⟨w ++ rest, h, rfl⟩, hw⟩, hr⟩

end Cursor

/-- Whether a relation leads along the texts of a language, wherever they stand, without a mark. -/
def Consumes (R : Spot → Spot → Prop) (L : Language Char) : Prop :=
  ∀ cur m y, R (cur, m) y ↔ ∃ w ∈ L, ∃ cur' : Cursor, cur.Passes w cur' ∧ y = (cur', m)

section Consumes

variable {R S : Spot → Spot → Prop} {L M : Language Char}

theorem consumes_skip : Consumes (fun x y => y = x) 1 := by
  intro cur m y
  constructor
  · intro h
    subst h
    exact ⟨[], rfl, cur, rfl, rfl⟩
  · intro h
    obtain ⟨w, rfl, cur', rfl, rfl⟩ := h
    rfl

theorem Consumes.congr (h : Consumes R L) (hRS : ∀ x y, S x y ↔ R x y) : Consumes S L := by
  intro cur m y
  rw [hRS]
  exact h cur m y

theorem Consumes.seq (hR : Consumes R L) (hS : Consumes S M) :
    Consumes (fun x z => ∃ y, R x y ∧ S y z) (L * M) := by
  intro cur m z
  constructor
  · intro h
    obtain ⟨y, hy, hz⟩ := h
    obtain ⟨v, hv, mid, hpv, rfl⟩ := (hR cur m y).mp hy
    obtain ⟨w, hw, cur', hpw, rfl⟩ := (hS mid m z).mp hz
    exact ⟨v ++ w, Language.append_mem_mul hv hw, cur',
      Cursor.passes_append.mpr ⟨mid, hpv, hpw⟩, rfl⟩
  · intro h
    obtain ⟨_, hvw, cur', hp, rfl⟩ := h
    obtain ⟨v, hv, w, hw, rfl⟩ := Language.mem_mul.mp hvw
    obtain ⟨mid, hpv, hpw⟩ := Cursor.passes_append.mp hp
    exact ⟨(mid, m), (hR cur m _).mpr ⟨v, hv, mid, hpv, rfl⟩,
      (hS mid m _).mpr ⟨w, hw, cur', hpw, rfl⟩⟩

theorem Consumes.either (hR : Consumes R L) (hS : Consumes S M) :
    Consumes (fun x y => R x y ∨ S x y) (L + M) := by
  intro cur m y
  simp only [hR cur m y, hS cur m y, Language.mem_add, or_and_right, exists_or]

theorem Consumes.repeats (h : Consumes R L) (n : Nat) : Consumes (Repeats R n) (L ^ n) := by
  induction n with
  | zero =>
    rw [pow_zero]
    exact consumes_skip
  | succ n ih =>
    rw [pow_succ']
    exact h.seq ih

end Consumes

namespace Term

/-- What a term matches. -/
def Runs : Term → Spot → Spot → Prop
  | empty, x, y => y = x
  | set s, x, y =>
    ∃ c cursor, x.1.next? = some (c, cursor) ∧ s.contains c = true ∧ y = (cursor, x.2)
  | look l, x, y => l.holds x.1.before x.1.rest.head? = true ∧ y = x
  | cat a b, x, z => ∃ y, a.Runs x y ∧ b.Runs y z
  | alt a b, x, y => a.Runs x y ∨ b.Runs x y
  | rep t low high _, x, y => ∃ k, (∀ h ∈ high, k ≤ h - low) ∧ Repeats t.Runs (low + k) x y
  | group i t, x, z =>
    ∃ y : Spot, t.Runs (x.1, (2 * i, x.1.offset) :: x.2) y ∧
      z = (y.1, (2 * i + 1, y.1.offset) :: y.2)

/-- What several terms match one after the other. -/
def RunsAll : List Term → Spot → Spot → Prop
  | [], x, y => y = x
  | t :: ts, x, z => ∃ y, t.Runs x y ∧ RunsAll ts y z

variable {t : Term} {ts us : List Term} {x y : Spot}

theorem runsAll_append : RunsAll (ts ++ us) x y ↔ ∃ z, RunsAll ts x z ∧ RunsAll us z y := by
  induction ts generalizing x with
  | nil =>
    constructor
    · exact fun h => ⟨x, rfl, h⟩
    · intro hx
      obtain ⟨z, rfl, h⟩ := hx
      exact h
  | cons t ts ih =>
    simp only [List.cons_append, RunsAll, ih]
    constructor
    · intro hx
      obtain ⟨w, ht, z, hts, hus⟩ := hx
      exact ⟨z, ⟨w, ht, hts⟩, hus⟩
    · intro hx
      obtain ⟨z, ⟨w, ht, hts⟩, hus⟩ := hx
      exact ⟨w, ht, z, hts, hus⟩

theorem runsAll_singleton : RunsAll [t] x y ↔ t.Runs x y := by
  constructor
  · intro hx
    obtain ⟨z, h, rfl⟩ := hx
    exact h
  · exact fun h => ⟨y, h, rfl⟩

section Concat

theorem runsAll_factors : RunsAll t.factors x y ↔ t.Runs x y := by
  induction t generalizing x y with
  | empty => rfl
  | cat a b iha ihb =>
    rw [factors, runsAll_append]
    simp only [iha, ihb]
    rfl
  | _ => exact runsAll_singleton

theorem runs_ofFactors : (ofFactors ts).Runs x y ↔ RunsAll ts x y := by
  induction ts generalizing x with
  | nil => rfl
  | cons t rest ih =>
    cases rest with
    | nil => exact runsAll_singleton.symm
    | cons u rest =>
      rw [ofFactors]
      · simp only [Runs, RunsAll, ih]
      · exact nofun

theorem runs_concat : (concat ts).Runs x y ↔ RunsAll ts x y := by
  rw [concat, runs_ofFactors]
  induction ts generalizing x with
  | nil => rfl
  | cons t rest ih =>
    rw [List.flatMap_cons, runsAll_append]
    simp only [ih, runsAll_factors]
    rfl

end Concat

section Alternation

theorem exists_mem_branches : (∃ b ∈ t.branches, b.Runs x y) ↔ t.Runs x y := by
  induction t with
  | alt a b iha ihb =>
    simp only [branches, List.mem_append, or_and_right, exists_or, iha, ihb]
    rfl
  | _ => simp only [branches, List.mem_singleton, exists_eq_left]

theorem runs_ofBranches : (ofBranches ts).Runs x y ↔ ∃ t ∈ ts, t.Runs x y := by
  induction ts with
  | nil => simp [ofBranches, Runs]
  | cons t rest ih =>
    cases rest with
    | nil => simp only [ofBranches, List.mem_singleton, exists_eq_left]
    | cons u rest =>
      rw [ofBranches, List.exists_mem_cons_iff, ← ih]
      · rfl
      · exact nofun

theorem flatten_chunks : (chunks ts).flatten = ts := by
  induction ts with
  | nil => rfl
  | cons t rest ih =>
    rw [chunks]
    split
    · next u us more h =>
      rw [h] at ih
      split <;> rw [← ih] <;> rfl
    · next h => rw [List.flatten_cons, ih, List.singleton_append]

theorem commonStart_isPrefix {α : Type} [DecidableEq α] (as bs : List α) :
    commonStart as bs <+: as ∧ commonStart as bs <+: bs := by
  induction as generalizing bs with
  | nil => exact ⟨List.nil_prefix, List.nil_prefix⟩
  | cons a as ih =>
    cases bs with
    | nil => exact ⟨List.nil_prefix, List.nil_prefix⟩
    | cons b bs =>
      rw [commonStart]
      split_ifs with h
      · subst h
        exact ⟨List.cons_prefix_cons.mpr ⟨rfl, (ih bs).1⟩,
          List.cons_prefix_cons.mpr ⟨rfl, (ih bs).2⟩⟩
      · exact ⟨List.nil_prefix, List.nil_prefix⟩

theorem foldl_commonStart_isPrefix {α : Type} [DecidableEq α] (first : List α)
    (rest : List (List α)) :
    ∀ p ∈ first :: rest, rest.foldl commonStart first <+: p := by
  induction rest generalizing first with
  | nil =>
    intro p hp
    rw [List.mem_singleton.mp hp]
    exact List.prefix_rfl
  | cons q rest ih =>
    have hfold := ih (commonStart first q)
    have hstart := hfold _ List.mem_cons_self
    intro p hp
    rcases List.mem_cons.mp hp with rfl | hp
    · exact hstart.trans (commonStart_isPrefix _ _).1
    · rcases List.mem_cons.mp hp with rfl | hp
      · exact hstart.trans (commonStart_isPrefix _ _).2
      · exact hfold p (List.mem_cons_of_mem _ hp)

theorem sharedStart_isPrefix (parts : List (List (List Term))) :
    ∀ p ∈ parts, sharedStart parts <+: p := by
  cases parts with
  | nil => exact nofun
  | cons first rest =>
    rw [sharedStart]
    split_ifs
    · exact foldl_commonStart_isPrefix first rest
    · exact fun _ _ => List.nil_prefix

/-- Sets alone are as good as their union. -/
theorem runs_set_union (h : ∀ t ∈ ts, t.set?.isSome = true) :
    (set ((ts.filterMap set?).foldr CharSet.union CharSet.empty)).Runs x y ↔
      ∃ t ∈ ts, t.Runs x y := by
  induction ts with
  | nil => simp [Runs]
  | cons t rest ih =>
    obtain ⟨hs, hrest⟩ := List.forall_mem_cons.mp h
    cases t with
    | set s =>
      have hfilter : (set s :: rest).filterMap set? = s :: rest.filterMap set? := rfl
      rw [List.exists_mem_cons_iff, ← ih hrest, hfilter, List.foldr_cons]
      simp only [Runs, CharSet.contains_union, Bool.or_eq_true]
      constructor
      · intro hx
        rcases hx with ⟨c, cursor, hn, hc | hc, hy⟩
        · exact Or.inl ⟨c, cursor, hn, hc, hy⟩
        · exact Or.inr ⟨c, cursor, hn, hc, hy⟩
      · intro hx
        rcases hx with ⟨c, cursor, hn, hc, hy⟩ | ⟨c, cursor, hn, hc, hy⟩
        · exact ⟨c, cursor, hn, Or.inl hc, hy⟩
        · exact ⟨c, cursor, hn, Or.inr hc, hy⟩
    | _ => cases hs

/-- Where all of several terms begin with the same factors, these can be taken out in front. -/
theorem exists_runs_of_prefix {start : List (List Term)}
    (h : ∀ t ∈ ts, start <+: chunks t.factors) :
    (∃ t ∈ ts, t.Runs x y) ↔
      ∃ z, RunsAll start.flatten x z ∧
        ∃ t ∈ ts, (concat ((chunks t.factors).drop start.length).flatten).Runs z y := by
  -- each term is its start and the rest of its factors, one after the other
  have hrun (t : Term) (ht : t ∈ ts) : t.Runs x y ↔ ∃ z, RunsAll start.flatten x z ∧
      (concat ((chunks t.factors).drop start.length).flatten).Runs z y := by
    obtain ⟨more, hmore⟩ := h t ht
    have hflat : (chunks t.factors).flatten = t.factors := flatten_chunks
    rw [← hmore, List.flatten_append] at hflat
    rw [← hmore, List.drop_left, ← runsAll_factors, ← hflat, runsAll_append]
    simp only [runs_concat]
  constructor
  · intro hx
    obtain ⟨t, ht, hr⟩ := hx
    obtain ⟨z, hs, hr⟩ := (hrun t ht).mp hr
    exact ⟨z, hs, t, ht, hr⟩
  · intro hx
    obtain ⟨z, hs, t, ht, hr⟩ := hx
    exact ⟨t, ht, (hrun t ht).mpr ⟨z, hs, hr⟩⟩

theorem set?_isSome_of_isChar (h : t.isChar = true) : t.set?.isSome = true := by
  cases t with
  | set s => rfl
  | _ => cases h

theorem exists_mem_flatMap_branches :
    (∃ b ∈ ts.flatMap branches, b.Runs x y) ↔ ∃ t ∈ ts, t.Runs x y := by
  induction ts with
  | nil => simp
  | cons t rest ih =>
    rw [List.flatMap_cons, List.exists_mem_cons_iff, ← ih, ← exists_mem_branches]
    simp only [List.mem_append, or_and_right, exists_or]

theorem runs_alternationWithin (fuel : Nat) :
    (alternationWithin fuel ts).Runs x y ↔ ∃ t ∈ ts, t.Runs x y := by
  -- every form is an alternation of the same branches; without fuel it is the plain one
  induction fuel generalizing ts x y with
  | zero => rw [alternationWithin, runs_ofBranches, exists_mem_flatMap_branches]
  | succ fuel ih =>
    rw [← exists_mem_flatMap_branches, alternationWithin]
    generalize ts.flatMap branches = bs
    dsimp only
    split
    · simp [Runs]
    · simp only [List.mem_singleton, exists_eq_left]
    · split_ifs with hsets
      · apply runs_set_union
        intro t ht
        rcases Bool.or_eq_true_iff.mp hsets with hall | hall
        · exact set?_isSome_of_isChar (List.all_eq_true.mp hall t ht)
        · obtain ⟨s, hs, -⟩ := (Option.any_eq_true _ _).mp (List.all_eq_true.mp hall t ht)
          rw [hs]
          rfl
      · split
        · exact runs_ofBranches
        · have hstart := sharedStart_isPrefix (bs.map fun t => chunks t.factors)
          rw [List.forall_mem_map] at hstart
          rw [runs_concat, runsAll_append, exists_runs_of_prefix hstart]
          simp only [runsAll_singleton, ih, List.map_map, List.mem_map, exists_exists_and_eq_and,
            Function.comp_apply]

theorem runs_alternation : (alternation ts).Runs x y ↔ ∃ t ∈ ts, t.Runs x y :=
  runs_alternationWithin _

end Alternation

theorem repeated_optional {greedy : Bool} :
    t.repeated 0 (some 1) greedy = rep t 0 (some 1) greedy := by
  rw [repeated]
  cases t.isVoid <;> rfl

theorem runs_optional {greedy : Bool} :
    (rep t 0 (some 1) greedy).Runs x y ↔ y = x ∨ t.Runs x y := by
  constructor
  · intro hx
    obtain ⟨k, hk, h⟩ := hx
    have hle := hk 1 rfl
    obtain rfl | rfl : k = 0 ∨ k = 1 := by omega
    · exact Or.inl h
    · obtain ⟨z, hz, rfl⟩ := h
      exact Or.inr hz
  · intro hx
    rcases hx with rfl | h
    · exact ⟨0, fun _ _ => Nat.zero_le _, rfl⟩
    · refine ⟨1, ?_, y, h, rfl⟩
      rintro _ ⟨⟩
      exact Nat.le_refl 1

section Language

/-- Whether a term asks nothing of positions. -/
def NoLook : Term → Prop
  | empty | set _ => True
  | look _ => False
  | cat a b | alt a b => a.NoLook ∧ b.NoLook
  | rep t _ _ _ | group _ t => t.NoLook

/-- Whether a term has no groups. -/
def NoGroup : Term → Prop
  | empty | set _ | look _ => True
  | group _ _ => False
  | cat a b | alt a b => a.NoGroup ∧ b.NoGroup
  | rep t _ _ _ => t.NoGroup

/-- The texts that a term matches as a whole, where every condition on positions is taken to
hold. -/
def language : Term → Language Char
  | empty | look _ => 1
  | set s => { w | ∃ c, s.contains c = true ∧ w = [c] }
  | cat a b => a.language * b.language
  | alt a b => a.language + b.language
  | rep t low high _ => { w | ∃ k, (∀ h ∈ high, k ≤ h - low) ∧ w ∈ t.language ^ (low + k) }
  | group _ t => t.language

/-- A term without conditions and groups matches the texts of its language, wherever they stand, and
makes no marks. -/
theorem consumes_language (hl : t.NoLook) (hg : t.NoGroup) : Consumes t.Runs t.language := by
  -- one closure property of consuming relations for each way to build a term
  induction t with
  | empty => exact consumes_skip
  | set s =>
    intro cur m y
    constructor
    · intro h
      obtain ⟨c, cur', hn, hc, rfl⟩ := h
      exact ⟨[c], ⟨c, hc, rfl⟩, cur', Cursor.passes_singleton.mpr hn, rfl⟩
    · intro h
      obtain ⟨_, ⟨c, hc, rfl⟩, cur', hp, rfl⟩ := h
      exact ⟨c, cur', Cursor.passes_singleton.mp hp, hc, rfl⟩
  | look l => exact hl.elim
  | cat a b iha ihb => exact (iha hl.1 hg.1).seq (ihb hl.2 hg.2)
  | alt a b iha ihb => exact (iha hl.1 hg.1).either (ihb hl.2 hg.2)
  | rep t low high greedy ih =>
    have hrepeats (n : Nat) : Consumes (Repeats t.Runs n) (t.language ^ n) := (ih hl hg).repeats n
    intro cur m y
    constructor
    · intro h
      obtain ⟨k, hk, hr⟩ := h
      obtain ⟨w, hw, hp⟩ := (hrepeats _ cur m y).mp hr
      exact ⟨w, ⟨k, hk, hw⟩, hp⟩
    · intro h
      obtain ⟨w, ⟨k, hk, hw⟩, hp⟩ := h
      exact ⟨k, hk, (hrepeats _ cur m y).mpr ⟨w, hw, hp⟩⟩
  | group i t => exact hg.elim

end Language

end Term

end RoutePattern.Regex
