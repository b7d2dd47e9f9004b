import RoutePattern.Proofs.Regex.Groups
import RoutePattern.Proofs.Regex.Search

/-! Matches of a text as a whole, which are the matches between anchors. -/
namespace RoutePattern.Regex

/-- Whether a relation leads forward, and adds marks of certain groups whatever was marked before. -/
def Adds (P : Nat → Prop) (R : Spot → Spot → Prop) : Prop :=
  ∀ x y, R x y → ∃ w new, x.1.Passes w y.1 ∧ y.2 = new ++ x.2 ∧ (∀ mark ∈ new, P (mark.1 / 2)) ∧
    ∀ m, R (x.1, m) (y.1, new ++ m)

section Adds

variable {P : Nat → Prop} {R S : Spot → Spot → Prop} {t : Term} {ts : List Term}

theorem adds_skip : Adds P fun x y => y = x := by
  rintro x _ rfl
  exact ⟨[], [], rfl, rfl, nofun, fun _ => rfl⟩

theorem Adds.seq (hR : Adds P R) (hS : Adds P S) : Adds P fun x z => ∃ y, R x y ∧ S y z := by
  intro x z h
  obtain ⟨y, hxy, hyz⟩ := h
  obtain ⟨v, new, hv, hy, hnew, hR'⟩ := hR x y hxy
  obtain ⟨w, later, hw, hz, hlater, hS'⟩ := hS y z hyz
  refine ⟨v ++ w, later ++ new, Cursor.passes_append.mpr ⟨y.1, hv, hw⟩, ?_, ?_, fun m => ?_⟩
  · rw [hz, hy, List.append_assoc]
  · rw [List.forall_mem_append]
    exact ⟨hlater, hnew⟩
  · rw [List.append_assoc]
    exact ⟨(y.1, new ++ m), hR' m, hS' (new ++ m)⟩

theorem Adds.repeats (h : Adds P R) (n : Nat) : Adds P (Repeats R n) := by
  induction n with
  | zero => exact adds_skip
  | succ n ih => exact h.seq ih

theorem Term.adds_runs (h : t.Indices P) : Adds P t.Runs := by
  induction t with
  | empty => exact adds_skip
  | set s =>
    intro x y hx
    obtain ⟨c, cursor, hn, hc, rfl⟩ := hx
    exact ⟨[c], [], Cursor.passes_singleton.mpr hn, rfl, nofun, fun m => ⟨c, cursor, hn, hc, rfl⟩⟩
  | look l =>
    intro x y hx
    obtain ⟨hl, rfl⟩ := hx
    exact ⟨[], [], rfl, rfl, nofun, fun m => ⟨hl, rfl⟩⟩
  | cat a b iha ihb => exact (iha h.1).seq (ihb h.2)
  | alt a b iha ihb =>
    intro x y hx
    rcases hx with hx | hx
    · obtain ⟨w, new, hw, hy, hnew, hruns⟩ := iha h.1 x y hx
      exact ⟨w, new, hw, hy, hnew, fun m => Or.inl (hruns m)⟩
    · obtain ⟨w, new, hw, hy, hnew, hruns⟩ := ihb h.2 x y hx
      exact ⟨w, new, hw, hy, hnew, fun m => Or.inr (hruns m)⟩
  | rep t low high greedy ih =>
    intro x y hx
    obtain ⟨k, hk, hx⟩ := hx
    obtain ⟨w, new, hw, hy, hnew, hruns⟩ := (ih h).repeats _ x y hx
    exact ⟨w, new, hw, hy, hnew, fun m => ⟨k, hk, hruns m⟩⟩
  | group i t ih =>
    intro x z hx
    obtain ⟨y, hy, rfl⟩ := hx
    obtain ⟨w, new, hw, hmarks, hnew, hruns⟩ := ih h.2 _ y hy
    refine ⟨w, (2 * i + 1, y.1.offset) :: (new ++ [(2 * i, x.1.offset)]), hw, ?_, ?_, fun m => ?_⟩
    · rw [hmarks, List.cons_append, List.append_assoc]
      rfl
    · have hstart : (2 * i) / 2 = i := by omega
      have hstop : (2 * i + 1) / 2 = i := by omega
      rw [List.forall_mem_cons, List.forall_mem_append, List.forall_mem_singleton, hstart, hstop]
      exact ⟨h.1, hnew, h.1⟩
    · refine ⟨(y.1, new ++ (2 * i, x.1.offset) :: m), hruns _, ?_⟩
      rw [List.cons_append, List.append_assoc]
      rfl

theorem adds_runsAll (h : ∀ t ∈ ts, t.Indices P) : Adds P (Term.RunsAll ts) := by
  induction ts with
  | nil => exact adds_skip
  | cons t ts ih =>
    obtain ⟨ht, hts⟩ := List.forall_mem_cons.mp h
    exact (Term.adds_runs ht).seq (ih hts)

end Adds

theorem Term.indices_true (t : Term) : t.Indices fun _ => True := by
  induction t with
  | empty | set s | look l => trivial
  | cat a b iha ihb => exact ⟨iha, ihb⟩
  | alt a b iha ihb => exact ⟨iha, ihb⟩
  | rep t low high greedy ih => exact ih
  | group i t ih => exact ⟨trivial, ih⟩

/-- Whether a term matches a text as a whole. -/
def Term.MatchesWhole (t : Term) (text : List Char) : Prop :=
  ∃ m, t.Runs (.nth text 0, []) (.nth text text.length, m)

section Whole

variable {text : List Char} {start stop : Cursor} {m m' : Marks} {t : Term} {ts : List Term}

theorem Cursor.On.eq_start (h : start.On text) (hbefore : start.before = none) :
    start = .nth text 0 := by
  obtain ⟨k, hk, rfl⟩ := h
  have hlength : (text.take k).length = 0 := by
    rw [List.getLast?_eq_none_iff.mp hbefore]
    rfl
  have hzero : k = 0 := by
    rw [List.length_take, Nat.min_eq_left hk] at hlength
    exact hlength
  rw [hzero]

theorem Cursor.On.eq_stop (h : stop.On text) (hrest : stop.rest = []) :
    stop = .nth text text.length := by
  obtain ⟨k, hk, rfl⟩ := h
  have hle : text.length ≤ k := List.drop_eq_nil_iff.mp hrest
  rw [Nat.le_antisymm hle hk]

/-- A match between the anchors is a match of the whole text. -/
theorem runsAll_anchored_iff (hon : start.On text) :
    Term.RunsAll (.look .textStart :: ts ++ [.look .textStop]) (start, m) (stop, m') ↔
      start = .nth text 0 ∧ stop = .nth text text.length ∧ Term.RunsAll ts (start, m) (stop, m') := by
  rw [Term.runsAll_append]
  constructor
  · intro h
    obtain ⟨y, ⟨_, ⟨hstart, rfl⟩, hts⟩, hlast⟩ := h
    obtain ⟨hstop, hy⟩ := Term.runsAll_singleton.mp hlast
    obtain rfl : (stop, m') = y := hy
    have hbegin := hon.eq_start (Option.isNone_iff_eq_none.mp hstart)
    obtain ⟨w, -, hw, -⟩ := adds_runsAll (fun t _ => t.indices_true) _ _ hts
    have hend := (hon.passes hw).eq_stop (List.head?_eq_none_iff.mp (Option.isNone_iff_eq_none.mp hstop))
    exact ⟨hbegin, hend, hts⟩
  · intro h
    obtain ⟨rfl, rfl, hts⟩ := h
    refine ⟨(.nth text text.length, m'), ⟨_, ⟨rfl, rfl⟩, hts⟩, Term.runsAll_singleton.mpr ⟨?_, rfl⟩⟩
    have hnil : (Cursor.nth text text.length).rest = [] := List.drop_length
    change (Cursor.nth text text.length).rest.head?.isNone = true
    rw [hnil]
    rfl

/-- Between the anchors a regex matches the texts that its term matches as a whole. -/
theorem run_isSome_iff_matchesWhole {u : Term} (hu : ∀ x y, u.Runs x y ↔
    Term.RunsAll (.look .textStart :: [t] ++ [.look .textStop]) x y) :
    (u.program.run text).isSome = true ↔ t.MatchesWhole text := by
  constructor
  · intro h
    obtain ⟨m, hm⟩ := Option.isSome_iff_exists.mp h
    obtain ⟨start, stop, hon, ⟨cur, m'⟩, hruns, -⟩ := (Term.run_program u text).1 m hm
    obtain ⟨rfl, rfl, hts⟩ := (runsAll_anchored_iff hon).mp ((hu _ _).mp hruns)
    obtain ⟨-, new, -, -, -, hany⟩ := Term.adds_runs t.indices_true _ _ (Term.runsAll_singleton.mp hts)
    exact ⟨new ++ [], hany []⟩
  · intro h
    obtain ⟨m, hm⟩ := h
    obtain ⟨-, new, -, -, -, hany⟩ := Term.adds_runs t.indices_true _ _ hm
    have hon : (Cursor.nth text 0).On text := ⟨0, Nat.zero_le _, rfl⟩
    have hruns := (hu _ _).mpr ((runsAll_anchored_iff hon).mpr
      ⟨rfl, rfl, Term.runsAll_singleton.mpr (hany [(2 * 0, 0)])⟩)
    have hgroup : (Term.group 0 u).Runs (.nth text 0, [])
        (.nth text text.length, (2 * 0 + 1, text.length) :: (new ++ [(2 * 0, 0)])) :=
      ⟨_, hruns, rfl⟩
    exact Term.run_program_isSome hon hgroup

/-- A term that stands for a language matches its texts as a whole. -/
theorem Consumes.matchesWhole_iff {L : Language Char} (h : Consumes t.Runs L) :
    t.MatchesWhole text ↔ text ∈ L := by
  have hbegin : (Cursor.nth text 0).rest = text := rfl
  have hend : (Cursor.nth text text.length).rest = [] := List.drop_length
  constructor
  · intro hm
    obtain ⟨m, hm⟩ := hm
    obtain ⟨w, hw, cur', hp, hcur⟩ := (h _ _ _).mp hm
    obtain ⟨rfl, -⟩ := Prod.mk.inj hcur
    have hwhole : text = w := by rw [← hbegin, hp.rest_offset.1, hend, List.append_nil]
    rw [hwhole]
    exact hw
  · intro hw
    have hrest : (Cursor.nth text 0).rest = text ++ [] := (List.append_nil text).symm
    obtain ⟨stop, hp, hnil⟩ := Cursor.exists_passes hrest
    have hon : (Cursor.nth text 0).On text := ⟨0, Nat.zero_le _, rfl⟩
    exact ⟨[], (h _ _ _).mpr ⟨text, hw, _, hp, by rw [(hon.passes hp).eq_stop hnil]⟩⟩

end Whole

end RoutePattern.Regex
