import RoutePattern.Proofs.Regex.Runs

/-! The program of a term does what the term matches: an end of the program is reached from the
entry of a fragment exactly by a match of its term and from the instruction that follows. -/
namespace RoutePattern.Regex

/-- The thread that is about to take an instruction at a spot. -/
def Thread.of (pc : Nat) (x : Spot) : Thread := ⟨pc, x.1, x.2⟩

/-- From a thread the program comes to its end in so many steps, with the given marks. -/
def EndsIn (code : Array Inst) : Nat → Thread → Marks → Prop
  | 0, t, m => code[t.pc]? = some .done ∧ m = t.marks
  | n + 1, t, m =>
    ∃ inst, code[t.pc]? = some inst ∧ ∃ t' ∈ t.advance inst, EndsIn code n t' m

def Ends (code : Array Inst) (t : Thread) (m : Marks) : Prop := ∃ n, EndsIn code n t m

/-- Where an instruction leads from a spot. -/
def Inst.Leads : Inst → Spot → Nat → Spot → Prop
  | set s next, x, pc, y => pc = next ∧ (Term.set s).Runs x y
  | look l next, x, pc, y => pc = next ∧ (Term.look l).Runs x y
  | mark slot next, x, pc, y => pc = next ∧ y = (x.1, (slot, x.1.offset) :: x.2)
  | fork first second, x, pc, y => (pc = first ∨ pc = second) ∧ y = x
  | done, _, _, _ => False

theorem mem_advance_iff {inst : Inst} {t t' : Thread} :
    t' ∈ t.advance inst ↔ ∃ pc y, inst.Leads (t.cursor, t.marks) pc y ∧ t' = .of pc y := by
  obtain ⟨pc, cur, m⟩ := t
  cases inst with
  | set s next =>
    simp only [Thread.advance, Thread.of, Inst.Leads, Term.Runs]
    cases hn : cur.next? with
    | none => simp
    | some found =>
      obtain ⟨c, cursor⟩ := found
      by_cases hc : s.contains c = true
      · simp [hc]
      · simp [hc]
  | look l next =>
    simp only [Thread.advance, Thread.of, Inst.Leads, Term.Runs]
    by_cases hl : l.holds cur.before cur.rest.head? = true
    · simp [hl]
    · simp [hl]
  | mark slot next => simp [Thread.advance, Thread.of, Inst.Leads]
  | fork first second =>
    simp only [Thread.advance, Thread.of, Inst.Leads, List.mem_cons, List.not_mem_nil, or_false]
    constructor
    · intro h
      rcases h with rfl | rfl
      · exact ⟨first, _, ⟨Or.inl rfl, rfl⟩, rfl⟩
      · exact ⟨second, _, ⟨Or.inr rfl, rfl⟩, rfl⟩
    · intro h
      rcases h with ⟨pc', y, ⟨rfl | rfl, rfl⟩, rfl⟩
      · exact Or.inl rfl
      · exact Or.inr rfl
  | done => simp [Thread.advance, Inst.Leads]

section Steps

variable {code : Array Inst} {inst : Inst} {n pc pc' : Nat} {x y : Spot} {m : Marks}

/-- An instruction in front of the end is a step. -/
theorem exists_step (h : EndsIn code n (.of pc x) m) (hc : code[pc]? = some inst)
    (hd : inst ≠ .done) :
    ∃ k pc' y, k < n ∧ inst.Leads x pc' y ∧ EndsIn code k (.of pc' y) m := by
  cases n with
  | zero =>
    have hdone : code[pc]? = some .done := h.1
    rw [hc] at hdone
    exact absurd (Option.some.inj hdone) hd
  | succ n =>
    obtain ⟨inst', hc', t, ht, hends⟩ := h
    have hcode : code[pc]? = some inst' := hc'
    rw [hc] at hcode
    obtain rfl := Option.some.inj hcode
    obtain ⟨pc', y, hleads, rfl⟩ := mem_advance_iff.mp ht
    exact ⟨n, pc', y, Nat.lt_succ_self n, hleads, hends⟩

theorem Ends.step (hc : code[pc]? = some inst) (hl : inst.Leads x pc' y)
    (h : Ends code (.of pc' y) m) : Ends code (.of pc x) m := by
  obtain ⟨n, hn⟩ := h
  exact ⟨n + 1, inst, hc, _, mem_advance_iff.mpr ⟨pc', y, hl, rfl⟩, hn⟩

theorem leads_choice {greedy : Bool} {into past : Nat} :
    (Inst.choice greedy into past).Leads x pc y ↔ (pc = into ∨ pc = past) ∧ y = x := by
  cases greedy with
  | false => exact and_congr_left fun _ => or_comm
  | true => exact Iff.rfl

theorem choice_ne_done {greedy : Bool} {into past : Nat} :
    Inst.choice greedy into past ≠ .done := by
  cases greedy <;> exact nofun

end Steps

/-- Instructions stand in the code from an address on. -/
def Holds (code : Array Inst) (base : Nat) (insts : List Inst) : Prop :=
  ∀ i inst, insts[i]? = some inst → code[base + i]? = some inst

section Holds

variable {code : Array Inst} {base : Nat} {inst : Inst} {insts more : List Inst}

theorem holds_cons :
    Holds code base (inst :: insts) ↔ code[base]? = some inst ∧ Holds code (base + 1) insts := by
  constructor
  · intro h
    refine ⟨h 0 inst rfl, fun i inst' hi => ?_⟩
    rw [Nat.add_assoc, Nat.add_comm 1]
    exact h (i + 1) inst' hi
  · rintro ⟨h0, h⟩ i inst' hi
    cases i with
    | zero =>
      rw [← Option.some.inj hi]
      exact h0
    | succ i =>
      have := h i inst' hi
      rwa [Nat.add_assoc, Nat.add_comm 1] at this

theorem holds_append :
    Holds code base (insts ++ more) ↔
      Holds code base insts ∧ Holds code (base + insts.length) more := by
  induction insts generalizing base with
  | nil => simp [Holds]
  | cons inst insts ih =>
    rw [List.cons_append, holds_cons, holds_cons, ih, List.length_cons, and_assoc, Nat.add_assoc,
      Nat.add_comm 1]

end Holds

/-- A fragment stands for a relation: wherever it is put, it is left for the instruction behind it
exactly as the relation says. -/
structure Fragment.Realizes (f : Fragment) (R : Spot → Spot → Prop) : Prop where
  length : ∀ base next, (f.build base next).2.length = f.size
  sound : ∀ {code base next}, Holds code base (f.build base next).2 → ∀ {n x m},
    EndsIn code n (.of (f.build base next).1 x) m →
      ∃ k y, k ≤ n ∧ R x y ∧ EndsIn code k (.of next y) m
  complete : ∀ {code base next}, Holds code base (f.build base next).2 → ∀ {x y m},
    R x y → Ends code (.of next y) m → Ends code (.of (f.build base next).1 x) m

namespace Fragment.Realizes

variable {f g : Fragment} {R S : Spot → Spot → Prop}

theorem congr (h : f.Realizes R) (hRS : ∀ x y, R x y ↔ S x y) : f.Realizes S := by
  have : R = S := by
    funext x y
    exact propext (hRS x y)
  rwa [← this]

theorem skip : skip.Realizes fun x y => y = x where
  length _ _ := rfl
  sound := by
    intro _ _ _ _ n x m hn
    exact ⟨n, x, Nat.le_refl n, rfl, hn⟩
  complete := by
    rintro _ _ _ _ x y m rfl hend
    exact hend

/-- A single instruction that leads to the one behind it. -/
theorem one {inst : Nat → Inst} (hd : ∀ next, inst next ≠ .done)
    (hl : ∀ next x pc y, (inst next).Leads x pc y ↔ pc = next ∧ R x y) :
    (one inst).Realizes R where
  length _ _ := rfl
  sound := by
    intro code base next hc n x m hn
    obtain ⟨hcode, -⟩ := holds_cons.mp hc
    obtain ⟨k, pc, y, hk, hleads, hend⟩ := exists_step hn hcode (hd next)
    obtain ⟨rfl, hR⟩ := (hl next x pc y).mp hleads
    exact ⟨k, y, Nat.le_of_lt hk, hR, hend⟩
  complete := by
    intro code base next hc x y m hR hend
    obtain ⟨hcode, -⟩ := holds_cons.mp hc
    exact hend.step hcode ((hl next x next y).mpr ⟨rfl, hR⟩)

theorem seq (hf : f.Realizes R) (hg : g.Realizes S) :
    (f.seq g).Realizes fun x z => ∃ y, R x y ∧ S y z where
  length base next := by
    simp only [Fragment.seq, List.length_append, hf.length, hg.length]
  sound := by
    intro code base next hc n x m hn
    obtain ⟨hcf, hcg⟩ := holds_append.mp hc
    rw [hf.length] at hcg
    obtain ⟨k, y, hk, hR, hn⟩ := hf.sound hcf hn
    obtain ⟨l, z, hl, hS, hn⟩ := hg.sound hcg hn
    exact ⟨l, z, hl.trans hk, ⟨y, hR, hS⟩, hn⟩
  complete := by
    rintro code base next hc x z m ⟨y, hR, hS⟩ hend
    obtain ⟨hcf, hcg⟩ := holds_append.mp hc
    rw [hf.length] at hcg
    exact hf.complete hcf hR (hg.complete hcg hS hend)

theorem either (hf : f.Realizes R) (hg : g.Realizes S) :
    (f.either g).Realizes fun x y => R x y ∨ S x y where
  length base next := by
    simp only [Fragment.either, List.length_cons, List.length_append, hf.length, hg.length]
  sound := by
    intro code base next hc n x m hn
    obtain ⟨hfork, hc⟩ := holds_cons.mp hc
    obtain ⟨hcf, hcg⟩ := holds_append.mp hc
    rw [hf.length] at hcg
    obtain ⟨k, pc, y, hk, ⟨hpc, rfl⟩, hn⟩ := exists_step hn hfork nofun
    rcases hpc with rfl | rfl
    · obtain ⟨l, z, hl, hR, hn⟩ := hf.sound hcf hn
      exact ⟨l, z, hl.trans (Nat.le_of_lt hk), Or.inl hR, hn⟩
    · obtain ⟨l, z, hl, hS, hn⟩ := hg.sound hcg hn
      exact ⟨l, z, hl.trans (Nat.le_of_lt hk), Or.inr hS, hn⟩
  complete := by
    intro code base next hc x y m hRS hend
    obtain ⟨hfork, hc⟩ := holds_cons.mp hc
    obtain ⟨hcf, hcg⟩ := holds_append.mp hc
    rw [hf.length] at hcg
    rcases hRS with hR | hS
    · exact (hf.complete hcf hR hend).step hfork ⟨Or.inl rfl, rfl⟩
    · exact (hg.complete hcg hS hend).step hfork ⟨Or.inr rfl, rfl⟩

theorem optional (hf : f.Realizes R) (greedy : Bool) :
    (optional greedy f).Realizes fun x y => y = x ∨ R x y where
  length base next := by
    simp only [Fragment.optional, List.length_cons, hf.length]
  sound := by
    intro code base next hc n x m hn
    obtain ⟨hfork, hcf⟩ := holds_cons.mp hc
    obtain ⟨k, pc, y, hk, hleads, hstep⟩ := exists_step hn hfork choice_ne_done
    obtain ⟨rfl | rfl, rfl⟩ := leads_choice.mp hleads
    · obtain ⟨l, z, hl, hR, hend⟩ := hf.sound hcf hstep
      exact ⟨l, z, hl.trans (Nat.le_of_lt hk), Or.inr hR, hend⟩
    · exact ⟨k, y, Nat.le_of_lt hk, Or.inl rfl, hstep⟩
  complete := by
    intro code base next hc x y m hR hend
    obtain ⟨hfork, hcf⟩ := holds_cons.mp hc
    rcases hR with rfl | hR
    · exact hend.step hfork (leads_choice.mpr ⟨Or.inr rfl, rfl⟩)
    · exact (hf.complete hcf hR hend).step hfork (leads_choice.mpr ⟨Or.inl rfl, rfl⟩)

theorem many (hf : f.Realizes R) (greedy : Bool) :
    (many greedy f).Realizes fun x y => ∃ n, Repeats R n x y where
  length base next := by
    simp only [Fragment.many, List.length_cons, hf.length]
  sound := by
    intro code base next hc n x m hn
    obtain ⟨hfork, hcf⟩ := holds_cons.mp hc
    -- on the number of steps, since the body leads back to the fork
    induction n using Nat.strongRecOn generalizing x with
    | _ n ih =>
      obtain ⟨k, pc, y, hk, hleads, hstep⟩ := exists_step hn hfork choice_ne_done
      obtain ⟨rfl | rfl, rfl⟩ := leads_choice.mp hleads
      · obtain ⟨l, z, hl, hR, hback⟩ := hf.sound hcf hstep
        obtain ⟨j, w, hj, ⟨i, hi⟩, hend⟩ := ih l (by omega) hback
        exact ⟨j, w, by omega, ⟨i + 1, z, hR, hi⟩, hend⟩
      · exact ⟨k, y, Nat.le_of_lt hk, ⟨0, rfl⟩, hstep⟩
  complete := by
    rintro code base next hc x y m ⟨n, hn⟩ hend
    obtain ⟨hfork, hcf⟩ := holds_cons.mp hc
    induction n generalizing x with
    | zero =>
      obtain rfl : y = x := hn
      exact hend.step hfork (leads_choice.mpr ⟨Or.inr rfl, rfl⟩)
    | succ n ih =>
      obtain ⟨z, hR, hn⟩ := hn
      exact (hf.complete hcf hR (ih hn)).step hfork (leads_choice.mpr ⟨Or.inl rfl, rfl⟩)

theorem some (hf : f.Realizes R) (greedy : Bool) :
    (some greedy f).Realizes fun x y => ∃ n, Repeats R (n + 1) x y where
  length base next := by
    simp only [Fragment.some, List.length_append, List.length_singleton, hf.length]
  sound := by
    intro code base next hc n x m hn
    obtain ⟨hcf, hfork⟩ := holds_append.mp hc
    rw [hf.length] at hfork
    obtain ⟨hfork, -⟩ := holds_cons.mp hfork
    -- on the number of steps, since the fork leads back to the body
    induction n using Nat.strongRecOn generalizing x with
    | _ n ih =>
      obtain ⟨k, z, hk, hR, hback⟩ := hf.sound hcf hn
      obtain ⟨l, pc, y, hl, hleads, hstep⟩ := exists_step hback hfork choice_ne_done
      obtain ⟨rfl | rfl, rfl⟩ := leads_choice.mp hleads
      · obtain ⟨j, w, hj, ⟨i, hi⟩, hend⟩ := ih l (by omega) hstep
        exact ⟨j, w, by omega, ⟨i + 1, y, hR, hi⟩, hend⟩
      · exact ⟨l, y, by omega, ⟨0, y, hR, rfl⟩, hstep⟩
  complete := by
    rintro code base next hc x y m ⟨n, hn⟩ hend
    obtain ⟨hcf, hfork⟩ := holds_append.mp hc
    rw [hf.length] at hfork
    obtain ⟨hfork, -⟩ := holds_cons.mp hfork
    induction n generalizing x with
    | zero =>
      obtain ⟨z, hR, rfl⟩ := hn
      exact hf.complete hcf hR (hend.step hfork (leads_choice.mpr ⟨Or.inr rfl, rfl⟩))
    | succ n ih =>
      obtain ⟨z, hR, hn⟩ := hn
      exact hf.complete hcf hR ((ih hn).step hfork (leads_choice.mpr ⟨Or.inl rfl, rfl⟩))

theorem copies (hf : f.Realizes R) (n : Nat) : (f.copies n).Realizes (Repeats R n) := by
  induction n with
  | zero => exact skip
  | succ n ih => exact hf.seq ih

theorem upTo (hf : f.Realizes R) (greedy : Bool) (n : Nat) :
    (upTo greedy f n).Realizes fun x y => ∃ k ≤ n, Repeats R k x y := by
  induction n with
  | zero =>
    apply skip.congr
    intro x y
    constructor
    · intro h
      subst h
      exact ⟨0, Nat.le_refl 0, rfl⟩
    · intro h
      obtain ⟨k, hk, hr⟩ := h
      obtain rfl : k = 0 := by omega
      exact hr
  | succ n ih =>
    -- one copy more is an option in front of the others
    apply ((hf.seq ih).optional greedy).congr
    intro x y
    constructor
    · intro h
      rcases h with rfl | ⟨z, hR, k, hk, hr⟩
      · exact ⟨0, Nat.zero_le _, rfl⟩
      · exact ⟨k + 1, Nat.succ_le_succ hk, z, hR, hr⟩
    · intro h
      obtain ⟨k, hk, hr⟩ := h
      cases k with
      | zero => exact Or.inl hr
      | succ k =>
        obtain ⟨z, hR, hr⟩ := hr
        exact Or.inr ⟨z, hR, k, Nat.le_of_succ_le_succ hk, hr⟩

theorem group (hf : f.Realizes R) (index : Nat) :
    (f.group index).Realizes fun x z =>
      ∃ y : Spot, R (x.1, (2 * index, x.1.offset) :: x.2) y ∧
        z = (y.1, (2 * index + 1, y.1.offset) :: y.2) := by
  have hmark (slot : Nat) : (Fragment.one (.mark slot)).Realizes fun x y =>
      y = (x.1, (slot, x.1.offset) :: x.2) :=
    one (fun _ => nofun) fun _ _ _ _ => Iff.rfl
  apply ((hmark _).seq (hf.seq (hmark _))).congr
  intro x z
  constructor
  · intro h
    obtain ⟨_, rfl, y, hR, rfl⟩ := h
    exact ⟨y, hR, rfl⟩
  · intro h
    obtain ⟨y, hR, rfl⟩ := h
    exact ⟨_, rfl, y, hR, rfl⟩

theorem repetition (hf : f.Realizes R) (consumes : Bool) (low : Nat) (high : Option Nat)
    (greedy : Bool) :
    (f.repetition consumes low high greedy).Realizes fun x y =>
      ∃ k, (∀ h ∈ high, k ≤ h - low) ∧ Repeats R (low + k) x y := by
  -- the cases are those of the fragment: from none on, from one or more on, and up to a bound
  match low, high with
  | 0, none =>
    rw [Fragment.repetition]
    split_ifs
    · apply (hf.many greedy).congr
      intro x y
      simp
    · apply ((hf.some greedy).optional greedy).congr
      intro x y
      constructor
      · intro hx
        rcases hx with rfl | ⟨n, hn⟩
        · exact ⟨0, nofun, rfl⟩
        · exact ⟨n + 1, nofun, (Nat.zero_add (n + 1)).symm ▸ hn⟩
      · intro hx
        obtain ⟨k, -, hk⟩ := hx
        rw [Nat.zero_add] at hk
        cases k with
        | zero => exact Or.inl hk
        | succ k => exact Or.inr ⟨k, hk⟩
  | n + 1, none =>
    apply ((hf.copies n).seq (hf.some greedy)).congr
    intro x y
    constructor
    · intro hx
      obtain ⟨z, hn, k, hk⟩ := hx
      refine ⟨k, nofun, ?_⟩
      rw [Nat.add_assoc, Nat.add_comm 1]
      exact repeats_add.mpr ⟨z, hn, hk⟩
    · intro hx
      obtain ⟨k, -, hk⟩ := hx
      rw [Nat.add_assoc, Nat.add_comm 1] at hk
      obtain ⟨z, hn, hk⟩ := repeats_add.mp hk
      exact ⟨z, hn, k, hk⟩
  | low, .some high =>
    have heq : f.repetition consumes low (.some high) greedy =
        (f.copies low).seq (Fragment.upTo greedy f (high - low)) := by
      cases low <;> rfl
    rw [heq]
    apply ((hf.copies low).seq (hf.upTo greedy (high - low))).congr
    intro x y
    constructor
    · intro hx
      obtain ⟨z, hl, k, hk, hr⟩ := hx
      refine ⟨k, ?_, repeats_add.mpr ⟨z, hl, hr⟩⟩
      rintro _ ⟨⟩
      exact hk
    · intro hx
      obtain ⟨k, hk, hr⟩ := hx
      obtain ⟨z, hl, hr⟩ := repeats_add.mp hr
      exact ⟨z, hl, k, hk high rfl, hr⟩

end Fragment.Realizes

/-- The fragment of a term stands for what the term matches. -/
theorem Term.fragment_realizes (t : Term) : t.fragment.Realizes t.Runs := by
  induction t with
  | empty => exact .skip
  | set s => exact .one (fun _ => nofun) fun _ _ _ _ => Iff.rfl
  | look l => exact .one (fun _ => nofun) fun _ _ _ _ => Iff.rfl
  | cat a b iha ihb => exact iha.seq ihb
  | alt a b iha ihb => exact iha.either ihb
  | rep t low high greedy ih => exact ih.repetition _ _ _ _
  | group i t ih => exact ih.group i

/-- The program of a term is the fragment of group 0, and its end behind it. -/
theorem Term.holds_program (t : Term) :
    Holds t.program.code 0 ((t.fragment.group 0).build 0 (t.fragment.group 0).size).2 ∧
      t.program.code[(t.fragment.group 0).size]? = some .done := by
  have hlen : ((t.fragment.group 0).build 0 (t.fragment.group 0).size).2.length =
      (t.fragment.group 0).size := (Term.group 0 t).fragment_realizes.length 0 _
  constructor
  · intro i inst hi
    have hlt := (List.getElem?_eq_some_iff.mp hi).1
    rw [Nat.zero_add, Term.program, List.getElem?_toArray, List.getElem?_append_left hlt]
    exact hi
  · rw [Term.program, List.getElem?_toArray, List.getElem?_append_right (Nat.le_of_eq hlen), hlen,
      Nat.sub_self]
    rfl

/-- A program comes to its end from where it starts exactly by a match of its term, which is group
0. -/
theorem Term.ends_program_iff (t : Term) {x : Spot} {m : Marks} :
    Ends t.program.code (.of t.program.start x) m ↔
      ∃ cur, (Term.group 0 t).Runs x (cur, m) := by
  have h := (Term.group 0 t).fragment_realizes
  obtain ⟨hbody, hdone⟩ := t.holds_program
  constructor
  · intro hx
    obtain ⟨n, hn⟩ := hx
    obtain ⟨k, y, -, hR, hend⟩ := h.sound hbody hn
    -- the end has no step, so that the way to it is over where the fragment is left
    cases k with
    | zero =>
      obtain ⟨-, rfl⟩ := hend
      exact ⟨y.1, hR⟩
    | succ k =>
      obtain ⟨inst, hi, t', ht, -⟩ := hend
      have hi' : t.program.code[(t.fragment.group 0).size]? = some inst := hi
      rw [hdone] at hi'
      obtain rfl := Option.some.inj hi'
      cases ht
  · intro hx
    obtain ⟨cur, hR⟩ := hx
    exact h.complete hbody hR ⟨0, hdone, rfl⟩

end RoutePattern.Regex
