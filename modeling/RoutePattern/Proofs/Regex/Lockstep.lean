import RoutePattern.Proofs.Regex.Placement
import RoutePattern.Proofs.Regex.Whole

/-! Programs that hold the same fragment try the same ways through it, in the same order, up to where
they leave it. An anchor in front of a term or behind it therefore changes a match only if there is no
match with the anchor, or if the text goes on behind the match without it. -/
namespace RoutePattern.Regex

section Steps

variable {code : Array Inst} {text : List Char} {fuel exit exit' slot next : Nat}
  {seen : Std.ExtTreeSet Nat} {t : Thread} {rest : List Thread} {inst : Inst} {m : Marks}

theorem explore_nil : explore code fuel seen [] = none := by
  cases fuel <;> rfl

theorem explore_seen (h : seen.contains (t.key code.size) = true) :
    explore code (fuel + 1) seen (t :: rest) = explore code fuel seen rest := by
  rw [explore, if_pos h]

theorem explore_step (h : seen.contains (t.key code.size) = false) (hc : code[t.pc]? = some inst)
    (hd : inst ≠ .done) : explore code (fuel + 1) seen (t :: rest) =
      explore code fuel (seen.insert (t.key code.size)) (t.advance inst ++ rest) := by
  rw [explore, if_neg (Bool.eq_false_iff.mp h), hc]
  cases inst with
  | done => exact absurd rfl hd
  | set | look | mark | fork => rfl

theorem explore_mark (h : seen.contains (t.key code.size) = false)
    (hc : code[t.pc]? = some (.mark slot next)) : explore code (fuel + 1) seen (t :: rest) =
      explore code fuel (seen.insert (t.key code.size))
        (⟨next, t.cursor, (slot, t.cursor.offset) :: t.marks⟩ :: rest) :=
  explore_step h hc nofun

theorem explore_look {l : Look} (h : seen.contains (t.key code.size) = false)
    (hc : code[t.pc]? = some (.look l next))
    (hl : l.holds t.cursor.before t.cursor.rest.head? = true) :
    explore code (fuel + 1) seen (t :: rest) =
      explore code fuel (seen.insert (t.key code.size)) (⟨next, t.cursor, t.marks⟩ :: rest) := by
  rw [explore_step h hc nofun, Thread.advance, if_pos hl]
  rfl

/-- Nothing was tried at an address of the code or behind it. -/
def Fresh (code : Array Inst) (text : List Char) (exit : Nat) (seen : Std.ExtTreeSet Nat) : Prop :=
  ∀ t : Thread, t.On text → exit ≤ t.pc → t.pc < code.size → seen.contains (t.key code.size) = false

theorem fresh_empty : Fresh code text exit ∅ := fun _ _ _ _ => Std.ExtTreeSet.contains_empty

theorem Fresh.mono (h : Fresh code text exit seen) (hle : exit ≤ exit') :
    Fresh code text exit' seen :=
  fun t ht hpc => h t ht (hle.trans hpc)

theorem Fresh.insert (h : Fresh code text exit seen) (ht : t.On text) (hpc : t.pc < code.size)
    (hlt : t.pc < exit) : Fresh code text exit (seen.insert (t.key code.size)) := by
  intro u hu hle hupc
  rw [Bool.eq_false_iff, ne_eq, contains_insert_iff, h u hu hle hupc]
  rintro (hkey | hseen)
  · have heq := (Thread.key_inj hu ht hupc hpc hkey).1
    omega
  · cases hseen

/-- At a last mark the search is over, unless it runs out of fuel. -/
theorem explore_finish (hmark : code[exit]? = some (.mark slot (exit + 1)))
    (hdone : code[exit + 1]? = some .done) (hfresh : Fresh code text exit seen) (ht : t.On text)
    (hpc : t.pc = exit) : explore code fuel seen (t :: rest) =
      if 2 ≤ fuel then some ((slot, t.cursor.offset) :: t.marks) else none := by
  have hsize : exit < code.size := (Array.getElem?_eq_some_iff.mp hmark).1
  have hsize' : exit + 1 < code.size := (Array.getElem?_eq_some_iff.mp hdone).1
  subst hpc
  match fuel with
  | 0 => rfl
  | 1 =>
    rw [explore_mark (hfresh t ht (Nat.le_refl _) hsize) hmark]
    rfl
  | fuel + 2 =>
    let u : Thread := ⟨t.pc + 1, t.cursor, (slot, t.cursor.offset) :: t.marks⟩
    have hnew : (seen.insert (t.key code.size)).contains (u.key code.size) = false :=
      (hfresh.mono (Nat.le_succ _)).insert ht hsize (Nat.lt_succ_self _) u ht (Nat.le_refl _) hsize'
    rw [explore_mark (hfresh t ht (Nat.le_refl _) hsize) hmark, explore,
      if_neg (Bool.eq_false_iff.mp hnew), hdone]
    exact (if_pos (Nat.le_add_left 2 fuel)).symm

end Steps

/-- Threads that stand at one position with the same marks, before related instructions. -/
structure Thread.Alike (ρ : Nat → Nat → Prop) (t t' : Thread) : Prop where
  pc : ρ t.pc t'.pc
  cursor : t'.cursor = t.cursor
  marks : t'.marks = t.marks

/-- Related addresses hold instructions that are alike, up to an exit. -/
structure Lockstep (code code' : Array Inst) (ρ : Nat → Nat → Prop) (exit exit' : Nat) : Prop where
  inj : ∀ {p p' q q'}, ρ p p' → ρ q q' → (p = q ↔ p' = q')
  step : ∀ {p p'}, ρ p p' → (p = exit ∧ p' = exit') ∨ (p < exit ∧ p' < exit' ∧
    ∃ inst inst', code[p]? = some inst ∧ code'[p']? = some inst' ∧ inst.Alike ρ inst')

/-- Two searches have tried the same up to the exits, and nothing from there on. -/
structure Abreast (code code' : Array Inst) (ρ : Nat → Nat → Prop) (exit exit' : Nat)
    (text : List Char) (seen seen' : Std.ExtTreeSet Nat) : Prop where
  same : ∀ t t' : Thread, t.Alike ρ t' → t.On text → t.pc < exit →
    seen.contains (t.key code.size) = seen'.contains (t'.key code'.size)
  fresh : Fresh code text exit seen
  fresh' : Fresh code' text exit' seen'

section Search

variable {code code' : Array Inst} {ρ : Nat → Nat → Prop} {exit exit' fuel fuel' : Nat}
  {text : List Char} {seen seen' : Std.ExtTreeSet Nat} {t t' : Thread} {inst inst' : Inst}
  {front front' rest : List Thread} {m : Marks}

theorem Thread.Alike.on (h : t.Alike ρ t') (ht : t.On text) : t'.On text := by
  rw [Thread.On, h.cursor]
  exact ht

theorem Inst.Alike.ne_done (h : inst.Alike ρ inst') : inst ≠ .done ∧ inst' ≠ .done := by
  cases h <;> exact ⟨nofun, nofun⟩

/-- Instructions that are alike lead to threads that are. -/
theorem Inst.Alike.advance (h : inst.Alike ρ inst') (ht : t.Alike ρ t') :
    List.Forall₂ (Thread.Alike ρ) (t.advance inst) (t'.advance inst') := by
  obtain ⟨pc, cur, marks⟩ := t
  obtain ⟨pc', cur', marks'⟩ := t'
  obtain ⟨hpc, rfl, rfl⟩ := ht
  cases h with
  | set s hnext =>
    simp only [Thread.advance]
    cases cur'.next? with
    | none => exact .nil
    | some found =>
      dsimp only
      split
      · exact .cons ⟨hnext, rfl, rfl⟩ .nil
      · exact .nil
  | look l hnext =>
    simp only [Thread.advance]
    split
    · exact .cons ⟨hnext, rfl, rfl⟩ .nil
    · exact .nil
  | mark slot hnext => exact .cons ⟨hnext, rfl, rfl⟩ .nil
  | fork hfirst hsecond => exact .cons ⟨hfirst, rfl, rfl⟩ (.cons ⟨hsecond, rfl, rfl⟩ .nil)

/-- Threads before the exits have the same key in the one program if they have in the other. -/
theorem Lockstep.key_iff (h : Lockstep code code' ρ exit exit') {u u' : Thread}
    (ht : t.Alike ρ t') (hu : u.Alike ρ u') (hont : t.On text) (honu : u.On text)
    (htpc : t.pc < exit) (hupc : u.pc < exit) :
    t.key code.size = u.key code.size ↔ t'.key code'.size = u'.key code'.size := by
  have hsize {v v' : Thread} (hv : v.Alike ρ v') (hpc : v.pc < exit) :
      v.pc < code.size ∧ v'.pc < code'.size := by
    rcases h.step hv.pc with ⟨hexit, -⟩ | ⟨-, -, _, _, hc, hc', -⟩
    · omega
    · exact ⟨(Array.getElem?_eq_some_iff.mp hc).1, (Array.getElem?_eq_some_iff.mp hc').1⟩
  obtain ⟨htsize, htsize'⟩ := hsize ht htpc
  obtain ⟨husize, husize'⟩ := hsize hu hupc
  constructor
  · intro hkey
    obtain ⟨hpc, hcur⟩ := Thread.key_inj hont honu htsize husize hkey
    exact Thread.key_congr ((h.inj ht.pc hu.pc).mp hpc) (by rw [ht.cursor, hu.cursor, hcur])
  · intro hkey
    obtain ⟨hpc, hcur⟩ := Thread.key_inj (ht.on hont) (hu.on honu) htsize' husize' hkey
    exact Thread.key_congr ((h.inj ht.pc hu.pc).mpr hpc) (by rw [← ht.cursor, ← hu.cursor, hcur])

theorem Abreast.insert (h : Abreast code code' ρ exit exit' text seen seen')
    (hstep : Lockstep code code' ρ exit exit') (ht : t.Alike ρ t') (hon : t.On text)
    (hpc : t.pc < exit) : Abreast code code' ρ exit exit' text (seen.insert (t.key code.size))
      (seen'.insert (t'.key code'.size)) := by
  rcases hstep.step ht.pc with ⟨hexit, -⟩ | ⟨-, hpc', _, _, hc, hc', -⟩
  · omega
  refine ⟨fun u u' hu honu hupc => ?_, ?_, ?_⟩
  · rw [Bool.eq_iff_iff, contains_insert_iff, contains_insert_iff, h.same u u' hu honu hupc,
      hstep.key_iff hu ht honu hon hupc hpc]
  · exact h.fresh.insert hon (Array.getElem?_eq_some_iff.mp hc).1 hpc
  · exact h.fresh'.insert (ht.on hon) (Array.getElem?_eq_some_iff.mp hc').1 hpc'

/-- Two searches go through related threads alike, until these are all tried, or until both are first
at the exit. -/
theorem explore_lockstep (hstep : Lockstep code code' ρ exit exit')
    (hexplore : explore code fuel seen (front ++ rest) = some m) (hfuel : fuel < fuel')
    (hfront : List.Forall₂ (Thread.Alike ρ) front front') (hon : ∀ t ∈ front, t.On text)
    (hseen : Abreast code code' ρ exit exit' text seen seen') (rest' : List Thread) :
    (∃ k k' s s', explore code k s rest = some m ∧
      explore code' fuel' seen' (front' ++ rest') = explore code' k' s' rest') ∨
    ∃ k k' s s' t t' more more', k < k' ∧ Abreast code code' ρ exit exit' text s s' ∧
      t.Alike ρ t' ∧ t.On text ∧ t.pc = exit ∧ t'.pc = exit' ∧
      explore code k s (t :: more) = some m ∧
      explore code' fuel' seen' (front' ++ rest') = explore code' k' s' (t' :: more') := by
  -- one step of each search is taken at a time; what both have tried stays the same up to the exits
  induction fuel generalizing fuel' seen seen' front front' with
  | zero => cases hexplore
  | succ fuel ih =>
    cases hfront with
    | nil => exact Or.inl ⟨fuel + 1, fuel', seen, seen', hexplore, rfl⟩
    | @cons t t' front front' ht hfront =>
      rw [List.forall_mem_cons] at hon
      obtain ⟨fuel', rfl⟩ := Nat.exists_eq_add_one_of_ne_zero (Nat.ne_zero_of_lt hfuel)
      have hless : fuel < fuel' := Nat.lt_of_succ_lt_succ hfuel
      rcases hstep.step ht.pc with ⟨hpc, hpc'⟩ | ⟨hpc, -, inst, inst', hc, hc', halike⟩
      · exact Or.inr ⟨fuel + 1, fuel' + 1, seen, seen', t, t', front ++ rest, front' ++ rest', hfuel,
          hseen, ht, hon.1, hpc, hpc', hexplore, rfl⟩
      · -- whether the place was tried before is the same for both
        have hsame := hseen.same t t' ht hon.1 hpc
        rw [List.cons_append] at hexplore ⊢
        cases hcontains : seen.contains (t.key code.size) with
        | true =>
          rw [explore_seen hcontains] at hexplore
          rw [explore_seen (hsame ▸ hcontains)]
          exact ih hexplore hless hfront hon.2 hseen
        | false =>
          obtain ⟨hdone, hdone'⟩ := halike.ne_done
          rw [explore_step hcontains hc hdone, ← List.append_assoc] at hexplore
          rw [explore_step (hsame ▸ hcontains) hc' hdone', ← List.append_assoc]
          refine ih hexplore hless (List.rel_append (halike.advance ht) hfront) ?_
            (hseen.insert hstep ht hon.1 hpc)
          rw [List.forall_mem_append]
          exact ⟨fun u hu => hon.1.advance hu, hon.2⟩

end Search

/-- Addresses at one distance from two places, in a stretch and right behind it. -/
def Displaced (base base' size p p' : Nat) : Prop := ∃ i ≤ size, p = base + i ∧ p' = base' + i

section Placed

variable {code code' : Array Inst} {base base' next next' : Nat} {text : List Char}
  {seen seen' : Std.ExtTreeSet Nat} {f g : Fragment}

/-- A fragment with as many instructions as it has addresses. -/
def Fragment.Sized (f : Fragment) : Prop := ∀ base next, (f.build base next).2.length = f.size

theorem Fragment.sized_one (inst : Nat → Inst) : (one inst).Sized := fun _ _ => rfl

theorem Fragment.Sized.seq (hf : f.Sized) (hg : g.Sized) : (f.seq g).Sized := by
  intro base next
  simp only [Fragment.seq, List.length_append, hf base, hg (base + f.size)]

theorem holds_seq (hf : f.Sized) : Holds code base ((f.seq g).build base next).2 ↔
    Holds code base (f.build base (g.build (base + f.size) next).1).2 ∧
      Holds code (base + f.size) (g.build (base + f.size) next).2 := by
  rw [Fragment.seq, holds_append, hf]

theorem holds_one {inst : Nat → Inst} :
    Holds code base ((Fragment.one inst).build base next).2 ↔ code[base]? = some (inst next) := by
  have hnil : Holds code (base + 1) [] := nofun
  exact holds_cons.trans (and_iff_left hnil)

/-- A fragment that is left for the instruction behind it, at two places. -/
theorem lockstep_of_holds (hf : f.Uniform) (hsized : f.Sized) (hnext : next = base + f.size)
    (hnext' : next' = base' + f.size) (hc : Holds code base (f.build base next).2)
    (hc' : Holds code' base' (f.build base' next').2) :
    Lockstep code code' (Displaced base base' f.size) next next' ∧
      Displaced base base' f.size (f.build base next).1 (f.build base' next').1 := by
  obtain ⟨hentry, hinsts⟩ := hf (Displaced base base' f.size) base base' next next'
    (fun i hi => ⟨i, Nat.le_of_lt hi, rfl, rfl⟩) ⟨f.size, Nat.le_refl _, hnext, hnext'⟩
  refine ⟨⟨?_, ?_⟩, hentry⟩
  · rintro _ _ _ _ ⟨i, -, rfl, rfl⟩ ⟨j, -, rfl, rfl⟩
    omega
  · rintro _ _ ⟨i, hi, rfl, rfl⟩
    rcases Nat.lt_or_eq_of_le hi with hi | rfl
    · have hget := hsized base next ▸ hi
      have hget' := hsized base' next' ▸ hi
      exact Or.inr ⟨by omega, by omega, _, _, hc i _ (List.getElem?_eq_getElem hget),
        hc' i _ (List.getElem?_eq_getElem hget'), hinsts.get hget hget'⟩
    · exact Or.inl ⟨hnext.symm, hnext'.symm⟩

/-- Where nothing was tried in a fragment, the searches have it before them alike. -/
theorem abreast_of_fresh {size : Nat} (h : Lockstep code code' (Displaced base base' size) next next')
    (hle : base ≤ next) (hle' : base' ≤ next') (hfresh : Fresh code text base seen)
    (hfresh' : Fresh code' text base' seen') :
    Abreast code code' (Displaced base base' size) next next' text seen seen' := by
  refine ⟨fun t t' ht hon hpc => ?_, hfresh.mono hle, hfresh'.mono hle'⟩
  rcases h.step ht.pc with ⟨hexit, -⟩ | ⟨-, -, _, _, hc, hc', -⟩
  · omega
  · obtain ⟨i, -, hp, hp'⟩ := ht.pc
    rw [hfresh t hon (by omega) (Array.getElem?_eq_some_iff.mp hc).1,
      hfresh' t' (ht.on hon) (by omega) (Array.getElem?_eq_some_iff.mp hc').1]

end Placed

section Anchored

variable {t u : Term} {text : List Char} {m : Marks}

theorem Term.fragment_sized (t : Term) : t.fragment.Sized := t.fragment_realizes.length

/-- A term that matches wherever another one does has a match in a text if that one has. -/
theorem Term.exists_run_of_runs (hruns : ∀ x y, t.Runs x y → u.Runs x y)
    (hm : t.program.run text = some m) : ∃ m', u.program.run text = some m' := by
  obtain ⟨start, stop, hon, y, hr, -⟩ := (run_program t text).1 m hm
  exact Option.isSome_iff_exists.mp (run_program_isSome (t := u) hon ⟨y, hruns _ _ hr, rfl⟩)

/-- The parts of a program, if group 0 is put together of two. -/
theorem Term.holds_program_seq {f rest : Fragment} (h : t.fragment.group 0 = f.seq rest)
    (hf : f.Sized) :
    Holds t.program.code 0 (f.build 0 (rest.build f.size (f.size + rest.size)).1).2 ∧
      Holds t.program.code f.size (rest.build f.size (f.size + rest.size)).2 ∧
      t.program.code[f.size + rest.size]? = some .done ∧
      t.program.start = (f.build 0 (rest.build f.size (f.size + rest.size)).1).1 ∧
      t.program.code.size = f.size + rest.size + 1 := by
  have hsize : (t.fragment.group 0).size = f.size + rest.size := congrArg Fragment.size h
  have hlen : ((t.fragment.group 0).build 0 (t.fragment.group 0).size).2.length =
      (t.fragment.group 0).size := (Term.group 0 t).fragment_sized 0 _
  obtain ⟨hbody, hdone⟩ := t.holds_program
  have hstart : t.program.start = ((t.fragment.group 0).build 0 (t.fragment.group 0).size).1 := rfl
  have hcode : t.program.code.size = (t.fragment.group 0).size + 1 := by
    rw [Term.program, List.size_toArray, List.length_append, hlen]
    rfl
  rw [hsize] at hbody hdone hcode hstart
  rw [h] at hbody hstart
  obtain ⟨hfirst, hsecond⟩ := (holds_seq hf).mp hbody
  rw [Nat.zero_add] at hfirst hsecond
  refine ⟨hfirst, hsecond, hdone, ?_, hcode⟩
  rw [hstart]
  exact congrArg (fun base => (f.build 0 (rest.build base _).1).1) (Nat.zero_add f.size)

/-- The programs of a term with an anchor behind it and without: they go apart where the term is left. -/
theorem Term.lockstep_textStop (h : t.fragment = u.fragment.seq (.one (.look .textStop))) :
    ∃ exit, Lockstep u.program.code t.program.code (Displaced 0 0 exit) exit exit ∧
      Displaced 0 0 exit u.program.start t.program.start ∧
      u.program.code[exit]? = some (.mark (2 * 0 + 1) (exit + 1)) ∧
      u.program.code[exit + 1]? = some .done ∧
      t.program.code[exit]? = some (.look .textStop (exit + 1)) ∧
      t.program.code[exit + 1]? = some (.mark (2 * 0 + 1) (exit + 2)) ∧
      t.program.code[exit + 2]? = some .done ∧ u.program.code.size < t.program.code.size := by
  let f := (Fragment.one (.mark (2 * 0))).seq u.fragment
  let close := Fragment.one (.mark (2 * 0 + 1))
  let look := Fragment.one (.look .textStop)
  have hsized : f.Sized := (Fragment.sized_one _).seq u.fragment_sized
  have huniform : f.Uniform := (Fragment.uniform_mark _).seq u.fragment_uniform
  have hgroup : u.fragment.group 0 = f.seq close := Fragment.seq_assoc.symm
  have hgroup' : t.fragment.group 0 = f.seq (look.seq close) := by
    rw [h, Fragment.group, Fragment.seq_assoc, ← Fragment.seq_assoc]
  obtain ⟨hcode, hclose, hdone, hstart, hsize⟩ := holds_program_seq hgroup hsized
  obtain ⟨hcode', hrest, hdone', hstart', hsize'⟩ := holds_program_seq hgroup' hsized
  obtain ⟨hlook, hclose'⟩ := (holds_seq (Fragment.sized_one _)).mp hrest
  obtain ⟨hstep, hentry⟩ := lockstep_of_holds huniform hsized (Nat.zero_add _).symm
    (Nat.zero_add _).symm hcode hcode'
  refine ⟨f.size, hstep, ?_, holds_one.mp hclose, hdone, holds_one.mp hlook, holds_one.mp hclose',
    hdone', ?_⟩
  · rw [hstart, hstart']
    exact hentry
  · rw [hsize, hsize']
    exact Nat.lt_succ_self _

/-- The programs of a term with an anchor in front of it and without: they go abreast behind the
anchor. -/
theorem Term.lockstep_textStart (h : t.fragment = (Fragment.one (.look .textStart)).seq u.fragment) :
    ∃ size entry entry', Lockstep u.program.code t.program.code (Displaced 1 2 size) (1 + size)
        (2 + size) ∧ Displaced 1 2 size entry entry' ∧ u.program.start = 0 ∧ t.program.start = 0 ∧
      u.program.code[0]? = some (.mark (2 * 0) entry) ∧
      t.program.code[0]? = some (.mark (2 * 0) 1) ∧
      t.program.code[1]? = some (.look .textStart entry') ∧
      u.program.code[1 + size]? = some (.mark (2 * 0 + 1) (1 + size + 1)) ∧
      u.program.code[1 + size + 1]? = some .done ∧
      t.program.code[2 + size]? = some (.mark (2 * 0 + 1) (2 + size + 1)) ∧
      t.program.code[2 + size + 1]? = some .done ∧ u.program.code.size < t.program.code.size := by
  let first := Fragment.one (.mark (2 * 0))
  let close := Fragment.one (.mark (2 * 0 + 1))
  let look := Fragment.one (.look .textStart)
  have hsized : (first.seq look).Sized := (Fragment.sized_one _).seq (Fragment.sized_one _)
  have hgroup : u.fragment.group 0 = first.seq (u.fragment.seq close) := rfl
  have hgroup' : t.fragment.group 0 = (first.seq look).seq (u.fragment.seq close) := by
    rw [h, Fragment.group, Fragment.seq_assoc, Fragment.seq_assoc]
  obtain ⟨hfirst, hrest, hdone, hstart, hsize⟩ := holds_program_seq hgroup (Fragment.sized_one _)
  obtain ⟨hlooks, hrest', hdone', hstart', hsize'⟩ := holds_program_seq hgroup' hsized
  obtain ⟨hfirst', hlook⟩ := (holds_seq (Fragment.sized_one _)).mp hlooks
  obtain ⟨hcode, hclose⟩ := (holds_seq u.fragment_sized).mp hrest
  obtain ⟨hcode', hclose'⟩ := (holds_seq u.fragment_sized).mp hrest'
  obtain ⟨hstep, hentry⟩ := lockstep_of_holds u.fragment_uniform u.fragment_sized rfl rfl hcode hcode'
  refine ⟨u.fragment.size, _, _, hstep, hentry, hstart, hstart', holds_one.mp hfirst,
    holds_one.mp hfirst', holds_one.mp hlook, holds_one.mp hclose, hdone, holds_one.mp hclose', hdone',
    ?_⟩
  rw [hsize, hsize']
  exact Nat.succ_lt_succ (Nat.add_lt_add_right Nat.one_lt_two _)

/-- The search of a program begins at the first position, behind the mark of the start, and goes on to
the others. -/
theorem Program.exists_run_eq {p : Program} {entry : Nat} (text : List Char) (hstart : p.start = 0)
    (hopen : p.code[0]? = some (.mark (2 * 0) entry)) :
    ∃ seen, Fresh p.code text 1 seen ∧
      p.run text = explore p.code ((text.length + 1) * (2 * p.code.size + 1)) seen
        (.of entry (.ofText text, [(2 * 0, 0)]) ::
          (List.range' 1 text.length).map fun k => .of 0 (.nth text k, [])) := by
  let first : Thread := .of 0 (.ofText text, [])
  have hwalk : (Cursor.walk none 0 text).map (fun cursor => (⟨0, cursor, []⟩ : Thread)) =
      first :: (List.range' 1 text.length).map fun k => .of 0 (.nth text k, []) := by
    rw [Cursor.walk_eq_range, List.map_map, List.range'_succ, List.map_cons]
    rfl
  have hon : first.On text := ⟨0, Nat.zero_le _, rfl⟩
  have hsize : first.pc < p.code.size := (Array.getElem?_eq_some_iff.mp hopen).1
  refine ⟨_, fresh_empty.insert hon hsize Nat.one_pos, ?_⟩
  rw [Program.run, hstart, hwalk, List.length_cons, List.length_map, List.length_range',
    explore_mark Std.ExtTreeSet.contains_empty hopen]
  rfl

theorem Cursor.On.holds_textStop {cur : Cursor} (h : cur.On text) (hend : cur.offset = text.length) :
    Look.textStop.holds cur.before cur.rest.head? = true := by
  rw [h.eq_nth.2, hend]
  change (text.drop text.length).head?.isNone = true
  rw [List.drop_length]
  rfl

/-- Without an anchor at its end a term matches the same, or a text that goes on behind the match. -/
theorem Term.run_of_textStop
    (hfragment : t.fragment = u.fragment.seq (.one (.look .textStop)))
    (hruns : ∀ x y, t.Runs x y → u.Runs x y) (hm : t.program.run text = some m) :
    ∃ m', u.program.run text = some m' ∧
      ((Captures.mk text m').span? 0 = some (0, text.length) → m' = m) := by
  obtain ⟨exit, hstep, hentry, hclose, hdone, hlook, hclose', hdone', hsize⟩ :=
    lockstep_textStop hfragment
  obtain ⟨m', hm'⟩ := exists_run_of_runs hruns hm
  refine ⟨m', hm', fun hspan => ?_⟩
  have hfuel : (Cursor.walk none 0 text).length * (2 * u.program.code.size + 1) + 1 <
      (Cursor.walk none 0 text).length * (2 * t.program.code.size + 1) + 1 := by
    rw [Cursor.length_walk]
    exact Nat.succ_lt_succ (Nat.mul_lt_mul_of_pos_left (by omega) (Nat.succ_pos _))
  rw [Program.run, List.length_map, ← List.append_nil (List.map _ _)] at hm hm'
  have hfront : List.Forall₂ (Thread.Alike (Displaced 0 0 exit))
      ((Cursor.walk none 0 text).map fun cursor => (⟨u.program.start, cursor, []⟩ : Thread))
      ((Cursor.walk none 0 text).map fun cursor => (⟨t.program.start, cursor, []⟩ : Thread)) := by
    rw [List.forall₂_map_left_iff, List.forall₂_map_right_iff, List.forall₂_same]
    exact fun _ _ => ⟨hentry, rfl, rfl⟩
  have hon : ∀ v ∈ (Cursor.walk none 0 text).map
      fun cursor => (⟨u.program.start, cursor, []⟩ : Thread), v.On text := by
    rw [List.forall_mem_map]
    exact fun cur hcur => Cursor.mem_walk_iff.mp hcur
  rcases explore_lockstep hstep hm' hfuel hfront hon
    (abreast_of_fresh hstep (Nat.zero_le _) (Nat.zero_le _) fresh_empty fresh_empty) [] with
    ⟨k, -, s, -, hnone, -⟩ |
    ⟨k, k', s, s', v, v', more, more', hless, hseen, hv, honv, hpc, hpc', hleft, hleft'⟩
  · rw [explore_nil] at hnone
    cases hnone
  · rw [explore_finish hclose hdone hseen.fresh honv hpc] at hleft
    rw [hm] at hleft'
    split_ifs at hleft with htwo
    obtain rfl := Option.some.inj hleft
    -- the last mark is the end of the text, where the anchor holds
    have hend : v.cursor.offset = text.length := by
      obtain ⟨first, -, hspan⟩ := Option.bind_eq_some_iff.mp hspan
      obtain ⟨last, hlast, hspan⟩ := Option.bind_eq_some_iff.mp hspan
      obtain rfl : v.cursor.offset = last :=
        Option.some.inj (List.lookup_cons_self.symm.trans hlast)
      exact (Prod.mk.inj (Option.some.inj hspan)).2
    have honv' : v'.On text := hv.on honv
    have hholds : Look.textStop.holds v'.cursor.before v'.cursor.rest.head? = true :=
      Cursor.On.holds_textStop honv' (hv.cursor ▸ hend)
    have hlook' : t.program.code[v'.pc]? = some (.look .textStop (exit + 1)) := hpc' ▸ hlook
    have hsize' : v'.pc < t.program.code.size := (Array.getElem?_eq_some_iff.mp hlook').1
    have hfresh : Fresh t.program.code text (exit + 1) (s'.insert (v'.key t.program.code.size)) :=
      (hseen.fresh'.mono (Nat.le_succ _)).insert honv' hsize' (hpc' ▸ Nat.lt_succ_self exit)
    obtain ⟨k', rfl⟩ := Nat.exists_eq_add_one_of_ne_zero (Nat.ne_zero_of_lt hless)
    rw [explore_look (hseen.fresh' v' honv' (Nat.le_of_eq hpc'.symm) hsize') hlook' hholds,
      explore_finish (t := ⟨exit + 1, v'.cursor, v'.marks⟩) hclose' hdone' hfresh honv' rfl,
      if_pos (by omega), hv.cursor, hv.marks] at hleft'
    exact (Option.some.inj hleft').symm

/-- Without an anchor at its start a term that matches from there on matches the same. -/
theorem Term.run_of_textStart
    (hfragment : t.fragment = (Fragment.one (.look .textStart)).seq u.fragment)
    (hruns : ∀ x y, t.Runs x y → x.1.before = none ∧ u.Runs x y)
    (hm : t.program.run text = some m) : u.program.run text = some m := by
  obtain ⟨size, entry, entry', hstep, hentry, hstart, hstart', hopen, hopen', hlook, hclose, hdone,
    hclose', hdone', hsize⟩ := lockstep_textStart hfragment
  obtain ⟨m', hm'⟩ := exists_run_of_runs (fun x y hr => (hruns x y hr).2) hm
  rw [hm']
  -- both searches begin at the first position, the one behind the anchor
  let x : Spot := (.ofText text, [(2 * 0, 0)])
  have hzero : x.1.On text := ⟨0, Nat.zero_le _, rfl⟩
  obtain ⟨seen, hfresh, hrun⟩ := Program.exists_run_eq text hstart hopen
  obtain ⟨seen', hfresh', hrun'⟩ := Program.exists_run_eq text hstart' hopen'
  have hcode : 1 < t.program.code.size := (Array.getElem?_eq_some_iff.mp hlook).1
  have hbehind := (hfresh'.mono (Nat.le_succ 1)).insert (t := .of 1 x) hzero hcode (Nat.lt_succ_self 1)
  have hfuel : (text.length + 1) * (2 * u.program.code.size + 1) + (text.length + 1) * 2 ≤
      (text.length + 1) * (2 * t.program.code.size + 1) := by
    rw [← Nat.mul_add]
    exact Nat.mul_le_mul_left _ (by omega)
  obtain ⟨fuel', hfuel'⟩ := Nat.exists_eq_add_one_of_ne_zero
    (n := (text.length + 1) * (2 * t.program.code.size + 1)) (by omega)
  have hless : (text.length + 1) * (2 * u.program.code.size + 1) < fuel' := by omega
  rw [hrun] at hm'
  rw [hrun', hfuel', explore_look (t := .of 1 x) (hfresh' (.of 1 x) hzero (Nat.le_refl 1) hcode) hlook
    rfl] at hm
  have hfront : List.Forall₂ (Thread.Alike (Displaced 1 2 size)) [.of entry x] [.of entry' x] :=
    .cons ⟨hentry, rfl, rfl⟩ .nil
  rcases explore_lockstep hstep hm' hless hfront (List.forall_mem_singleton.mpr hzero)
    (abreast_of_fresh hstep (Nat.le_add_right 1 _) (Nat.le_add_right 2 _) hfresh hbehind)
    ((List.range' 1 text.length).map fun k => .of 0 (.nth text k, [])) with
    ⟨k, k', s, s', -, hothers⟩ |
    ⟨k, k', s, s', v, v', more, more', hless, hseen, hv, honv, hpc, hpc', hleft, hleft'⟩
  · -- at the other positions the anchor does not hold
    obtain ⟨w, hw, hends⟩ := exists_ends_of_explore (hothers.symm.trans hm)
    obtain ⟨i, hi, rfl⟩ := List.mem_map.mp hw
    obtain ⟨hpos, hle⟩ := List.mem_range'_1.mp hi
    rw [← hstart'] at hends
    obtain ⟨cur, z, hz, -⟩ := t.ends_program_iff.mp hends
    have hon : (Cursor.nth text i).On text := ⟨i, by omega, rfl⟩
    have hfirst : i = 0 := congrArg Cursor.offset (hon.eq_start (hruns _ _ hz).1)
    omega
  · rw [explore_finish hclose hdone hseen.fresh honv hpc] at hleft
    split_ifs at hleft with htwo
    have hend := hleft'.symm.trans hm
    rw [explore_finish hclose' hdone' hseen.fresh' (hv.on honv) hpc', if_pos (by omega), hv.cursor,
      hv.marks] at hend
    exact hleft.symm.trans hend

end Anchored

end RoutePattern.Regex
