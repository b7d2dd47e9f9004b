import RoutePattern.Proofs.Query.Course

/-! What holds of every state that the search comes through. It follows that the search finds whatever it
looks up, and takes back no more than was counted. -/
namespace RoutePattern.Query

open Assignment (make initial fallBack?)

variable {rules : List Taker} {values : List String} {st : Assignment.State}

/-- What holds of every state of the search: how the values that were taken, their numbers, the checkpoints
and the restarts go together. -/
structure Invariant (rules : List Taker) (values : List String) (st : Assignment.State) : Prop where
  value_le : st.value ≤ (candidates rules values).length
  taken : st.taken.toList.map (·.2) = (candidates rules values).take st.value
  ordered : st.taken.toList.Pairwise fun s t => s.1 ≤ t.1
  rule_le : ∀ t ∈ st.taken.toList, t.1 ≤ st.rule
  counts_length : st.counts.length = rules.length
  count : ∀ r, st.count r = st.taken.toList.countP (·.1 = r)
  count_later : ∀ r, st.rule < r → st.count r = 0
  stands : ∀ c ∈ st.checkpoints, c.Stands st.taken.toList
  -- the latest checkpoint and the latest restart come first
  falling : st.checkpoints.Pairwise fun c d => d.taken < c.taken
  depths : st.restarts.Pairwise fun r s => s.2 ≤ r.2

theorem Sound.invariant {k : Nat} {trail : List Nat} {tried : Finset Restart}
    (h : Sound rules values st k trail tried) : Invariant rules values st := by
  have hrule : ∀ t ∈ st.taken.toList, t.1 ≤ st.rule := by
    intro t ht
    rw [h.taken] at ht
    rw [h.rule]
    exact Nat.le_of_lt_succ (Trail.rule_lt_of_mem_taken ht)
  refine ⟨?_, ?_, ?_, hrule, h.counts_length, h.count, fun r hr => ?_, fun c hc => ?_, ?_,
    h.recorded.sorted⟩
  · rw [h.value]
    exact h.value_le
  · rw [h.taken, Trail.map_snd_taken, h.value]
  · rw [h.taken]
    exact Trail.pairwise_taken
  · rw [h.count, List.countP_eq_zero]
    intro t ht hown
    exact absurd (hrule t ht) (Nat.not_le_of_lt (of_decide_eq_true hown ▸ hr))
  · rw [h.taken]
    rw [h.checkpoints] at hc
    exact Trail.stands_of_mem_stops hc h.value_le
  · rw [h.checkpoints]
    exact Trail.pairwise_stops

/-- Values are taken by rules that there are. -/
theorem Invariant.lt_of_mem (h : Invariant rules values st) {t : Nat × Nat} (ht : t ∈ st.taken.toList) :
    t.1 < rules.length := by
  have hpos : 0 < st.count t.1 := by
    rw [h.count]
    exact List.countP_pos_iff.mpr ⟨t, ht, decide_eq_true rfl⟩
  rw [← h.counts_length]
  by_contra hbeyond
  rw [Assignment.State.count, List.getD_eq_getElem?_getD,
    List.getElem?_eq_none (Nat.le_of_not_lt hbeyond)] at hpos
  exact absurd hpos (Nat.lt_irrefl 0)

/-! The search once more, step by step on the rules and the values. Whatever is looked up must be there,
and what is taken back must have been counted; otherwise there is no result. -/
namespace Checked

/-- The indexes of the values that some rule accepts. -/
def candidates (rules : List Taker) (values : List String) : Option (List Nat) :=
  (List.range values.length).foldlM
    (fun found i => values[i]?.map fun value =>
      if rules.any (·.accepts value) then found ++ [i] else found) []

/-- The index of the next value if the rule, which has taken `count` values, can take it. -/
def next (values : List String) (found : List Nat) (st : Assignment.State) (rule : Taker) (count : Nat) :
    Option (Option Nat) :=
  match found[st.value]? with
  | none => some none
  | some i =>
    if count = 0 || rule.multiple then
      values[i]?.map fun value => if rule.accepts value then some i else none
    else some none

/-- One value less for a rule. -/
def release (counts : List Nat) (rule : Nat) : Option (List Nat) :=
  match counts[rule]? with
  | some (count + 1) => some (counts.set rule count)
  | _ => none

/-- Starts again from a checkpoint, with the rule behind it. -/
def restart (st : Assignment.State) : Option Assignment.Outcome :=
  match fallBack? st.failed st.restarts st.checkpoints.length st.checkpoints with
  | none => some .none
  | some (c, checkpoints, failed, restarts) =>
    if st.taken.size < c.taken then none
    else do
      let counts ← (st.taken.toList.drop c.taken).foldlM (fun counts t => release counts t.1) st.counts
      let start : Restart := ⟨c.rule + 1, c.value⟩
      return .more
        { st with
          rule := start.rule, value := start.value, taken := st.taken.take c.taken, counts, checkpoints,
          failed, restarts := (start, checkpoints.length) :: restarts }

/-- One step of the search. -/
def step (rules : List Taker) (values : List String) (found : List Nat) (st : Assignment.State) :
    Option Assignment.Outcome :=
  match rules[st.rule]? with
  | none => some (.assigned st.taken)
  | some rule => do
    let count ← st.counts[st.rule]?
    match ← next values found st rule count with
    | some i => return .more (Assignment.take st i)
    | none =>
      if 0 < count || !rule.required then return .more { st with rule := st.rule + 1 }
      else restart st

/-- Runs the search for a number of steps. -/
def run (rules : List Taker) (values : List String) (found : List Nat) :
    Nat → Assignment.State → Option (Option (Array (Nat × Nat)))
  | 0, _ => some none
  | fuel + 1, st => do
    match ← step rules values found st with
    | .more st => run rules values found fuel st
    | .assigned taken => return some taken
    | .none => return none

/-- Adds a value to what its rule takes. -/
def handOut (runs : List (List Nat)) (t : Nat × Nat) : Option (List (List Nat)) :=
  if t.1 < runs.length then some (runs.modify t.1 (· ++ [t.2])) else none

/-- The indexes of the values that each rule takes. -/
def assign (rules : List Taker) (values : List String) : Option (Option (List (List Nat))) := do
  let found ← candidates rules values
  match ← run rules values found (make rules values).enough (initial rules) with
  | none => return none
  | some taken => (taken.toList.foldlM handOut (List.replicate rules.length [])).map some

section Released

variable {counts : List Nat} {ts : List (Nat × Nat)}

theorem release_eq_some {r : Nat} (h : 0 < counts.getD r 0) :
    release counts r = some (counts.modify r (· - 1)) := by
  rw [List.getD_eq_getElem?_getD] at h
  cases hr : counts[r]? with
  | none =>
    rw [hr] at h
    exact absurd h (Nat.lt_irrefl 0)
  | some count =>
    rw [hr] at h
    obtain ⟨n, rfl⟩ : ∃ n, count = n + 1 := ⟨count - 1, (Nat.sub_add_cancel h).symm⟩
    rw [release, hr, List.modify_eq_set_getElem?, hr]
    rfl

/-- Values can be given back if no rule gives back more than it has. -/
theorem foldlM_release (h : ∀ r, ts.countP (·.1 = r) ≤ counts.getD r 0) :
    ts.foldlM (fun counts t => release counts t.1) counts =
      some (ts.foldl (fun counts t => counts.modify t.1 (· - 1)) counts) := by
  induction ts generalizing counts with
  | nil => rfl
  | cons t ts ih =>
    have hrest (r : Nat) : (counts.modify t.1 (· - 1)).getD r 0 =
        counts.getD r 0 - if t.1 = r then 1 else 0 := by
      have hone := getD_foldl_modify counts [t] r
      rw [List.countP_singleton] at hone
      simpa using hone
    simp only [List.countP_cons, decide_eq_true_eq] at h
    -- the rule of the first value has it to give, and after that all still have what the rest needs
    have hown := h t.1
    rw [if_pos rfl] at hown
    rw [List.foldlM_cons, release_eq_some (by omega), List.foldl_cons]
    refine ih fun r => ?_
    have hr := h r
    rw [hrest]
    omega

end Released

/-- A checkpoint to fall back to is one of those that there are. -/
theorem mem_of_fallBack? {failed failed' : Std.ExtTreeSet Restart Restart.order}
    {restarts restarts' : List (Restart × Nat)} {depth : Nat} {checkpoints earlier : List Checkpoint}
    {c : Checkpoint}
    (h : fallBack? failed restarts depth checkpoints = some (c, earlier, failed', restarts')) :
    c ∈ checkpoints := by
  induction checkpoints generalizing failed restarts depth with
  | nil => cases h
  | cons d checkpoints ih =>
    rw [fallBack?] at h
    split at h
    · exact List.mem_cons_of_mem d (ih h)
    · obtain ⟨rfl, -⟩ := Prod.mk.inj (Option.some.inj h)
      exact List.mem_cons_self

end Checked

/-- Falling back leads behind values that were taken and counted. -/
theorem Invariant.checked_restart (h : Invariant rules values st) :
    Checked.restart st = some (Assignment.restart st) := by
  rw [Checked.restart, Assignment.restart]
  cases hf : fallBack? st.failed st.restarts st.checkpoints.length st.checkpoints with
  | none => rfl
  | some found =>
    obtain ⟨c, checkpoints, failed, restarts⟩ := found
    -- the checkpoint stands at a value that was taken, and all that was taken from there on was counted
    obtain ⟨-, ⟨i, hi⟩, -⟩ := h.stands c (Checked.mem_of_fallBack? hf)
    have hinside : ¬ st.taken.size < c.taken := by
      have hlt := (List.getElem?_eq_some_iff.mp hi).1
      rw [Array.length_toList] at hlt
      omega
    have hcounted (r : Nat) : (st.taken.toList.drop c.taken).countP (·.1 = r) ≤ st.counts.getD r 0 := by
      have hcount := h.count r
      rw [Assignment.State.count] at hcount
      rw [hcount]
      exact (List.drop_sublist _ _).countP_le
    have hdrop : (st.taken.drop c.taken).toList = st.taken.toList.drop c.taken := by simp
    dsimp only
    rw [if_neg hinside, Checked.foldlM_release hcounted, Assignment.giveBack, ← Array.foldl_toList, hdrop]
    rfl

/-- The index of a candidate is that of its text. -/
theorem exists_of_getElem?_candidates {v i : Nat} (h : (candidates rules values)[v]? = some i) :
    ∃ value, values[i]? = some value ∧ (texts rules values)[v]? = some value := by
  rw [candidates, List.getElem?_map] at h
  obtain ⟨⟨value, j⟩, hv, rfl⟩ := Option.map_eq_some_iff.mp h
  have hzip : (value, j) ∈ values.zipIdx := (List.mem_filter.mp (List.mem_of_getElem? hv)).1
  refine ⟨value, List.mem_zipIdx_iff_getElem?.mp hzip, ?_⟩
  rw [texts, List.getElem?_map, hv]
  rfl

theorem checked_next (values : List String) (st : Assignment.State) (rule : Taker) :
    Checked.next values (candidates rules values) st rule (st.count st.rule) =
      some (Assignment.next? (make rules values) st (row rules values rule)) := by
  rw [Checked.next, Assignment.next?, make_candidates, row_accepted, List.getElem?_toArray]
  cases hi : (candidates rules values)[st.value]? with
  | none => simp
  | some i =>
    obtain ⟨value, hvalue, htext⟩ := exists_of_getElem?_candidates hi
    have hm : (row rules values rule).multiple = rule.multiple := rfl
    dsimp only
    rw [hvalue, htext, hm]
    by_cases hroom : (st.count st.rule = 0 || rule.multiple) = true
    · simp [hroom]
    · simp [hroom]

/-- In every state of the search a step finds what it looks up. -/
theorem Invariant.checked_step (h : Invariant rules values st) :
    Checked.step rules values (candidates rules values) st =
      some (Assignment.step (make rules values) st) := by
  rw [Checked.step, Assignment.step, make_rules]
  cases hr : rules[st.rule]? with
  | none => rfl
  | some rule =>
    -- there is a count for every rule that there is
    have hlt : st.rule < st.counts.length := by
      rw [h.counts_length]
      exact (List.getElem?_eq_some_iff.mp hr).1
    have hcount : st.counts[st.rule]? = some (st.count st.rule) := by
      rw [Assignment.State.count, List.getD_eq_getElem?_getD, List.getElem?_eq_getElem hlt]
      rfl
    have hrequired : (row rules values rule).required = rule.required := rfl
    rw [Option.map_some]
    dsimp only
    rw [hcount, Option.bind_eq_bind, Option.bind_some, checked_next, Option.bind_eq_bind,
      Option.bind_some, hrequired]
    cases Assignment.next? (make rules values) st (row rules values rule) with
    | some i => rfl
    | none =>
      dsimp only
      split_ifs
      · rfl
      · exact h.checked_restart

theorem checked_run {n : Nat} {log : List Restart}
    (h : (make rules values).Reaches (initial rules) n st log) (fuel : Nat) :
    Checked.run rules values (candidates rules values) fuel st =
      some ((make rules values).run fuel st) := by
  -- each step leads to another state of the search, from which fewer steps are left
  induction fuel generalizing n st log with
  | zero => rfl
  | succ fuel ih =>
    obtain ⟨-, k, trail, hsound, -⟩ := h.sound
    rw [Checked.run, hsound.invariant.checked_step, Assignment.run, Option.bind_eq_bind,
      Option.bind_some]
    cases hstep : (make rules values).step st with
    | none => rfl
    | assigned taken => rfl
    | more st' =>
      obtain ⟨log', hnext⟩ := h.next hstep
      exact ih hnext

/-- Handing out adds to each rule what it took, if only rules that there are took something. -/
theorem foldlM_handOut {n : Nat} {taken : List (Nat × Nat)} (h : ∀ t ∈ taken, t.1 < n)
    (runs : Nat → List Nat) :
    taken.foldlM Checked.handOut ((List.range n).map runs) =
      some ((List.range n).map fun r => runs r ++ (taken.filter (·.1 = r)).map (·.2)) := by
  induction taken generalizing runs with
  | nil => simp
  | cons t taken ih =>
    obtain ⟨ht, htaken⟩ := List.forall_mem_cons.mp h
    have hlength : t.1 < ((List.range n).map runs).length := by simpa using ht
    have hmodify : ((List.range n).map runs).modify t.1 (· ++ [t.2]) =
        (List.range n).map fun r => if t.1 = r then runs r ++ [t.2] else runs r := by
      apply List.ext_getElem
      · simp
      · intro r hr _
        simp [List.getElem_modify]
    rw [List.foldlM_cons, Checked.handOut, if_pos hlength, hmodify, Option.bind_eq_bind, Option.bind_some,
      ih htaken]
    refine congrArg some (List.map_congr_left fun r _ => ?_)
    by_cases hown : t.1 = r
    · simp [hown]
    · simp [hown]

/-- The candidates are the numbers of the values, from the first to the last, that some rule accepts. -/
theorem candidates_eq_filter (rules : List Taker) (values : List String) :
    candidates rules values =
      (List.range values.length).filter fun i => rules.any (·.accepts (values.getD i "")) := by
  have hzip : values.zipIdx = (List.range values.length).map fun i => (values.getD i "", i) := by
    apply List.ext_getElem
    · simp
    · intro i hi _
      rw [List.length_zipIdx] at hi
      simp [hi]
  rw [candidates, admitted, hzip, List.filter_map, List.map_map]
  exact List.map_id _

/-- Looking through numbers of values adds those that some rule accepts to what was found before. -/
theorem foldlM_found {is found : List Nat} (h : ∀ i ∈ is, i < values.length) :
    is.foldlM (fun found i => values[i]?.map fun value =>
        if rules.any (·.accepts value) then found ++ [i] else found) found =
      some (found ++ is.filter fun i => rules.any (·.accepts (values.getD i ""))) := by
  induction is generalizing found with
  | nil => simp
  | cons i is ih =>
    obtain ⟨hi, his⟩ := List.forall_mem_cons.mp h
    have hvalue : values[i]? = some (values.getD i "") := by simp [hi]
    rw [List.foldlM_cons, hvalue, Option.map_some, Option.bind_eq_bind, Option.bind_some, ih his,
      List.filter_cons]
    split_ifs
    · rw [List.append_assoc, List.singleton_append]
    · rfl

theorem checked_candidates (rules : List Taker) (values : List String) :
    Checked.candidates rules values = some (candidates rules values) := by
  rw [Checked.candidates, foldlM_found fun i hi => List.mem_range.mp hi, List.nil_append,
    candidates_eq_filter]

/-- What a run gives is what was taken in the last of the states that it comes through. -/
theorem exists_reaches_of_run {n fuel : Nat} {log : List Restart} {taken : Array (Nat × Nat)}
    (h : (make rules values).Reaches (initial rules) n st log)
    (hrun : (make rules values).run fuel st = some taken) :
    ∃ n' last log', (make rules values).Reaches (initial rules) n' last log' ∧ last.taken = taken := by
  induction fuel generalizing n st log with
  | zero => cases hrun
  | succ fuel ih =>
    rw [Assignment.run] at hrun
    cases hstep : (make rules values).step st with
    | none =>
      rw [hstep] at hrun
      cases hrun
    | assigned all =>
      rw [hstep] at hrun
      obtain ⟨-, k, trail, hsound, -⟩ := h.sound
      have hend := hsound.step
      rw [hstep] at hend
      exact ⟨n, st, log, h, hend.2.2.symm.trans (Option.some.inj hrun)⟩
    | more next =>
      rw [hstep] at hrun
      obtain ⟨log', hnext⟩ := h.next hstep
      exact ih hnext hrun

theorem checked_assign (rules : List Taker) (values : List String) :
    Checked.assign rules values = some (assign? rules values) := by
  have hstart : (make rules values).Reaches (initial rules) 0 (initial rules) [] := .start
  have hassign : assign? rules values =
      ((make rules values).run (make rules values).enough (initial rules)).map fun taken =>
        (List.range rules.length).map fun r => (taken.toList.filter (·.1 = r)).map (·.2) := rfl
  rw [Checked.assign, checked_candidates, Option.bind_eq_bind, Option.bind_some, checked_run hstart,
    Option.bind_eq_bind, Option.bind_some, hassign]
  cases hrun : (make rules values).run (make rules values).enough (initial rules) with
  | none => rfl
  | some taken =>
    obtain ⟨n, last, log, hreaches, rfl⟩ := exists_reaches_of_run hstart hrun
    obtain ⟨-, k, trail, hsound, -⟩ := hreaches.sound
    have hempty : List.replicate rules.length ([] : List Nat) =
        (List.range rules.length).map fun _ => [] := by
      rw [List.map_const', List.length_range]
    have hout := foldlM_handOut (fun t ht => hsound.invariant.lt_of_mem ht) fun _ => ([] : List Nat)
    dsimp only
    rw [hempty, hout]
    simp

/-- Every state that the search comes through satisfies the invariant, and the next step finds what it looks
up there and takes back only what was counted. So the search as a whole never looks beyond what it has. -/
theorem search_invariant (rules : List Taker) (values : List String) :
    (∀ n st log, (make rules values).Reaches (initial rules) n st log → Invariant rules values st ∧
      Checked.step rules values (candidates rules values) st =
        some (Assignment.step (make rules values) st)) ∧
    Checked.assign rules values = some (assign? rules values) := by
  refine ⟨fun n st log h => ?_, checked_assign rules values⟩
  obtain ⟨-, k, trail, hsound, -⟩ := h.sound
  exact ⟨hsound.invariant, hsound.invariant.checked_step⟩

/-- After a restart one value is still taken, and the checkpoint that it was made from is gone. -/
theorem search_invariant_of_starved :
    let rules : List Taker := [⟨true, true, fun _ => true⟩, ⟨true, false, (· == "x")⟩]
    let values := ["a", "x"]
    ∃ st, (make rules values).Reaches (initial rules) 4 st [⟨1, 1⟩] ∧ Invariant rules values st ∧
      st.taken = #[(0, 0)] ∧ st.counts = [1, 0] ∧ st.checkpoints = [] := by
  intro rules values
  have hstart : (make rules values).Reaches (initial rules) 0 (initial rules) [] := .start
  have htake := hstart.forward (by decide) rfl
  have hagain := htake.forward (by decide) rfl
  have hpass := hagain.forward (by decide) rfl
  have hrestart := hpass.restart (by decide) rfl
  exact ⟨_, hrestart, ((search_invariant rules values).1 _ _ _ hrestart).1, rfl, rfl, rfl⟩

end RoutePattern.Query
