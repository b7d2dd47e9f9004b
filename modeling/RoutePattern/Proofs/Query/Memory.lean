import Mathlib.Data.Nat.Digits.Defs
import RoutePattern.Proofs.Query.Course

/-! What the search remembers. The starts that it takes to have failed are dead ends, in every state and in
every turn of falling back; so a search that remembers none of them comes to the same assignment, only
later. -/
namespace RoutePattern.Query

open Assignment (make initial)

variable {rules : List Taker} {values : List String} {st : Assignment.State} {k : Nat}
  {trail upper lower : List Nat} {tried : Finset Restart}

/-- What is remembered in each turn of falling back, the starts that fail in this turn included. -/
def turns (failed : Std.ExtTreeSet Restart Restart.order) (restarts : List (Restart × Nat))
    (depth : Nat) : List Checkpoint → List (Std.ExtTreeSet Restart Restart.order)
  | [] => [retire failed restarts depth]
  | c :: earlier =>
    retire failed restarts depth ::
      if (retire failed restarts depth).contains ⟨c.rule + 1, c.value⟩ then
        turns (retire failed restarts depth) (restarts.dropWhile fun r => depth ≤ r.2) (depth - 1) earlier
      else []

/-- No turn of falling back condemns a start from which there is a way on. -/
theorem Stuck.dead_of_mem_turns {failed memory : Std.ExtTreeSet Restart Restart.order}
    {restarts : List (Restart × Nat)} (h : Stuck rules values trail failed restarts)
    (hm : memory ∈ turns failed restarts (Trail.stops trail).length (Trail.stops trail)) {s : Restart}
    (hs : s ∈ memory) : Dead rules values s.rule s.value := by
  have hfirst : s ∈ retire failed restarts (Trail.stops trail).length → Dead rules values s.rule s.value :=
    h.recorded.dead_of_mem_retire h.justified h.dead
  -- induction on the checkpoints: the trail that a turn leaves ends at a start that failed before
  generalize hc : Trail.stops trail = checkpoints at hm hfirst
  induction checkpoints generalizing trail failed restarts with
  | nil =>
    rw [turns, List.mem_singleton] at hm
    exact hfirst (hm ▸ hs)
  | cons c earlier ih =>
    rw [turns, List.mem_cons] at hm
    rcases hm with rfl | hm
    · exact hfirst hs
    · split_ifs at hm with hf
      · obtain ⟨upper, k, lower, -, rfl, rfl, hj, hrec⟩ := h.turn hc
        have hdead := hrec.dead _ (Std.ExtTreeSet.contains_iff_mem.mp hf)
        have hnext : Stuck rules values ((k + 1) :: lower) _ _ :=
          ⟨hj, hdead, hrec.mono (List.suffix_cons _ _)⟩
        exact ih hnext rfl hm (hnext.recorded.dead_of_mem_retire hj hdead)
      · cases hm

/-! The search once more, with its memory or without. Without it, no start is ever added to those that
failed, and no checkpoint is passed over. -/
namespace Remembering

/-- The latest checkpoint from which the search has not started in vain, as far as it remembers. -/
def fallBack? (remember : Bool) (failed : Std.ExtTreeSet Restart Restart.order)
    (restarts : List (Restart × Nat)) (depth : Nat) : List Checkpoint → Option (Checkpoint ×
      List Checkpoint × Std.ExtTreeSet Restart Restart.order × List (Restart × Nat))
  | [] => none
  | c :: earlier =>
    let beyond : Restart × Nat → Bool := fun r => depth ≤ r.2
    let failed :=
      if remember then failed.insertMany ((restarts.takeWhile beyond).map (·.1)) else failed
    let restarts := restarts.dropWhile beyond
    if failed.contains ⟨c.rule + 1, c.value⟩ then
      fallBack? remember failed restarts (depth - 1) earlier
    else some (c, earlier, failed, restarts)

/-- Starts again from a checkpoint, with the rule behind it. -/
def restart (remember : Bool) (st : Assignment.State) : Assignment.Outcome :=
  st.restartAt (fallBack? remember st.failed st.restarts st.checkpoints.length st.checkpoints)

/-- One step of the search. -/
def step (remember : Bool) (a : Assignment) (st : Assignment.State) : Assignment.Outcome :=
  if a.Starved st then restart remember st else a.step st

/-- Runs the search for a number of steps; there is no result if they are used up. -/
def run (remember : Bool) (a : Assignment) :
    Nat → Assignment.State → Option (Option (Array (Nat × Nat)))
  | 0, _ => none
  | fuel + 1, st =>
    match step remember a st with
    | .more st => run remember a fuel st
    | .assigned taken => some (some taken)
    | .none => some none

/-- A number of steps that is enough without a memory: there are no more restarts than ways to give every rule
a number of values. -/
def enough (a : Assignment) : Nat :=
  (a.candidates.size + 1) ^ a.rules.size * (a.rules.size + a.candidates.size + 1)

/-- The indexes of the values that each rule takes; there is no result if the steps are not enough. -/
def assign (remember : Bool) (rules : List Taker) (values : List String) :
    Option (Option (List (List Nat))) :=
  let a := make rules values
  (run remember a (enough a) (initial rules)).map fun out => out.map fun taken =>
    (List.range rules.length).map fun r => (taken.toList.filter (·.1 = r)).map (·.2)

theorem fallBack?_true (failed : Std.ExtTreeSet Restart Restart.order)
    (restarts : List (Restart × Nat)) (depth : Nat) (checkpoints : List Checkpoint) :
    fallBack? true failed restarts depth checkpoints =
      Assignment.fallBack? failed restarts depth checkpoints := by
  induction checkpoints generalizing failed restarts depth with
  | nil => rfl
  | cons c earlier ih =>
    rw [fallBack?, Assignment.fallBack?, if_pos rfl, ih]

/-- With its memory this is the search itself. -/
theorem step_true (a : Assignment) (st : Assignment.State) : step true a st = a.step st := by
  rw [step]
  split_ifs with hs
  · rw [Assignment.step_of_starved hs, Assignment.restart_eq, restart, fallBack?_true]
  · rfl

/-- Without a memory the latest checkpoint is always the one to start from. -/
theorem fallBack?_false (restarts : List (Restart × Nat)) (depth : Nat) (c : Checkpoint)
    (earlier : List Checkpoint) :
    fallBack? false ∅ restarts depth (c :: earlier) =
      some (c, earlier, ∅, restarts.dropWhile fun r => depth ≤ r.2) := by
  rw [fallBack?]
  simp

end Remembering

/-- Without a memory the search goes on with one run made shorter, or there is no division. -/
theorem Sound.restart_false (h : Sound rules values st 0 trail tried) (hfailed : st.failed = ∅)
    (hl : trail.length < rules.length) (hstuck : Stuck rules values trail st.failed st.restarts) :
    match Remembering.restart false st with
    | .none => Dead rules values 0 0
    | .assigned _ => False
    | .more st' => st'.failed = ∅ ∧ ∃ upper j k lower tried', trail = upper ++ j :: lower ∧ k + 1 < j ∧
        Sound rules values st' 0 ((k + 1) :: lower) tried' := by
  rw [Remembering.restart, hfailed, h.checkpoints, Trail.stops_cons_zero]
  cases hs : Trail.stops trail with
  | nil => exact hstuck.dead_of_stops_eq_nil hs
  | cons c earlier =>
    obtain ⟨upper, k, lower, rfl, hc, he, hj, hrec⟩ := hstuck.turn hs
    rw [Remembering.fallBack?_false]
    let left := st.restarts.dropWhile fun r => (c :: earlier).length ≤ r.2
    have hcut : ∃ up j, upper ++ (k + 2) :: lower = up ++ j :: lower ∧ k + 1 < j :=
      ⟨upper, k + 2, rfl, Nat.lt_succ_self _⟩
    -- nothing that failed is known, and of the restarts those are left that began below the cut
    have hres : Resumed rules values (upper ++ (k + 2) :: lower) ∅ left (c, earlier, ∅, left) k lower :=
      ⟨hcut, hc, he, hj, ⟨fun s hs => absurd hs Std.ExtTreeSet.not_mem_empty, hrec.began, hrec.sorted⟩,
        Std.ExtTreeSet.not_mem_empty, fun s => Iff.rfl⟩
    have htried (s : Restart) : s ∈ (left.map (·.1)).toFinset ↔ Tried ∅ left s := by
      simp [Tried]
    have hsub : (left.map (·.1)).toFinset ⊆ tried := by
      intro s hs
      have hmem : s ∈ left.map (·.1) := List.mem_toFinset.mp hs
      exact (h.tried_iff s).mpr (Or.inr (((List.dropWhile_sublist _).map _).subset hmem))
    exact ⟨rfl, upper, k + 2, k, lower, _, rfl, Nat.lt_succ_self _, h.resume hl hres htried hsub⟩

section Order

/-- The number of ways to give every rule up to `m` values that begin with the runs of the trail, or are
below it in the order that looks at the first rule first. -/
def waysLeft (n m : Nat) (trail : List Nat) : Nat :=
  (Nat.ofDigits (m + 1) trail + 1) * (m + 1) ^ (n - trail.length)

variable {n m : Nat}

theorem waysLeft_pos : 0 < waysLeft n m trail :=
  Nat.mul_pos (Nat.succ_pos _) (Nat.pow_pos (Nat.succ_pos m))

/-- One run more leaves no more ways than there were. -/
theorem waysLeft_cons_le (hk : k ≤ m) (hl : trail.length < n) :
    waysLeft n m (k :: trail) ≤ waysLeft n m trail := by
  have hdigits : Nat.ofDigits (m + 1) (k :: trail) + 1 ≤ (Nat.ofDigits (m + 1) trail + 1) * (m + 1) := by
    rw [Nat.ofDigits_cons, Nat.succ_mul (Nat.ofDigits (m + 1) trail), Nat.mul_comm (m + 1)]
    omega
  have hpow : (m + 1) * (m + 1) ^ (n - (k :: trail).length) = (m + 1) ^ (n - trail.length) := by
    rw [List.length_cons, ← Nat.pow_succ']
    exact congrArg _ (by omega)
  calc waysLeft n m (k :: trail)
      ≤ (Nat.ofDigits (m + 1) trail + 1) * (m + 1) * (m + 1) ^ (n - (k :: trail).length) :=
        Nat.mul_le_mul_right _ hdigits
    _ = waysLeft n m trail := by rw [Nat.mul_assoc, hpow, waysLeft]

/-- A run made shorter leaves fewer ways, whatever the runs behind it were. -/
theorem waysLeft_cut_lt {j : Nat} (hk : k + 1 < j) (hl : (upper ++ j :: lower).length ≤ n) :
    waysLeft n m ((k + 1) :: lower) < waysLeft n m (upper ++ j :: lower) := by
  have hlength : n - ((k + 1) :: lower).length = upper.length + (n - (upper ++ j :: lower).length) := by
    rw [List.length_append, List.length_cons] at hl ⊢
    rw [List.length_cons]
    omega
  have hrun : Nat.ofDigits (m + 1) ((k + 1) :: lower) + 1 ≤ Nat.ofDigits (m + 1) (j :: lower) := by
    rw [Nat.ofDigits_cons, Nat.ofDigits_cons]
    omega
  have htrail : Nat.ofDigits (m + 1) (j :: lower) * (m + 1) ^ upper.length ≤
      Nat.ofDigits (m + 1) (upper ++ j :: lower) := by
    rw [Nat.ofDigits_append, Nat.mul_comm]
    exact Nat.le_add_left _ _
  calc waysLeft n m ((k + 1) :: lower)
      ≤ Nat.ofDigits (m + 1) (j :: lower) * (m + 1) ^ (n - ((k + 1) :: lower).length) :=
        Nat.mul_le_mul_right _ hrun
    _ = Nat.ofDigits (m + 1) (j :: lower) * (m + 1) ^ upper.length *
          (m + 1) ^ (n - (upper ++ j :: lower).length) := by
        rw [hlength, Nat.pow_add, Nat.mul_assoc]
    _ ≤ Nat.ofDigits (m + 1) (upper ++ j :: lower) * (m + 1) ^ (n - (upper ++ j :: lower).length) :=
        Nat.mul_le_mul_right _ htrail
    _ < waysLeft n m (upper ++ j :: lower) :=
        Nat.mul_lt_mul_of_pos_right (Nat.lt_succ_self _) (Nat.pow_pos (Nat.succ_pos m))

end Order

/-- How many steps the search can still make at most without a memory. -/
def Remembering.stepsLeft (rules : List Taker) (values : List String) (st : Assignment.State)
    (trail : List Nat) : Nat :=
  let n := rules.length
  let m := (candidates rules values).length
  waysLeft n m trail * (n + m + 1) - (st.rule + st.value)

namespace Remembering

theorem stepsLeft_pos (h : Sound rules values st k trail tried) : 0 < stepsLeft rules values st trail := by
  have hle := h.rule_add_value_le
  have hways : 0 < waysLeft rules.length (candidates rules values).length trail := waysLeft_pos
  have hmul := Nat.le_mul_of_pos_left (rules.length + (candidates rules values).length + 1) hways
  rw [stepsLeft]
  omega

/-- A step forward lowers the number of steps that are left, for the rule or the candidate is a later one. -/
theorem stepsLeft_lt_of_forward {st' : Assignment.State} {k' : Nat} {trail' : List Nat}
    {tried' : Finset Restart} (h' : Sound rules values st' k' trail' tried')
    (hsum : st'.rule + st'.value = st.rule + st.value + 1)
    (hways : waysLeft rules.length (candidates rules values).length trail' ≤
      waysLeft rules.length (candidates rules values).length trail) :
    stepsLeft rules values st' trail' < stepsLeft rules values st trail := by
  have hpos := stepsLeft_pos h'
  have hmul := Nat.mul_le_mul_right (rules.length + (candidates rules values).length + 1) hways
  rw [stepsLeft] at hpos ⊢
  rw [stepsLeft]
  omega

/-- A restart lowers the number of steps that are left, for fewer ways are. -/
theorem stepsLeft_lt_of_restart (h : Sound rules values st k trail tried) (st' : Assignment.State)
    {trail' : List Nat}
    (hways : waysLeft rules.length (candidates rules values).length trail' <
      waysLeft rules.length (candidates rules values).length trail) :
    stepsLeft rules values st' trail' < stepsLeft rules values st trail := by
  have hle := h.rule_add_value_le
  have hmul := Nat.mul_le_mul_right (rules.length + (candidates rules values).length + 1)
    (Nat.succ_le_of_lt hways)
  rw [Nat.succ_mul] at hmul
  rw [stepsLeft, stepsLeft]
  omega

end Remembering

/-- Without a memory the search comes to an end, with an answer. -/
theorem Sound.run_false (h : Sound rules values st k trail tried) (hfailed : st.failed = ∅) {fuel : Nat}
    (hfuel : Remembering.stepsLeft rules values st trail ≤ fuel) :
    ∃ out, Remembering.run false (make rules values) fuel st = some out ∧ Answers rules values out := by
  -- induction on the steps: a step forward comes nearer to the end of the way, and a restart leaves fewer
  -- ways
  induction fuel generalizing st k trail tried with
  | zero => exact absurd (Remembering.stepsLeft_pos h) (Nat.not_lt_of_le hfuel)
  | succ fuel ih =>
    rw [Remembering.run, Remembering.step]
    split_ifs with hs
    · obtain ⟨rfl, hl, hstuck⟩ := h.stuck hs
      have hnext := h.restart_false hfailed hl hstuck
      revert hnext
      cases Remembering.restart false st with
      | none => exact fun hdead => ⟨none, rfl, hdead⟩
      | assigned _ => exact False.elim
      | more st' =>
        rintro ⟨hfailed', upper, j, k, lower, tried', rfl, hlt, hsound⟩
        have hleft := Remembering.stepsLeft_lt_of_restart h st' (waysLeft_cut_lt hlt hl.le)
        exact ih hsound hfailed' (by omega)
    · have hnext := h.forward hs
      revert hnext
      cases Assignment.step (make rules values) st with
      | none => exact False.elim
      | assigned taken =>
        rintro ⟨rfl, hl, rfl⟩
        refine ⟨some st.taken, rfl, trail, h.justified, hl, ?_⟩
        rw [h.taken, Trail.taken_cons_zero]
      | more st' =>
        rintro ⟨hfailed', hsum, hsound | hsound⟩
        -- the rule took a value
        · have hleft := Remembering.stepsLeft_lt_of_forward hsound hsum (Nat.le_refl _)
          exact ih hsound (hfailed'.trans hfailed) (by omega)
        -- the rule was left behind
        · have hk : k ≤ (candidates rules values).length := by
            have hle := h.value_le
            rw [List.sum_cons] at hle
            omega
          have hl : trail.length < rules.length := by
            have hle := hsound.justified.length_le
            rwa [List.length_cons] at hle
          have hleft := Remembering.stepsLeft_lt_of_forward hsound hsum (waysLeft_cons_le hk hl)
          exact ih hsound (hfailed'.trans hfailed) (by omega)

/-- Without a memory the search comes to the same assignment. -/
theorem assign_false (rules : List Taker) (values : List String) :
    Remembering.assign false rules values = some (assign? rules values) := by
  have hsound : Sound rules values (initial rules) 0 [] ∅ := Sound.initial rules values
  have hn : (make rules values).rules.size = rules.length := by simp [make]
  have hm : (make rules values).candidates.size = (candidates rules values).length := by simp [make]
  have hfuel : Remembering.stepsLeft rules values (initial rules) [] ≤
      Remembering.enough (make rules values) := by
    rw [Remembering.stepsLeft, Remembering.enough, hn, hm, waysLeft]
    simp
  obtain ⟨out, hrun, hout⟩ := hsound.run_false rfl hfuel
  have hanswers : Answers rules values
      (Assignment.run (make rules values) (make rules values).enough (initial rules)) :=
    hsound.run (stepsLeft_initial_lt rules values)
  rw [Remembering.assign, hrun, hout.unique hanswers]
  rfl

/-- The memory of the search is sound and can be done without. Whatever the search remembers as failed, in
any state and in any turn of falling back, is a dead end; and without remembering anything it comes to
the same assignment. -/
theorem search_memory (rules : List Taker) (values : List String) :
    (∀ n st log, (make rules values).Reaches (initial rules) n st log →
      (∀ s ∈ st.failed, Dead rules values s.rule s.value) ∧
      ((make rules values).Starved st →
        ∀ memory ∈ turns st.failed st.restarts st.checkpoints.length st.checkpoints,
          ∀ s ∈ memory, Dead rules values s.rule s.value)) ∧
    (∀ st, Remembering.step true (make rules values) st = (make rules values).step st) ∧
    Remembering.assign false rules values = some (assign? rules values) := by
  refine ⟨fun n st log h => ?_, Remembering.step_true _, assign_false rules values⟩
  obtain ⟨-, k, trail, hsound, -⟩ := h.sound
  refine ⟨hsound.recorded.dead, fun hs memory hm s hmem => ?_⟩
  obtain ⟨rfl, -, hstuck⟩ := hsound.stuck hs
  rw [hsound.checkpoints, Trail.stops_cons_zero] at hm
  exact hstuck.dead_of_mem_turns hm hmem

/-- A rule takes three values, and none of them fits the rule behind it. The start from the last value has
failed when the search starts from the second one, which fails in the next turn of falling back. -/
theorem search_memory_of_starved :
    let rules : List Taker := [⟨true, true, fun _ => true⟩, ⟨true, false, (· == "x")⟩]
    let values := ["a", "b", "c"]
    ∃ st, (make rules values).Reaches (initial rules) 6 st [⟨1, 1⟩, ⟨1, 2⟩] ∧
      ⟨1, 2⟩ ∈ st.failed ∧ Dead rules values 1 2 ∧ (make rules values).Starved st ∧
      (∃ memory ∈ turns st.failed st.restarts st.checkpoints.length st.checkpoints, ⟨1, 1⟩ ∈ memory) ∧
      Dead rules values 1 1 := by
  intro rules values
  -- the states behind the first restart and behind the second one
  let late : Assignment.State :=
    ⟨1, 2, #[(0, 0), (0, 1)], [2, 0], [⟨0, 1, 1⟩], ∅, [(⟨1, 2⟩, 1)]⟩
  let early : Assignment.State :=
    ⟨1, 1, #[(0, 0)], [1, 0], [], retire ∅ [(⟨1, 2⟩, 1)] 1, [(⟨1, 1⟩, 0)]⟩
  have hstart : (make rules values).Reaches (initial rules) 0 (initial rules) [] := .start
  have hone := hstart.forward (by decide) rfl
  have htwo := hone.forward (by decide) rfl
  have hthree := htwo.forward (by decide) rfl
  have hpass := hthree.forward (by decide) rfl
  have hlate : (make rules values).Reaches (initial rules) 5 late _ := hpass.restart (by decide) rfl
  have hearly : (make rules values).Reaches (initial rules) 6 early _ := hlate.restart (by decide) rfl
  have hmemory := (search_memory rules values).1 _ _ _ hearly
  have hstarved : (make rules values).Starved early := by decide
  have hfailed : ⟨1, 2⟩ ∈ early.failed := mem_retire.mpr (Or.inr (by decide))
  have hturn : ⟨1, 1⟩ ∈ retire early.failed early.restarts 0 := mem_retire.mpr (Or.inr (by decide))
  have hmem : retire early.failed early.restarts 0 ∈
      turns early.failed early.restarts early.checkpoints.length early.checkpoints := List.mem_cons_self
  exact ⟨early, hearly, hfailed, hmemory.1 _ hfailed, hstarved, ⟨_, hmem, hturn⟩,
    hmemory.2 hstarved _ hmem _ hturn⟩

end RoutePattern.Query
