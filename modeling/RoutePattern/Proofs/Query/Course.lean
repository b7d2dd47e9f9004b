import RoutePattern.Proofs.Query.Search

/-! The course of the search: the states it comes through and the restarts it makes on its way. It comes
to an end, and it never starts again twice from the same rule and the same candidate. -/
namespace RoutePattern.Query

open Assignment (make)

namespace Assignment

variable {a : Assignment} {first st : State} {n : Nat} {log : List Restart}

/-- The state in which the search begins. -/
def initial (rules : List Taker) : State := { counts := rules.map fun _ => 0 }

/-- The search comes from the first state to another one in a number of steps. `log` holds the restarts
on the way, the latest first. -/
inductive Reaches (a : Assignment) (first : State) : Nat → State → List Restart → Prop
  | start : Reaches a first 0 first []
  | forward {n : Nat} {st st' : State} {log : List Restart} :
    Reaches a first n st log → ¬ a.Starved st → a.step st = .more st' →
      Reaches a first (n + 1) st' log
  | restart {n : Nat} {st st' : State} {log : List Restart} :
    Reaches a first n st log → a.Starved st → a.step st = .more st' →
      Reaches a first (n + 1) st' (st'.place :: log)

theorem Reaches.next {st' : State} (h : a.Reaches first n st log) (hstep : a.step st = .more st') :
    ∃ log', a.Reaches first (n + 1) st' log' := by
  by_cases hstarved : a.Starved st
  · exact ⟨_, .restart h hstarved hstep⟩
  · exact ⟨_, .forward h hstarved hstep⟩

/-- The search stops in a state, with the values that were taken or with none. -/
def Stops (a : Assignment) (st : State) (out : Option (Array (Nat × Nat))) : Prop :=
  match a.step st with
  | .more _ => False
  | .assigned taken => out = some taken
  | .none => out = none

/-- A run either stops, with what it answers, or uses up its steps on the way. -/
theorem Reaches.run (h : a.Reaches first n st log) (fuel : Nat) :
    (∃ n' st' log', a.Reaches first n' st' log' ∧ a.Stops st' (a.run fuel st)) ∨
      ∃ st' log', a.Reaches first (n + fuel) st' log' := by
  induction fuel generalizing n st log with
  | zero => exact Or.inr ⟨st, log, h⟩
  | succ fuel ih =>
    -- the run does the first of its steps, and the rest of it starts one step further on
    cases hstep : a.step st with
    | none => exact Or.inl ⟨n, st, log, h, by simp [Stops, Assignment.run, hstep]⟩
    | assigned taken => exact Or.inl ⟨n, st, log, h, by simp [Stops, Assignment.run, hstep]⟩
    | more st' =>
      obtain ⟨log', hnext⟩ := h.next hstep
      have hrun : a.run (fuel + 1) st = a.run fuel st' := by rw [Assignment.run, hstep]
      have hlength : n + (fuel + 1) = n + 1 + fuel := by omega
      rw [hrun, hlength]
      exact ih hnext

end Assignment

open Assignment (initial)

variable {rules : List Taker} {values : List String} {n : Nat} {st : Assignment.State}
  {log : List Restart}

theorem Sound.of_step {st' : Assignment.State} {k : Nat} {trail : List Nat} {tried : Finset Restart}
    (h : Sound rules values st k trail tried) (hstep : (make rules values).step st = .more st') :
    ∃ k' trail' tried', Sound rules values st' k' trail' tried' ∧
      Progress (make rules values) st st' tried tried' ∧
      stepsLeft rules values st' tried' < stepsLeft rules values st tried := by
  have hnext := h.step
  rw [hstep] at hnext
  obtain ⟨k', trail', tried', hsound, hprogress⟩ := hnext
  exact ⟨k', trail', tried', hsound, hprogress, h.stepsLeft_lt hsound hprogress⟩

/-- The restarts on the way are those that the search has tried, each of them once, and every step was one
of those that were left. -/
theorem Assignment.Reaches.sound (h : (make rules values).Reaches (initial rules) n st log) :
    log.Nodup ∧ ∃ k trail, Sound rules values st k trail log.toFinset ∧
      n + stepsLeft rules values st log.toFinset ≤ stepsLeft rules values (initial rules) ∅ := by
  induction h with
  | start => exact ⟨List.nodup_nil, 0, [], Sound.initial rules values, by simp⟩
  | forward _ hfed hstep ih =>
    obtain ⟨hnodup, k, trail, hsound, hleft⟩ := ih
    obtain ⟨k', trail', tried', hsound', hprogress, hlt⟩ := hsound.of_step hstep
    rcases hprogress with ⟨-, rfl, -⟩ | ⟨hstarved, -, -⟩
    · exact ⟨hnodup, k', trail', hsound', by omega⟩
    · exact absurd hstarved hfed
  | restart _ hstarved hstep ih =>
    obtain ⟨hnodup, k, trail, hsound, hleft⟩ := ih
    obtain ⟨k', trail', tried', hsound', hprogress, hlt⟩ := hsound.of_step hstep
    rcases hprogress with ⟨hfed, -, -⟩ | ⟨-, hfresh, rfl⟩
    · exact absurd hstarved hfed
    -- the new restart is not among those on the way, which are all that was tried
    · rw [List.mem_toFinset] at hfresh
      rw [← List.toFinset_cons] at hsound' hlt
      exact ⟨List.nodup_cons.mpr ⟨hfresh, hnodup⟩, k', trail', hsound', by omega⟩

/-- The search stops, with what is assigned. On its way it does not start again from the same rule and the
same candidate, so that there are no more restarts than pairs of a rule and a candidate. -/
theorem search_stops_and_restarts_nodup (rules : List Taker) (values : List String) :
    (∃ n st log out, (make rules values).Reaches (initial rules) n st log ∧
      (make rules values).Stops st out ∧
      assign? rules values = out.map fun taken =>
        (List.range rules.length).map fun r => (taken.toList.filter (·.1 = r)).map (·.2)) ∧
    ∀ n st log, (make rules values).Reaches (initial rules) n st log →
      n < (make rules values).enough ∧ log.Nodup ∧
        log.length ≤ rules.length * (candidates rules values).length := by
  have hbound : ∀ n st log, (make rules values).Reaches (initial rules) n st log →
      n < (make rules values).enough ∧ log.Nodup ∧
        log.length ≤ rules.length * (candidates rules values).length := by
    intro n st log h
    obtain ⟨hnodup, k, trail, hsound, hleft⟩ := h.sound
    have hinitial : stepsLeft rules values (initial rules) ∅ < (make rules values).enough :=
      stepsLeft_initial_lt rules values
    have hcard := hsound.card_tried_le
    rw [List.toFinset_card_of_nodup hnodup] at hcard
    exact ⟨by omega, hnodup, hcard⟩
  refine ⟨?_, hbound⟩
  -- a run that used up its steps would have come further than the search can
  have hstart : (make rules values).Reaches (initial rules) 0 (initial rules) [] := .start
  rcases hstart.run (make rules values).enough with
    ⟨n, st, log, hreaches, hstops⟩ | ⟨st, log, hreaches⟩
  · exact ⟨n, st, log, _, hreaches, hstops, rfl⟩
  · have hlt := (hbound _ st log hreaches).1
    omega

/-- A rule takes both values, the next one is starved, and the search starts again from it and the second
value. -/
theorem restarts_nodup_of_starved :
    let rules : List Taker := [⟨true, true, fun _ => true⟩, ⟨true, false, (· == "x")⟩]
    let values := ["a", "x"]
    ∃ st, (make rules values).Reaches (initial rules) 4 st [⟨1, 1⟩] ∧
      4 < (make rules values).enough ∧ [(⟨1, 1⟩ : Restart)].Nodup ∧
      [(⟨1, 1⟩ : Restart)].length ≤ 2 * 2 := by
  intro rules values
  have hstart : (make rules values).Reaches (initial rules) 0 (initial rules) [] := .start
  have htake := hstart.forward (by decide) rfl
  have hagain := htake.forward (by decide) rfl
  have hpass := hagain.forward (by decide) rfl
  have hrestart := hpass.restart (by decide) rfl
  exact ⟨_, hrestart, (search_stops_and_restarts_nodup rules values).2 _ _ _ hrestart⟩

end RoutePattern.Query
