import Std.Data.ExtTreeSet

/-!
Handing out the values of a query to rules.

Values that no rule accepts are left out. The others, the candidates, are handed out in order: each
rule takes a run of them, in the order of the rules. A rule that may take several takes as many as
it can; if a later rule that requires a value finds none, the last such step is undone, and the
rules behind it start again from there. A start that failed once is not tried again.
-/
namespace RoutePattern.Query

/-- What the assignment asks of a rule. -/
structure Taker where
  required : Bool
  multiple : Bool
  accepts : String → Bool

/-- A rule and a candidate with which the search starts again. -/
structure Restart where
  rule : Nat
  value : Nat
deriving DecidableEq

namespace Restart

/-- The order by rule and then by candidate. -/
def order : Restart → Restart → Ordering :=
  compareLex (compareOn rule) (compareOn value)

instance : Std.TransCmp order :=
  inferInstanceAs (Std.TransCmp (compareLex (compareOn rule) (compareOn value)))

instance : Std.LawfulEqCmp order where
  eq_of_compare {a b} h := by
    obtain ⟨hr, hv⟩ := compareLex_eq_eq.1 h
    cases a
    cases b
    simp only [compareOn, Nat.compare_eq_eq] at hr hv
    rw [hr, hv]

end Restart

/-- A point at which a rule could have stopped, with the number of values that were taken before. -/
structure Checkpoint where
  rule : Nat
  value : Nat
  taken : Nat
deriving DecidableEq

/-- The values that some rule accepts, with their indexes. -/
def admitted (rules : List Taker) (values : List String) : List (String × Nat) :=
  values.zipIdx.filter fun (value, _) => rules.any (·.accepts value)

/-- The indexes of the values that some rule accepts. -/
def candidates (rules : List Taker) (values : List String) : List Nat :=
  (admitted rules values).map (·.2)

/-- A rule as the search sees it. `accepted` tells for every candidate whether the rule accepts it.
-/
structure Row where
  required : Bool
  multiple : Bool
  accepted : Array Bool

/-- The problem in the form in which the search uses it. -/
structure Assignment where
  rules : Array Row
  candidates : Array Nat

namespace Assignment

def make (rules : List Taker) (values : List String) : Assignment :=
  let admitted := (Query.admitted rules values).map (·.1)
  ⟨(rules.map fun rule =>
      ⟨rule.required, rule.multiple, (admitted.map rule.accepts).toArray⟩).toArray,
    (Query.candidates rules values).toArray⟩

/-- Where the search is: the rule and the number of the candidate it looks at. `taken` holds the
values that were taken, each as a rule and an index, and `counts` their number for each rule. The
lists of checkpoints and restarts begin with the latest; a restart is kept with the number of
checkpoints there were at it. -/
structure State where
  rule : Nat := 0
  value : Nat := 0
  taken : Array (Nat × Nat) := #[]
  counts : List Nat
  checkpoints : List Checkpoint := []
  failed : Std.ExtTreeSet Restart Restart.order := ∅
  restarts : List (Restart × Nat) := []

/-- What follows on a state: another one, or the end with or without an assignment. -/
inductive Outcome
  | more (st : State)
  | assigned (taken : Array (Nat × Nat))
  | none

def State.count (st : State) (rule : Nat) : Nat := st.counts.getD rule 0

/-- The index of the next value if the rule can take it. -/
def next? (a : Assignment) (st : State) (rule : Row) : Option Nat :=
  if (st.count st.rule = 0 || rule.multiple) && rule.accepted.getD st.value false then
    a.candidates[st.value]?
  else none

/-- The state after the rule took the value with index `i`. -/
def take (st : State) (i : Nat) : State :=
  let checkpoints :=
    if 0 < st.count st.rule then ⟨st.rule, st.value, st.taken.size⟩ :: st.checkpoints
    else st.checkpoints
  { st with
    checkpoints
    taken := st.taken.push (st.rule, i)
    counts := st.counts.modify st.rule (· + 1)
    value := st.value + 1 }

/-- The latest checkpoint from which the search has not started in vain, with the checkpoints before
it, the starts that failed, and the restarts that have not. Restarts that began behind the
checkpoints passed over have failed. `depth` is the number of checkpoints. -/
def fallBack? (failed : Std.ExtTreeSet Restart Restart.order) (restarts : List (Restart × Nat))
    (depth : Nat) : List Checkpoint → Option (Checkpoint × List Checkpoint ×
      Std.ExtTreeSet Restart Restart.order × List (Restart × Nat))
  | [] => none
  | c :: earlier =>
    let beyond : Restart × Nat → Bool := fun r => depth ≤ r.2
    let failed := failed.insertMany ((restarts.takeWhile beyond).map (·.1))
    let restarts := restarts.dropWhile beyond
    if failed.contains ⟨c.rule + 1, c.value⟩ then fallBack? failed restarts (depth - 1) earlier
    else some (c, earlier, failed, restarts)

/-- Gives back the values that were taken since there were `n` of them. -/
def giveBack (st : State) (n : Nat) : State :=
  { st with
    taken := st.taken.take n
    counts := (st.taken.drop n).foldl (fun counts t => counts.modify t.1 (· - 1)) st.counts }

/-- Starts again from a checkpoint, with the rule behind it. -/
def restart (st : State) : Outcome :=
  match fallBack? st.failed st.restarts st.checkpoints.length st.checkpoints with
  | none => .none
  | some (c, checkpoints, failed, restarts) =>
    let start : Restart := ⟨c.rule + 1, c.value⟩
    .more
      { giveBack st c.taken with
        rule := start.rule, value := start.value, checkpoints, failed,
        restarts := (start, checkpoints.length) :: restarts }

/-- One step of the search. -/
def step (a : Assignment) (st : State) : Outcome :=
  match a.rules[st.rule]? with
  | none => .assigned st.taken
  | some rule =>
    match a.next? st rule with
    | some i => .more (take st i)
    | none =>
      if 0 < st.count st.rule || !rule.required then .more { st with rule := st.rule + 1 }
      else restart st

/-- Runs the search for a number of steps. -/
def run (a : Assignment) : Nat → State → Option (Array (Nat × Nat))
  | 0, _ => none
  | fuel + 1, st =>
    match a.step st with
    | .more st => run a fuel st
    | .assigned taken => some taken
    | .none => none

/-- A number of steps that is enough: between two restarts every step takes a value or passes to the
next rule, and no restart comes twice. -/
def enough (a : Assignment) : Nat :=
  (a.rules.size * a.candidates.size + 1) * (a.rules.size + a.candidates.size + 1)

end Assignment

/-- The indexes of the values that each rule takes; none if a rule that requires a value gets none.
-/
def assign? (rules : List Taker) (values : List String) : Option (List (List Nat)) :=
  let a := Assignment.make rules values
  (a.run a.enough { counts := rules.map fun _ => 0 }).map fun taken =>
    (List.range rules.length).map fun r =>
      (taken.toList.filter (·.1 = r)).map (·.2)

end RoutePattern.Query
