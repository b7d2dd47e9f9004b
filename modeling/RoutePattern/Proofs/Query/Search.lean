import Mathlib.Data.Finset.Prod
import Mathlib.Data.Finset.Range
import RoutePattern.Proofs.Query.Retreat

/-! The search as a whole. One invariant ties its state to a trail; each step keeps it and either
goes forward or tries a new restart, so that the search ends within the steps it is given. -/
namespace RoutePattern.Query

open Assignment (make next? take giveBack restart step run enough)

variable {rules : List Taker} {values : List String}

/-- A rule as the search sees it, with its answers for the texts of the candidates. -/
def row (rules : List Taker) (values : List String) (rule : Taker) : Row :=
  ⟨rule.required, rule.multiple, ((texts rules values).map rule.accepts).toArray⟩

theorem make_rules (rules : List Taker) (values : List String) (r : Nat) :
    (make rules values).rules[r]? = rules[r]?.map (row rules values) := by
  simp only [make, List.getElem?_toArray, List.getElem?_map]
  rfl

theorem make_candidates (rules : List Taker) (values : List String) :
    (make rules values).candidates = (candidates rules values).toArray := rfl

theorem row_accepted {rule : Taker} {v : Nat} :
    (row rules values rule).accepted.getD v false = (texts rules values)[v]?.any rule.accepts := by
  simp only [row, Array.getD_eq_getD_getElem?, List.getElem?_toArray, List.getElem?_map]
  cases (texts rules values)[v]? <;> rfl

/-- The next value is taken if the rule has room for it and accepts it. -/
theorem next?_eq_some {st : Assignment.State} {rule : Taker} {i : Nat} :
    next? (make rules values) st (row rules values rule) = some i ↔
      (st.count st.rule = 0 ∨ rule.multiple = true) ∧
      (∃ value, (texts rules values)[st.value]? = some value ∧ rule.accepts value = true) ∧
      (candidates rules values)[st.value]? = some i := by
  rw [next?, make_candidates, row_accepted, List.getElem?_toArray]
  have hm : (row rules values rule).multiple = rule.multiple := rfl
  cases ht : (texts rules values)[st.value]? <;> simp [hm, and_assoc]

/-- No value is taken if the rule has no room for another or does not accept the next one. -/
theorem next?_eq_none {st : Assignment.State} {rule : Taker}
    (h : next? (make rules values) st (row rules values rule) = none) :
    (st.count st.rule ≠ 0 ∧ rule.multiple = false) ∨
      ∀ value ∈ (texts rules values)[st.value]?, rule.accepts value = false := by
  by_contra hn
  push Not at hn
  obtain ⟨hroom, value, hv, ha⟩ := hn
  have hl : st.value < (candidates rules values).length := by
    rw [← length_texts]
    exact (List.getElem?_eq_some_iff.mp hv).1
  have hs := next?_eq_some.mpr ⟨?_, ⟨value, hv, Bool.eq_true_of_not_eq_false ha⟩,
    List.getElem?_eq_getElem hl⟩
  · rw [h] at hs
    cases hs
  · by_cases h0 : st.count st.rule = 0
    · exact Or.inl h0
    · exact Or.inr (Bool.eq_true_of_not_eq_false (hroom h0))

/-- What holds of a state in which the rules before the current one went the way of the trail, and
the current one took `k` values. `tried` are the restarts up to now. -/
structure Sound (rules : List Taker) (values : List String) (st : Assignment.State) (k : Nat)
    (trail : List Nat) (tried : Finset Restart) : Prop where
  rule : st.rule = trail.length
  value : st.value = (k :: trail).sum
  taken : st.taken.toList = Trail.taken (candidates rules values) (k :: trail)
  counts_length : st.counts.length = rules.length
  count : ∀ r, st.count r = st.taken.toList.countP (·.1 = r)
  checkpoints : st.checkpoints = Trail.stops (k :: trail)
  justified : Justified rules values trail
  current : k = 0 ∨ ∃ rule, rules[trail.length]? = some rule ∧
    rule.Takes ((texts rules values).drop trail.sum) k
  recorded : Recorded rules values trail st.failed st.restarts
  tried_iff : ∀ s, s ∈ tried ↔ Tried st.failed st.restarts s
  tried_lt : ∀ s ∈ tried, s.rule < rules.length ∧ s.value < (candidates rules values).length

namespace Sound

variable {st : Assignment.State} {k : Nat} {trail : List Nat} {tried : Finset Restart}

theorem takes (h : Sound rules values st k trail tried) {rule : Taker}
    (hr : rules[trail.length]? = some rule) :
    rule.Takes ((texts rules values).drop trail.sum) k := by
  rcases h.current with rfl | ⟨other, ho, ht⟩
  · exact .zero
  · rw [hr] at ho
    cases ho
    exact ht

theorem value_le (h : Sound rules values st k trail tried) :
    (k :: trail).sum ≤ (candidates rules values).length := by
  have hs := h.justified.sum_le
  rw [← length_texts, List.sum_cons]
  rcases h.current with rfl | ⟨rule, -, ht⟩
  · omega
  · have hp := ht.present
    rw [List.length_drop] at hp
    omega

/-- The current rule's count is the length of its run. -/
theorem count_rule (h : Sound rules values st k trail tried) : st.count st.rule = k := by
  have hle := h.value_le
  rw [List.sum_cons] at hle
  have hold : (Trail.taken (candidates rules values) trail).countP (·.1 = trail.length) = 0 := by
    rw [List.countP_eq_zero]
    intro t ht
    simpa using (Trail.rule_lt_of_mem_taken ht).ne
  have hnew : ((((candidates rules values).drop trail.sum).take k).map
      fun i => (trail.length, i)).countP (·.1 = trail.length) = k := by
    rw [List.countP_map, List.countP_eq_length.mpr (fun i _ => by simp), List.length_take,
      List.length_drop]
    omega
  rw [h.count, h.taken, h.rule, Trail.taken, List.countP_append, hold, hnew, Nat.zero_add]

theorem initial (rules : List Taker) (values : List String) :
    Sound rules values { counts := rules.map fun _ => 0 } 0 [] ∅ where
  rule := rfl
  value := rfl
  taken := by simp [Trail.taken]
  counts_length := List.length_map _
  count r := by
    simp only [Assignment.State.count, List.getD_eq_getElem?_getD, List.getElem?_map]
    cases rules[r]? <;> rfl
  checkpoints := rfl
  justified := .nil
  current := Or.inl rfl
  recorded := ⟨fun s hs => absurd hs Std.ExtTreeSet.not_mem_empty,
    fun r hr => absurd hr List.not_mem_nil, List.Pairwise.nil⟩
  tried_iff s := by simp [Tried]
  tried_lt s hs := absurd hs (Finset.notMem_empty s)

/-- Taking the next value makes the current run one longer. -/
theorem take (h : Sound rules values st k trail tried) {rule : Taker}
    (hr : rules[trail.length]? = some rule) {i : Nat}
    (hn : next? (make rules values) st (row rules values rule) = some i) :
    Sound rules values (Assignment.take st i) (k + 1) trail tried := by
  obtain ⟨hroom, ⟨value, hv, ha⟩, hi⟩ := next?_eq_some.mp hn
  rw [h.count_rule] at hroom
  have hval := h.value
  rw [List.sum_cons, Nat.add_comm] at hval
  have htaken : (Assignment.take st i).taken.toList =
      Trail.taken (candidates rules values) ((k + 1) :: trail) := by
    have hd : ((candidates rules values).drop trail.sum)[k]? = some i := by
      rw [List.getElem?_drop, ← hval]
      exact hi
    rw [Trail.taken, List.take_add_one, hd, List.map_append, ← List.append_assoc, ← Trail.taken,
      ← h.taken, ← h.rule]
    exact Array.toList_push
  refine ⟨h.rule, ?_, htaken, ?_, ?_, ?_, h.justified, ?_, h.recorded, h.tried_iff, h.tried_lt⟩
  · change st.value + 1 = _
    rw [h.value, List.sum_cons, List.sum_cons]
    omega
  · exact (List.length_modify _ _ _).trans h.counts_length
  · intro r
    have hl : st.rule < st.counts.length := by
      rw [h.counts_length, h.rule]
      exact (List.getElem?_eq_some_iff.mp hr).1
    have hc := h.count r
    change (st.counts.modify st.rule (· + 1)).getD r 0 = (st.taken.push (st.rule, i)).toList.countP _
    change st.counts.getD r 0 = _ at hc
    rw [Array.toList_push, List.countP_append, ← hc]
    simp only [List.getD_eq_getElem?_getD, List.getElem?_modify]
    by_cases he : st.rule = r
    · subst he
      simp [List.getElem?_eq_getElem hl]
    · simp [he]
  -- the first value of a run leaves no checkpoint, each later one does
  · change (if 0 < st.count st.rule then _ else st.checkpoints) = _
    rw [h.count_rule, h.checkpoints]
    cases k with
    | zero => rfl
    | succ k =>
      have hsize : st.taken.size = trail.sum + (k + 1) := by
        rw [← Array.length_toList, h.taken, Trail.length_taken h.value_le, List.sum_cons,
          Nat.add_comm]
      rw [if_pos (Nat.succ_pos k), Trail.stops_cons_succ, h.rule, hval, hsize]
  · refine Or.inr ⟨rule, hr, (h.takes hr).succ ?_ ha hroom⟩
    rw [List.getElem?_drop, ← hval]
    exact hv

/-- Passing to the next rule closes the current run, which could not have been longer. -/
theorem pass (h : Sound rules values st k trail tried) {rule : Taker}
    (hr : rules[trail.length]? = some rule)
    (hn : next? (make rules values) st (row rules values rule) = none)
    (hc : 0 < k ∨ rule.required = false) :
    Sound rules values { st with rule := st.rule + 1 } 0 (k :: trail) tried := by
  have hval := h.value
  rw [List.sum_cons, Nat.add_comm] at hval
  have hstop := next?_eq_none hn
  rw [h.count_rule, hval, ← List.getElem?_drop] at hstop
  have hidle : k = 0 → rule.required = false ∧
      ∀ value ∈ ((texts rules values).drop trail.sum).head?, rule.accepts value = false := by
    intro hx
    subst hx
    refine ⟨hc.resolve_left (Nat.lt_irrefl 0), ?_⟩
    rw [List.head?_eq_getElem?]
    exact hstop.resolve_left fun hk => hk.1 rfl
  -- the run stopped for lack of room or of a value that fits
  have hmore : ∀ d, k < d → ¬ rule.MayTake ((texts rules values).drop trail.sum) d := by
    intro d hd hm
    rcases hstop with ⟨hk, honce⟩ | hnot
    · have := hm.once honce
      omega
    · obtain ⟨value, hv, ha⟩ := hm.accepts_at hd
      rw [hnot value hv] at ha
      cases ha
  have hj : Justified rules values (k :: trail) :=
    .cons h.justified hr ⟨h.takes hr, hidle⟩ fun d hd hm => absurd hm (hmore d hd)
  refine ⟨?_, ?_, ?_, h.counts_length, h.count, h.checkpoints, hj, Or.inl rfl,
    h.recorded.mono (List.suffix_cons k trail), h.tried_iff, h.tried_lt⟩
  · exact congrArg (· + 1) h.rule
  · rw [List.sum_cons (l := k :: trail), Nat.zero_add]
    exact h.value
  · rw [Trail.taken_cons_zero]
    exact h.taken

/-- A rule that requires a value and finds none is at a dead end. -/
theorem starved (h : Sound rules values st 0 trail tried) {rule : Taker}
    (hr : rules[trail.length]? = some rule)
    (hn : next? (make rules values) st (row rules values rule) = none)
    (hq : rule.required = true) : Dead rules values trail.length trail.sum := by
  intro counts hdiv
  obtain ⟨c, more, rfl, hm, -⟩ := Division.cons_inv hr hdiv
  rcases next?_eq_none hn with ⟨hk, -⟩ | hnot
  · exact hk h.count_rule
  · rw [h.value, List.sum_cons, Nat.zero_add] at hnot
    -- a division gives the rule no value, which it requires, or one it does not accept
    rcases Nat.eq_zero_or_pos c with rfl | hpos
    · have hi := (hm.idle rfl).1
      rw [hq] at hi
      cases hi
    · obtain ⟨value, hv, ha⟩ := hm.accepts_at hpos
      rw [List.getElem?_drop, Nat.add_zero] at hv
      rw [hnot value hv] at ha
      cases ha

end Sound

theorem getD_foldl_modify (counts : List Nat) (ts : List (Nat × Nat)) (r : Nat) :
    (ts.foldl (fun counts t => counts.modify t.1 (· - 1)) counts).getD r 0 =
      counts.getD r 0 - ts.countP (·.1 = r) := by
  induction ts generalizing counts with
  | nil => rfl
  | cons t ts ih =>
    rw [List.foldl_cons, ih, List.countP_cons]
    simp only [List.getD_eq_getElem?_getD, List.getElem?_modify]
    by_cases h : t.1 = r
    · cases counts[r]? <;> simp [h, Nat.sub_sub, Nat.add_comm]
    · simp [h]

theorem length_foldl_modify (counts : List Nat) (ts : List (Nat × Nat)) :
    (ts.foldl (fun counts t => counts.modify t.1 (· - 1)) counts).length = counts.length := by
  induction ts generalizing counts with
  | nil => rfl
  | cons t ts ih => rw [List.foldl_cons, ih, List.length_modify]

theorem length_giveBack (st : Assignment.State) (n : Nat) :
    (giveBack st n).counts.length = st.counts.length := by
  rw [giveBack, ← Array.foldl_toList, length_foldl_modify]

theorem taken_giveBack (st : Assignment.State) (n : Nat) :
    (giveBack st n).taken.toList = st.taken.toList.take n := by
  simp [giveBack]

/-- The counts after values were given back are the numbers of those that are left. -/
theorem count_giveBack {st : Assignment.State} {n r : Nat}
    (h : st.count r = st.taken.toList.countP (·.1 = r)) :
    (giveBack st n).count r = (giveBack st n).taken.toList.countP (·.1 = r) := by
  have hsplit : st.taken.toList.countP (·.1 = r) =
      (st.taken.toList.take n).countP (·.1 = r) + (st.taken.toList.drop n).countP (·.1 = r) := by
    rw [← List.countP_append, List.take_append_drop]
  have hcount : (giveBack st n).count r =
      st.count r - (st.taken.toList.drop n).countP (·.1 = r) := by
    have hdrop : (st.taken.drop n).toList = st.taken.toList.drop n := by simp
    rw [Assignment.State.count, giveBack, ← Array.foldl_toList, hdrop, getD_foldl_modify]
    rfl
  rw [hcount, taken_giveBack, h, hsplit, Nat.add_sub_cancel]

/-- What is left when the values above a checkpoint were given back, and with them those behind it in the
run that it is in. -/
theorem Sound.taken_giveBack {st : Assignment.State} {k j : Nat} {upper lower : List Nat}
    {tried : Finset Restart} (h : Sound rules values st 0 (upper ++ j :: lower) tried)
    (hle : k ≤ j) :
    (giveBack st (k :: lower).sum).taken.toList =
      Trail.taken (candidates rules values) (0 :: k :: lower) := by
  have hsum : (upper ++ j :: lower).sum ≤ (candidates rules values).length := by
    simpa using h.value_le
  rw [Query.taken_giveBack, h.taken, Trail.taken_cons_zero, Trail.taken_cons_zero]
  exact Trail.take_taken hle hsum

/-- The rule and the candidate that the search looks at. -/
def Assignment.State.place (st : Assignment.State) : Restart := ⟨st.rule, st.value⟩

/-- The state in which the search goes on when it has fallen back. -/
def Assignment.State.resume (st : Assignment.State)
    (found : Checkpoint × List Checkpoint × Std.ExtTreeSet Restart Restart.order ×
      List (Restart × Nat)) : Assignment.State :=
  let start : Restart := ⟨found.1.rule + 1, found.1.value⟩
  { giveBack st found.1.taken with
    rule := start.rule, value := start.value, checkpoints := found.2.1, failed := found.2.2.1,
    restarts := (start, found.2.1.length) :: found.2.2.2 }

/-- What follows on falling back: the search goes on from what it found, or it ends. -/
def Assignment.State.restartAt (st : Assignment.State) :
    Option (Checkpoint × List Checkpoint × Std.ExtTreeSet Restart Restart.order ×
      List (Restart × Nat)) → Outcome
  | none => .none
  | some found => .more (st.resume found)

theorem Assignment.restart_eq (st : Assignment.State) :
    Assignment.restart st = st.restartAt
      (Assignment.fallBack? st.failed st.restarts st.checkpoints.length st.checkpoints) := by
  rw [Assignment.restart]
  cases Assignment.fallBack? st.failed st.restarts st.checkpoints.length st.checkpoints with
  | none => rfl
  | some found => rfl

/-- Falling back leads to a state that goes together with what is left of the trail. -/
theorem Sound.resume {st : Assignment.State} {trail lower : List Nat} {tried tried' : Finset Restart}
    {failed : Std.ExtTreeSet Restart Restart.order} {restarts : List (Restart × Nat)}
    {found : Checkpoint × List Checkpoint × Std.ExtTreeSet Restart Restart.order ×
      List (Restart × Nat)} {k : Nat}
    (h : Sound rules values st 0 trail tried) (hl : trail.length < rules.length)
    (hres : Resumed rules values trail failed restarts found k lower)
    (htried : ∀ s, s ∈ tried' ↔ Tried failed restarts s) (hsub : tried' ⊆ tried) :
    Sound rules values (st.resume found) 0 ((k + 1) :: lower)
      (insert (st.resume found).place tried') := by
  obtain ⟨c, earlier, failed', restarts'⟩ := found
  obtain ⟨upper, j, rfl, hlt⟩ := hres.cut
  have hpoint := hres.point
  have hearlier := hres.earlier
  dsimp only at hpoint hearlier
  subst hpoint hearlier
  have hle := h.value_le
  have htaken := h.taken_giveBack hlt.le
  have hin : lower.length + 1 < rules.length ∧
      ((k + 1) :: lower).sum < (candidates rules values).length := by
    rw [List.sum_cons, List.sum_append, List.sum_cons] at hle
    rw [List.length_append, List.length_cons] at hl
    rw [List.sum_cons]
    omega
  refine ⟨rfl, (Nat.zero_add _).symm, htaken, ?_, fun r => count_giveBack (h.count r), rfl,
    hres.justified, Or.inl rfl, hres.recorded_cons, ?_, ?_⟩
  · exact (length_giveBack _ _).trans h.counts_length
  · intro s
    rw [Finset.mem_insert, htried, ← hres.tried, Tried, Tried, Assignment.State.resume, List.map_cons,
      List.mem_cons]
    exact or_left_comm
  · intro s hs
    rcases Finset.mem_insert.mp hs with rfl | hs
    · exact hin
    · exact h.tried_lt s (hsub hs)

/-- Starting again from a dead end goes to a restart that was not tried before, or shows that there
is no division. -/
theorem Sound.restart {st : Assignment.State} {trail : List Nat} {tried : Finset Restart}
    (h : Sound rules values st 0 trail tried) (hl : trail.length < rules.length)
    (hstuck : Stuck rules values trail st.failed st.restarts) :
    match Assignment.restart st with
    | .none => Dead rules values 0 0
    | .assigned _ => False
    | .more st' => st'.place ∉ tried ∧
        ∃ trail', Sound rules values st' 0 trail' (insert st'.place tried) := by
  have hspec := hstuck.fallBack?_spec
  rw [Assignment.restart_eq, h.checkpoints, Trail.stops_cons_zero]
  cases hf : Assignment.fallBack? st.failed st.restarts (Trail.stops trail).length
    (Trail.stops trail) with
  | none =>
    rw [hf] at hspec
    exact hspec
  | some found =>
    rw [hf] at hspec
    obtain ⟨k, lower, hres⟩ := hspec
    have hplace : (st.resume found).place = ⟨lower.length + 1, ((k + 1) :: lower).sum⟩ := by
      rw [Assignment.State.place, Assignment.State.resume, hres.point]
    refine ⟨?_, (k + 1) :: lower, h.resume hl hres h.tried_iff Finset.Subset.rfl⟩
    rw [hplace, h.tried_iff]
    exact hres.not_tried

/-- The current rule requires a value, has none and finds none. -/
def Assignment.Starved (a : Assignment) (st : Assignment.State) : Prop :=
  ∃ rule, a.rules[st.rule]? = some rule ∧ a.next? st rule = none ∧ st.count st.rule = 0 ∧
    rule.required = true

instance (a : Assignment) (st : Assignment.State) : Decidable (a.Starved st) :=
  inferInstanceAs (Decidable (∃ rule, rule ∈ a.rules[st.rule]? ∧ a.next? st rule = none ∧
    st.count st.rule = 0 ∧ rule.required = true))

/-- A step goes forward, or a rule is starved and the search starts again where it has not before. -/
def Progress (a : Assignment) (st st' : Assignment.State) (tried tried' : Finset Restart) : Prop :=
  (¬ a.Starved st ∧ tried' = tried ∧ st'.rule + st'.value = st.rule + st.value + 1) ∨
    (a.Starved st ∧ st'.place ∉ tried ∧ tried' = insert st'.place tried)

theorem Sound.starved_iff {st : Assignment.State} {k : Nat} {trail : List Nat}
    {tried : Finset Restart} (h : Sound rules values st k trail tried) {rule : Taker}
    (hr : rules[trail.length]? = some rule) :
    Assignment.Starved (make rules values) st ↔
      next? (make rules values) st (row rules values rule) = none ∧ k = 0 ∧
        rule.required = true := by
  rw [Assignment.Starved, h.count_rule, make_rules, h.rule, hr]
  simp [row]

/-- A starved rule is one that took nothing, and the search is at a dead end. -/
theorem Sound.stuck {st : Assignment.State} {k : Nat} {trail : List Nat} {tried : Finset Restart}
    (h : Sound rules values st k trail tried) (hs : Assignment.Starved (make rules values) st) :
    k = 0 ∧ trail.length < rules.length ∧
      Stuck rules values trail st.failed st.restarts := by
  have hrule : ∃ rule, rules[trail.length]? = some rule := by
    obtain ⟨_, hrow, -⟩ := hs
    rw [make_rules, h.rule] at hrow
    obtain ⟨rule, hr, -⟩ := Option.map_eq_some_iff.mp hrow
    exact ⟨rule, hr⟩
  obtain ⟨rule, hr⟩ := hrule
  obtain ⟨hn, rfl, hq⟩ := (h.starved_iff hr).mp hs
  exact ⟨rfl, (List.getElem?_eq_some_iff.mp hr).1, h.justified, h.starved hr hn hq, h.recorded⟩

/-- A starved rule makes the search start again. -/
theorem Assignment.step_of_starved {a : Assignment} {st : Assignment.State} (h : a.Starved st) :
    a.step st = Assignment.restart st := by
  obtain ⟨rule, hr, hn, hc, hq⟩ := h
  rw [Assignment.step, hr]
  dsimp only
  rw [hn, hc, hq]
  rfl

/-- What a step leads to if no rule is starved: the current rule takes a value, or it is left behind. -/
theorem Sound.forward {st : Assignment.State} {k : Nat} {trail : List Nat} {tried : Finset Restart}
    (h : Sound rules values st k trail tried)
    (hfed : ¬ Assignment.Starved (make rules values) st) :
    match Assignment.step (make rules values) st with
    | .none => False
    | .assigned taken => k = 0 ∧ trail.length = rules.length ∧ taken = st.taken
    | .more st' => st'.failed = st.failed ∧ st'.rule + st'.value = st.rule + st.value + 1 ∧
        (Sound rules values st' (k + 1) trail tried ∨ Sound rules values st' 0 (k :: trail) tried) := by
  rw [Assignment.step, make_rules]
  -- the cases follow the branches of the step: the end, a value, the next rule, and no restart
  cases hr : rules[st.rule]? with
  | none =>
    rw [h.rule] at hr
    have hlen : trail.length = rules.length :=
      Nat.le_antisymm h.justified.length_le (List.getElem?_eq_none_iff.mp hr)
    refine ⟨?_, hlen, rfl⟩
    rcases h.current with hk | ⟨rule, hs, -⟩
    · exact hk
    · rw [hr] at hs
      cases hs
  | some rule =>
    rw [h.rule] at hr
    rw [h.starved_iff hr] at hfed
    rw [Option.map_some]
    dsimp only
    cases hn : next? (make rules values) st (row rules values rule) with
    | some i => exact ⟨rfl, rfl, Or.inl (h.take hr hn)⟩
    | none =>
      -- without a next value a rule is left behind, unless it requires one and has none
      have hc : 0 < k ∨ rule.required = false := by
        by_contra hc
        push Not at hc
        exact hfed ⟨hn, Nat.le_zero.mp hc.1, Bool.eq_true_of_not_eq_false hc.2⟩
      have hif : (decide (0 < k) || !(row rules values rule).required) = true := by
        simpa [row] using hc
      dsimp only
      rw [h.count_rule, if_pos hif]
      exact ⟨rfl, Nat.add_right_comm _ _ _, Or.inr (h.pass hr hn hc)⟩

/-- What a step of the search leads to. -/
theorem Sound.step {st : Assignment.State} {k : Nat} {trail : List Nat} {tried : Finset Restart}
    (h : Sound rules values st k trail tried) :
    match Assignment.step (make rules values) st with
    | .none => Dead rules values 0 0
    | .assigned taken => k = 0 ∧ trail.length = rules.length ∧ taken = st.taken
    | .more st' => ∃ k' trail' tried', Sound rules values st' k' trail' tried' ∧
        Progress (make rules values) st st' tried tried' := by
  by_cases hs : Assignment.Starved (make rules values) st
  · obtain ⟨rfl, hl, hstuck⟩ := h.stuck hs
    have hres := h.restart hl hstuck
    rw [Assignment.step_of_starved hs]
    revert hres
    cases Assignment.restart st with
    | none => exact id
    | assigned _ => exact False.elim
    | more st' =>
      intro hx
      obtain ⟨hfresh, trail', hsound⟩ := hx
      exact ⟨0, trail', insert st'.place tried, hsound, Or.inr ⟨hs, hfresh, rfl⟩⟩
  · have hgo := h.forward hs
    revert hgo
    cases Assignment.step (make rules values) st with
    | none => exact False.elim
    | assigned taken => exact id
    | more st' =>
      intro hx
      obtain ⟨-, hsum, hsound | hsound⟩ := hx
      · exact ⟨k + 1, trail, tried, hsound, Or.inl ⟨hs, rfl, hsum⟩⟩
      · exact ⟨0, k :: trail, tried, hsound, Or.inl ⟨hs, rfl, hsum⟩⟩

/-- There are no more restarts than pairs of a rule and a candidate. -/
theorem Sound.card_tried_le {st : Assignment.State} {k : Nat} {trail : List Nat}
    {tried : Finset Restart} (h : Sound rules values st k trail tried) :
    tried.card ≤ rules.length * (candidates rules values).length := by
  -- a restart is its pair of a rule and a candidate
  have hinj : Set.InjOn (fun s : Restart => (s.rule, s.value)) tried := by
    rintro ⟨r, v⟩ - ⟨r', v'⟩ - he
    cases he
    rfl
  have hcard := Finset.card_le_card_of_injOn
    (t := Finset.range rules.length ×ˢ Finset.range (candidates rules values).length) _
    (fun s hs => Finset.mem_coe.mpr (Finset.mem_product.mpr
      ⟨Finset.mem_range.mpr (h.tried_lt s hs).1, Finset.mem_range.mpr (h.tried_lt s hs).2⟩)) hinj
  rwa [Finset.card_product, Finset.card_range, Finset.card_range] at hcard

theorem Sound.rule_add_value_le {st : Assignment.State} {k : Nat} {trail : List Nat}
    {tried : Finset Restart} (h : Sound rules values st k trail tried) :
    st.rule + st.value ≤ rules.length + (candidates rules values).length := by
  have hr := h.justified.length_le
  have hv := h.value_le
  rw [h.rule, h.value]
  omega

/-- How many steps the search can still make at most. -/
def stepsLeft (rules : List Taker) (values : List String) (st : Assignment.State)
    (tried : Finset Restart) : Nat :=
  let n := rules.length
  let m := (candidates rules values).length
  (n * m - tried.card) * (n + m + 1) + (n + m - (st.rule + st.value))

/-- Each step lowers the number of steps that are left. -/
theorem Sound.stepsLeft_lt {st st' : Assignment.State} {k k' : Nat} {trail trail' : List Nat}
    {tried tried' : Finset Restart} (h : Sound rules values st k trail tried)
    (h' : Sound rules values st' k' trail' tried')
    (hprogress : Progress (make rules values) st st' tried tried') :
    stepsLeft rules values st' tried' < stepsLeft rules values st tried := by
  have hle := h.rule_add_value_le
  have hle' := h'.rule_add_value_le
  have hcard := h'.card_tried_le
  rw [stepsLeft, stepsLeft]
  rcases hprogress with ⟨-, rfl, hgo⟩ | ⟨-, hfresh, rfl⟩
  · omega
  -- a new restart costs one of the pairs, which pays for a whole way through rules and values
  · rw [Finset.card_insert_of_notMem hfresh] at hcard ⊢
    obtain ⟨d, hd⟩ := Nat.exists_eq_add_of_le hcard
    rw [hd, Nat.add_sub_cancel_left, show tried.card + 1 + d - tried.card = d + 1 by omega,
      Nat.add_mul]
    omega

/-- What a search has to answer: the values of a trail on which no rule could have taken more, or nothing if
there is no division. -/
def Answers (rules : List Taker) (values : List String) : Option (Array (Nat × Nat)) → Prop
  | none => Dead rules values 0 0
  | some taken => ∃ trail, Justified rules values trail ∧ trail.length = rules.length ∧
      taken.toList = Trail.taken (candidates rules values) trail

/-- There is only one answer. -/
theorem Answers.unique {out out' : Option (Array (Nat × Nat))} (h : Answers rules values out)
    (h' : Answers rules values out') : out = out' := by
  cases out with
  | none =>
    cases out' with
    | none => rfl
    | some taken' =>
      obtain ⟨trail, hj, hl, -⟩ := h'
      exact absurd (hj.division_of_length_eq hl) (h _)
  | some taken =>
    obtain ⟨trail, hj, hl, htaken⟩ := h
    cases out' with
    | none => exact absurd (hj.division_of_length_eq hl) (h' _)
    | some taken' =>
      obtain ⟨trail', hj', hl', htaken'⟩ := h'
      obtain rfl := hj.unique hl hj' hl'
      exact congrArg some (Array.toList_inj.mp (htaken.trans htaken'.symm))

/-- With enough steps the search ends, with an answer. -/
theorem Sound.run {st : Assignment.State} {k : Nat} {trail : List Nat} {tried : Finset Restart}
    (h : Sound rules values st k trail tried) {fuel : Nat}
    (hf : stepsLeft rules values st tried < fuel) :
    Answers rules values (Assignment.run (make rules values) fuel st) := by
  -- each step lowers the number of steps that are left
  induction fuel generalizing st k trail tried with
  | zero => exact absurd hf (Nat.not_lt_zero _)
  | succ fuel ih =>
    have hstep := h.step
    rw [Assignment.run]
    revert hstep
    cases Assignment.step (make rules values) st with
    | none => exact id
    | assigned taken =>
      intro hx
      obtain ⟨rfl, hlen, rfl⟩ := hx
      refine ⟨trail, h.justified, hlen, ?_⟩
      rw [h.taken, Trail.taken_cons_zero]
    | more st' =>
      intro hx
      obtain ⟨k', trail', tried', hsound, hprogress⟩ := hx
      have hlt := h.stepsLeft_lt hsound hprogress
      exact ih hsound (by omega)

theorem stepsLeft_initial_lt (rules : List Taker) (values : List String) :
    stepsLeft rules values { counts := rules.map fun _ => 0 } ∅ < enough (make rules values) := by
  have hn : (make rules values).rules.size = rules.length := by simp [make]
  have hm : (make rules values).candidates.size = (candidates rules values).length := by simp [make]
  rw [stepsLeft, enough, hn, hm, Finset.card_empty, Nat.sub_zero, Nat.add_mul _ 1]
  exact Nat.add_lt_add_left (by omega) _

/-- The assignment gives each rule its run under the greatest division, in the order that looks at
the first rule first; there is none only if there is no division. -/
theorem assign?_eq_greatest_division (rules : List Taker) (values : List String) :
    (assign? rules values = none ↔ ∀ counts, ¬ Division rules (texts rules values) counts) ∧
    ∀ runs, assign? rules values = some runs → ∃ counts,
      Division rules (texts rules values) counts ∧
      (∀ other, Division rules (texts rules values) other →
        other = counts ∨ List.Lex (· < ·) other counts) ∧
      runs = counts.splitLengths (candidates rules values) ∧
      runs.flatten <+: candidates rules values ∧
      ∀ run ∈ runs, ∀ i ∈ run, i < values.length := by
  have hrun := (Sound.initial rules values).run (stepsLeft_initial_lt rules values)
  revert hrun
  rw [assign?]
  cases Assignment.run (make rules values) (enough (make rules values))
    { counts := rules.map fun _ => 0 } with
  | none =>
    intro hdead
    refine ⟨⟨fun _ => hdead, fun _ => rfl⟩, ?_⟩
    intro runs h
    cases h
  | some taken =>
    intro hx
    obtain ⟨trail, hj, hlen, htaken⟩ := hx
    -- nothing is left for rules behind the last, so that the trail is a division
    have hend : Division (rules.drop trail.length) ((texts rules values).drop trail.sum) [] := by
      rw [hlen, List.drop_length]
      exact .nil _
    have hdiv := hj.division hend
    rw [List.append_nil] at hdiv
    have hruns : ((List.range rules.length).map fun r =>
        (taken.toList.filter (·.1 = r)).map (·.2)) =
        trail.reverse.splitLengths (candidates rules values) := by
      rw [htaken, ← hlen, Trail.runs_taken]
    refine ⟨⟨fun h => ?_, fun h => absurd hdiv (h _)⟩, ?_⟩
    · cases h
    · intro runs h
      obtain rfl := hruns.symm.trans (Option.some.inj h)
      have hpre : (trail.reverse.splitLengths (candidates rules values)).flatten <+:
          candidates rules values := by
        rw [flatten_splitLengths_eq_take]
        exact List.take_prefix _ _
      refine ⟨trail.reverse, hdiv, ?_, rfl, hpre, ?_⟩
      · intro other hother
        -- a division that goes on from the whole trail has nothing to add
        rcases hj.extends_or_lt hother with ⟨more, rfl, hmore⟩ | hlt
        · rw [hlen, List.drop_length] at hmore
          cases hmore
          exact Or.inl (List.append_nil _)
        · exact Or.inr hlt
      · intro run hrun i hi
        exact lt_of_mem_candidates (hpre.subset (List.mem_flatten.mpr ⟨run, hrun, hi⟩))

/-- What is assigned are the runs of a trail through all rules. Nothing is assigned only if there is no
division. -/
theorem assign?_spec (rules : List Taker) (values : List String) :
    match assign? rules values with
    | none => Dead rules values 0 0
    | some runs => ∃ trail, Justified rules values trail ∧ trail.length = rules.length ∧
        runs = trail.reverse.splitLengths (candidates rules values) := by
  have hrun := (Sound.initial rules values).run (stepsLeft_initial_lt rules values)
  revert hrun
  rw [assign?]
  cases Assignment.run (make rules values) (enough (make rules values))
    { counts := rules.map fun _ => 0 } with
  | none => exact id
  | some taken =>
    intro hx
    obtain ⟨trail, hj, hlen, htaken⟩ := hx
    refine ⟨trail, hj, hlen, ?_⟩
    dsimp only
    rw [htaken, ← hlen]
    exact Trail.runs_taken _ _

theorem length_of_assign? {rules : List Taker} {values : List String} {runs : List (List Nat)}
    (h : assign? rules values = some runs) : runs.length = rules.length := by
  rw [assign?] at h
  obtain ⟨taken, -, rfl⟩ := Option.map_eq_some_iff.mp h
  rw [List.length_map, List.length_range]

/-- Values that are assigned are values of the query. -/
theorem lt_of_mem_assign? {rules : List Taker} {values : List String} {runs : List (List Nat)}
    (h : assign? rules values = some runs) {run : List Nat} (hrun : run ∈ runs) {i : Nat}
    (hi : i ∈ run) : i < values.length := by
  have hspec := assign?_spec rules values
  rw [h] at hspec
  obtain ⟨trail, -, -, rfl⟩ := hspec
  have hflatten : i ∈ (trail.reverse.splitLengths (candidates rules values)).flatten :=
    List.mem_flatten.mpr ⟨run, hrun, hi⟩
  rw [flatten_splitLengths_eq_take] at hflatten
  exact lt_of_mem_candidates (List.mem_of_mem_take hflatten)

/-- Rules that need not take any value never fail to get what they require. -/
theorem assign?_isSome_of_optional {rules : List Taker} (h : ∀ rule ∈ rules, rule.required = false)
    (values : List String) : (assign? rules values).isSome = true := by
  have hspec := assign?_spec rules values
  cases hassigned : assign? rules values with
  | none =>
    rw [hassigned] at hspec
    obtain ⟨counts, hcounts⟩ := Division.exists_of_optional h (texts rules values)
    exact absurd hcounts (hspec counts)
  | some runs => rfl

end RoutePattern.Query
