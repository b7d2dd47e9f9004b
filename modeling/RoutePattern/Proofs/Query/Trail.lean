import RoutePattern.Proofs.Query.Division

/-! Trails: the numbers of values that the rules took so far, the latest rule first. A trail fixes
the values taken and the checkpoints that are left, so that a state of the search is known by its
trail. -/
namespace RoutePattern.Query

/-- Whether a checkpoint stands at a value that its rule took, when it had taken another one before. -/
structure Checkpoint.Stands (c : Checkpoint) (taken : List (Nat × Nat)) : Prop where
  value : c.value = c.taken
  owned : ∃ i, taken[c.taken]? = some (c.rule, i)
  earlier : ∃ t < c.taken, ∃ i, taken[t]? = some (c.rule, i)

namespace Trail

/-- The checkpoints of a rule that took `k` values from candidate `start` on, the latest first. -/
def stopsOf (rule start : Nat) : Nat → List Checkpoint
  | 0 | 1 => []
  | k + 2 => ⟨rule, start + (k + 1), start + (k + 1)⟩ :: stopsOf rule start (k + 1)

/-- The checkpoints of a trail, the latest first. -/
def stops : List Nat → List Checkpoint
  | [] => []
  | k :: trail => stopsOf trail.length trail.sum k ++ stops trail

/-- What the rules of a trail took of the candidates, in order. -/
def taken (candidates : List Nat) : List Nat → List (Nat × Nat)
  | [] => []
  | k :: trail =>
    taken candidates trail ++
      ((candidates.drop trail.sum).take k).map fun i => (trail.length, i)

variable {trail lower upper : List Nat} {candidates : List Nat} {k : Nat}

theorem stops_cons_zero : stops (0 :: trail) = stops trail := rfl

theorem stops_cons_one : stops (1 :: trail) = stops trail := rfl

theorem stops_cons_succ :
    stops ((k + 2) :: trail) =
      ⟨trail.length, trail.sum + (k + 1), trail.sum + (k + 1)⟩ :: stops ((k + 1) :: trail) := rfl

theorem stops_of_le_one (hk : k ≤ 1) : stops (k :: trail) = stops trail := by
  obtain rfl | rfl : k = 0 ∨ k = 1 := by omega
  · exact stops_cons_zero
  · exact stops_cons_one

theorem stops_suffix_cons : stops trail <:+ stops (k :: trail) :=
  List.suffix_append _ _

theorem stops_suffix (h : lower <:+ trail) : stops lower <:+ stops trail := by
  obtain ⟨upper, rfl⟩ := h
  induction upper with
  | nil => exact List.suffix_refl _
  | cons k upper ih => exact ih.trans stops_suffix_cons

/-- Runs of one value at most have no checkpoints. -/
theorem stops_append_of_le_one (h : ∀ k ∈ upper, k ≤ 1) :
    stops (upper ++ lower) = stops lower := by
  induction upper with
  | nil => rfl
  | cons k upper ih =>
    rw [List.cons_append, stops_of_le_one (h k List.mem_cons_self)]
    exact ih fun j hj => h j (List.mem_cons_of_mem k hj)

/-- As many checkpoints above a trail as at its end mean that only single values were taken
since. -/
theorem le_one_of_length_stops_le
    (h : (stops (upper ++ lower)).length ≤ (stops lower).length) : ∀ k ∈ upper, k ≤ 1 := by
  induction upper with
  | nil => exact fun k hk => absurd hk List.not_mem_nil
  | cons k upper ih =>
    have hup : (stops lower).length ≤ (stops (upper ++ lower)).length :=
      (stops_suffix (List.suffix_append upper lower)).length_le
    have hk : k ≤ 1 := by
      by_contra hn
      obtain ⟨j, rfl⟩ : ∃ j, k = j + 2 := ⟨k - 2, by omega⟩
      have hsuffix : stops (upper ++ lower) <:+ stops ((j + 1) :: (upper ++ lower)) :=
        stops_suffix_cons
      have hj := hsuffix.length_le
      rw [List.cons_append, stops_cons_succ, List.length_cons] at h
      omega
    rw [List.cons_append, stops_of_le_one hk] at h
    intro j hj
    rcases List.mem_cons.mp hj with rfl | hj
    · exact hk
    · exact ih h j hj

/-- Without checkpoints only single values were taken. -/
theorem le_one_of_stops_eq_nil (h : stops trail = []) : ∀ k ∈ trail, k ≤ 1 := by
  have hl : (stops (trail ++ [])).length ≤ (stops []).length := by
    rw [List.append_nil, h]
    exact Nat.zero_le _
  exact le_one_of_length_stops_le hl

/-- The latest checkpoint belongs to the last rule that took several values, and lies before the
last of them. -/
theorem stops_eq_cons {c : Checkpoint} {earlier : List Checkpoint}
    (h : stops trail = c :: earlier) :
    ∃ upper k lower, trail = upper ++ (k + 2) :: lower ∧ (∀ j ∈ upper, j ≤ 1) ∧
      c = ⟨lower.length, ((k + 1) :: lower).sum, ((k + 1) :: lower).sum⟩ ∧
      earlier = stops ((k + 1) :: lower) := by
  -- rules that took one value at most leave no checkpoint and are passed over
  induction trail with
  | nil => cases h
  | cons k trail ih =>
    by_cases hk : k ≤ 1
    · rw [stops_of_le_one hk] at h
      obtain ⟨upper, j, lower, rfl, hu, hc, he⟩ := ih h
      refine ⟨k :: upper, j, lower, rfl, ?_, hc, he⟩
      intro i hi
      rcases List.mem_cons.mp hi with rfl | hi
      · exact hk
      · exact hu i hi
    · obtain ⟨j, rfl⟩ : ∃ j, k = j + 2 := ⟨k - 2, by omega⟩
      rw [stops_cons_succ] at h
      obtain ⟨hc, he⟩ := List.cons.inj h
      refine ⟨[], j, trail, rfl, fun i hi => absurd hi List.not_mem_nil, ?_, he.symm⟩
      rw [← hc, List.sum_cons, Nat.add_comm]

theorem taken_cons_zero : taken candidates (0 :: trail) = taken candidates trail := by
  rw [taken, List.take_zero, List.map_nil, List.append_nil]

theorem length_taken (h : trail.sum ≤ candidates.length) :
    (taken candidates trail).length = trail.sum := by
  induction trail with
  | nil => rfl
  | cons k trail ih =>
    rw [List.sum_cons] at h
    rw [taken, List.length_append, ih (by omega), List.length_map, List.length_take,
      List.length_drop, List.sum_cons]
    omega

theorem taken_prefix (h : lower <:+ trail) : taken candidates lower <+: taken candidates trail := by
  obtain ⟨upper, rfl⟩ := h
  induction upper with
  | nil => exact List.prefix_refl _
  | cons k upper ih => exact ih.trans (List.prefix_append _ _)

/-- What was taken up to a checkpoint is what its trail took. -/
theorem take_taken {j : Nat} (hj : j ≤ k) (hs : (upper ++ k :: lower).sum ≤ candidates.length) :
    (taken candidates (upper ++ k :: lower)).take (j :: lower).sum =
      taken candidates (j :: lower) := by
  rw [List.sum_append, List.sum_cons] at hs
  -- both runs begin alike, so that the shorter one is a beginning of all that was taken
  have hp : taken candidates (j :: lower) <+: taken candidates (k :: lower) := by
    rw [taken, taken, List.prefix_append_right_inj]
    exact (List.take_prefix_take_left hj).map _
  have hup : taken candidates (k :: lower) <+: taken candidates (upper ++ k :: lower) :=
    taken_prefix (List.suffix_append upper (k :: lower))
  have hq := hp.trans hup
  have hlen : (taken candidates (j :: lower)).length = (j :: lower).sum :=
    length_taken (by rw [List.sum_cons]; omega)
  rw [← hlen]
  exact (List.prefix_iff_eq_take.mp hq).symm

theorem rule_lt_of_mem_taken {t : Nat × Nat} (h : t ∈ taken candidates trail) :
    t.1 < trail.length := by
  induction trail with
  | nil => cases h
  | cons k trail ih =>
    rw [List.length_cons]
    rcases List.mem_append.mp h with h | h
    · exact (ih h).trans (Nat.lt_succ_self _)
    · obtain ⟨i, _, rfl⟩ := List.mem_map.mp h
      exact Nat.lt_succ_self _

/-- Of a rule's run, the rule itself gets all and another rule nothing. -/
theorem run_of_rule (rule r : Nat) (run : List Nat) :
    ((run.map fun i => (rule, i)).filter (·.1 = r)).map (·.2) = if rule = r then run else [] := by
  rw [List.filter_map, List.map_map]
  split
  next h => simp [Function.comp_def, h]
  next h => simp [Function.comp_def, h]

/-- Sorting what was taken by rule cuts the candidates into the runs of the trail. -/
theorem runs_taken (candidates trail : List Nat) :
    ((List.range trail.length).map fun r =>
      ((taken candidates trail).filter (·.1 = r)).map (·.2)) =
      trail.reverse.splitLengths candidates := by
  induction trail with
  | nil => simp
  | cons k trail ih =>
    -- the latest run has the highest rule, and no earlier rule has a part of it
    have hold : ∀ r ∈ List.range trail.length,
        ((taken candidates (k :: trail)).filter (·.1 = r)).map (·.2) =
          ((taken candidates trail).filter (·.1 = r)).map (·.2) := by
      intro r hr
      rw [taken, List.filter_append, List.map_append, run_of_rule,
        if_neg (List.mem_range.mp hr).ne', List.append_nil]
    have hnone : (taken candidates trail).filter (·.1 = trail.length) = [] := by
      rw [List.filter_eq_nil_iff]
      intro t ht
      simpa using (rule_lt_of_mem_taken ht).ne
    have hnew : ((taken candidates (k :: trail)).filter (·.1 = trail.length)).map (·.2) =
        (candidates.drop trail.sum).take k := by
      rw [taken, List.filter_append, List.map_append, run_of_rule, if_pos rfl, hnone,
        List.map_nil, List.nil_append]
    rw [List.length_cons, List.range_succ, List.map_append, List.map_congr_left hold, ih,
      List.map_singleton, hnew, List.reverse_cons, splitLengths_concat, List.sum_reverse]

section Entries

variable {c : Checkpoint} {rule start : Nat}

/-- A trail takes the first candidates, in order. -/
theorem map_snd_taken : (taken candidates trail).map (·.2) = candidates.take trail.sum := by
  induction trail with
  | nil => rfl
  | cons k trail ih =>
    have hrun : (((candidates.drop trail.sum).take k).map fun i => (trail.length, i)).map (·.2) =
        (candidates.drop trail.sum).take k := by
      rw [List.map_map]
      exact List.map_id _
    rw [taken, List.map_append, ih, hrun, List.sum_cons, Nat.add_comm k, List.take_add]

/-- The rules take their runs one after another. -/
theorem pairwise_taken : (taken candidates trail).Pairwise fun s t => s.1 ≤ t.1 := by
  induction trail with
  | nil => exact List.Pairwise.nil
  | cons k trail ih =>
    rw [taken, List.pairwise_append]
    refine ⟨ih, ?_, fun s hs t ht => ?_⟩
    · rw [List.pairwise_map]
      exact List.pairwise_of_forall fun _ _ => Nat.le_refl _
    · obtain ⟨i, -, rfl⟩ := List.mem_map.mp ht
      exact (rule_lt_of_mem_taken hs).le

/-- A run holds values of its own rule. -/
theorem exists_getElem?_taken {j : Nat} (h : (upper ++ k :: lower).sum ≤ candidates.length) (hj : j < k) :
    ∃ i, (taken candidates (upper ++ k :: lower))[lower.sum + j]? = some (lower.length, i) := by
  rw [List.sum_append, List.sum_cons] at h
  have hlength : (taken candidates lower).length = lower.sum := length_taken (by omega)
  have hrun : lower.sum + j < candidates.length := by omega
  have hentry : (taken candidates (k :: lower))[lower.sum + j]? =
      some (lower.length, candidates[lower.sum + j]) := by
    rw [taken, List.getElem?_append_right (by omega), hlength, Nat.add_sub_cancel_left,
      List.getElem?_map, List.getElem?_take_of_lt hj, List.getElem?_drop, List.getElem?_eq_getElem hrun]
    rfl
  have hprefix : taken candidates (k :: lower) <+: taken candidates (upper ++ k :: lower) :=
    taken_prefix (List.suffix_append upper (k :: lower))
  obtain ⟨more, hmore⟩ := hprefix
  rw [← hmore, List.getElem?_append_left (List.getElem?_eq_some_iff.mp hentry).1]
  exact ⟨_, hentry⟩

/-- A rule that took `k` values could have stopped behind each of them but the last. -/
theorem mem_stopsOf_iff : c ∈ stopsOf rule start k ↔
    ∃ j, 0 < j ∧ j < k ∧ c = ⟨rule, start + j, start + j⟩ := by
  induction k with
  | zero => exact ⟨nofun, fun ⟨j, _, hj, _⟩ => absurd hj (Nat.not_lt_zero j)⟩
  | succ k ih =>
    cases k with
    | zero => exact ⟨nofun, fun ⟨j, hpos, hj, _⟩ => by omega⟩
    | succ k =>
      rw [stopsOf, List.mem_cons, ih]
      constructor
      · rintro (rfl | ⟨j, hpos, hj, rfl⟩)
        · exact ⟨k + 1, Nat.succ_pos k, Nat.lt_succ_self _, rfl⟩
        · exact ⟨j, hpos, Nat.lt_succ_of_lt hj, rfl⟩
      · rintro ⟨j, hpos, hj, rfl⟩
        rcases Nat.lt_or_eq_of_le (Nat.le_of_lt_succ hj) with hlt | rfl
        · exact Or.inr ⟨j, hpos, hlt, rfl⟩
        · exact Or.inl rfl

/-- A checkpoint of a trail lies within the run of its rule, behind its first value. -/
theorem exists_of_mem_stops (h : c ∈ stops trail) : ∃ upper k lower j, trail = upper ++ k :: lower ∧
    0 < j ∧ j < k ∧ c = ⟨lower.length, lower.sum + j, lower.sum + j⟩ := by
  induction trail with
  | nil => cases h
  | cons k trail ih =>
    rcases List.mem_append.mp h with h | h
    · obtain ⟨j, hpos, hj, rfl⟩ := mem_stopsOf_iff.mp h
      exact ⟨[], k, trail, j, rfl, hpos, hj, rfl⟩
    · obtain ⟨upper, i, lower, j, rfl, hpos, hj, rfl⟩ := ih h
      exact ⟨k :: upper, i, lower, j, rfl, hpos, hj, rfl⟩

theorem taken_lt_of_mem_stops (h : c ∈ stops trail) : c.taken < trail.sum := by
  obtain ⟨upper, k, lower, j, rfl, -, hj, rfl⟩ := exists_of_mem_stops h
  rw [List.sum_append, List.sum_cons]
  change lower.sum + j < _
  omega

theorem stands_of_mem_stops (h : c ∈ stops trail) (hs : trail.sum ≤ candidates.length) :
    c.Stands (taken candidates trail) := by
  obtain ⟨upper, k, lower, j, rfl, hpos, hj, rfl⟩ := exists_of_mem_stops h
  obtain ⟨j, rfl⟩ : ∃ n, j = n + 1 := ⟨j - 1, by omega⟩
  exact ⟨rfl, exists_getElem?_taken hs hj, lower.sum + j, Nat.lt_succ_self _,
    exists_getElem?_taken hs (Nat.lt_of_succ_lt hj)⟩

/-- The checkpoints of a trail are further and further back. -/
theorem pairwise_stops : (stops trail).Pairwise fun c d => d.taken < c.taken := by
  have hrun (rule start k : Nat) : (stopsOf rule start k).Pairwise fun c d => d.taken < c.taken := by
    induction k with
    | zero => exact List.Pairwise.nil
    | succ k ih =>
      cases k with
      | zero => exact List.Pairwise.nil
      | succ k =>
        refine List.pairwise_cons.mpr ⟨fun d hd => ?_, ih⟩
        obtain ⟨j, -, hj, rfl⟩ := mem_stopsOf_iff.mp hd
        exact Nat.add_lt_add_left hj start
  induction trail with
  | nil => exact List.Pairwise.nil
  | cons k trail ih =>
    refine List.pairwise_append.mpr ⟨hrun _ _ k, ih, fun c hc d hd => ?_⟩
    obtain ⟨j, -, -, rfl⟩ := mem_stopsOf_iff.mp hc
    exact (taken_lt_of_mem_stops hd).trans_le (Nat.le_add_right _ j)

end Entries

end Trail

end RoutePattern.Query
