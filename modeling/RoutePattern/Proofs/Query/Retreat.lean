import Mathlib.Data.List.TakeWhile
import RoutePattern.Proofs.Query.Trail

/-! Falling back: when a rule finds nothing, the trail is cut at the latest checkpoint from which
the search has not failed. What is dead stays dead, so that no division is lost on the way. -/
namespace RoutePattern.Query

variable {rules : List Taker} {values : List String} {trail lower upper : List Nat}

/-- The rules from `r` on cannot divide the values from candidate `v` on. -/
def Dead (rules : List Taker) (values : List String) (r v : Nat) : Prop :=
  ∀ counts, ¬ Division (rules.drop r) ((texts rules values).drop v) counts

/-- Each rule of the trail took what it may, and no rule could have taken more without leaving the
rules behind it at a dead end. -/
inductive Justified (rules : List Taker) (values : List String) : List Nat → Prop
  | nil : Justified rules values []
  | cons {trail : List Nat} {rule : Taker} {c : Nat} :
    Justified rules values trail → rules[trail.length]? = some rule →
    rule.MayTake ((texts rules values).drop trail.sum) c →
    (∀ d, c < d → rule.MayTake ((texts rules values).drop trail.sum) d →
      Dead rules values (trail.length + 1) (trail.sum + d)) →
    Justified rules values (c :: trail)

namespace Justified

theorem of_suffix (h : Justified rules values (upper ++ lower)) :
    Justified rules values lower := by
  induction upper with
  | nil => exact h
  | cons c upper ih =>
    cases h with
    | cons hj _ _ _ => exact ih hj

theorem sum_le (h : Justified rules values trail) :
    trail.sum ≤ (texts rules values).length := by
  induction h with
  | nil => exact Nat.zero_le _
  | @cons trail rule c _ _ ht _ ih =>
    have hp := ht.present
    rw [List.length_drop] at hp
    rw [List.sum_cons]
    omega

theorem length_le (h : Justified rules values trail) : trail.length ≤ rules.length := by
  cases h with
  | nil => exact Nat.zero_le _
  | cons _ hr _ _ => exact (List.getElem?_eq_some_iff.mp hr).1

/-- A dead end behind a run makes the run one value shorter. -/
theorem pred {k : Nat} (h : Justified rules values ((k + 2) :: trail))
    (hd : Dead rules values (trail.length + 1) (trail.sum + (k + 2))) :
    Justified rules values ((k + 1) :: trail) := by
  cases h with
  | cons hj hr ht hmore =>
    refine .cons hj hr ht.pred ?_
    intro d hlt hm
    rcases Nat.lt_or_eq_of_le (show k + 2 ≤ d from hlt) with hl | rfl
    · exact hmore d hl hm
    · exact hd

/-- A run of one value at most has no other length than longer ones, so that a dead end behind it is
one in front of it. -/
theorem dead_of_dead_cons {c : Nat} (h : Justified rules values (c :: trail)) (hc : c ≤ 1)
    (hd : Dead rules values (trail.length + 1) (trail.sum + c)) :
    Dead rules values trail.length trail.sum := by
  intro counts hdiv
  cases h with
  | cons hj hr ht hmore =>
    obtain ⟨d, more, rfl, hm, hrest⟩ := Division.cons_inv hr hdiv
    rw [List.drop_drop] at hrest
    rcases Nat.lt_trichotomy d c with hlt | rfl | hgt
    -- a rule that took a value accepts it, so that it may not stay idle
    · obtain ⟨rfl, rfl⟩ : d = 0 ∧ c = 1 := by omega
      obtain ⟨value, hv, ha⟩ := ht.accepts_at Nat.zero_lt_one
      have hi := (hm.idle rfl).2 value (by rw [List.head?_eq_getElem?, hv]; rfl)
      rw [ha] at hi
      cases hi
    · exact hd more hrest
    · exact hmore d hgt hm more hrest

theorem dead_of_le_one (h : Justified rules values (upper ++ lower)) (hu : ∀ k ∈ upper, k ≤ 1)
    (hd : Dead rules values (upper ++ lower).length (upper ++ lower).sum) :
    Dead rules values lower.length lower.sum := by
  induction upper with
  | nil => exact hd
  | cons c upper ih =>
    have hj : Justified rules values (upper ++ lower) := by
      rw [List.cons_append, ← List.singleton_append] at h
      exact of_suffix h
    refine ih hj (fun k hk => hu k (List.mem_cons_of_mem c hk)) ?_
    refine dead_of_dead_cons h (hu c List.mem_cons_self) ?_
    rw [List.cons_append, List.length_cons, List.sum_cons, Nat.add_comm c] at hd
    exact hd

/-- A division of what the trail leaves extends it to one of all values. -/
theorem division (h : Justified rules values trail) {counts : List Nat}
    (hd : Division (rules.drop trail.length) ((texts rules values).drop trail.sum) counts) :
    Division rules (texts rules values) (trail.reverse ++ counts) := by
  induction h generalizing counts with
  | nil => exact hd
  -- the rule on top moves from the trail to the front of what follows
  | @cons trail rule c hj hr ht _ ih =>
    rw [List.reverse_cons, List.append_assoc]
    apply ih
    obtain ⟨hl, rfl⟩ := List.getElem?_eq_some_iff.mp hr
    rw [List.drop_eq_getElem_cons hl]
    refine .cons ht ?_
    rwa [List.drop_drop, Nat.add_comm trail.sum, ← List.sum_cons]

/-- Every division goes on from the trail, or one of its runs is shorter where it leaves the
trail. -/
theorem extends_or_lt (h : Justified rules values trail) {counts : List Nat}
    (hd : Division rules (texts rules values) counts) :
    (∃ more, counts = trail.reverse ++ more ∧
      Division (rules.drop trail.length) ((texts rules values).drop trail.sum) more) ∨
    List.Lex (· < ·) counts trail.reverse := by
  induction h with
  | nil => exact Or.inl ⟨counts, rfl, hd⟩
  | @cons trail rule c hj hr _ hmore ih =>
    rw [List.reverse_cons]
    rcases ih with ⟨rest, rfl, hrest⟩ | hlex
    · obtain ⟨d, more, rfl, hm, hdiv⟩ := Division.cons_inv hr hrest
      rw [List.drop_drop] at hdiv
      -- a longer run than the one of the trail was found to be dead
      rcases Nat.lt_trichotomy d c with hlt | rfl | hgt
      · refine Or.inr ?_
        exact List.Lex.append_left _ (List.Lex.rel hlt) _
      · refine Or.inl ⟨more, by rw [List.append_assoc, List.singleton_append], ?_⟩
        rwa [List.length_cons, List.sum_cons, Nat.add_comm d]
      · exact absurd hdiv (hmore d hgt hm more)
    · exact Or.inr (List.Lex.append_right _ _ hlex)

/-- A trail through all rules is a division of the values. -/
theorem division_of_length_eq (h : Justified rules values trail) (hl : trail.length = rules.length) :
    Division rules (texts rules values) trail.reverse := by
  have hend : Division (rules.drop trail.length) ((texts rules values).drop trail.sum) [] := by
    rw [hl, List.drop_length]
    exact .nil _
  simpa using h.division hend

/-- There is only one trail through all rules, for each gives the greatest division. -/
theorem unique {other : List Nat} (h : Justified rules values trail) (hl : trail.length = rules.length)
    (h' : Justified rules values other) (hl' : other.length = rules.length) : trail = other := by
  -- of two trails each would be below the other
  have hlength : trail.reverse.length = other.reverse.length := by simp [hl, hl']
  rcases h.extends_or_lt (h'.division_of_length_eq hl') with ⟨more, hmore, -⟩ | hlt
  · have hreverse : trail.reverse = other.reverse :=
      List.IsPrefix.eq_of_length ⟨more, hmore.symm⟩ hlength
    exact List.reverse_injective hreverse
  · rcases h'.extends_or_lt (h.division_of_length_eq hl) with ⟨more, hmore, -⟩ | hgt
    · have hreverse : other.reverse = trail.reverse :=
        List.IsPrefix.eq_of_length ⟨more, hmore.symm⟩ hlength.symm
      exact (List.reverse_injective hreverse).symm
    · exact absurd hgt (List.lt_asymm hlt)

end Justified

open Assignment (fallBack?)

/-- The restart stands where the trail once ended, with the checkpoints there were. -/
def BeganOn (trail : List Nat) (r : Restart × Nat) : Prop :=
  ∃ lower, lower <:+ trail ∧ r = (⟨lower.length, lower.sum⟩, (Trail.stops lower).length)

theorem BeganOn.mono {r : Restart × Nat} (h : BeganOn lower r) (hs : lower <:+ trail) :
    BeganOn trail r := by
  obtain ⟨low, hl, hr⟩ := h
  exact ⟨low, hl.trans hs, hr⟩

/-- The restarts that failed or are in progress. -/
def Tried (failed : Std.ExtTreeSet Restart Restart.order) (restarts : List (Restart × Nat))
    (s : Restart) : Prop :=
  s ∈ failed ∨ s ∈ restarts.map (·.1)

/-- What holds of the restarts when the rules in front of them went the way of the trail: those that
failed are dead ends, and the others began on the trail, the latest with the most checkpoints. -/
structure Recorded (rules : List Taker) (values : List String) (trail : List Nat)
    (failed : Std.ExtTreeSet Restart Restart.order) (restarts : List (Restart × Nat)) : Prop where
  dead : ∀ s ∈ failed, Dead rules values s.rule s.value
  began : ∀ r ∈ restarts, BeganOn trail r
  sorted : restarts.Pairwise fun r s => s.2 ≤ r.2

variable {failed : Std.ExtTreeSet Restart Restart.order} {restarts : List (Restart × Nat)}

/-- Restarts with as many checkpoints as there are now have come to a dead end. -/
theorem Recorded.dead_of_beyond (h : Recorded rules values trail failed restarts)
    (hj : Justified rules values trail) (hd : Dead rules values trail.length trail.sum)
    {r : Restart × Nat} (hr : r ∈ restarts) (hb : (Trail.stops trail).length ≤ r.2) :
    Dead rules values r.1.rule r.1.value := by
  obtain ⟨lower, ⟨upper, rfl⟩, rfl⟩ := h.began r hr
  exact hj.dead_of_le_one (Trail.le_one_of_length_stops_le hb) hd

/-- The restarts behind the first one that has not failed have not failed either. -/
theorem Recorded.lt_of_mem_dropWhile (h : Recorded rules values trail failed restarts)
    {n : Nat} {r : Restart × Nat} (hr : r ∈ restarts.dropWhile fun r => n ≤ r.2) : r.2 < n := by
  have hp := h.sorted.sublist (List.dropWhile_sublist fun r => decide (n ≤ r.2))
  -- the numbers of checkpoints fall along the list, so that its head decides
  cases hl : restarts.dropWhile fun r => decide (n ≤ r.2) with
  | nil => rw [hl] at hr; cases hr
  | cons s rest =>
    have hs : s.2 < n := by
      have hn := List.head_dropWhile_not (fun r : Restart × Nat => decide (n ≤ r.2))
        (show restarts.dropWhile _ ≠ [] by rw [hl]; exact List.cons_ne_nil s rest)
      simpa [hl] using hn
    rw [hl] at hr hp
    rcases List.mem_cons.mp hr with rfl | hr
    · exact hs
    · exact ((List.pairwise_cons.mp hp).1 r hr).trans_lt hs

theorem Recorded.mono (h : Recorded rules values lower failed restarts) (hs : lower <:+ trail) :
    Recorded rules values trail failed restarts where
  dead := h.dead
  began r hr := (h.began r hr).mono hs
  sorted := h.sorted

/-- A restart with fewer checkpoints than the trail began below the last rule that took several
values. -/
theorem BeganOn.of_lt {k : Nat} {r : Restart × Nat}
    (h : BeganOn (upper ++ (k + 2) :: lower) r) (hu : ∀ j ∈ upper, j ≤ 1)
    (hlt : r.2 < (Trail.stops (upper ++ (k + 2) :: lower)).length) : BeganOn lower r := by
  obtain ⟨low, hl, rfl⟩ := h
  refine ⟨low, ?_, rfl⟩
  rw [Trail.stops_append_of_le_one hu] at hlt
  -- two ends of one trail are ends of each other; the longer of them has the checkpoint
  rcases List.suffix_or_suffix_of_suffix hl (List.suffix_append upper _) with hs | hs
  · rcases List.suffix_cons_iff.mp hs with rfl | hs
    · exact absurd hlt (Nat.lt_irrefl _)
    · exact hs
  · exact absurd (Trail.stops_suffix hs).length_le (Nat.not_le_of_lt hlt)

/-- The restarts that failed, with those that began with `n` checkpoints or more. -/
def retire (failed : Std.ExtTreeSet Restart Restart.order) (restarts : List (Restart × Nat))
    (n : Nat) : Std.ExtTreeSet Restart Restart.order :=
  failed.insertMany ((restarts.takeWhile fun r => n ≤ r.2).map (·.1))

theorem mem_retire {n : Nat} {s : Restart} :
    s ∈ retire failed restarts n ↔
      s ∈ failed ∨ s ∈ (restarts.takeWhile fun r => n ≤ r.2).map (·.1) := by
  rw [retire, Std.ExtTreeSet.mem_insertMany_list, List.contains_iff_mem]

theorem tried_retire {n : Nat} {s : Restart} :
    Tried (retire failed restarts n) (restarts.dropWhile fun r => n ≤ r.2) s ↔
      Tried failed restarts s := by
  rw [Tried, mem_retire, or_assoc, ← List.mem_append, ← List.map_append,
    List.takeWhile_append_dropWhile, Tried]

/-- Restarts that are retired at a dead end are dead ends themselves. -/
theorem Recorded.dead_of_mem_retire (h : Recorded rules values trail failed restarts)
    (hj : Justified rules values trail) (hd : Dead rules values trail.length trail.sum) {s : Restart}
    (hs : s ∈ retire failed restarts (Trail.stops trail).length) :
    Dead rules values s.rule s.value := by
  rcases mem_retire.mp hs with hs | hs
  · exact h.dead s hs
  · obtain ⟨r, hr, rfl⟩ := List.mem_map.mp hs
    have hb := List.mem_takeWhile_imp hr
    exact h.dead_of_beyond hj hd ((List.takeWhile_prefix _).subset hr) (by simpa using hb)

/-- Retiring the restarts that came to a dead end leaves those that began below the last rule that
took several values. -/
theorem Recorded.retired {k : Nat}
    (h : Recorded rules values (upper ++ (k + 2) :: lower) failed restarts)
    (hj : Justified rules values (upper ++ (k + 2) :: lower)) (hu : ∀ j ∈ upper, j ≤ 1)
    (hd : Dead rules values (upper ++ (k + 2) :: lower).length (upper ++ (k + 2) :: lower).sum) :
    let n := (Trail.stops (upper ++ (k + 2) :: lower)).length
    Recorded rules values lower (retire failed restarts n)
      (restarts.dropWhile fun r => n ≤ r.2) where
  dead _ hs := h.dead_of_mem_retire hj hd hs
  began r hr :=
    (h.began r ((List.dropWhile_suffix _).subset hr)).of_lt hu (h.lt_of_mem_dropWhile hr)
  sorted := h.sorted.sublist (List.dropWhile_sublist _)

/-- What holds when the search falls back from the end of a trail, from which there is no way on. -/
structure Stuck (rules : List Taker) (values : List String) (trail : List Nat)
    (failed : Std.ExtTreeSet Restart Restart.order) (restarts : List (Restart × Nat)) : Prop where
  justified : Justified rules values trail
  dead : Dead rules values trail.length trail.sum
  recorded : Recorded rules values trail failed restarts

/-- Without a checkpoint to fall back to there is no division at all. -/
theorem Stuck.dead_of_stops_eq_nil (h : Stuck rules values trail failed restarts)
    (hs : Trail.stops trail = []) : Dead rules values 0 0 := by
  obtain ⟨hj, hd, -⟩ := h
  have hu := Trail.le_one_of_stops_eq_nil hs
  rw [← List.append_nil trail] at hj hd
  exact hj.dead_of_le_one hu hd

/-- A turn of falling back makes the run of one rule a value shorter, and drops the runs above it. -/
theorem Stuck.turn {c : Checkpoint} {earlier : List Checkpoint}
    (h : Stuck rules values trail failed restarts) (hs : Trail.stops trail = c :: earlier) :
    ∃ upper k lower, trail = upper ++ (k + 2) :: lower ∧
      c = ⟨lower.length, ((k + 1) :: lower).sum, ((k + 1) :: lower).sum⟩ ∧
      earlier = Trail.stops ((k + 1) :: lower) ∧ Justified rules values ((k + 1) :: lower) ∧
      Recorded rules values lower (retire failed restarts (c :: earlier).length)
        (restarts.dropWhile fun r => (c :: earlier).length ≤ r.2) := by
  obtain ⟨hj, hd, hr⟩ := h
  obtain ⟨upper, k, lower, rfl, hu, hc, he⟩ := Trail.stops_eq_cons hs
  have hrec := hr.retired hj hu hd
  rw [hs] at hrec
  -- above the run that is cut each rule took one value at most, so that the dead end lies behind the run
  have hbehind := hj.dead_of_le_one hu hd
  rw [List.length_cons, List.sum_cons, Nat.add_comm (k + 2)] at hbehind
  have hrun : Justified rules values ((k + 2) :: lower) := hj.of_suffix
  exact ⟨upper, k, lower, rfl, hc, he, hrun.pred hbehind, hrec⟩

/-- What falling back from a trail leads to: the run of one rule ends earlier, at a checkpoint from
which the search has not started before. -/
structure Resumed (rules : List Taker) (values : List String) (trail : List Nat)
    (failed : Std.ExtTreeSet Restart Restart.order) (restarts : List (Restart × Nat))
    (found : Checkpoint × List Checkpoint × Std.ExtTreeSet Restart Restart.order ×
      List (Restart × Nat)) (k : Nat) (lower : List Nat) : Prop where
  cut : ∃ upper j, trail = upper ++ j :: lower ∧ k + 1 < j
  point : found.1 = ⟨lower.length, ((k + 1) :: lower).sum, ((k + 1) :: lower).sum⟩
  earlier : found.2.1 = Trail.stops ((k + 1) :: lower)
  justified : Justified rules values ((k + 1) :: lower)
  recorded : Recorded rules values lower found.2.2.1 found.2.2.2
  fresh : ⟨lower.length + 1, ((k + 1) :: lower).sum⟩ ∉ found.2.2.1
  tried : ∀ s, Tried found.2.2.1 found.2.2.2 s ↔ Tried failed restarts s

/-- Cutting a trail that was cut before. -/
theorem cut_trans {i k : Nat} {low : List Nat} (hcut : trail = upper ++ (k + 2) :: lower)
    (h : ∃ up j, (k + 1) :: lower = up ++ j :: low ∧ i + 1 < j) :
    ∃ up j, trail = up ++ j :: low ∧ i + 1 < j := by
  obtain ⟨up, j, he, hlt⟩ := h
  cases up with
  | nil =>
    obtain ⟨rfl, rfl⟩ := List.cons.inj he
    exact ⟨upper, k + 2, hcut, by omega⟩
  | cons _ up =>
    rw [List.cons_append] at he
    obtain ⟨-, hl⟩ := List.cons.inj he
    exact ⟨upper ++ (k + 2) :: up, j, by rw [hcut, hl, List.append_assoc, List.cons_append], hlt⟩

/-- Falling back from a dead end either resumes at a checkpoint or shows that there is no division
at all. -/
theorem Stuck.fallBack?_spec (h : Stuck rules values trail failed restarts) :
    match fallBack? failed restarts (Trail.stops trail).length (Trail.stops trail) with
    | none => Dead rules values 0 0
    | some found => ∃ k lower, Resumed rules values trail failed restarts found k lower := by
  -- induction on the checkpoints: each one passed over is itself a dead end, of a shorter trail
  generalize hs : Trail.stops trail = checkpoints
  induction checkpoints generalizing trail failed restarts with
  | nil => exact h.dead_of_stops_eq_nil hs
  | cons c earlier ih =>
    obtain ⟨upper, k, lower, rfl, hc, he, hj, hrec⟩ := h.turn hs
    -- one turn of the recursion, with the starts that are retired in it by name
    have hunfold : fallBack? failed restarts (c :: earlier).length (c :: earlier) =
        if (retire failed restarts (c :: earlier).length).contains ⟨c.rule + 1, c.value⟩ then
          fallBack? (retire failed restarts (c :: earlier).length)
            (restarts.dropWhile fun r => (c :: earlier).length ≤ r.2) earlier.length earlier
        else some (c, earlier, retire failed restarts (c :: earlier).length,
          restarts.dropWhile fun r => (c :: earlier).length ≤ r.2) := rfl
    rw [hunfold]
    split_ifs with hf
    -- this start failed before: the run may end one value earlier, and the search falls back again
    · have hdead := hrec.dead _ (Std.ExtTreeSet.contains_iff_mem.mp hf)
      rw [hc] at hdead
      have hnext := ih ⟨hj, hdead, hrec.mono (List.suffix_cons (k + 1) lower)⟩ he.symm
      revert hnext
      split
      · exact id
      · intro hx
        obtain ⟨i, low, h⟩ := hx
        refine ⟨i, low, { h with cut := cut_trans rfl h.cut, tried := ?_ }⟩
        exact fun s => (h.tried s).trans tried_retire
    · refine ⟨k, lower, ⟨upper, k + 2, rfl, Nat.lt_succ_self _⟩, hc, he, hj, hrec, ?_, ?_⟩
      · rw [hc] at hf
        exact fun hm => hf (Std.ExtTreeSet.contains_iff_mem.mpr hm)
      · exact fun s => tried_retire

namespace Resumed

variable {found : Checkpoint × List Checkpoint × Std.ExtTreeSet Restart Restart.order ×
  List (Restart × Nat)} {k : Nat}

/-- The restart that follows from falling back was not tried before. -/
theorem not_tried (h : Resumed rules values trail failed restarts found k lower) :
    ¬ Tried failed restarts ⟨lower.length + 1, ((k + 1) :: lower).sum⟩ := by
  rw [← h.tried]
  intro hx
  rcases hx with hs | hs
  · exact h.fresh hs
  · obtain ⟨r, hr, he⟩ := List.mem_map.mp hs
    -- a start of that rule would lie above the trail that is left
    obtain ⟨low, hl, rfl⟩ := h.recorded.began r hr
    have hlen : low.length = lower.length + 1 := congrArg Restart.rule he
    have := hl.length_le
    omega

/-- The records stay right when the restart is added to them. -/
theorem recorded_cons (h : Resumed rules values trail failed restarts found k lower) :
    Recorded rules values ((k + 1) :: lower) found.2.2.1
      ((⟨lower.length + 1, ((k + 1) :: lower).sum⟩,
        (Trail.stops ((k + 1) :: lower)).length) :: found.2.2.2) where
  dead := h.recorded.dead
  began r hr := by
    rcases List.mem_cons.mp hr with rfl | hr
    · exact ⟨(k + 1) :: lower, List.suffix_refl _, rfl⟩
    · exact (h.recorded.began r hr).mono (List.suffix_cons _ _)
  sorted := by
    refine List.pairwise_cons.mpr ⟨?_, h.recorded.sorted⟩
    intro r hr
    obtain ⟨low, hl, rfl⟩ := h.recorded.began r hr
    exact (Trail.stops_suffix (hl.trans (List.suffix_cons (k + 1) lower))).length_le

end Resumed

end RoutePattern.Query
