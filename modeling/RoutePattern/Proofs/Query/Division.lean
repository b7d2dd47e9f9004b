import Mathlib.Algebra.GroupWithZero.Nat
import Mathlib.Data.List.Lex
import Mathlib.Data.List.SplitLengths
import RoutePattern.Query.Assignment

/-! Divisions of the admitted values among the rules: how many values each rule takes, in order.
A division is what an assignment has to find, free of the search that finds it. -/
namespace RoutePattern.Query

/-- The rule accepts the first `c` of the values that are left, which is one at most unless it may
take several. -/
structure Taker.Takes (rule : Taker) (left : List String) (c : Nat) : Prop where
  present : c ≤ left.length
  accepted : ∀ value ∈ left.take c, rule.accepts value = true
  once : rule.multiple = false → c ≤ 1

/-- The rule may take the first `c` of the values that are left. It takes none only if it need not
take any and does not accept the next one. -/
structure Taker.MayTake (rule : Taker) (left : List String) (c : Nat) : Prop extends
    rule.Takes left c where
  idle : c = 0 → rule.required = false ∧ ∀ value ∈ left.head?, rule.accepts value = false

/-- The rules may take the given numbers of values, each from where the rule before it stopped. -/
inductive Division : List Taker → List String → List Nat → Prop
  | nil (left : List String) : Division [] left []
  | cons {rule : Taker} {rules : List Taker} {left : List String} {c : Nat} {counts : List Nat} :
    rule.MayTake left c → Division rules (left.drop c) counts →
      Division (rule :: rules) left (c :: counts)

/-- The texts of the values that some rule accepts. -/
def texts (rules : List Taker) (values : List String) : List String :=
  (admitted rules values).map (·.1)

theorem length_texts (rules : List Taker) (values : List String) :
    (texts rules values).length = (candidates rules values).length := by
  simp only [texts, candidates, List.length_map]

theorem lt_of_mem_candidates {rules : List Taker} {values : List String} {i : Nat}
    (h : i ∈ candidates rules values) : i < values.length := by
  obtain ⟨⟨value, j⟩, hm, rfl⟩ := List.mem_map.mp h
  have hz := (List.mem_filter.mp hm).1
  have := List.snd_lt_of_mem_zipIdx hz
  simpa using this

namespace Taker

variable {rule : Taker} {left : List String} {c k : Nat}

theorem Takes.zero : rule.Takes left 0 :=
  ⟨Nat.zero_le _, by simp, fun _ => Nat.zero_le _⟩

theorem Takes.of_le (h : rule.Takes left c) (hk : k ≤ c) : rule.Takes left k where
  present := hk.trans h.present
  accepted value hv := h.accepted value ((List.take_prefix_take_left hk).subset hv)
  once hm := hk.trans (h.once hm)

theorem Takes.accepts_at (h : rule.Takes left c) (hk : k < c) :
    ∃ value, left[k]? = some value ∧ rule.accepts value = true := by
  have hl : k < left.length := hk.trans_le h.present
  refine ⟨left[k], List.getElem?_eq_getElem hl, h.accepted _ ?_⟩
  exact List.mem_take_iff_getElem.mpr ⟨k, by omega, rfl⟩

/-- One more value can be taken if it is accepted and there is none yet or may be several. -/
theorem Takes.succ (h : rule.Takes left k) {value : String} (hv : left[k]? = some value)
    (ha : rule.accepts value = true) (hm : k = 0 ∨ rule.multiple = true) :
    rule.Takes left (k + 1) where
  present := (List.getElem?_eq_some_iff.mp hv).1
  accepted other ho := by
    rw [List.take_add_one, hv] at ho
    rcases List.mem_append.mp ho with ho | ho
    · exact h.accepted other ho
    · have he : other = value := by simpa using ho
      exact he ▸ ha
  once hs := by
    rcases hm with rfl | hm
    · rfl
    · rw [hm] at hs
      cases hs

/-- A run of several values may also stop one value earlier. -/
theorem MayTake.pred (h : rule.MayTake left (k + 2)) : rule.MayTake left (k + 1) where
  toTakes := h.toTakes.of_le (Nat.le_succ _)
  idle h0 := absurd h0 (Nat.succ_ne_zero k)

end Taker

namespace Division

variable {rules : List Taker} {left : List String} {counts : List Nat}

/-- The division of what the first rule leaves. -/
theorem cons_inv {r : Nat} {rule : Taker} (hr : rules[r]? = some rule)
    (h : Division (rules.drop r) left counts) :
    ∃ c more, counts = c :: more ∧ rule.MayTake left c ∧
      Division (rules.drop (r + 1)) (left.drop c) more := by
  obtain ⟨hl, rfl⟩ := List.getElem?_eq_some_iff.mp hr
  rw [List.drop_eq_getElem_cons hl] at h
  cases h with
  | cons ht hd => exact ⟨_, _, rfl, ht, hd⟩

/-- Rules that need not take any value always have a division: each takes the next value, or leaves
it to the others. -/
theorem exists_of_optional (h : ∀ rule ∈ rules, rule.required = false) (left : List String) :
    ∃ counts, Division rules left counts := by
  induction rules generalizing left with
  | nil => exact ⟨[], .nil left⟩
  | cons rule rules ih =>
    obtain ⟨hrule, hrules⟩ := List.forall_mem_cons.mp h
    by_cases hidle : ∀ value ∈ left.head?, rule.accepts value = false
    · have hzero : rule.MayTake left 0 := ⟨Taker.Takes.zero, fun _ => ⟨hrule, hidle⟩⟩
      obtain ⟨counts, hcounts⟩ := ih hrules (left.drop 0)
      exact ⟨0 :: counts, .cons hzero hcounts⟩
    · obtain ⟨value, hvalue, haccepts⟩ : ∃ value ∈ left.head?, rule.accepts value = true := by
        simpa using hidle
      have hfirst : left[0]? = some value := by
        rw [← List.head?_eq_getElem?]
        exact hvalue
      have htakes : rule.Takes left 1 := Taker.Takes.zero.succ hfirst haccepts (Or.inl rfl)
      have hone : rule.MayTake left 1 := ⟨htakes, fun h => absurd h Nat.one_ne_zero⟩
      obtain ⟨counts, hcounts⟩ := ih hrules (left.drop 1)
      exact ⟨1 :: counts, .cons hone hcounts⟩

end Division

/-- Cutting a list by lengths gives back what the lengths cover. -/
theorem flatten_splitLengths_eq_take {α : Type} (counts : List Nat) (xs : List α) :
    (counts.splitLengths xs).flatten = xs.take counts.sum := by
  induction counts generalizing xs with
  | nil => simp
  | cons c counts ih =>
    rw [List.splitLengths_cons, List.flatten_cons, ih, List.sum_cons, List.take_add]

theorem splitLengths_concat {α : Type} (counts : List Nat) (c : Nat) (xs : List α) :
    (counts ++ [c]).splitLengths xs = counts.splitLengths xs ++ [(xs.drop counts.sum).take c] := by
  induction counts generalizing xs with
  | nil => simp
  | cons d counts ih =>
    rw [List.cons_append, List.splitLengths_cons, List.splitLengths_cons, ih, List.drop_drop,
      List.sum_cons, List.cons_append]

end RoutePattern.Query
