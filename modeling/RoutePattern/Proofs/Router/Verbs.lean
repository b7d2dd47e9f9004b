import Mathlib.Tactic.Common
import RoutePattern.Router

/-! Sets of methods, by the methods they contain, and tables of counts, by the count of each
method. -/
namespace RoutePattern

theorem Verb.exists_slot (i : Fin 9) : ∃ v : Verb, v.slot = i := by
  have hall : ∀ i, ∃ v ∈ Verb.all, v.slot = i := by decide
  obtain ⟨v, -, hv⟩ := hall i
  exact ⟨v, hv⟩

namespace Verbs

variable {a b : Verbs} {v w : Verb}

theorem ext_contains (h : ∀ v, a.contains v = b.contains v) : a = b := by
  obtain ⟨a⟩ := a
  obtain ⟨b⟩ := b
  congr 1
  apply BitVec.eq_of_getElem_eq
  intro i hi
  obtain ⟨v, hv⟩ := Verb.exists_slot ⟨i, hi⟩
  have hbit := h v
  rw [contains, contains, Fin.getElem_fin, Fin.getElem_fin] at hbit
  simpa only [hv] using hbit

theorem contains_empty : empty.contains v = false := BitVec.getElem_zero _

theorem contains_union : (a.union b).contains v = (a.contains v || b.contains v) :=
  BitVec.getElem_or _

/-- The methods of several sets. -/
def unionAll : List Verbs → Verbs
  | [] => empty
  | vs :: rest => vs.union (unionAll rest)

theorem union_assoc {c : Verbs} : (a.union b).union c = a.union (b.union c) := by
  apply ext_contains
  intro v
  simp only [contains_union, Bool.or_assoc]

theorem union_empty : a.union empty = a := by
  apply ext_contains
  intro v
  rw [contains_union, contains_empty, Bool.or_false]

theorem empty_union : empty.union a = a := by
  apply ext_contains
  intro v
  rw [contains_union, contains_empty, Bool.false_or]

theorem includes_single : a.includes (single v) = a.contains v := by
  rw [includes, single, contains, Fin.getElem_fin, BitVec.and_twoPow]
  have hne : (BitVec.twoPow 9 v.slot) ≠ 0#9 := by cases v <;> decide
  have hget : a.bits.getLsbD v.slot = a.bits[v.slot.val] := BitVec.getLsbD_eq_getElem _
  rw [hget]
  cases a.bits[v.slot.val] with
  | false => simpa using hne.symm
  | true => simp

end Verbs

/-- A rule allows one method if that method is in its set. -/
theorem Rule.allows_single {α : Type} (rule : Rule α) (v : Verb) :
    rule.allows (Verbs.single v) = rule.verbs.contains v := by
  have hne : (Verbs.single v).isEmpty = false := by cases v <;> rfl
  rw [Rule.allows, hne, Verbs.includes_single, Bool.not_false, Bool.true_and]

theorem VerbCounts.get_adjust (counts : VerbCounts) (verbs : Verbs) (change : Nat → Nat) (v : Verb) :
    (counts.adjust verbs change).get v.slot =
      if verbs.contains v then change (counts.get v.slot) else counts.get v.slot := by
  have hget (xs : VerbCounts) (i : Fin 9) : xs.get i = xs[i] := rfl
  rw [VerbCounts.adjust, hget, Fin.getElem_fin, Vector.getElem_ofFn]
  rfl

end RoutePattern
