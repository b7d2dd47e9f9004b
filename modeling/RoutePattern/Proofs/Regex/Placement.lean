import Mathlib.Data.List.Forall2
import RoutePattern.Proofs.Regex.Program
import RoutePattern.Regex.State

/-! Where a fragment is put makes no difference to it but for the addresses, and how concatenations are
nested makes none at all. -/
namespace RoutePattern.Regex

/-- Two instructions that do the same and lead to related addresses. The end is left out. -/
inductive Inst.Alike (ρ : Nat → Nat → Prop) : Inst → Inst → Prop
  | set (s : CharSet) {next next' : Nat} : ρ next next' → Alike ρ (.set s next) (.set s next')
  | look (l : Look) {next next' : Nat} : ρ next next' → Alike ρ (.look l next) (.look l next')
  | mark (slot : Nat) {next next' : Nat} : ρ next next' → Alike ρ (.mark slot next) (.mark slot next')
  | fork {first first' second second' : Nat} : ρ first first' → ρ second second' →
    Alike ρ (.fork first second) (.fork first' second')

/-- Put at two places, a fragment leads to the same places within it, and out of it to what follows. -/
def Fragment.Uniform (f : Fragment) : Prop :=
  ∀ (ρ : Nat → Nat → Prop) base base' next next', (∀ i < f.size, ρ (base + i) (base' + i)) →
    ρ next next' → ρ (f.build base next).1 (f.build base' next').1 ∧
      List.Forall₂ (Inst.Alike ρ) (f.build base next).2 (f.build base' next').2

section Alike

variable {ρ : Nat → Nat → Prop} {base base' into into' past past' k m n : Nat}

/-- The addresses of a part are related as those of the whole. -/
theorem within_add (h : ∀ i < n, ρ (base + i) (base' + i)) (hle : k + m ≤ n) :
    ∀ i < m, ρ (base + k + i) (base' + k + i) := by
  intro i hi
  rw [Nat.add_assoc, Nat.add_assoc]
  exact h (k + i) (by omega)

theorem Inst.alike_choice (greedy : Bool) (hinto : ρ into into') (hpast : ρ past past') :
    Inst.Alike ρ (.choice greedy into past) (.choice greedy into' past') := by
  cases greedy with
  | false => exact .fork hpast hinto
  | true => exact .fork hinto hpast

end Alike

namespace Fragment

variable {f g : Fragment}

theorem uniform_skip : skip.Uniform := fun _ _ _ _ _ _ hnext => ⟨hnext, .nil⟩

theorem uniform_one {inst : Nat → Inst}
    (h : ∀ (ρ : Nat → Nat → Prop) next next', ρ next next' → (inst next).Alike ρ (inst next')) :
    (one inst).Uniform :=
  fun ρ _ _ next next' hwithin hnext =>
    ⟨hwithin 0 Nat.one_pos, .cons (h ρ next next' hnext) .nil⟩

theorem Uniform.seq (hf : f.Uniform) (hg : g.Uniform) : (f.seq g).Uniform := by
  intro ρ base base' next next' hwithin hnext
  obtain ⟨hsecond, hinsts⟩ := hg ρ _ _ next next' (within_add hwithin (Nat.le_refl _)) hnext
  obtain ⟨hfirst, hbefore⟩ := hf ρ base base' _ _
    (fun i hi => hwithin i (Nat.lt_add_right g.size hi)) hsecond
  exact ⟨hfirst, List.rel_append hbefore hinsts⟩

theorem Uniform.either (hf : f.Uniform) (hg : g.Uniform) : (f.either g).Uniform := by
  intro ρ base base' next next' hwithin hnext
  have hbehind : ∀ i < f.size + g.size, ρ (base + 1 + i) (base' + 1 + i) :=
    within_add hwithin (Nat.le_of_eq (Nat.add_comm _ _))
  obtain ⟨hfirst, hinsts⟩ := hf ρ _ _ next next'
    (fun i hi => hbehind i (Nat.lt_add_right g.size hi)) hnext
  obtain ⟨hsecond, hothers⟩ := hg ρ _ _ next next' (within_add hbehind (Nat.le_refl _)) hnext
  exact ⟨hwithin 0 (Nat.succ_pos _), .cons (.fork hfirst hsecond) (List.rel_append hinsts hothers)⟩

theorem Uniform.optional (hf : f.Uniform) (greedy : Bool) : (optional greedy f).Uniform := by
  intro ρ base base' next next' hwithin hnext
  obtain ⟨hinto, hbody⟩ := hf ρ _ _ next next'
    (within_add hwithin (Nat.le_of_eq (Nat.add_comm _ _))) hnext
  exact ⟨hwithin 0 (Nat.succ_pos _), .cons (Inst.alike_choice greedy hinto hnext) hbody⟩

theorem Uniform.many (hf : f.Uniform) (greedy : Bool) : (many greedy f).Uniform := by
  intro ρ base base' next next' hwithin hnext
  have hback : ρ base base' := hwithin 0 (Nat.succ_pos _)
  obtain ⟨hinto, hbody⟩ := hf ρ _ _ base base'
    (within_add hwithin (Nat.le_of_eq (Nat.add_comm _ _))) hback
  exact ⟨hback, .cons (Inst.alike_choice greedy hinto hnext) hbody⟩

theorem Uniform.some (hf : f.Uniform) (greedy : Bool) : (some greedy f).Uniform := by
  intro ρ base base' next next' hwithin hnext
  obtain ⟨hinto, hbody⟩ := hf ρ base base' _ _
    (fun i hi => hwithin i (Nat.lt_succ_of_lt hi)) (hwithin f.size (Nat.lt_succ_self _))
  exact ⟨hinto, List.rel_append hbody (.cons (Inst.alike_choice greedy hinto hnext) .nil)⟩

theorem Uniform.copies (hf : f.Uniform) (n : Nat) : (f.copies n).Uniform := by
  induction n with
  | zero => exact uniform_skip
  | succ n ih => exact hf.seq ih

theorem Uniform.upTo (hf : f.Uniform) (greedy : Bool) (n : Nat) : (upTo greedy f n).Uniform := by
  induction n with
  | zero => exact uniform_skip
  | succ n ih => exact (hf.seq ih).optional greedy

theorem Uniform.repetition (hf : f.Uniform) (consumes : Bool) (low : Nat) (high : Option Nat)
    (greedy : Bool) : (f.repetition consumes low high greedy).Uniform := by
  match low, high with
  | 0, none =>
    rw [Fragment.repetition]
    split_ifs
    · exact hf.many greedy
    · exact (hf.some greedy).optional greedy
  | n + 1, none => exact (hf.copies n).seq (hf.some greedy)
  | 0, .some high => exact (hf.copies 0).seq (hf.upTo greedy high)
  | n + 1, .some high => exact (hf.copies (n + 1)).seq (hf.upTo greedy (high - (n + 1)))

theorem uniform_mark (slot : Nat) : (one (.mark slot)).Uniform :=
  uniform_one fun _ _ _ hnext => .mark slot hnext

end Fragment

theorem Term.fragment_uniform (t : Term) : t.fragment.Uniform := by
  induction t with
  | empty => exact Fragment.uniform_skip
  | set s => exact Fragment.uniform_one fun _ _ _ hnext => .set s hnext
  | look l => exact Fragment.uniform_one fun _ _ _ hnext => .look l hnext
  | cat a b iha ihb => exact iha.seq ihb
  | alt a b iha ihb => exact iha.either ihb
  | rep t low high greedy ih => exact ih.repetition _ _ _ _
  | group i t ih => exact (Fragment.uniform_mark _).seq (ih.seq (Fragment.uniform_mark _))

namespace Fragment

/-- Fragments one after the other. -/
def chain (fs : List Fragment) : Fragment := fs.foldr seq skip

variable {f g h : Fragment} {fs gs : List Fragment}

theorem skip_seq : skip.seq f = f := by
  obtain ⟨size, build⟩ := f
  rw [seq, mk.injEq]
  exact ⟨Nat.zero_add _, rfl⟩

theorem seq_skip : f.seq skip = f := by
  obtain ⟨size, build⟩ := f
  rw [seq, mk.injEq]
  refine ⟨rfl, ?_⟩
  funext base next
  exact Prod.ext rfl (List.append_nil _)

theorem seq_assoc : (f.seq g).seq h = f.seq (g.seq h) := by
  rw [seq, seq.eq_1 f (g.seq h), mk.injEq]
  refine ⟨Nat.add_assoc _ _ _, ?_⟩
  funext base next
  simp only [seq, Nat.add_assoc, List.append_assoc]

theorem chain_append : chain (fs ++ gs) = (chain fs).seq (chain gs) := by
  induction fs with
  | nil => exact skip_seq.symm
  | cons f fs ih =>
    have hstep (more : List Fragment) : chain (f :: more) = f.seq (chain more) := rfl
    rw [List.cons_append, hstep, hstep, ih, seq_assoc]

theorem chain_singleton : chain [f] = f := seq_skip

end Fragment

namespace Term

open Fragment

theorem fragment_eq_chain (t : Term) : t.fragment = chain (t.factors.map fragment) := by
  induction t with
  | cat a b iha ihb => rw [fragment, factors, List.map_append, chain_append, ← iha, ← ihb]
  | empty => rfl
  | set | look | alt | rep | group => exact chain_singleton.symm

theorem fragment_ofFactors (ts : List Term) : (ofFactors ts).fragment = chain (ts.map fragment) := by
  induction ts with
  | nil => rfl
  | cons t ts ih =>
    cases ts with
    | nil => exact chain_singleton.symm
    | cons u us =>
      rw [ofFactors, fragment, ih]
      · rfl
      · exact List.cons_ne_nil _ _

theorem fragment_concat (ts : List Term) : (concat ts).fragment = chain (ts.map fragment) := by
  rw [concat, fragment_ofFactors]
  induction ts with
  | nil => rfl
  | cons t ts ih =>
    rw [List.flatMap_cons, List.map_append, chain_append, ih, ← fragment_eq_chain]
    rfl

end Term

/-- The fragment for items one after the other is a chain of theirs. -/
theorem fragment_itemConcat (items : List Item) :
    (Item.concat items).term.fragment = Fragment.chain (items.reverse.map (·.term.fragment)) := by
  match items with
  | [] => rfl
  | [item] => exact Fragment.chain_singleton.symm
  | first :: second :: more =>
    rw [Item.concat, Term.fragment_concat, List.map_map]
    · rfl
    all_goals exact nofun

end RoutePattern.Regex
