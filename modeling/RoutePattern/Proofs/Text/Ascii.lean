import Mathlib.Logic.Basic
import RoutePattern.Text.CharSet

/-! Sets of ASCII characters: what is made of them, other than what they leave out, is ASCII too. -/
namespace RoutePattern

section Ranges

variable {rs : List (Nat × Nat)} {m n : Nat}

theorem covers_iff : CharSet.covers rs n = true ↔ ∃ r ∈ rs, r.1 ≤ n ∧ n ≤ r.2 := by
  simp [CharSet.covers]

theorem Spaced.le {r : Nat × Nat} (h : Spaced m rs) (hr : r ∈ rs) : r.1 ≤ r.2 := by
  induction rs generalizing m with
  | nil => cases hr
  | cons first rest ih =>
    rcases List.mem_cons.mp hr with rfl | hr
    · exact h.2.1
    · exact ih h.2.2 hr

/-- What is left out lies in front of some range or is a code point. -/
theorem le_or_lt_of_covers_gaps (h : CharSet.covers (CharSet.gaps m rs) n = true) :
    n ≤ CharSet.lastCode ∨ ∃ r ∈ rs, n < r.1 := by
  induction rs generalizing m with
  | nil =>
    rw [CharSet.gaps] at h
    split at h
    · obtain ⟨r, hr, -, hn⟩ := covers_iff.mp h
      rw [List.mem_singleton.mp hr] at hn
      exact Or.inl hn
    · cases h
  | cons r rest ih =>
    have hrest (h : CharSet.covers (CharSet.gaps (r.2 + 1) rest) n = true) :
        n ≤ CharSet.lastCode ∨ ∃ s ∈ r :: rest, n < s.1 := by
      refine (ih h).imp_right fun hx => ?_
      obtain ⟨s, hs, hn⟩ := hx
      exact ⟨s, List.mem_cons_of_mem _ hs, hn⟩
    rw [CharSet.gaps] at h
    split at h
    · obtain ⟨s, hs, hn⟩ := covers_iff.mp h
      rcases List.mem_cons.mp hs with rfl | hs
      · exact Or.inr ⟨r, List.mem_cons_self, by dsimp only at hn; omega⟩
      · exact hrest (covers_iff.mpr ⟨s, hs, hn⟩)
    · exact hrest h

end Ranges

namespace CharSet

variable {s t : CharSet} {n : Nat}

theorem isAscii_iff : s.isAscii = true ↔ ∀ n, covers s.ranges n = true → n < 128 := by
  rw [isAscii, List.all_eq_true]
  constructor
  · intro h n hn
    obtain ⟨r, hr, -, hle⟩ := covers_iff.mp hn
    have hlt := of_decide_eq_true (h r hr)
    omega
  · intro h r hr
    exact decide_eq_true (h r.2 (covers_iff.mpr ⟨r, hr, s.spaced.le hr, Nat.le_refl _⟩))

theorem isAscii_union : (s.union t).isAscii = true ↔ s.isAscii = true ∧ t.isAscii = true := by
  have hcovers (n : Nat) : covers (s.union t).ranges n = (covers s.ranges n || covers t.ranges n) :=
    covers_addRanges s.ranges t.spaced n
  simp only [isAscii_iff, hcovers, Bool.or_eq_true, or_imp, forall_and]

theorem covers_compl (hn : n ≤ lastCode) : covers s.compl.ranges n = !covers s.ranges n :=
  covers_gaps s.spaced (Nat.zero_le n) hn

theorem not_isAscii_compl (h : s.isAscii = true) : ¬ s.compl.isAscii = true := by
  intro hcompl
  have hout : covers s.ranges 128 = false := by
    rw [← Bool.not_eq_true]
    exact fun hn => absurd (isAscii_iff.mp h 128 hn) (Nat.lt_irrefl 128)
  have hin : covers s.compl.ranges 128 = true := by
    rw [covers_compl (by decide), hout]
    rfl
  exact absurd (isAscii_iff.mp hcompl 128 hin) (Nat.lt_irrefl 128)

/-- A set that leaves out nothing but ASCII characters leaves a set of them when it is left out
itself. -/
theorem isAscii_compl (hle : ∀ n, covers s.ranges n = true → n ≤ lastCode)
    (h : ∀ n ≤ lastCode, 128 ≤ n → covers s.ranges n = true) : s.compl.isAscii = true := by
  rw [isAscii_iff]
  intro n hn
  have hlast : n ≤ lastCode := by
    rcases le_or_lt_of_covers_gaps hn with hn | ⟨r, hr, hlt⟩
    · exact hn
    · have hfirst := hle r.1 (covers_iff.mpr ⟨r, hr, Nat.le_refl _, s.spaced.le hr⟩)
      omega
  rcases Nat.lt_or_ge n 128 with hlt | hge
  · exact hlt
  · rw [covers_compl hlast, h n hlast hge] at hn
    cases hn

theorem le_lastCode_of_covers_compl (h : s.isAscii = true) (hn : covers s.compl.ranges n = true) :
    n ≤ lastCode := by
  rcases le_or_lt_of_covers_gaps hn with hn | ⟨r, hr, hlt⟩
  · exact hn
  · have hfirst := isAscii_iff.mp h r.1 (covers_iff.mpr ⟨r, hr, Nat.le_refl _, s.spaced.le hr⟩)
    have hlast : lastCode = 0x10FFFF := rfl
    omega

theorem covers_compl_of_le (h : s.isAscii = true) (hn : n ≤ lastCode) (hge : 128 ≤ n) :
    covers s.compl.ranges n = true := by
  rw [covers_compl hn, Bool.not_eq_true', ← Bool.not_eq_true]
  intro hs
  have hlt := isAscii_iff.mp h n hs
  omega

/-- Of an ASCII set only ASCII characters are kept, whatever is taken away. -/
theorem isAscii_compl_union (hs : s.isAscii = true)
    (ht : ∀ n, covers t.ranges n = true → n ≤ lastCode) :
    (s.compl.union t).compl.isAscii = true := by
  have hcovers (n : Nat) : covers (s.compl.union t).ranges n =
      (covers s.compl.ranges n || covers t.ranges n) :=
    covers_addRanges s.compl.ranges t.spaced n
  apply isAscii_compl
  · intro n hn
    rw [hcovers, Bool.or_eq_true] at hn
    exact hn.elim (le_lastCode_of_covers_compl hs) (ht n)
  · intro n hn hge
    rw [hcovers, covers_compl_of_le hs hn hge, Bool.true_or]

theorem isAscii_inter (hs : s.isAscii = true) (ht : t.isAscii = true) :
    (s.inter t).isAscii = true :=
  isAscii_compl_union hs fun _ hn => le_lastCode_of_covers_compl ht hn

theorem isAscii_diff (hs : s.isAscii = true) (ht : t.isAscii = true) :
    (s.diff t).isAscii = true := by
  refine isAscii_compl_union hs fun n hn => ?_
  have hlt := isAscii_iff.mp ht n hn
  have hlast : lastCode = 0x10FFFF := rfl
  omega

theorem isAscii_symmDiff (hs : s.isAscii = true) (ht : t.isAscii = true) :
    (s.symmDiff t).isAscii = true :=
  isAscii_union.mpr ⟨isAscii_diff hs ht, isAscii_diff ht hs⟩

theorem isAscii_ofRanges {rs : List (Nat × Nat)} (h : ∀ r ∈ rs, r.2 < 128) :
    (ofRanges rs).isAscii = true := by
  rw [isAscii_iff]
  intro n hn
  have hempty : Spaced 0 [] := trivial
  have hcovers : covers (ofRanges rs).ranges n = covers rs n :=
    (covers_addRanges rs hempty n).trans (Bool.or_false _)
  rw [hcovers] at hn
  obtain ⟨r, hr, -, hle⟩ := covers_iff.mp hn
  exact Nat.lt_of_le_of_lt hle (h r hr)

theorem isAscii_range {lo hi : Char} (h : hi.toNat < 128) : (range lo hi).isAscii = true :=
  isAscii_ofRanges (List.forall_mem_singleton.mpr h)

end CharSet

end RoutePattern
