import RoutePattern.Proofs.Regex.Spelling
import RoutePattern.Proofs.Text.Ascii

/-! Regexes where case does not count: what they match does not depend on the case of ASCII letters. -/
namespace RoutePattern

section Letters

/-- The code points of the ASCII letters. -/
def asciiLetters : List Nat := List.range' 0x41 26 ++ List.range' 0x61 26

/-- The small letter for a capital one, and the other way around. -/
def otherCase (n : Nat) : Nat := if n < 0x61 then n + 0x20 else n - 0x20

theorem toNat_toLower (c : Char) :
    c.toLower.toNat = if 0x41 ≤ c.toNat ∧ c.toNat ≤ 0x5A then c.toNat + 0x20 else c.toNat := by
  have hletter : (c.val ≥ 'A'.val ∧ c.val ≤ 'Z'.val) ↔ 0x41 ≤ c.toNat ∧ c.toNat ≤ 0x5A := Iff.rfl
  by_cases h : c.val ≥ 'A'.val ∧ c.val ≤ 'Z'.val
  · have hsmall := hletter.mp h
    have hlower : c.toLower.toNat = (c.val + ('a'.val - 'A'.val)).toNat :=
      congrArg Char.toNat (dif_pos h)
    have hsum : (c.val + ('a'.val - 'A'.val)).toNat = (c.toNat + 0x20) % 2 ^ 32 :=
      UInt32.toNat_add _ _
    rw [if_pos hsmall, hlower, hsum]
    exact Nat.mod_eq_of_lt (by omega)
  · rw [if_neg (hletter.not.mp h)]
    exact congrArg Char.toNat (dif_neg h)

/-- Characters with the same small form are the same, or a letter in both cases. -/
theorem eq_or_otherCase {d e : Char} (h : d.toLower = e.toLower) :
    d = e ∨ d.toNat ∈ asciiLetters ∧ e.toNat = otherCase d.toNat := by
  have hnat := congrArg Char.toNat h
  rw [toNat_toLower, toNat_toLower] at hnat
  rw [← Char.toNat_inj, asciiLetters, List.mem_append, List.mem_range'_1, List.mem_range'_1, otherCase]
  split_ifs at hnat ⊢ <;> omega

end Letters

namespace CharSet

/-- The code points that are the same letter as one, other than itself. -/
def caseImages (n : Nat) : List (Nat × Nat) := Unicode.casePairs.flatMap fun p => p.images (n, n)

/-- A single code point has images under the pairs that it belongs to. -/
theorem exists_of_covers_images {p : Unicode.CasePairs} {m n : Nat} (hstep : 0 < p.step)
    (h : covers (p.images (m, m)) n = true) :
    p.first ≤ m ∧ m ≤ p.last ∧ n = p.image + (m - p.first) := by
  obtain ⟨r, hr, hn⟩ := covers_iff.mp h
  simp only [Unicode.CasePairs.images] at hr
  split_ifs at hr with hnone hone
  · cases hr
  · rw [List.mem_singleton.mp hr] at hn
    dsimp only at hn
    omega
  · obtain ⟨i, hi, rfl⟩ := List.mem_map.mp hr
    obtain ⟨hlow, hhigh⟩ := List.mem_range'_1.mp hi
    -- the pairs are a step apart, so that the code point is found where its distance is a multiple
    have hle : i * p.step ≤ m - p.first := by
      rw [← Nat.le_div_iff_mul_le hstep]
      have hmin : min m p.last - p.first ≤ m - p.first := by omega
      exact (by omega : i ≤ (min m p.last - p.first) / p.step).trans (Nat.div_le_div_right hmin)
    have hge : m - p.first + (p.step - 1) < (i + 1) * p.step := by
      rw [← Nat.div_lt_iff_lt_mul hstep]
      have hmax : max m p.first - p.first = m - p.first := by omega
      rw [hmax] at hlow
      exact Nat.lt_succ_of_le hlow
    dsimp only at hn
    rw [Nat.mul_comm] at hn
    rw [Nat.succ_mul] at hge
    omega

theorem contains_closeCase_singleton {c d : Char} : (singleton c).closeCase.contains d = true ↔
    d = c ∨ covers (caseImages c.toNat) d.toNat = true := by
  have hranges : (singleton c).ranges = [(c.toNat, c.toNat)] := if_pos (Nat.le_refl _)
  rw [closeCase, contains_union, contains_ofRanges, contains_singleton, hranges, Bool.or_eq_true,
    decide_eq_true_eq, or_comm]
  simp only [List.flatMap_singleton]
  rfl

/-- A letter has its other case among its images. -/
theorem covers_otherCase : ∀ n ∈ asciiLetters, covers (caseImages n) (otherCase n) = true := by
  decide +kernel

/-- A code point with a letter among its images has the other case of the letter among them too, unless it
is that itself. -/
theorem otherCase_of_covers {m n : Nat} (hn : n ∈ asciiLetters) (h : covers (caseImages m) n = true) :
    m = otherCase n ∨ covers (caseImages m) (otherCase n) = true := by
  -- few of the pairs have letters as images, and each of these is the image of one code point
  have hall : ∀ p ∈ Unicode.casePairs, 0 < p.step ∧ (p.image ≤ 0x7A → ∀ n ∈ asciiLetters,
      p.image ≤ n → n ≤ p.image + (p.last - p.first) → p.first + (n - p.image) = otherCase n ∨
        covers (caseImages (p.first + (n - p.image))) (otherCase n) = true) := by decide +kernel
  obtain ⟨r, hr, hle⟩ := covers_iff.mp h
  obtain ⟨p, hp, hr⟩ := List.mem_flatMap.mp hr
  obtain ⟨hstep, hp⟩ := hall p hp
  obtain ⟨hfirst, hlast, himage⟩ := exists_of_covers_images hstep (covers_iff.mpr ⟨r, hr, hle⟩)
  have hletter : n ≤ 0x7A := by
    rw [asciiLetters, List.mem_append, List.mem_range'_1, List.mem_range'_1] at hn
    omega
  have hm : p.first + (n - p.image) = m := by omega
  rw [← hm]
  exact hp (by omega) n hn (by omega) (by omega)

end CharSet

namespace Regex

open CharSet

/-- A character that stands for an ASCII letter stands for it in both cases. -/
theorem contains_folded_of_toLower_eq {c d e : Char} (hcase : d.toLower = e.toLower)
    (h : (folded true c).contains d = true) : (folded true c).contains e = true := by
  rcases eq_or_otherCase hcase with rfl | ⟨hd, he⟩
  · exact h
  have hmeant : folded true c = (singleton c).closeCase := rfl
  rw [hmeant, contains_closeCase_singleton] at h ⊢
  rw [he]
  rcases h with rfl | h
  · exact Or.inr (covers_otherCase _ hd)
  · rcases otherCase_of_covers hd h with hself | hother
    · exact Or.inl (Char.toNat_inj.mp (he.trans hself.symm))
    · exact Or.inr hother

/-- Whether a language has a text with any text that differs from it in the case of ASCII letters only. -/
def CaseBlind (L : Language Char) : Prop :=
  ∀ v w : List Char, v.map Char.toLower = w.map Char.toLower → v ∈ L → w ∈ L

section CaseBlind

variable {L M : Language Char} {parts : List (List Char × Language Char)}

theorem caseBlind_one : CaseBlind 1 := by
  rintro _ w h rfl
  exact List.map_eq_nil_iff.mp h.symm

theorem CaseBlind.mul (hL : CaseBlind L) (hM : CaseBlind M) : CaseBlind (L * M) := by
  rintro _ w h ⟨a, ha, b, hb, rfl⟩
  rw [List.map_append] at h
  obtain ⟨v, u, rfl, hv, hu⟩ := List.append_eq_map_iff.mp h
  exact Language.append_mem_mul (hL a v hv.symm ha) (hM b u hu.symm hb)

theorem CaseBlind.add (hL : CaseBlind L) (hM : CaseBlind M) : CaseBlind (L + M) := by
  intro v w h hv
  exact hv.imp (hL v w h) (hM v w h)

theorem caseBlind_eitherOf (h : ∀ p ∈ parts, CaseBlind p.2) : CaseBlind (eitherOf parts) := by
  rintro v w hcase ⟨p, hp, hv⟩
  exact ⟨p, hp, h p hp v w hcase hv⟩

theorem caseBlind_foldings (text : List Char) : CaseBlind (foldings true text) := by
  induction text with
  | nil => exact caseBlind_one
  | cons c text ih =>
    refine CaseBlind.mul ?_ ih
    rintro _ w h ⟨d, hd, rfl⟩
    obtain ⟨e, rfl, he⟩ := List.map_eq_singleton_iff.mp h.symm
    exact ⟨e, contains_folded_of_toLower_eq he.symm hd, rfl⟩

end CaseBlind

end Regex

end RoutePattern
