/-!
Sets of characters, as ascending lists of code point ranges.

Two ranges of a set never touch, so that a set has one list and equal sets are equal values.
-/
namespace RoutePattern

/-- The ranges start at `n` or later, none is empty, and one code point at least is missing
between two of them. -/
def Spaced (n : Nat) : List (Nat × Nat) → Prop
  | [] => True
  | (lo, hi) :: rest => n ≤ lo ∧ lo ≤ hi ∧ Spaced (hi + 2) rest

theorem Spaced.weaken {n m : Nat} {rs : List (Nat × Nat)} (h : Spaced n rs) (hm : m ≤ n) :
    Spaced m rs := by
  cases rs with
  | nil => trivial
  | cons r rest => exact ⟨Nat.le_trans hm h.1, h.2⟩

/-- A set of characters. -/
structure CharSet where
  ranges : List (Nat × Nat)
  spaced : Spaced 0 ranges
deriving DecidableEq

namespace CharSet

/-- The last code point. -/
def lastCode : Nat := 0x10FFFF

/-- Whether a code point lies in one of the ranges. -/
def covers (rs : List (Nat × Nat)) (n : Nat) : Bool :=
  rs.any fun r => r.1 ≤ n && n ≤ r.2

/-- Whether a character belongs to the set. -/
def contains (s : CharSet) (c : Char) : Bool :=
  covers s.ranges c.toNat

/-- Adds the range from `lo` to `hi` and joins it with the ranges it meets or touches. -/
def addRange (lo hi : Nat) : List (Nat × Nat) → List (Nat × Nat)
  | [] => [(lo, hi)]
  | (a, b) :: rest =>
    if hi + 1 < a then (lo, hi) :: (a, b) :: rest
    else if b + 1 < lo then (a, b) :: addRange lo hi rest
    else addRange (min lo a) (max hi b) rest

theorem spaced_addRange {n lo hi : Nat} {rs : List (Nat × Nat)} (h : Spaced n rs) (hn : n ≤ lo)
    (hlo : lo ≤ hi) : Spaced n (addRange lo hi rs) := by
  induction rs generalizing n lo hi with
  | nil => exact ⟨hn, hlo, trivial⟩
  | cons r rest ih =>
    obtain ⟨a, b⟩ := r
    obtain ⟨h1, h2, h3⟩ := h
    unfold addRange
    split
    · exact ⟨hn, hlo, by omega, h2, h3⟩
    · split
      · exact ⟨h1, h2, ih h3 (by omega) hlo⟩
      · exact ih (h3.weaken (by omega)) (by omega) (by omega)

theorem covers_addRange {n lo hi : Nat} {rs : List (Nat × Nat)} (h : Spaced n rs) (hlo : lo ≤ hi)
    (x : Nat) : covers (addRange lo hi rs) x = (decide (lo ≤ x ∧ x ≤ hi) || covers rs x) := by
  induction rs generalizing n lo hi with
  | nil => simp [addRange, covers]
  | cons r rest ih =>
    obtain ⟨a, b⟩ := r
    obtain ⟨h1, h2, h3⟩ := h
    unfold addRange
    split
    · simp [covers]
    · split
      · have := ih h3 hlo
        simp only [covers, List.any_cons] at this ⊢
        rw [this]
        cases decide (a ≤ x) <;> cases decide (x ≤ b) <;> cases decide (lo ≤ x ∧ x ≤ hi) <;> rfl
      · rw [ih h3 (by omega)]
        simp only [covers, List.any_cons]
        rw [← Bool.or_assoc]
        congr 1
        rw [Bool.eq_iff_iff]
        simp
        omega

/-- Adds several ranges; those that end before they start are passed over. -/
def addRanges (rs base : List (Nat × Nat)) : List (Nat × Nat) :=
  rs.foldr (fun r sum => if r.1 ≤ r.2 then addRange r.1 r.2 sum else sum) base

theorem spaced_addRanges (rs : List (Nat × Nat)) {base : List (Nat × Nat)} (h : Spaced 0 base) :
    Spaced 0 (addRanges rs base) := by
  induction rs with
  | nil => exact h
  | cons r rest ih =>
    simp only [addRanges, List.foldr_cons] at ih ⊢
    split
    · next hr => exact spaced_addRange ih (Nat.zero_le _) hr
    · exact ih

theorem covers_addRanges (rs : List (Nat × Nat)) {base : List (Nat × Nat)} (h : Spaced 0 base)
    (x : Nat) : covers (addRanges rs base) x = (covers rs x || covers base x) := by
  induction rs with
  | nil => rfl
  | cons r rest ih =>
    have hs := spaced_addRanges rest h
    have hcons : covers (r :: rest) x = (decide (r.1 ≤ x ∧ x ≤ r.2) || covers rest x) := by
      simp [covers]
    rw [hcons, Bool.or_assoc, ← ih]
    simp only [addRanges, List.foldr_cons] at hs ⊢
    split
    · next hr => exact covers_addRange hs hr x
    · have : decide (r.1 ≤ x ∧ x ≤ r.2) = false := by simp; omega
      simp [this]

/-- The stretches that the ranges leave out, from code point `n` on. -/
def gaps (n : Nat) : List (Nat × Nat) → List (Nat × Nat)
  | [] => if n ≤ lastCode then [(n, lastCode)] else []
  | (a, b) :: rest => if n < a then (n, a - 1) :: gaps (b + 1) rest else gaps (b + 1) rest

theorem spaced_gaps {n : Nat} {rs : List (Nat × Nat)} (h : Spaced n rs) : Spaced n (gaps n rs) := by
  induction rs generalizing n with
  | nil =>
    unfold gaps
    split
    · next hn => exact ⟨Nat.le_refl n, hn, trivial⟩
    · trivial
  | cons r rest ih =>
    obtain ⟨a, b⟩ := r
    obtain ⟨h1, h2, h3⟩ := h
    have h4 := ih (h3.weaken (by omega : b + 1 ≤ b + 2))
    unfold gaps
    split
    · exact ⟨Nat.le_refl n, by omega, h4.weaken (by omega)⟩
    · exact h4.weaken (by omega)

theorem covers_eq_false {n x : Nat} {rs : List (Nat × Nat)} (h : Spaced n rs) (hx : x < n) :
    covers rs x = false := by
  induction rs generalizing n with
  | nil => rfl
  | cons r rest ih =>
    obtain ⟨h1, h2, h3⟩ := h
    have := ih h3 (by omega)
    simp only [covers, List.any_cons, Bool.or_eq_false_iff] at this ⊢
    exact ⟨by simp; omega, this⟩

theorem covers_gaps {n x : Nat} {rs : List (Nat × Nat)} (h : Spaced n rs) (hx : n ≤ x)
    (hl : x ≤ lastCode) : covers (gaps n rs) x = !covers rs x := by
  induction rs generalizing n with
  | nil =>
    have : n ≤ lastCode := by omega
    simp [gaps, covers, this, hx, hl]
  | cons r rest ih =>
    obtain ⟨a, b⟩ := r
    obtain ⟨h1, h2, h3⟩ := h
    have hg := spaced_gaps (h3.weaken (by omega : b + 1 ≤ b + 2))
    have hcons : covers ((a, b) :: rest) x = (decide (a ≤ x ∧ x ≤ b) || covers rest x) := by
      simp [covers]
    rw [hcons]
    unfold gaps
    by_cases hb : b + 1 ≤ x
    · have hab : decide (a ≤ x ∧ x ≤ b) = false := by simp; omega
      have := ih (h3.weaken (by omega)) hb
      split
      · have hn : decide (n ≤ x ∧ x ≤ a - 1) = false := by simp; omega
        simp only [covers, List.any_cons] at this ⊢
        rw [this, hab]
        simp
        omega
      · rw [this, hab]
        rfl
    · have hrest : covers rest x = false := covers_eq_false h3 (by omega)
      have hgaps : covers (gaps (b + 1) rest) x = false := covers_eq_false hg (by omega)
      rw [hrest]
      split
      · simp only [covers, List.any_cons] at hgaps ⊢
        rw [hgaps, Bool.eq_iff_iff]
        simp
        omega
      · rw [hgaps, Bool.eq_iff_iff]
        simp
        omega

/-- The set without characters. -/
def empty : CharSet := ⟨[], trivial⟩

/-- The set of all code points of the given ranges. -/
def ofRanges (rs : List (Nat × Nat)) : CharSet :=
  ⟨addRanges rs [], spaced_addRanges rs trivial⟩

/-- The characters from `lo` to `hi`. -/
def range (lo hi : Char) : CharSet := ofRanges [(lo.toNat, hi.toNat)]

def singleton (c : Char) : CharSet := range c c

def ofChars (cs : List Char) : CharSet :=
  ofRanges (cs.map fun c => (c.toNat, c.toNat))

def union (s t : CharSet) : CharSet :=
  ⟨addRanges s.ranges t.ranges, spaced_addRanges s.ranges t.spaced⟩

def compl (s : CharSet) : CharSet :=
  ⟨gaps 0 s.ranges, spaced_gaps s.spaced⟩

def inter (s t : CharSet) : CharSet :=
  (s.compl.union t.compl).compl

def diff (s t : CharSet) : CharSet :=
  (s.compl.union t).compl

def symmDiff (s t : CharSet) : CharSet :=
  (s.diff t).union (t.diff s)

/-- The number of ranges. -/
def size (s : CharSet) : Nat := s.ranges.length

/-- The code point of a set that holds one only. -/
def single? (s : CharSet) : Option Nat :=
  match s.ranges with
  | [(lo, hi)] => if lo = hi then some lo else none
  | _ => none

/-- Whether no character belongs to the set, which may hold surrogates still. -/
def isVacant (s : CharSet) : Bool :=
  s.ranges.all fun r => 0xD800 ≤ r.1 && r.2 < 0xE000

/-- Whether all code points of the set are below 128. -/
def isAscii (s : CharSet) : Bool :=
  s.ranges.all fun r => r.2 < 128

theorem toNat_le_lastCode (c : Char) : c.toNat ≤ lastCode := by
  have := c.valid
  simp only [lastCode, Char.toNat, UInt32.isValidChar, Nat.isValidChar] at *
  omega

@[simp] theorem contains_empty (c : Char) : empty.contains c = false := rfl

@[simp] theorem contains_ofRanges (rs : List (Nat × Nat)) (c : Char) :
    (ofRanges rs).contains c = covers rs c.toNat :=
  by
  have h : Spaced 0 [] := trivial
  exact (covers_addRanges rs h c.toNat).trans (Bool.or_false _)

@[simp] theorem contains_range (lo hi c : Char) :
    (range lo hi).contains c = decide (lo.toNat ≤ c.toNat ∧ c.toNat ≤ hi.toNat) := by
  simp [range, covers]

@[simp] theorem contains_singleton (a c : Char) : (singleton a).contains c = decide (c = a) := by
  rw [singleton, contains_range, decide_eq_decide, ← Char.toNat_inj]
  omega

@[simp] theorem contains_union (s t : CharSet) (c : Char) :
    (s.union t).contains c = (s.contains c || t.contains c) :=
  covers_addRanges s.ranges t.spaced c.toNat

@[simp] theorem contains_compl (s : CharSet) (c : Char) : s.compl.contains c = !s.contains c :=
  covers_gaps s.spaced (Nat.zero_le _) (toNat_le_lastCode c)

@[simp] theorem contains_inter (s t : CharSet) (c : Char) :
    (s.inter t).contains c = (s.contains c && t.contains c) := by
  simp [inter]

@[simp] theorem contains_diff (s t : CharSet) (c : Char) :
    (s.diff t).contains c = (s.contains c && !t.contains c) := by
  simp [diff]

end CharSet

end RoutePattern
