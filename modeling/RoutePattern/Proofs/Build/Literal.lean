import RoutePattern.Proofs.Path.Cut
import RoutePattern.Proofs.Text.Percent

/-! The texts that literal text can be found as, compared with the one that is built of it. -/
namespace RoutePattern

open Text Percent

variable {c : Char} {text u v : List Char}

theorem mem_spellings_cons :
    u ∈ spellings (c :: text) ↔
      ∃ s w, (s = [c] ∨ s = encodeChar c) ∧ w ∈ spellings text ∧ u = s ++ w := by
  constructor
  · intro h
    obtain ⟨s, hs, w, hw, rfl⟩ := Language.mem_mul.mp h
    exact ⟨s, w, hs, hw, rfl⟩
  · intro h
    obtain ⟨s, w, hs, hw, rfl⟩ := h
    exact Language.mem_mul.mpr ⟨s, hs, w, hw, rfl⟩

/-- The written form of literal text is the longest. -/
theorem length_le_of_mem_spellings (h : u ∈ spellings text) :
    u.length ≤ (encode text).length := by
  induction text generalizing u with
  | nil =>
    obtain rfl : u = [] := h
    exact Nat.le_refl 0
  | cons c text ih =>
    obtain ⟨s, w, hs, hw, rfl⟩ := mem_spellings_cons.mp h
    have hpos : 0 < (encodeChar c).length := List.length_pos_iff.mpr (encodeChar_ne_nil c)
    have hle : s.length ≤ (encodeChar c).length := by
      rcases hs with rfl | rfl
      · exact hpos
      · exact Nat.le_refl _
    have hrest := ih hw
    rw [encode_cons, List.length_append, List.length_append]
    omega

/-- What stands behind a spelled literal begins within the written one, if it begins elsewhere. -/
theorem exists_of_append_eq_encode_append {z b : List Char} (hu : u ∈ spellings text)
    (h : u ++ v = z ++ encode text ++ b) :
    ∃ z', z ++ encode text = u ++ z' ∧ v = z' ++ b := by
  have hle := length_le_of_mem_spellings hu
  rw [List.append_eq_append_iff] at h
  rcases h with ⟨z', hz', hv⟩ | ⟨more, hu', hb⟩
  · exact ⟨z', hz', hv⟩
  · -- a spelled literal is not longer, so that nothing is left over
    have hmore : more = [] := by
      have hlength := congrArg List.length hu'
      rw [List.length_append, List.length_append] at hlength
      exact List.length_eq_zero_iff.mp (by omega)
    subst hmore
    exact ⟨[], by rw [hu', List.append_nil, List.append_nil], by rw [hb]; rfl⟩

theorem mem_spellings_append {more : List Char} :
    u ∈ spellings (text ++ more) ↔ ∃ v ∈ spellings text, ∃ w ∈ spellings more, u = v ++ w := by
  induction text generalizing u with
  | nil =>
    constructor
    · exact fun h => ⟨[], rfl, u, h, rfl⟩
    · intro h
      obtain ⟨v, rfl, w, hw, rfl⟩ := h
      exact hw
  | cons c text ih =>
    rw [List.cons_append]
    constructor
    · intro h
      obtain ⟨s, rest, hs, hrest, rfl⟩ := mem_spellings_cons.mp h
      obtain ⟨v, hv, w, hw, rfl⟩ := ih.mp hrest
      exact ⟨s ++ v, mem_spellings_cons.mpr ⟨s, v, hs, hv, rfl⟩, w, hw,
        (List.append_assoc s v w).symm⟩
    · intro h
      obtain ⟨first, hfirst, w, hw, rfl⟩ := h
      obtain ⟨s, v, hs, hv, rfl⟩ := mem_spellings_cons.mp hfirst
      exact mem_spellings_cons.mpr ⟨s, v ++ w, hs, ih.mpr ⟨v, hv, w, hw, rfl⟩,
        List.append_assoc s v w⟩

/-- What is written ends in a kept character. -/
theorem exists_encodeChar_eq_append (c : Char) :
    ∃ front d, encodeChar c = front ++ [d] ∧ isKept d = true := by
  by_cases hkept : isKept c = true
  · exact ⟨[], c, by rw [encodeChar, if_pos hkept]; rfl, hkept⟩
  · have hbytes : String.utf8EncodeChar c ≠ [] := by
      intro hnil
      apply encodeChar_ne_nil c
      rw [encodeChar, if_neg hkept, hnil]
      rfl
    obtain ⟨bytes, b, hb⟩ := (List.eq_nil_or_concat (String.utf8EncodeChar c)).resolve_left hbytes
    have hlt : b.toNat < 256 := b.toNat_lt
    refine ⟨bytes.flatMap triplet ++ ['%', hexDigit (b.toNat / 16)], hexDigit (b.toNat % 16), ?_,
      isKept_hexDigit (by omega)⟩
    rw [encodeChar, if_neg hkept, hb, List.concat_eq_append, List.flatMap_append, List.append_assoc,
      List.flatMap_singleton]
    rfl

/-- At its end a spelled literal can only be the written one. -/
theorem eq_encode_of_append_eq {x y w : List Char} (hw : w ∈ spellings text)
    (h : x ++ w = y ++ encode text) : x = y ∧ w = encode text := by
  -- from the last character on
  induction text using List.reverseRecOn generalizing w with
  | nil =>
    obtain rfl : w = [] := hw
    rw [List.append_nil, encode_nil, List.append_nil] at h
    exact ⟨h, rfl⟩
  | append_singleton text c ih =>
    obtain ⟨v, hv, last, hlast, rfl⟩ := mem_spellings_append.mp hw
    obtain ⟨s, rest, hs, hrest, rfl⟩ := mem_spellings_cons.mp hlast
    obtain rfl : rest = [] := hrest
    rw [List.append_nil] at h ⊢
    have hencode : encode (text ++ [c]) = encode text ++ encodeChar c := by
      rw [encode_append, encode_cons, encode_nil, List.append_nil]
    rw [hencode, ← List.append_assoc, ← List.append_assoc] at h
    have hsame : s = encodeChar c := by
      rcases hs with rfl | rfl
      · -- alone the character would be the last of its written form, and so be kept
        obtain ⟨front, d, hd, hkept⟩ := exists_encodeChar_eq_append c
        rw [hd, ← List.append_assoc] at h
        obtain ⟨-, hlast⟩ := List.append_inj' h rfl
        obtain rfl : c = d := List.singleton_inj.mp hlast
        rw [encodeChar, if_pos hkept]
      · rfl
    rw [hsame] at h ⊢
    obtain ⟨hx, hvw⟩ := ih hv (List.append_cancel_right h)
    exact ⟨hx, by rw [hvw, hencode]⟩

/-- A character is written as it is, or begins with a percent sign. -/
theorem encodeChar_eq_or (c : Char) :
    encodeChar c = [c] ∨ ∃ more, encodeChar c = '%' :: more := by
  by_cases hkept : isKept c = true
  · exact Or.inl (if_pos hkept)
  · right
    rw [encodeChar, if_neg hkept]
    cases hbytes : String.utf8EncodeChar c with
    | nil =>
      have hnil : encodeChar c = [] := by
        rw [encodeChar, if_neg hkept, hbytes]
        rfl
      exact absurd hnil (encodeChar_ne_nil c)
    | cons b bytes => exact ⟨_, rfl⟩

/-- Literal text that cannot be found in what is built of it unless all of it is: where a percent
sign stands alone, its written form goes on with 25, which the rest must not take for its own
beginning. -/
def Stable (text : List Char) : Prop :=
  ∀ before after, text = before ++ '%' :: after → ¬ after <+: '2' :: '5' :: after

/-- A spelled character begins like a text without a percent sign only if it is its first
character. -/
theorem eq_of_prefix_cons {s w rest : List Char} {d : Char} (hs : s = [c] ∨ s = encodeChar c)
    (hd : d ≠ '%') (h : s ++ w <+: d :: rest) : s = [c] ∧ c = d ∧ w <+: rest := by
  have hsingle : s = [c] := by
    rcases hs with rfl | rfl
    · rfl
    · rcases encodeChar_eq_or c with hsame | ⟨more, hmore⟩
      · exact hsame
      · rw [hmore, List.cons_append, List.cons_prefix_cons] at h
        exact absurd h.1.symm hd
  rw [hsingle, List.singleton_append, List.cons_prefix_cons] at h
  exact ⟨hsingle, h⟩

/-- Behind a percent sign that stands for itself, literal text would have to begin as 25 and the
text itself do. -/
theorem prefix_of_spelled : ∀ {text w rest : List Char}, w ∈ spellings text →
    w <+: '2' :: '5' :: (encode text ++ rest) → text <+: '2' :: '5' :: text
  | [], _, _, _, _ => List.nil_prefix
  | [c], w, rest, hw, h => by
    obtain ⟨s, w, hs, hw, rfl⟩ := mem_spellings_cons.mp hw
    obtain ⟨-, rfl, -⟩ := eq_of_prefix_cons hs (by decide) h
    exact List.cons_prefix_cons.mpr ⟨rfl, List.nil_prefix⟩
  | c :: d :: text, w, rest, hw, h => by
    obtain ⟨s, v, hs, hv, rfl⟩ := mem_spellings_cons.mp hw
    obtain ⟨s', u, hs', hu, rfl⟩ := mem_spellings_cons.mp hv
    obtain ⟨-, rfl, hbehind⟩ := eq_of_prefix_cons hs (by decide) h
    obtain ⟨-, rfl, hrest⟩ := eq_of_prefix_cons hs' (by decide) hbehind
    -- the next two characters are 25 again, and what is written of them is the same
    have htext : text <+: '2' :: '5' :: text := prefix_of_spelled hu hrest
    exact List.cons_prefix_cons.mpr ⟨rfl, List.cons_prefix_cons.mpr ⟨rfl, htext⟩⟩

/-- Stable literal text is found at the beginning of what is built of it in one way only. -/
theorem Stable.eq_encode {w rest : List Char} (h : Stable text) (hw : w ∈ spellings text)
    (hstart : w <+: encode text ++ rest) : w = encode text := by
  induction text generalizing w with
  | nil => exact hw
  | cons c text ih =>
    obtain ⟨s, v, hs, hv, rfl⟩ := mem_spellings_cons.mp hw
    have htail : Stable text := by
      intro before after htext
      exact h (c :: before) after (by rw [htext]; rfl)
    rw [encode_cons, List.append_assoc] at hstart
    rw [encode_cons]
    by_cases hsame : s = encodeChar c
    · rw [hsame, List.prefix_append_right_inj] at hstart
      rw [hsame, ih htail hv hstart]
    · -- the other character that begins like its written form is the percent sign
      have hsingle : s = [c] := hs.resolve_right hsame
      obtain ⟨more, hmore⟩ := (encodeChar_eq_or c).resolve_left
        fun hc => hsame (hsingle.trans hc.symm)
      rw [hsingle, hmore, List.singleton_append, List.cons_append, List.cons_prefix_cons] at hstart
      obtain ⟨rfl, hbehind⟩ := hstart
      have hpercent : encodeChar '%' = '%' :: ['2', '5'] := by decide
      obtain rfl : ['2', '5'] = more := (List.cons.inj (hpercent.symm.trans hmore)).2
      exact absurd (prefix_of_spelled hv hbehind) (h [] text rfl)

/-- Whether a percent sign of a text stands in front of two digits. -/
def Text.Percent.hasTriplet : List Char → Bool
  | c :: a :: b :: rest =>
    (c == '%' && (triplet? a b).isSome) || hasTriplet (a :: b :: rest)
  | _ => false

section Decoding

variable {a b : Char} {rest : List Char}

theorem hasTriplet_of_cons (h : hasTriplet (c :: text) = false) : hasTriplet text = false := by
  match text with
  | [] => rfl
  | [_] => rfl
  | a :: b :: rest =>
    rw [hasTriplet, Bool.or_eq_false_iff] at h
    exact h.2

theorem ne_percent_of_triplet? {byte : UInt8} (h : triplet? a b = some byte) :
    a ≠ '%' ∧ b ≠ '%' := by
  have hpercent : hexValue? '%' = none := by decide
  constructor
  · rintro rfl
    rw [triplet?, hpercent] at h
    cases h
  · rintro rfl
    rw [triplet?, hpercent] at h
    cases hvalue : hexValue? a with
    | none =>
      rw [hvalue] at h
      cases h
    | some n =>
      rw [hvalue] at h
      cases h

/-- What is found and begins with another character than a percent sign stands for a text that begins
with it too. -/
theorem exists_of_cons_mem_spellings (ha : a ≠ '%') (h : a :: rest ∈ spellings text) :
    ∃ more, text = a :: more ∧ rest ∈ spellings more := by
  cases text with
  | nil => cases h
  | cons c text =>
    obtain ⟨s, w, hs, hw, heq⟩ := mem_spellings_cons.mp h
    have hprefix : s ++ w <+: a :: rest := heq ▸ List.prefix_rfl
    obtain ⟨rfl, rfl, -⟩ := eq_of_prefix_cons hs ha hprefix
    obtain rfl : rest = w := (List.cons.inj heq).2
    exact ⟨text, rfl, hw⟩

theorem bytes_encodeChar_append (c : Char) (rest : List Char) :
    bytes (encodeChar c ++ rest) = String.utf8EncodeChar c ++ bytes rest := by
  rw [← flatMap_encodeByte]
  induction String.utf8EncodeChar c with
  | nil => rfl
  | cons b more ih =>
    rw [List.flatMap_cons, List.append_assoc, bytes_encodeByte, ih, List.cons_append]

/-- Behind a percent sign that stands for itself there are no two digits, unless in the text. -/
theorem bytes_percent_of_mem_spellings (h : hasTriplet ('%' :: text) = false)
    (hu : u ∈ spellings text) : bytes ('%' :: u) = String.utf8EncodeChar '%' ++ bytes u := by
  match u with
  | [] =>
    rw [bytes]
    rintro _ _ _ - ⟨⟩
  | [a] =>
    rw [bytes]
    rintro _ _ _ - ⟨⟩
  | a :: b :: rest =>
    cases htriplet : triplet? a b with
    | none => rw [bytes, htriplet]
    | some byte =>
      obtain ⟨ha, hb⟩ := ne_percent_of_triplet? htriplet
      obtain ⟨more, rfl, hmore⟩ := exists_of_cons_mem_spellings ha hu
      obtain ⟨others, rfl, -⟩ := exists_of_cons_mem_spellings hb hmore
      rw [hasTriplet, htriplet] at h
      cases h

/-- Whatever literal text without triplets is found as stands for the bytes of the text. -/
theorem bytes_of_mem_spellings (h : hasTriplet text = false) (hu : u ∈ spellings text) :
    bytes u = Utf8.encode text := by
  induction text generalizing u with
  | nil =>
    obtain rfl : u = [] := hu
    rfl
  | cons c text ih =>
    obtain ⟨s, w, hs, hw, rfl⟩ := mem_spellings_cons.mp hu
    have hencode : Utf8.encode (c :: text) = String.utf8EncodeChar c ++ Utf8.encode text :=
      List.flatMap_cons
    rw [hencode, ← ih (hasTriplet_of_cons h) hw]
    rcases hs with rfl | rfl
    · by_cases hc : c = '%'
      · subst hc
        exact bytes_percent_of_mem_spellings h hw
      · exact bytes_cons hc w
    · exact bytes_encodeChar_append c w

/-- Literal text without triplets is read from whatever it is found as. -/
theorem decode_of_mem_spellings (h : hasTriplet text = false) (hu : u ∈ spellings text) :
    decode u = text := by
  rw [decode, bytes_of_mem_spellings h hu, Utf8.decode_encode, Option.getD_some]

end Decoding

end RoutePattern
