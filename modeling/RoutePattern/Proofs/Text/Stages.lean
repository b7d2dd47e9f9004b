import RoutePattern.Proofs.Query.Writing

/-! Percent coding in stages: strict coding first, which keeps fewer characters, and then the triplet of
each mark that is kept is replaced by the mark wherever it occurs. No replacement begins within a
triplet, so that this writes what is written byte by byte; what it writes is read back. -/
namespace RoutePattern.Text

/-- The text with each occurrence of another one replaced, from the left. That one is not empty. -/
def replaceAll (old new : List Char) : List Char → List Char
  | [] => []
  | c :: cs =>
    if old <+: c :: cs then new ++ replaceAll old new (cs.drop (old.length - 1))
    else c :: replaceAll old new cs
termination_by cs => cs.length
decreasing_by
  · rw [List.length_drop, List.length_cons]
    omega
  · exact Nat.lt_succ_self cs.length

section Replacing

variable {c first : Char} {old more : List Char}

theorem replaceAll_append_self (h : old ≠ []) (new cs : List Char) :
    replaceAll old new (old ++ cs) = new ++ replaceAll old new cs := by
  cases old with
  | nil => exact absurd rfl h
  | cons first more =>
    have hprefix : first :: more <+: first :: (more ++ cs) := List.prefix_append (first :: more) cs
    rw [List.cons_append, replaceAll, if_pos hprefix, List.length_cons, Nat.add_sub_cancel,
      List.drop_left]

/-- No occurrence begins with a character other than the first one. -/
theorem replaceAll_cons_of_ne (h : c ≠ first) (new cs : List Char) :
    replaceAll (first :: more) new (c :: cs) = c :: replaceAll (first :: more) new cs := by
  rw [replaceAll, if_neg]
  intro hprefix
  exact h (List.cons_prefix_cons.mp hprefix).1.symm

theorem replaceAll_singleton (old new : Char) (cs : List Char) :
    replaceAll [old] [new] cs = cs.map fun c => if c = old then new else c := by
  induction cs with
  | nil => rw [replaceAll, List.map_nil]
  | cons c cs ih =>
    by_cases h : c = old
    · rw [h, List.map_cons, if_pos rfl, ← ih]
      exact replaceAll_append_self (List.cons_ne_nil old []) [new] cs
    · rw [replaceAll_cons_of_ne h, ih, List.map_cons, if_neg h]

end Replacing

namespace Percent

/-- The characters that strict coding writes as they are. -/
def isUnreserved (c : Char) : Bool :=
  c.isAlphanum || ['-', '_', '.', '~'].contains c

/-- The characters that are written as they are though strict coding escapes them. -/
def marks : List Char := ['!', '\'', '(', ')', '*']

/-- The triplets of these characters. -/
def escapes : List (String × Char) :=
  [("%21", '!'), ("%27", '\''), ("%28", '('), ("%29", ')'), ("%2A", '*')]

/-- A byte as it is written where some characters are kept. -/
def encodeByteKeeping (keeps : Char → Bool) (b : UInt8) : List Char :=
  if keeps (Char.ofNat b.toNat) then [Char.ofNat b.toNat] else triplet b

/-- A text as it is written where some characters are kept. -/
def encodeKeeping (keeps : Char → Bool) (text : List Char) : List Char :=
  (Utf8.encode text).flatMap (encodeByteKeeping keeps)

/-- The text under strict coding, with the marks restored if it has any. -/
def restored (text : List Char) : List Char :=
  let strict := encodeKeeping isUnreserved text
  if text.any (marks.contains ·) then
    escapes.foldl (fun written e => replaceAll e.1.toList [e.2] written) strict
  else strict

/-- Reads a text; there is nothing to do without a percent sign. -/
def decodeEscaped (cs : List Char) : List Char := if '%' ∈ cs then decode cs else cs

/-- Reads a part of a query; its plus signs are replaced first, if it has any. -/
def decodePlus (cs : List Char) : List Char :=
  if '+' ∈ cs then decodeEscaped (replaceAll ['+'] [' '] cs) else decodeEscaped cs

section Triplets

variable {b m : UInt8}

theorem triplet_inj (h : triplet b = triplet m) : b = m := by
  have hb : b.toNat < 256 := b.toNat_lt
  have hm : m.toNat < 256 := m.toNat_lt
  obtain ⟨hhigh, hlow⟩ : hexDigit (b.toNat / 16) = hexDigit (m.toNat / 16) ∧
      hexDigit (b.toNat % 16) = hexDigit (m.toNat % 16) := by
    simpa [triplet] using h
  have hdigit {n n' : Nat} (hn : n < 16) (hn' : n' < 16) (h : hexDigit n = hexDigit n') : n = n' := by
    have hvalue := hexValue?_hexDigit hn
    rw [h, hexValue?_hexDigit hn'] at hvalue
    exact (Option.some.inj hvalue).symm
  have hhigh := hdigit (by omega) (by omega) hhigh
  have hlow := hdigit (by omega) (by omega) hlow
  apply UInt8.toNat_inj.mp
  omega

/-- A triplet holds no other triplet, nor does one begin with its digits. -/
theorem replaceAll_triplet_of_ne (h : b ≠ m) (new cs : List Char) :
    replaceAll (triplet m) new (triplet b ++ cs) = triplet b ++ replaceAll (triplet m) new cs := by
  have hb : b.toNat < 256 := b.toNat_lt
  have hdigit {n : Nat} (hn : n < 16) : hexDigit n ≠ '%' := ne_percent_of_isKept (isKept_hexDigit hn)
  have hstart : ¬ triplet m <+: triplet b ++ cs := by
    intro hprefix
    -- triplets have one length, so that one begins with another only if they are equal
    have hwithin : triplet m <+: triplet b :=
      List.prefix_of_prefix_length_le hprefix (List.prefix_append _ _) (Nat.le_refl 3)
    exact h (triplet_inj (hwithin.eq_of_length rfl)).symm
  have hfirst : triplet b ++ cs =
      '%' :: hexDigit (b.toNat / 16) :: hexDigit (b.toNat % 16) :: cs := rfl
  -- the triplet itself is another one, and behind its percent sign stand two digits
  rw [hfirst] at hstart ⊢
  rw [replaceAll, if_neg hstart, triplet, replaceAll_cons_of_ne (hdigit (by omega)),
    replaceAll_cons_of_ne (hdigit (by omega))]
  rfl

/-- Replacing the triplet of a character everywhere is keeping that character too. -/
theorem replaceAll_encodeKeeping {keeps : Char → Bool} {mark : Char} (hpercent : keeps '%' = false)
    (hmark : mark.toNat < 128) (text : List Char) :
    replaceAll (triplet (UInt8.ofNat mark.toNat)) [mark] (encodeKeeping keeps text) =
      encodeKeeping (fun c => keeps c || c == mark) text := by
  have hbyte : (UInt8.ofNat mark.toNat).toNat = mark.toNat :=
    UInt8.toNat_ofNat_of_lt' (Nat.lt_trans hmark (by decide))
  have hchar : Char.ofNat (UInt8.ofNat mark.toNat).toNat = mark := by
    rw [hbyte, Char.ofNat_toNat]
  rw [encodeKeeping, encodeKeeping]
  induction Utf8.encode text with
  | nil => rw [List.flatMap_nil, List.flatMap_nil, replaceAll]
  | cons b rest ih =>
    rw [List.flatMap_cons, List.flatMap_cons, ← ih, encodeByteKeeping, encodeByteKeeping]
    by_cases hkept : keeps (Char.ofNat b.toNat) = true
    · -- a character that is written as it is begins no triplet
      have hne : Char.ofNat b.toNat ≠ '%' := by
        intro heq
        rw [heq, hpercent] at hkept
        cases hkept
      rw [if_pos hkept, if_pos (Bool.or_eq_true_iff.mpr (Or.inl hkept)), List.singleton_append,
        List.singleton_append]
      exact replaceAll_cons_of_ne hne _ _
    · rw [if_neg hkept]
      -- of the triplets that are written only that of the mark is the one looked for
      by_cases hb : b = UInt8.ofNat mark.toNat
      · rw [hb, hchar, if_pos (Bool.or_eq_true_iff.mpr (Or.inr (beq_self_eq_true mark)))]
        exact replaceAll_append_self (List.cons_ne_nil _ _) _ _
      · have hother : ¬ (keeps (Char.ofNat b.toNat) || Char.ofNat b.toNat == mark) = true := by
          rw [Bool.or_eq_true_iff, beq_iff_eq]
          rintro (h | rfl)
          · exact hkept h
          · apply hb
            rw [toNat_ofNat_byte, UInt8.ofNat_toNat]
        rw [if_neg hother, replaceAll_triplet_of_ne hb]

end Triplets

section Stages

/-- One replacement after the other is keeping all of the characters. -/
theorem foldl_replaceAll {escapes : List (String × Char)} {keeps : Char → Bool}
    (hpercent : keeps '%' = false)
    (hescapes : ∀ e ∈ escapes,
      e.1.toList = triplet (UInt8.ofNat e.2.toNat) ∧ e.2.toNat < 128 ∧ e.2 ≠ '%')
    (text : List Char) :
    escapes.foldl (fun written e => replaceAll e.1.toList [e.2] written)
        (encodeKeeping keeps text) =
      encodeKeeping (fun c => keeps c || (escapes.map Prod.snd).contains c) text := by
  induction escapes generalizing keeps with
  | nil =>
    simp only [List.foldl_nil, List.map_nil, List.contains_nil, Bool.or_false]
  | cons e escapes ih =>
    obtain ⟨⟨htriplet, hsmall, hne⟩, hmore⟩ := List.forall_mem_cons.mp hescapes
    -- no mark is the percent sign, which the next replacement relies on
    have hpercent' : (keeps '%' || '%' == e.2) = false := by
      rw [hpercent, Bool.false_or, beq_eq_false_iff_ne]
      exact hne.symm
    rw [List.foldl_cons, htriplet, replaceAll_encodeKeeping hpercent hsmall, ih hpercent' hmore]
    simp only [List.map_cons, List.contains_cons, Bool.or_assoc]

theorem isKept_eq (c : Char) : isKept c = (isUnreserved c || marks.contains c) := by
  simp only [isKept, isUnreserved, marks, List.contains_cons, List.contains_nil, Bool.or_assoc,
    Bool.false_or]

/-- A byte of a text that is a character by itself is one of the text. -/
theorem mem_of_mem_encode {b : UInt8} {text : List Char} (hb : b ∈ Utf8.encode text)
    (hsmall : b.toNat < 128) : Char.ofNat b.toNat ∈ text := by
  obtain ⟨c, hc, hbyte⟩ := List.mem_flatMap.mp hb
  by_cases hlarge : 128 ≤ c.toNat
  · have hle := le_of_mem_utf8EncodeChar hlarge hbyte
    omega
  · have hlt : c.toNat < 128 := Nat.lt_of_not_le hlarge
    rw [utf8EncodeChar_of_lt hlt, List.mem_singleton] at hbyte
    rw [hbyte, UInt8.toNat_ofNat_of_lt' (Nat.lt_trans hlt (by decide)), Char.ofNat_toNat]
    exact hc

/-- Restoring the marks under strict coding writes what is written byte by byte. -/
theorem restored_eq_encode (text : List Char) : restored text = encode text := by
  have hescapes : ∀ e ∈ escapes,
      e.1.toList = triplet (UInt8.ofNat e.2.toNat) ∧ e.2.toNat < 128 ∧ e.2 ≠ '%' := by decide
  have hkept : isKept = fun c => isUnreserved c || (escapes.map Prod.snd).contains c := funext isKept_eq
  rw [restored]
  split
  · rw [foldl_replaceAll (by decide) hescapes, ← hkept]
    rfl
  · next hmarks =>
    -- none of the bytes is a mark
    apply List.flatMap_congr
    intro b hb
    have hnone : marks.contains (Char.ofNat b.toNat) = false := by
      rw [Bool.eq_false_iff]
      intro hmark
      have hsmall : b.toNat < 128 := by
        have hlt := toNat_lt_of_isKept (by rw [isKept_eq, hmark, Bool.or_true])
        rwa [toNat_ofNat_byte] at hlt
      exact hmarks (List.any_eq_true.mpr ⟨_, mem_of_mem_encode hb hsmall, hmark⟩)
    rw [encodeByteKeeping, encodeByte, isKept_eq, hnone, Bool.or_false]

/-- A percent sign in a text is written as a triplet first, which no replacement takes for another. -/
example : restored "%21(".toList = "%2521(".toList := by
  rw [restored_eq_encode]
  decide

theorem bytes_of_not_mem {cs : List Char} (h : '%' ∉ cs) : bytes cs = Utf8.encode cs := by
  induction cs with
  | nil => rfl
  | cons c cs ih =>
    obtain ⟨hc, hcs⟩ := not_or.mp (mt List.mem_cons.mpr h)
    rw [bytes_cons (Ne.symm hc), ih hcs, Utf8.encode, Utf8.encode, List.flatMap_cons]

theorem decodeEscaped_eq_decode (cs : List Char) : decodeEscaped cs = decode cs := by
  rw [decodeEscaped]
  split
  · rfl
  · next h => rw [decode, bytes_of_not_mem h, Utf8.decode_encode, Option.getD_some]

theorem decodePlus_eq_decodeQuery (cs : List Char) : decodePlus cs = decodeQuery cs := by
  rw [decodePlus, decodeQuery]
  split
  · rw [decodeEscaped_eq_decode, replaceAll_singleton]
  · next h =>
    have hsame : ∀ c ∈ cs, (if c = '+' then ' ' else c) = c := by
      intro c hc
      apply if_neg
      rintro rfl
      exact h hc
    rw [decodeEscaped_eq_decode, List.map_congr_left hsame, List.map_id']

/-- Coding in stages writes what coding byte by byte writes, and reading with shortcuts reads the same.
Both ways of reading give the text back, so that no two texts are written alike. -/
theorem stages_undone :
    (∀ text, restored text = encode text) ∧
    (∀ cs, decodeEscaped cs = decode cs ∧ decodePlus cs = decodeQuery cs) ∧
    (∀ text, decode (encode text) = text ∧ decodeQuery (encode text) = text) ∧
    Function.Injective encode := by
  refine ⟨restored_eq_encode, ?_, ?_, ?_⟩
  · exact fun cs => ⟨decodeEscaped_eq_decode cs, decodePlus_eq_decodeQuery cs⟩
  · exact fun text => ⟨decode_encode text, decodeQuery_encode text⟩
  · intro text other h
    calc
      text = decode (encode text) := (decode_encode text).symm
      _ = decode (encode other) := by rw [h]
      _ = other := decode_encode other

end Stages

section Alignment

/-- Strict coding with the marks of the first `n` escapes restored, each one wherever it occurs. -/
def restoredUpTo (n : Nat) (text : List Char) : List Char :=
  (escapes.take n).foldl (fun written e => replaceAll e.1.toList [e.2] written)
    (encodeKeeping isUnreserved text)

theorem encodeKeeping_eq_flatMap (keeps : Char → Bool) (text : List Char) :
    encodeKeeping keeps text = text.flatMap fun c => encodeKeeping keeps [c] := by
  rw [encodeKeeping, Utf8.encode, List.flatMap_assoc]
  apply List.flatMap_congr
  intro c _
  rw [encodeKeeping, Utf8.encode, List.flatMap_singleton]

theorem restoredUpTo_eq_encodeKeeping (n : Nat) (text : List Char) :
    restoredUpTo n text =
      encodeKeeping (fun c => isUnreserved c || ((escapes.take n).map Prod.snd).contains c) text := by
  have hescapes : ∀ e ∈ escapes,
      e.1.toList = triplet (UInt8.ofNat e.2.toNat) ∧ e.2.toNat < 128 ∧ e.2 ≠ '%' := by decide
  apply foldl_replaceAll (by decide)
  intro e he
  exact hescapes e (List.mem_of_mem_take he)

/-- After any number of replacements the text is still written character by character: no replacement
takes its triplet from two of them, nor from a percent sign of the text. -/
theorem restoredUpTo_eq_flatMap (n : Nat) (text : List Char) :
    restoredUpTo n text = text.flatMap fun c => restoredUpTo n [c] := by
  rw [restoredUpTo_eq_encodeKeeping, encodeKeeping_eq_flatMap]
  apply List.flatMap_congr
  intro c _
  rw [restoredUpTo_eq_encodeKeeping]

theorem restored_singleton (c : Char) : restored [c] = encodeChar c := by
  rw [restored_eq_encode, encode_eq_flatMap, List.flatMap_singleton]

/-- Coding a text as a whole is coding its characters one by one, with or without the shortcut and
after each of the replacements; so two texts are coded apart. -/
theorem restored_by_character :
    (∀ text, restored text = text.flatMap encodeChar) ∧
    (∀ c, encodeChar c = restored [c]) ∧
    (∀ text more, restored (text ++ more) = restored text ++ restored more) ∧
    (∀ text, encode text = restored text) ∧
    (∀ n text, restoredUpTo n text = text.flatMap fun c => restoredUpTo n [c]) := by
  refine ⟨?_, fun c => (restored_singleton c).symm, ?_, fun text => (restored_eq_encode text).symm,
    restoredUpTo_eq_flatMap⟩
  · intro text
    rw [restored_eq_encode, encode_eq_flatMap]
  · intro text more
    rw [restored_eq_encode, restored_eq_encode, restored_eq_encode, encode_append]

end Alignment

end Percent

end RoutePattern.Text
