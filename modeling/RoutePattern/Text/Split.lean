/-!
Cutting a text, or any other list, at a separator.
-/
namespace RoutePattern.Text

variable {α : Type} [DecidableEq α]

/-- The text before the first separator, and the text behind it if there is one. -/
def splitFirst (sep : α) : List α → List α × Option (List α)
  | [] => ([], none)
  | c :: rest =>
    if c = sep then ([], some rest)
    else (c :: (splitFirst sep rest).1, (splitFirst sep rest).2)

/-- The stretches between the separators. There is one more of them than there are separators. -/
def splitAll (sep : α) : List α → List (List α)
  | [] => [[]]
  | c :: rest =>
    if c = sep then [] :: splitAll sep rest
    else
      match splitAll sep rest with
      | [] => [[c]]
      | first :: more => (c :: first) :: more

theorem splitAll_ne_nil (sep : α) (cs : List α) : splitAll sep cs ≠ [] := by
  cases cs with
  | nil => simp [splitAll]
  | cons c rest =>
    unfold splitAll
    split
    · simp
    · split <;> simp

theorem splitAll_of_not_mem {sep : α} {cs : List α} (h : sep ∉ cs) : splitAll sep cs = [cs] := by
  induction cs with
  | nil => rfl
  | cons c rest ih =>
    obtain ⟨hc, hrest⟩ := not_or.mp (mt List.mem_cons.mpr h)
    rw [splitAll, if_neg (Ne.symm hc), ih hrest]

/-- Text without a separator goes to the first stretch of what it stands in front of. -/
theorem splitAll_append {sep : α} {cs : List α} (h : sep ∉ cs) (rest : List α) :
    splitAll sep (cs ++ rest) = (splitAll sep rest).modifyHead (cs ++ ·) := by
  have hne := splitAll_ne_nil sep rest
  induction cs with
  | nil =>
    cases hs : splitAll sep rest with
    | nil => exact absurd hs hne
    | cons first more => exact hs
  | cons c cs ih =>
    obtain ⟨hc, hcs⟩ := not_or.mp (mt List.mem_cons.mpr h)
    rw [List.cons_append, splitAll, if_neg (Ne.symm hc), ih hcs]
    cases hs : splitAll sep rest with
    | nil => exact absurd hs hne
    | cons first more => rfl

theorem splitAll_append_cons {sep : α} {cs : List α} (h : sep ∉ cs) (rest : List α) :
    splitAll sep (cs ++ sep :: rest) = cs :: splitAll sep rest := by
  rw [splitAll_append h, splitAll, if_pos rfl, List.modifyHead_cons, List.append_nil]

/-- Stretches without separators are what the text that is put together of them is cut into. -/
theorem splitAll_intercalate {sep : α} {stretches : List (List α)} (h : ∀ s ∈ stretches, sep ∉ s)
    (hne : stretches ≠ []) : splitAll sep ([sep].intercalate stretches) = stretches := by
  induction stretches with
  | nil => exact absurd rfl hne
  | cons first more ih =>
    obtain ⟨hfirst, hmore⟩ := List.forall_mem_cons.mp h
    cases more with
    | nil => rw [List.intercalate_singleton, splitAll_of_not_mem hfirst]
    | cons second rest =>
      rw [List.intercalate_cons_cons, List.append_assoc, List.singleton_append,
        splitAll_append_cons hfirst, ih hmore (List.cons_ne_nil second rest)]

/-- Putting the separator back between the stretches gives the text back. -/
theorem intercalate_splitAll (sep : α) (cs : List α) :
    [sep].intercalate (splitAll sep cs) = cs := by
  induction cs with
  | nil => simp [splitAll]
  | cons c rest ih =>
    have hne := splitAll_ne_nil sep rest
    unfold splitAll
    split
    · next h =>
      cases hs : splitAll sep rest with
      | nil => exact absurd hs hne
      | cons f m => rw [hs] at ih; simp [List.intercalate, h] at ih ⊢; exact ih
    · split
      · next h => exact absurd h hne
      · next f m hs =>
        rw [hs] at ih
        cases m <;> simp_all [List.intercalate]

theorem splitAll_inj {sep : α} {cs cs' : List α} (h : splitAll sep cs = splitAll sep cs') :
    cs = cs' := by
  rw [← intercalate_splitAll sep cs, h, intercalate_splitAll]

/-- On both sides of a separator the text is cut on its own. -/
theorem splitAll_append_sep (sep : α) (cs rest : List α) :
    splitAll sep (cs ++ sep :: rest) = splitAll sep cs ++ splitAll sep rest := by
  induction cs with
  | nil => exact if_pos rfl
  | cons c cs ih =>
    rw [List.cons_append, splitAll, splitAll, ih]
    split
    · rfl
    · have hne := splitAll_ne_nil sep cs
      cases hs : splitAll sep cs with
      | nil => exact absurd hs hne
      | cons first more => rfl

theorem not_mem_of_mem_splitAll {sep : α} {cs stretch : List α} (h : stretch ∈ splitAll sep cs) :
    sep ∉ stretch := by
  induction cs generalizing stretch with
  | nil =>
    rw [List.mem_singleton.mp h]
    exact List.not_mem_nil
  | cons c cs ih =>
    unfold splitAll at h
    split at h
    · rcases List.mem_cons.mp h with rfl | h
      · exact List.not_mem_nil
      · exact ih h
    · next hc =>
      split at h
      · next hs => exact absurd hs (splitAll_ne_nil sep cs)
      · next first more hs =>
        -- only the first stretch has the character more, which is no separator
        rw [hs] at ih
        rcases List.mem_cons.mp h with rfl | h
        · intro hm
          rcases List.mem_cons.mp hm with rfl | hm
          · exact hc rfl
          · exact ih List.mem_cons_self hm
        · exact ih (List.mem_cons_of_mem _ h)

theorem splitFirst_of_not_mem {sep : α} {cs : List α} (h : sep ∉ cs) :
    splitFirst sep cs = (cs, none) := by
  induction cs with
  | nil => rfl
  | cons c rest ih =>
    obtain ⟨hc, hrest⟩ := not_or.mp (mt List.mem_cons.mpr h)
    rw [splitFirst, if_neg (Ne.symm hc), ih hrest]

theorem splitFirst_append_cons {sep : α} {cs : List α} (h : sep ∉ cs) (rest : List α) :
    splitFirst sep (cs ++ sep :: rest) = (cs, some rest) := by
  induction cs with
  | nil => exact if_pos rfl
  | cons c cs ih =>
    obtain ⟨hc, hcs⟩ := not_or.mp (mt List.mem_cons.mpr h)
    rw [List.cons_append, splitFirst, if_neg (Ne.symm hc), ih hcs]

end RoutePattern.Text
