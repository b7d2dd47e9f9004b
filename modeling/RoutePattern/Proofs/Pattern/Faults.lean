import RoutePattern.Proofs.Pattern.Acceptance

/-! The place that the error for a malformed pattern names is one of a character of it, or its end, and what
stands there is what is wrong. -/
namespace RoutePattern.Pattern

open Grammar State

section Widths

theorem utf8ByteSize_ofList (source : List Char) : (String.ofList source).utf8ByteSize = width source := by
  induction source with
  | nil => rfl
  | cons c source ih =>
    have hcons : String.ofList (c :: source) = String.singleton c ++ String.ofList source := by
      rw [String.singleton_eq_ofList, ← String.ofList_append]
      rfl
    rw [hcons, String.utf8ByteSize_append, String.utf8ByteSize_singleton, ih, width_cons]

end Widths

section Refused

variable {path : List Node} {query : List QueryRule} {front source : List Char} {mark : Char}
  {st : State} {required : Bool} {fault : Fault} {offset : Nat}

/-- A rule may end behind a path, whose groups are all closed. -/
theorem exists_finish_declare (ho : st.outer = []) (constraint : Constraint) (name : String)
    (multiple : Bool) (default : Option String) (choices : List String) (start : Nat) :
    ∃ path query, (st.declare ⟨true, required, start⟩ constraint name multiple default choices).finish =
      .ok (path, query) := by
  obtain ⟨literal, nodes, outer, seen, query, part⟩ := st
  obtain rfl : outer = [] := ho
  exact ⟨_, _, rfl⟩

/-- Behind a pattern and a mark, a text that is refused is refused for what stands at a place in it, or for
a mark at its end. -/
theorem exists_culprit_of_mark (hfront : PatternText path query front) (hmark : mark = '?' ∨ mark = '&')
    (ho : st.outer = [])
    (hread : ∀ more, readParts (front ++ mark :: more) =
      (st.beginRule mark (width front)).resume (width front + 1) more)
    (h : readParts (front ++ mark :: source) = .error (fault, offset)) :
    ∃ before after, front ++ mark :: source = before ++ after ∧ offset = width before ∧
      Culprit fault before after := by
  -- on the length of the text: a rule is read as far as the next mark
  induction hn : source.length using Nat.strongRecOn
    generalizing source st front mark path query with
  | _ n ih =>
    subst hn
    have hwidth (more : List Char) : width (front ++ mark :: more) = width front + 1 + width more := by
      have hsize : mark.utf8Size = 1 := by
        rcases hmark with rfl | rfl
        · rfl
        · rfl
      rw [width_append, width_cons, hsize, Nat.add_assoc]
    have hplaced : Placed (width front + 1) [] ⟨true, mark = '&', width front + 1⟩ .start :=
      ⟨rfl, nofun, fun _ => rfl⟩
    cases hplaced.course st source with
    | @closed inner rest c constraint name multiple default choices hsource hcloses hrun hdone =>
      subst hsource
      obtain ⟨path', query', hfinish⟩ :=
        exists_finish_declare ho constraint name multiple default choices (width front + 1)
      have hpattern := patternText_of_readParts ((hread inner).trans ((hdone rfl).trans hfinish))
      have hnext (more : List Char) :
          front ++ mark :: (inner ++ c :: more) = (front ++ mark :: inner) ++ c :: more := by simp
      have hlt : rest.length < (inner ++ c :: rest).length := by
        rw [List.length_append, List.length_cons]
        omega
      have hread' (more : List Char) := (hread (inner ++ c :: more)).trans (hrun more)
      have hplace : width front + 1 + width ([] ++ inner) = width (front ++ mark :: inner) :=
        (hwidth inner).symm
      simp only [hnext, hplace] at hread'
      have ho' : (st.declare ⟨true, mark = '&', width front + 1⟩ constraint name multiple default
          choices).outer = [] := ho
      rw [hnext] at h ⊢
      exact ih _ hlt hpattern hcloses ho' hread' h rfl
    | refused hrun hblamed =>
      obtain ⟨rfl, rfl⟩ := Prod.mk.inj (Except.error.inj (hrun.symm.trans ((hread source).symm.trans h)))
      obtain ⟨before, after, hsource, rfl, hpoints⟩ := hblamed
      refine ⟨front ++ mark :: before, after, ?_, (hwidth before).symm, .points hpoints⟩
      rw [List.append_assoc, List.cons_append, ← hsource]
      rfl
    | @ended constraint name multiple default choices hq hrun =>
      obtain ⟨path', query', hfinish⟩ :=
        exists_finish_declare ho constraint name multiple default choices (width front + 1)
      cases h.symm.trans ((hread source).trans (hrun.trans hfinish))
    | unnamed hq hempty hrun =>
      obtain rfl : source = [] := hempty
      obtain ⟨rfl, rfl⟩ := Prod.mk.inj (Except.error.inj (hrun.symm.trans ((hread []).symm.trans h)))
      exact ⟨front ++ [mark], [], (List.append_nil _).symm, (hwidth []).symm, .unnamed hfront hmark⟩

/-- A text that is refused is refused for what stands at a place in it. -/
theorem exists_culprit (h : readParts source = .error (fault, offset)) :
    ∃ before after, source = before ++ after ∧ offset = width before ∧ Culprit fault before after := by
  rcases settled (rfl : ({} : State).part = .path) 0 source with
    ⟨nodes, spelled, rest, rfl, hpath, hend, -⟩ | ⟨_, before, after, hsource, herror, hculprit⟩
  · have hread (rest : List Char) (hend : LevelEnd rest) : readParts (spelled ++ rest) =
        (({} : State).withNodes nodes).resume (width spelled) rest := by
      have hresume : ({} : State).resume 0 (spelled ++ rest) = _ := resume_path hpath rfl rfl hend
      rw [Nat.zero_add] at hresume
      exact hresume
    rw [hread rest hend] at h
    cases hend with
    | done => cases h
    | @mark c more hc =>
      rcases hc with rfl | hmark
      · have herror : (({} : State).withNodes nodes).resume (width spelled) (')' :: more) =
            .error (.unbalancedGroup, width spelled) := resume_plain_error (by decide) rfl
        obtain ⟨rfl, rfl⟩ := Prod.mk.inj (Except.error.inj (herror.symm.trans h))
        exact ⟨spelled, _, rfl, rfl, .unmatched hpath⟩
      · have hpattern : PatternText nodes [] (spelled ++ []) := .intro hpath .nil
        rw [List.append_nil] at hpattern
        rw [← hread _ (.mark (Or.inr hmark))] at h
        have hmarked (more : List Char) := (hread (c :: more) (.mark (Or.inr hmark))).trans
          (resume_mark rfl rfl rfl hmark)
        exact exists_culprit_of_mark hpattern hmark rfl hmarked h
  · obtain ⟨rfl, rfl⟩ := Prod.mk.inj (Except.error.inj (herror.symm.trans h))
    exact ⟨before, after, hsource, Nat.zero_add _, hculprit [] .start⟩

end Refused

/-- The error for a text that is no pattern names a fault and how many bytes of the text are in front of
it. There, between whole characters, stands what is wrong. -/
theorem read_error_culprit (source : String) (e : Error) (h : read source = .error e) :
    ∃ fault before after, source = before ++ after ∧
      e = .malformed fault source before.utf8ByteSize ∧
      Culprit fault before.toList after.toList := by
  rw [read] at h
  cases hparts : readParts source.toList with
  | ok parts =>
    rw [hparts] at h
    cases h
  | error failure =>
    obtain ⟨fault, offset⟩ := failure
    rw [hparts] at h
    obtain ⟨before, after, hsource, rfl, hculprit⟩ := exists_culprit hparts
    refine ⟨fault, String.ofList before, String.ofList after, ?_, ?_, ?_⟩
    · rw [← String.ofList_append, ← hsource, String.ofList_toList]
    · rw [utf8ByteSize_ofList]
      exact (Except.error.inj h).symm
    · rw [String.toList_ofList, String.toList_ofList]
      exact hculprit

/-- Three bytes stand in front of the parenthesis that is not closed. -/
theorem culprit_unclosed : read "/é(b?n" = .error (.malformed .unbalancedGroup "/é(b?n" 3) ∧
    ∃ before after, "/é(b?n" = before ++ after ∧ before.utf8ByteSize = 3 ∧
      Culprit .unbalancedGroup before.toList after.toList := by
  have hread : read "/é(b?n" = .error (.malformed .unbalancedGroup "/é(b?n" 3) := rfl
  obtain ⟨fault, before, after, hsource, herror, hculprit⟩ := read_error_culprit _ _ hread
  obtain ⟨rfl, -, hsize⟩ := Error.malformed.inj herror
  exact ⟨hread, before, after, hsource, hsize.symm, hculprit⟩

end RoutePattern.Pattern
