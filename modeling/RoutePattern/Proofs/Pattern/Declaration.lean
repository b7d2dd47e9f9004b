import RoutePattern.Proofs.Pattern.Reading

/-! Declarations: params of the path and rules of the query. Where the reader gets through one, the
text it read is that of the grammar. -/
namespace RoutePattern.Pattern

open Grammar

theorem Grammar.Headed.name_ne_nil {inQuery : Bool} {constraint : Constraint}
    {name source : List Char} (h : Headed inQuery constraint name source) : name ≠ [] := by
  cases h with
  | any _ hne _ => exact hne
  | kind _ _ _ _ hne => exact hne
  | regex _ _ _ hne => exact hne

theorem Grammar.Listed.ne_nil {inQuery : Bool} {values : List String} {source : List Char}
    (h : Listed inQuery values source) : values ≠ [] := by
  cases h with
  | one _ => exact List.cons_ne_nil _ _
  | more _ _ => exact List.cons_ne_nil _ _

namespace State

variable {st : State} {subject : Subject} {constraint : Constraint} {offset opening depth : Nat}
  {c : Char} {chars source rest : List Char} {result : List Node × List QueryRule}

/-- Where reading goes on to an end, the next character was taken. -/
theorem step_of_resume (hc : c ≠ '\\') (h : st.resume offset (c :: rest) = .ok result) :
    ∃ next, st.step ⟨offset, .plain c⟩ = .ok next ∧
      next.resume (offset + c.utf8Size) rest = .ok result := by
  cases hs : st.step ⟨offset, .plain c⟩ with
  | error e =>
    rw [resume_plain_error hc hs] at h
    cases h
  | ok next => exact ⟨next, rfl, resume_plain hc hs ▸ h⟩

theorem step_escaped_of_resume (h : st.resume offset ('\\' :: c :: rest) = .ok result) :
    ∃ next, st.step ⟨offset, .escaped c⟩ = .ok next ∧
      next.resume (offset + width ['\\', c]) rest = .ok result := by
  cases hs : st.step ⟨offset, .escaped c⟩ with
  | error e =>
    rw [resume_escaped_error hs] at h
    cases h
  | ok next => exact ⟨next, rfl, resume_escaped hs ▸ h⟩

theorem not_resume_dangling (h : st.resume offset ['\\'] = .ok result) : False := by
  obtain ⟨e, he⟩ := st.resume_dangling offset
  rw [he] at h
  cases h

/-- A name that is read through is spelled, and ends where it may. -/
theorem exists_name (h : (st.stage subject (.name constraint [])).resume offset source = .ok result) :
    ∃ name spelled rest, source = spelled ++ rest ∧
      Spelled (nameStops subject.inQuery) name spelled ∧ name ≠ [] ∧
      (rest = [] ∨ ∃ c more, rest = c :: more ∧ c ∈ nameEnds subject ∧
        (c = ':' → constraint = .any)) := by
  obtain ⟨name, spelled, rest, rfl, hs, hr⟩ := exists_spelled (nameStops subject.inQuery) source
  rw [(collects_name st subject constraint).resume hs, List.append_nil] at h
  refine ⟨name, spelled, rest, rfl, hs, ?_⟩
  cases hr with
  | done =>
    refine ⟨?_, Or.inl rfl⟩
    intro hx
    subst hx
    cases h
  | dangling => exact (not_resume_dangling h).elim
  | @stop c more hm hc =>
    obtain ⟨next, hstep, -⟩ := step_of_resume hc h
    by_cases hlt : c = '<'
    · subst hlt
      cases hstep
    · have hmem : c ∈ nameEnds subject := (mem_nameStops.mp hm).resolve_left hlt
      simp only [step, stage, stepDeclaration, stepName, if_neg hlt,
        List.contains_iff_mem.mpr hmem] at hstep
      rw [if_neg (by decide)] at hstep
      split_ifs at hstep with h1 h2 h3 h4
      · refine ⟨?_, Or.inr ⟨c, more, rfl, hmem, fun _ => not_not.mp h2⟩⟩
        intro hx
        subst hx
        exact h3 rfl
      · refine ⟨?_, Or.inr ⟨c, more, rfl, hmem, fun he => absurd he h1⟩⟩
        intro hx
        subst hx
        exact h4 rfl

/-- A regex that is read through is balanced up to its closing brace. -/
theorem exists_regex (hd : 0 < depth)
    (h : (st.stage subject (.regex opening depth chars)).resume offset source = .ok result) :
    ∃ regex rest, source = regex ++ '}' :: rest ∧ Balanced regex := by
  -- on the length of the text, since a regex within braces is read before what follows it
  induction hn : source.length using Nat.strongRecOn generalizing source depth chars offset with
  | _ n ih =>
    subst hn
    cases source with
    | nil => cases h
    | cons c source =>
      by_cases hc : c = '\\'
      · subst hc
        cases source with
        | nil => exact (not_resume_dangling h).elim
        | cons d source =>
          obtain ⟨next, hstep, h⟩ := step_escaped_of_resume h
          cases hstep
          have hlt : source.length < ('\\' :: d :: source).length := by
            simp only [List.length_cons]
            omega
          obtain ⟨regex, rest, rfl, hb⟩ := ih _ hlt hd h rfl
          exact ⟨'\\' :: d :: regex, rest, rfl, .escaped hb⟩
      · obtain ⟨next, hstep, h⟩ := step_of_resume hc h
        by_cases hclose : c = '}'
        · subst hclose
          exact ⟨[], source, rfl, .nil⟩
        · by_cases hopen : c = '{'
          · subst hopen
            cases hstep
            obtain ⟨inner, rest, rfl, hb⟩ := ih _ (Nat.lt_succ_self _) (Nat.succ_pos depth) h rfl
            rw [resume_regex hb (Nat.succ_pos depth)] at h
            obtain ⟨next, hstep, h⟩ := step_of_resume (by decide) h
            have hne : depth + 1 ≠ 1 := by omega
            simp only [step, stage, stepDeclaration, if_pos hne] at hstep
            cases hstep
            have hlt : rest.length < ('{' :: (inner ++ '}' :: rest)).length := by
              simp only [List.length_cons, List.length_append]
              omega
            obtain ⟨regex, rest, rfl, hb'⟩ := ih _ hlt hd h rfl
            exact ⟨'{' :: (inner ++ '}' :: regex), rest, by simp, .braces hb hb'⟩
          · simp only [step, stage, stepDeclaration] at hstep
            cases hstep
            obtain ⟨regex, rest, rfl, hb⟩ := ih _ (Nat.lt_succ_self _) hd h rfl
            refine ⟨c :: regex, rest, rfl, .plain ?_ hb⟩
            simp [hc, hopen, hclose]

/-- Only a colon goes on behind a regex. -/
theorem exists_colon {regex : String}
    (h : (st.stage subject (.regexEnd opening regex)).resume offset source = .ok result) :
    ∃ rest, source = ':' :: rest := by
  cases source with
  | nil => cases h
  | cons c source =>
    by_cases hc : c = '\\'
    · subst hc
      cases source with
      | nil => exact (not_resume_dangling h).elim
      | cons d source =>
        obtain ⟨next, hstep, -⟩ := step_escaped_of_resume h
        cases hstep
    · obtain ⟨next, hstep, -⟩ := step_of_resume hc h
      simp only [step, stage, stepDeclaration] at hstep
      split_ifs at hstep with hcolon
      exact ⟨source, by rw [Symbol.plain.inj hcolon]⟩

/-- A head that is read through is one of the grammar, and ends where a name may. -/
theorem exists_head (h : (st.stage subject .start).resume offset source = .ok result) :
    ∃ constraint name head rest, source = head ++ rest ∧
      Headed subject.inQuery constraint name head ∧
      (rest = [] ∨ ∃ c more, rest = c :: more ∧ c ∈ nameEnds subject ∧ c ≠ ':') := by
  by_cases hb : source.head? = some '{'
  · obtain ⟨source, rfl⟩ := List.head?_eq_some_iff.mp hb
    obtain ⟨next, hstep, h⟩ := step_of_resume (by decide) h
    cases hstep
    obtain ⟨regex, rest, rfl, hbal⟩ := exists_regex Nat.one_pos h
    rw [resume_regex hbal Nat.one_pos, List.append_nil] at h
    obtain ⟨next, hstep, h⟩ := step_of_resume (by decide) h
    simp only [step, stage, stepDeclaration, ne_eq, not_true_eq_false, if_false] at hstep
    split_ifs at hstep with hempty
    cases hstep
    have hne : regex ≠ [] := by
      intro hx
      subst hx
      exact hempty rfl
    rw [text_reverse] at h
    obtain ⟨rest, rfl⟩ := exists_colon h
    obtain ⟨next, hstep, h⟩ := step_of_resume (by decide) h
    cases hstep
    obtain ⟨name, spelled, rest, rfl, hs, hname, hend⟩ := exists_name h
    refine ⟨_, name, _, rest, by simp, .regex hbal hne hs hname, ?_⟩
    refine hend.imp_right ?_
    intro hx
    obtain ⟨c, more, rfl, hm, hany⟩ := hx
    refine ⟨c, more, rfl, hm, fun hc => ?_⟩
    cases hany hc
  · rw [resume_start hb] at h
    obtain ⟨name, spelled, rest, rfl, hs, hne, hend⟩ := exists_name h
    have hsrc : spelled ≠ [] := fun he => hne (hs.eq_nil_iff.mpr he)
    have hhead : spelled.head? ≠ some '{' := by
      rwa [List.head?_append_of_ne_nil spelled hsrc] at hb
    -- only a colon behind it tells that the name was that of a kind
    by_cases hcolon : ∃ more, rest = ':' :: more
    · obtain ⟨more, rfl⟩ := hcolon
      rw [(collects_name st subject _).resume hs, List.append_nil] at h
      obtain ⟨next, hstep, h⟩ := step_of_resume (by decide) h
      have hkind : next = st.stage subject (.name (.kind (String.ofList name)) []) := by
        have hm : (nameEnds subject).contains ':' = true := by
          rcases hend with he | ⟨c, more', he, hm, -⟩
          · cases he
          · obtain ⟨rfl, -⟩ := List.cons.inj he
            exact List.contains_iff_mem.mpr hm
        simp only [step, stage, stepDeclaration, stepName, hm, isEmpty_reverse hne,
          text_reverse] at hstep
        cases hstep
        rfl
      rw [hkind] at h
      obtain ⟨name', spelled', rest, rfl, hs', hne', hend'⟩ := exists_name h
      refine ⟨_, name', _, rest, by simp, .kind hs hne hhead hs' hne', ?_⟩
      refine hend'.imp_right ?_
      intro hx
      obtain ⟨c, more, rfl, hm, hany⟩ := hx
      refine ⟨c, more, rfl, hm, fun hc => ?_⟩
      cases hany hc
    · refine ⟨_, name, _, rest, rfl, .any hs hne hhead, ?_⟩
      refine hend.imp_right ?_
      intro hx
      obtain ⟨c, more, rfl, hm, -⟩ := hx
      exact ⟨c, more, rfl, hm, fun hc => hcolon ⟨more, by rw [hc]⟩⟩

section Values

variable {name : String} {multiple : Bool} {equals : Nat} {earlier : List String}

/-- Values that are read through are those of the grammar, and end where they may. -/
theorem exists_listed
    (h : (st.stage subject (.values constraint name multiple equals earlier [])).resume offset
      source = .ok result) :
    ∃ values spelled rest, source = spelled ++ rest ∧ Listed subject.inQuery values spelled ∧
      (rest = [] ∨ ∃ c more, rest = c :: more ∧ c ∈ valueEnds subject ∧ c ≠ ',') := by
  -- on the length of the text: a comma begins the list anew
  induction hn : source.length using Nat.strongRecOn generalizing source earlier offset with
  | _ n ih =>
    subst hn
    obtain ⟨value, spelled, rest, rfl, hs, hr⟩ := exists_spelled (valueStops subject.inQuery) source
    have hone := Listed.one hs
    rw [(collects_values st subject _ _ _ _ _).resume hs, List.append_nil] at h
    cases hr with
    | done => exact ⟨_, spelled, [], rfl, hone, Or.inl rfl⟩
    | dangling => exact (not_resume_dangling h).elim
    | @stop c more hm hc =>
      obtain ⟨next, hstep, h⟩ := step_of_resume hc h
      by_cases hlt : c = '<'
      · subst hlt
        cases hstep
      · have hmem : c ∈ valueEnds subject := (mem_valueStops.mp hm).resolve_left hlt
        by_cases hcomma : c = ','
        · subst hcomma
          rw [step_values_comma] at hstep
          cases hstep
          have hlen : more.length < (spelled ++ ',' :: more).length := by
            simp only [List.length_append, List.length_cons]
            omega
          obtain ⟨values, spelled', rest, rfl, hl, hend⟩ := ih _ hlen h rfl
          exact ⟨_, spelled ++ ',' :: spelled', rest, by simp, .more hs hl, hend⟩
        · exact ⟨_, spelled, c :: more, rfl, hone, Or.inr ⟨c, more, rfl, hmem, hcomma⟩⟩

end Values

section Endings

variable {name : String} {multiple : Bool} {default : Option String} {choices : List String}
  {tail : List Char} {s : State}

/-- The characters that end a declaration. -/
def Closes (subject : Subject) (c : Char) : Prop :=
  if subject.inQuery then c = '?' ∨ c = '&' else c = '>'

instance : Decidable (Closes subject c) :=
  inferInstanceAs (Decidable (if subject.inQuery = true then c = '?' ∨ c = '&' else c = '>'))

theorem Closes.mem_valueEnds (h : Closes subject c) : c ∈ valueEnds subject ∧ c ≠ ',' ∧ c ≠ '<' := by
  obtain ⟨q, _, _⟩ := subject
  cases q with
  | false =>
    obtain rfl : c = '>' := h
    simp [valueEnds]
  | true =>
    obtain rfl | rfl : c = '?' ∨ c = '&' := h
    · simp [valueEnds]
    · simp [valueEnds]

theorem Closes.mem_nameEnds (h : Closes subject c) : c ∈ nameEnds subject ∧ c ≠ ':' ∧ c ≠ '=' := by
  obtain ⟨q, _, _⟩ := subject
  cases q with
  | false =>
    obtain rfl : c = '>' := h
    simp [nameEnds]
  | true =>
    obtain rfl | rfl : c = '?' ∨ c = '&' := h
    · simp [nameEnds]
    · simp [nameEnds]

theorem Closes.utf8Size (h : Closes subject c) : c.utf8Size = 1 ∧ c ≠ '\\' := by
  obtain ⟨q, _, _⟩ := subject
  cases q with
  | false =>
    obtain rfl : c = '>' := h
    decide
  | true =>
    obtain rfl | rfl : c = '?' ∨ c = '&' := h
    · decide
    · decide

/-- The state behind a declaration and the character that ends it, which begins the next rule in a
query. -/
def closed (st : State) (subject : Subject) (constraint : Constraint) (name : String)
    (multiple : Bool) (default : Option String) (choices : List String) (c : Char) (offset : Nat) :
    State :=
  let st := st.declare subject constraint name multiple default choices
  if subject.inQuery then st.beginRule c offset else st

theorem endName_closes (h : Closes subject c) :
    st.endName subject constraint name multiple c offset =
      .ok (st.closed subject constraint name multiple none [] c offset) := by
  obtain ⟨q, _, _⟩ := subject
  cases q with
  | false =>
    obtain rfl : c = '>' := h
    rfl
  | true =>
    obtain rfl | rfl : c = '?' ∨ c = '&' := h
    · rfl
    · rfl

theorem step_values_close {equals : Nat} {earlier : List String}
    (hm : c ∈ valueEnds subject) (hcomma : c ≠ ',') (hlt : c ≠ '<') :
    (st.stage subject (.values constraint name multiple equals earlier chars)).step
        ⟨offset, .plain c⟩ =
      if Closes subject c then
        (defaults (Pattern.text chars :: earlier).reverse equals).map fun (default, choices) =>
          st.closed subject constraint name multiple default choices c offset
      else .error (.unexpectedCharacter, offset) := by
  have hin : (valueEnds subject).contains c = true := List.contains_iff_mem.mpr hm
  simp only [step, stage, stepDeclaration, stepValues, if_neg hlt, hin, if_neg hcomma, Closes]
  -- params and rules end at different characters, but the values are checked alike
  obtain ⟨q, _, _⟩ := subject
  cases q <;> cases defaults (Pattern.text chars :: earlier).reverse equals <;> rfl

/-- What a state does in which the name of a declaration has been read, and its plus sign if there
is one. -/
structure Named (st : State) (subject : Subject) (constraint : Constraint) (name : String)
    (multiple : Bool) (s : State) : Prop where
  step : ∀ offset c, c ∈ nameEnds subject → c ≠ ':' →
    s.step ⟨offset, .plain c⟩ = st.endName subject constraint name multiple c offset
  done : subject.inQuery = true →
    s.finish = (st.declare subject constraint name multiple none []).finish
  undone : subject.inQuery = false → ∃ e, s.finish = .error e

theorem named_name {name : List Char} (hne : name ≠ []) :
    Named st subject constraint (String.ofList name) false
      (st.stage subject (.name constraint name.reverse)) := by
  have hempty := isEmpty_reverse hne
  refine ⟨?_, ?_, ?_⟩
  · intro offset c hm hc
    rw [step_name_end hm hc (List.reverse_ne_nil_iff.mpr hne), text_reverse]
  · intro hq
    simp only [finish, stage, finishDeclaration, hempty, hq, text_reverse, declare]
    rfl
  · intro hq
    simp only [finish, stage, finishDeclaration, hempty, hq]
    exact ⟨_, rfl⟩

theorem named_repeated (hq : subject.inQuery = true) :
    Named st subject constraint name true (st.stage subject (.repeated constraint name)) := by
  refine ⟨fun _ _ _ _ => rfl, ?_, fun h => ?_⟩
  · intro _
    simp only [finish, stage, finishDeclaration, declare, hq]
    rfl
  · rw [hq] at h
    cases h

theorem mem_nameEnds_equals : '=' ∈ nameEnds subject := by
  obtain ⟨q, _, _⟩ := subject
  cases q <;> simp [nameEnds]

/-- A default or choices, and the end of the declaration. -/
theorem Named.resume_given (hn : Named st subject constraint name multiple s)
    (hg : Given subject.inQuery default choices tail) (hc : Closes subject c) :
    s.resume offset (tail ++ c :: rest) =
      (st.closed subject constraint name multiple default choices c (offset + width tail)).resume
        (offset + width tail + 1) rest := by
  obtain ⟨hsize, hback⟩ := hc.utf8Size
  cases hg with
  | nothing =>
    obtain ⟨hm, hcolon, -⟩ := hc.mem_nameEnds
    have hstep := (hn.step offset c hm hcolon).trans (endName_closes hc)
    rw [List.nil_append, resume_plain hback hstep, hsize]
    rfl
  | @values values choices default source hl hs =>
    have hstep : s.step ⟨offset, .plain '='⟩ =
        .ok (st.stage subject (.values constraint name multiple offset [] [])) :=
      hn.step offset '=' mem_nameEnds_equals (by decide)
    obtain ⟨earlier, chars, hv, hr⟩ := resume_listed hl st constraint name multiple
          offset [] (offset + '='.utf8Size) (c :: rest)
    obtain ⟨hm, hcomma, hlt⟩ := hc.mem_valueEnds
    have hend (o : Nat) : (st.stage subject (.values constraint name multiple offset earlier
        chars)).step ⟨o, .plain c⟩ =
          .ok (st.closed subject constraint name multiple default choices c o) := by
      rw [step_values_close hm hcomma hlt, if_pos hc, hv, List.reverse_nil, List.nil_append,
        (defaults_eq_ok_iff hl.ne_nil).mpr hs]
      rfl
    rw [List.cons_append, resume_plain (by decide) hstep, hr, resume_plain hback (hend _), hsize,
      width_cons, Nat.add_assoc offset]

/-- A default or choices at the end of the text. -/
theorem Named.resume_done (hn : Named st subject constraint name multiple s)
    (hq : subject.inQuery = true) (hg : Given subject.inQuery default choices tail) :
    s.resume offset tail =
      (st.declare subject constraint name multiple default choices).finish := by
  cases hg with
  | nothing => exact hn.done hq
  | @values values choices default source hl hs =>
    have hstep : s.step ⟨offset, .plain '='⟩ =
        .ok (st.stage subject (.values constraint name multiple offset [] [])) :=
      hn.step offset '=' mem_nameEnds_equals (by decide)
    obtain ⟨earlier, chars, hv, hr⟩ := resume_listed hl st constraint name multiple
          offset [] (offset + '='.utf8Size) []
    rw [List.append_nil] at hr
    rw [resume_plain (by decide) hstep, hr, resume_nil]
    simp only [finish, stage, finishDeclaration, hv, List.reverse_nil, List.nil_append,
      (defaults_eq_ok_iff hl.ne_nil).mpr hs]
    obtain ⟨q, required, start⟩ := subject
    obtain rfl : q = true := hq
    rfl

/-- What is read through behind a name is a default or choices of the grammar. -/
theorem Named.exists_given (hn : Named st subject constraint name multiple s)
    (h : s.resume offset source = .ok result)
    (hb : source = [] ∨ ∃ c more, source = c :: more ∧ c ∈ nameEnds subject ∧ c ≠ ':' ∧
      (c = '+' → multiple = true)) :
    ∃ default choices tail rest, source = tail ++ rest ∧
      Given subject.inQuery default choices tail ∧
      ((rest = [] ∧ subject.inQuery = true) ∨ ∃ c more, rest = c :: more ∧ Closes subject c) := by
  rcases hb with rfl | ⟨c, more, rfl, hm, hcolon, hplus⟩
  · refine ⟨none, [], [], [], rfl, .nothing, Or.inl ⟨rfl, ?_⟩⟩
    by_contra hq
    obtain ⟨e, he⟩ := hn.undone (Bool.eq_false_iff.mpr hq)
    rw [resume_nil, he] at h
    cases h
  · have hback : c ≠ '\\' := by
      intro hx
      subst hx
      obtain ⟨q, _, _⟩ := subject
      cases q <;> simp [nameEnds] at hm
    obtain ⟨next, hstep, h⟩ := step_of_resume hback h
    rw [hn.step offset c hm hcolon] at hstep
    by_cases hc : Closes subject c
    · exact ⟨none, [], [], c :: more, rfl, .nothing, Or.inr ⟨c, more, rfl, hc⟩⟩
    · by_cases heq : c = '='
      · subst heq
        cases hstep
        obtain ⟨values, spelled, rest, rfl, hl, hend⟩ := exists_listed h
        obtain ⟨earlier, chars, hv, hr⟩ := resume_listed hl st constraint name multiple
          offset [] (offset + '='.utf8Size) rest
        rw [List.reverse_nil, List.nil_append] at hv
        rw [hr] at h
        -- the check of the values is the same at the end of the text and at the end of a param
        have hstands {equals : Nat} {found : Option String × List String}
            (hd : defaults values equals = .ok found) :
            Given subject.inQuery found.1 found.2 ('=' :: spelled) :=
          .values hl ((defaults_eq_ok_iff hl.ne_nil).mp hd)
        rcases hend with rfl | ⟨d, more, rfl, hd, hcomma⟩
        · simp only [resume_nil, finish, stage, finishDeclaration, hv] at h
          by_cases hq : subject.inQuery = true
          · cases hd : defaults values offset with
            | error e =>
              simp only [hq, hd] at h
              cases h
            | ok found =>
              exact ⟨found.1, found.2, _, [], rfl, hstands hd, Or.inl ⟨rfl, hq⟩⟩
          · simp only [hq] at h
            cases h
        · have hlt : d ≠ '<' := by
            intro hx
            subst hx
            obtain ⟨q, _, _⟩ := subject
            cases q <;> simp [valueEnds] at hd
          have hback : d ≠ '\\' := by
            intro hx
            subst hx
            obtain ⟨q, _, _⟩ := subject
            cases q <;> simp [valueEnds] at hd
          obtain ⟨next, hstep, -⟩ := step_of_resume hback h
          rw [step_values_close hd hcomma hlt, hv] at hstep
          split_ifs at hstep with hcl
          cases hd : defaults values offset with
          | error e =>
            rw [hd] at hstep
            cases hstep
          | ok found =>
            exact ⟨found.1, found.2, '=' :: spelled, d :: more, rfl, hstands hd,
              Or.inr ⟨d, more, rfl, hcl⟩⟩
      · rw [endName, if_neg heq] at hstep
        obtain ⟨q, required, start⟩ := subject
        cases q with
        | false =>
          have hc' : ¬ c = '>' := hc
          rw [if_neg (by exact Bool.false_ne_true), if_neg hc'] at hstep
          cases hstep
        | true =>
          have hc' : ¬ (c = '?' ∨ c = '&') := hc
          rw [if_pos rfl, if_neg hc'] at hstep
          split_ifs at hstep with hp
          obtain ⟨hp, hmul⟩ := hp
          rw [hplus hp] at hmul
          cases hmul

end Endings

/-- The state behind a param. -/
def withParam (st : State) (p : Param) : State :=
  { st with nodes := .param p :: st.nodes, seen := p.name :: st.seen, part := .path }

/-- The state behind a rule. -/
def withRule (st : State) (rule : QueryRule) : State :=
  { st with query := rule :: st.query, part := .path }

section Params

variable {p : Param} {start : Nat}

theorem closed_param {name : String} {default : Option String} {choices : List String} :
    st.closed ⟨false, false, start⟩ constraint name false default choices c offset =
      st.withParam { name, constraint, default, choices
                     occurrence := st.seen.reverse.count name } := by
  rw [List.count_reverse]
  rfl

/-- A param and its closing bracket. -/
theorem resume_param (h : ParamText st.seen.reverse p source) :
    (st.stage ⟨false, false, start⟩ .start).resume offset (source ++ '>' :: rest) =
      (st.withParam p).resume (offset + width source + 1) rest := by
  obtain ⟨hh, hg⟩ := h
  have hc : Closes ⟨false, false, start⟩ '>' := by exact rfl
  have hhead : Headed (Subject.mk false false start).inQuery _ _ _ := hh
  rw [List.append_assoc, resume_head hhead,
    (named_name hh.name_ne_nil).resume_given hg hc, closed_param, width_append,
    Nat.add_assoc offset]

/-- A param that is read through is one of the grammar. -/
theorem exists_param
    (h : (st.stage ⟨false, false, start⟩ .start).resume offset source = .ok result) :
    ∃ p spelled rest, source = spelled ++ '>' :: rest ∧ ParamText st.seen.reverse p spelled := by
  obtain ⟨constraint, name, head, rest, rfl, hh, hend⟩ := exists_head h
  rw [resume_head hh] at h
  have hb : rest = [] ∨ ∃ c more, rest = c :: more ∧ c ∈ nameEnds ⟨false, false, start⟩ ∧ c ≠ ':' ∧
      (c = '+' → false = true) := by
    refine hend.imp_right ?_
    intro hx
    obtain ⟨c, more, rfl, hm, hc⟩ := hx
    refine ⟨c, more, rfl, hm, hc, ?_⟩
    intro hx
    subst hx
    simp [nameEnds] at hm
  obtain ⟨default, choices, tail, rest, rfl, hg, hclose⟩ :=
    (named_name hh.name_ne_nil).exists_given h hb
  rcases hclose with ⟨-, hq⟩ | ⟨c, more, rfl, hc⟩
  · cases hq
  · obtain rfl : c = '>' := hc
    exact ⟨_, head ++ tail, more, (List.append_assoc _ _ _).symm, .intro hh hg⟩

end Params

section Rules

variable {rule : QueryRule} {required : Bool} {start : Nat}

/-- A text behind which a query rule has ended. -/
inductive Marked : List Char → Prop
  | done : Marked []
  | mark {c : Char} {rest : List Char} : c = '?' ∨ c = '&' → Marked (c :: rest)

/-- Behind the path and between rules, a mark begins a rule. -/
theorem resume_mark (hp : st.part = .path) (hl : st.literal = []) (ho : st.outer = [])
    (hc : c = '?' ∨ c = '&') :
    st.resume offset (c :: rest) = (st.beginRule c offset).resume (offset + 1) rest := by
  have hflush : st.flush = st := by rw [flush, hl]; rfl
  have hstep : st.step ⟨offset, .plain c⟩ = .ok (st.beginRule c offset) := by
    rcases hc with rfl | rfl
    · simp only [step, hp, stepPath, ho, hflush]
    · simp only [step, hp, stepPath, ho, hflush]
  have hsize : c.utf8Size = 1 ∧ c ≠ '\\' := by
    rcases hc with rfl | rfl
    · decide
    · decide
  rw [resume_plain hsize.2 hstep, hsize.1]

theorem Named.resume_rule {name : String} {multiple : Bool} {default : Option String}
    {choices : List String} {s : State} {tail : List Char}
    (hn : Named st ⟨true, required, start⟩ constraint name multiple s)
    (hg : Given true default choices tail) (hm : Marked rest) (hl : st.literal = [])
    (ho : st.outer = []) :
    s.resume offset (tail ++ rest) =
      (st.withRule { name, constraint, required, multiple, default, choices }).resume
        (offset + width tail) rest := by
  cases hm with
  | done =>
    rw [List.append_nil, hn.resume_done rfl hg]
    rfl
  | mark hc =>
    refine (hn.resume_given hg hc).trans ?_
    have hpart : (st.withRule { name, constraint, required, multiple, default, choices }).part =
        .path := rfl
    rw [resume_mark hpart hl ho hc]
    rfl

/-- A rule. -/
theorem resume_rule (h : RuleText required rule source) (hm : Marked rest) (hl : st.literal = [])
    (ho : st.outer = []) :
    (st.stage ⟨true, required, start⟩ .start).resume offset (source ++ rest) =
      (st.withRule rule).resume (offset + width source) rest := by
  cases h with
  | once hh hg =>
    have hhead : Headed (Subject.mk true required start).inQuery _ _ _ := hh
    rw [List.append_assoc, resume_head hhead, (named_name hh.name_ne_nil).resume_rule hg hm hl ho,
      width_append, Nat.add_assoc]
  | @multiple constraint name head tail default choices hh hg =>
    have hplus : (st.stage ⟨true, required, start⟩ (.name constraint name.reverse)).step
        ⟨offset + width head, .plain '+'⟩ =
          .ok (st.stage ⟨true, required, start⟩ (.repeated constraint (String.ofList name))) :=
      (named_name hh.name_ne_nil).step _ '+' (by simp [nameEnds]) (by decide)
    have hhead : Headed (Subject.mk true required start).inQuery _ _ _ := hh
    rw [List.append_assoc, resume_head hhead, List.cons_append,
      resume_plain (by decide) hplus, (named_repeated rfl).resume_rule hg hm hl ho, width_append,
      width_cons, Nat.add_assoc, Nat.add_assoc]

/-- Behind the plus sign of a rule only values or the end of the rule can follow. -/
theorem starts_of_resume_repeated {name : String}
    (h : (st.stage ⟨true, required, start⟩ (.repeated constraint name)).resume offset source =
      .ok result) :
    source = [] ∨ ∃ c more, source = c :: more ∧ c ∈ nameEnds ⟨true, required, start⟩ ∧ c ≠ ':' ∧
      (c = '+' → true = true) := by
  cases source with
  | nil => exact Or.inl rfl
  | cons c source =>
    by_cases hback : c = '\\'
    · subst hback
      cases source with
      | nil => exact (not_resume_dangling h).elim
      | cons d source =>
        obtain ⟨next, hstep, -⟩ := step_escaped_of_resume h
        cases hstep
    · obtain ⟨next, hstep, -⟩ := step_of_resume hback h
      have hend : st.endName ⟨true, required, start⟩ constraint name true c offset = .ok next :=
        hstep
      rw [endName, if_pos rfl] at hend
      refine Or.inr ⟨c, source, rfl, ?_⟩
      split_ifs at hend with heq hmark hplus
      · subst heq
        simp [nameEnds]
      · rcases hmark with rfl | rfl
        · simp [nameEnds]
        · simp [nameEnds]
      · cases hplus.2

/-- A rule that is read through is one of the grammar. -/
theorem exists_rule
    (h : (st.stage ⟨true, required, start⟩ .start).resume offset source = .ok result) :
    ∃ rule spelled rest, source = spelled ++ rest ∧ RuleText required rule spelled ∧
      Marked rest := by
  obtain ⟨constraint, name, head, rest, rfl, hh, hend⟩ := exists_head h
  rw [resume_head hh] at h
  have hmarked {rest : List Char} (hr : (rest = [] ∧ true = true) ∨
      ∃ c more, rest = c :: more ∧ Closes ⟨true, required, start⟩ c) : Marked rest := by
    rcases hr with ⟨rfl, -⟩ | ⟨c, more, rfl, hc⟩
    · exact .done
    · exact .mark hc
  -- behind a plus sign the name is read, but the rule may still have values
  by_cases hplus : ∃ more, rest = '+' :: more
  · obtain ⟨more, rfl⟩ := hplus
    obtain ⟨next, hstep, h⟩ := step_of_resume (by decide) h
    rw [(named_name hh.name_ne_nil).step _ '+' (by simp [nameEnds]) (by decide)] at hstep
    cases hstep
    have hb := starts_of_resume_repeated h
    obtain ⟨default, choices, tail, rest, rfl, hg, hclose⟩ :=
      (named_repeated rfl).exists_given h hb
    exact ⟨_, head ++ '+' :: tail, rest, by simp, .multiple hh hg, hmarked hclose⟩
  · have hb : rest = [] ∨ ∃ c more, rest = c :: more ∧ c ∈ nameEnds ⟨true, required, start⟩ ∧
        c ≠ ':' ∧ (c = '+' → false = true) := by
      refine hend.imp_right ?_
      intro hx
      obtain ⟨c, more, rfl, hm, hc⟩ := hx
      refine ⟨c, more, rfl, hm, hc, ?_⟩
      intro hx
      subst hx
      exact absurd ⟨more, rfl⟩ hplus
    obtain ⟨default, choices, tail, rest, rfl, hg, hclose⟩ :=
      (named_name hh.name_ne_nil).exists_given h hb
    exact ⟨_, head ++ tail, rest, (List.append_assoc _ _ _).symm, .once hh hg, hmarked hclose⟩

end Rules

end State

end RoutePattern.Pattern
