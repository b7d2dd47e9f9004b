import Mathlib.Algebra.GroupWithZero.Nat
import Mathlib.Data.List.Basic
import Mathlib.Tactic.Common
import RoutePattern.Proofs.Pattern.Grammar

/-! Reading on from a state: what the grammar describes moves the reader from one state to the next,
with any text behind it. -/
namespace RoutePattern.Pattern

open Grammar

/-- The number of bytes of a text. -/
def width (source : List Char) : Nat := (source.map Char.utf8Size).sum

theorem width_cons {c : Char} {source : List Char} :
    width (c :: source) = c.utf8Size + width source := List.sum_cons

theorem width_append {s t : List Char} : width (s ++ t) = width s + width t := by
  rw [width, List.map_append, List.sum_append, width, width]

theorem utf8Size_backslash : '\\'.utf8Size = 1 := rfl

theorem tokens_plain {offset : Nat} {c : Char} {source : List Char} (h : c ≠ '\\') :
    tokens offset (c :: source) = ⟨offset, .plain c⟩ :: tokens (offset + c.utf8Size) source := by
  rw [tokens.eq_4]
  · intro hc _
    exact h hc
  · intro _ _ hc _
    exact h hc

namespace State

/-- Reads the rest of a text. -/
def resume (st : State) (offset : Nat) (source : List Char) :
    Except Failure (List Node × List QueryRule) :=
  ((tokens offset source).foldlM step st).bind finish

variable {st next : State} {offset : Nat} {c : Char} {source rest : List Char}

theorem resume_nil : st.resume offset [] = st.finish := rfl

theorem resume_plain (hc : c ≠ '\\') (h : st.step ⟨offset, .plain c⟩ = .ok next) :
    st.resume offset (c :: source) = next.resume (offset + c.utf8Size) source := by
  rw [resume, tokens_plain hc, List.foldlM_cons, h]
  rfl

theorem resume_escaped (h : st.step ⟨offset, .escaped c⟩ = .ok next) :
    st.resume offset ('\\' :: c :: source) =
      next.resume (offset + width ['\\', c]) source := by
  rw [resume, tokens, List.foldlM_cons, h, width_cons, width_cons, utf8Size_backslash,
    ← Nat.add_assoc]
  rfl

theorem resume_plain_error {e : Failure} (hc : c ≠ '\\')
    (h : st.step ⟨offset, .plain c⟩ = .error e) : st.resume offset (c :: source) = .error e := by
  rw [resume, tokens_plain hc, List.foldlM_cons, h]
  rfl

theorem resume_escaped_error {e : Failure} (h : st.step ⟨offset, .escaped c⟩ = .error e) :
    st.resume offset ('\\' :: c :: source) = .error e := by
  rw [resume, tokens, List.foldlM_cons, h]
  rfl

/-- No part of a pattern goes on with a backslash at the end of the text. -/
theorem step_dangling (st : State) (offset : Nat) :
    ∃ e, st.step ⟨offset, .dangling⟩ = .error e := by
  rw [step]
  split
  · exact ⟨_, rfl⟩
  · rename_i subject stage _
    cases stage <;> exact ⟨_, rfl⟩

theorem resume_dangling (st : State) (offset : Nat) : ∃ e, st.resume offset ['\\'] = .error e := by
  obtain ⟨e, he⟩ := st.step_dangling offset
  refine ⟨e, ?_⟩
  rw [resume, tokens, List.foldlM_cons, he]
  rfl

end State

section Scanning

/-- A text at which a scan ends: there is nothing left, or a lone backslash, or a stop. -/
inductive Stopped (stops : List Char) : List Char → Prop
  | done : Stopped stops []
  | dangling : Stopped stops ['\\']
  | stop {c : Char} {rest : List Char} : c ∈ stops → c ≠ '\\' → Stopped stops (c :: rest)

/-- Every text begins with spelled text up to a stop. -/
theorem exists_spelled (stops source : List Char) :
    ∃ text spelled rest, source = spelled ++ rest ∧ Spelled stops text spelled ∧
      Stopped stops rest := by
  -- on the length of the text, since an escape takes two characters at once
  induction hn : source.length using Nat.strongRecOn generalizing source with
  | _ n ih =>
    subst hn
    cases source with
    | nil => exact ⟨[], [], [], rfl, .nil, .done⟩
    | cons c source =>
      by_cases hc : c = '\\'
      · subst hc
        cases source with
        | nil => exact ⟨[], [], ['\\'], rfl, .nil, .dangling⟩
        | cons d source =>
          have hlt : source.length < ('\\' :: d :: source).length := by
            simp only [List.length_cons]
            omega
          obtain ⟨text, spelled, rest, rfl, hs, hr⟩ := ih _ hlt source rfl
          exact ⟨d :: text, '\\' :: d :: spelled, rest, rfl, .escaped hs, hr⟩
      · by_cases hm : c ∈ stops
        · exact ⟨[], [], c :: source, rfl, .nil, .stop hm hc⟩
        · obtain ⟨text, spelled, rest, rfl, hs, hr⟩ := ih _ (Nat.lt_succ_self _) source rfl
          exact ⟨c :: text, c :: spelled, rest, rfl, .plain hc hm hs, hr⟩

theorem Grammar.Spelled.eq_nil_iff {stops text source : List Char} (h : Spelled stops text source) :
    text = [] ↔ source = [] := by
  cases h with
  | nil => exact ⟨fun _ => rfl, fun _ => rfl⟩
  | plain => exact ⟨nofun, nofun⟩
  | escaped => exact ⟨nofun, nofun⟩

end Scanning

namespace State

variable {st : State} {subject : Subject} {constraint : Constraint} {offset opening depth : Nat}
  {c : Char} {chars text source rest : List Char}

theorem mem_nameStops : c ∈ nameStops subject.inQuery ↔ c = '<' ∨ c ∈ nameEnds subject := by
  obtain ⟨q, _, _⟩ := subject
  cases q <;> exact List.mem_cons

theorem mem_valueStops : c ∈ valueStops subject.inQuery ↔ c = '<' ∨ c ∈ valueEnds subject := by
  obtain ⟨q, _, _⟩ := subject
  cases q <;> exact List.mem_cons

/-- States that differ in a collected text only, to which every character but a stop is added. -/
structure Collects (stops : List Char) (state : List Char → State) : Prop where
  plain : ∀ chars offset c, c ∉ stops →
    (state chars).step ⟨offset, .plain c⟩ = .ok (state (c :: chars))
  escaped : ∀ chars offset c, (state chars).step ⟨offset, .escaped c⟩ = .ok (state (c :: chars))

/-- Spelled text is added to what was collected. -/
theorem Collects.resume {stops : List Char} {state : List Char → State} (hc : Collects stops state)
    (h : Spelled stops text source) (chars : List Char) (offset : Nat) (rest : List Char) :
    (state chars).resume offset (source ++ rest) =
      (state (text.reverse ++ chars)).resume (offset + width source) rest := by
  induction h generalizing offset chars with
  | nil => rfl
  | @plain c text source hne hm _ ih =>
    rw [List.cons_append, resume_plain hne (hc.plain chars offset c hm), ih, List.reverse_cons,
      List.append_assoc, width_cons, Nat.add_assoc, List.singleton_append]
  | @escaped c text source _ ih =>
    have hw : width ('\\' :: c :: source) = width ['\\', c] + width source :=
      width_append (s := ['\\', c])
    rw [List.cons_append, List.cons_append, resume_escaped (hc.escaped chars offset c), ih,
      List.reverse_cons, List.append_assoc, hw, Nat.add_assoc, List.singleton_append]

theorem collects_name (st : State) (subject : Subject) (constraint : Constraint) :
    Collects (nameStops subject.inQuery) fun chars =>
      st.stage subject (.name constraint chars) where
  plain chars offset c hm := by
    rw [mem_nameStops, not_or] at hm
    have he : (nameEnds subject).contains c = false := by simpa using hm.2
    simp only [step, stage, stepDeclaration, stepName, if_neg hm.1, he]
    rfl
  escaped chars offset c := rfl

theorem collects_values (st : State) (subject : Subject) (constraint : Constraint) (name : String)
    (multiple : Bool) (equals : Nat) (values : List String) :
    Collects (valueStops subject.inQuery) fun chars =>
      st.stage subject (.values constraint name multiple equals values chars) where
  plain chars offset c hm := by
    rw [mem_valueStops, not_or] at hm
    have he : (valueEnds subject).contains c = false := by simpa using hm.2
    simp only [step, stage, stepDeclaration, stepValues, if_neg hm.1, he]
    rfl
  escaped chars offset c := rfl

theorem collects_literal (st : State) (hp : st.part = .path) :
    Collects pathStops fun chars => { st with literal := chars } where
  plain chars offset c hm := by
    simp only [pathStops, List.mem_cons, List.not_mem_nil, or_false, not_or] at hm
    obtain ⟨h1, h2, h3, h4, h5, h6, h7, h8, h9⟩ := hm
    simp only [step, hp, stepPath, pushChar]
  escaped chars offset c := by
    simp only [step, hp, stepPath, pushChar]

/-- Balanced text is added to a regex, however deep it stands. -/
theorem resume_regex (h : Balanced text) (hd : 0 < depth) :
    (st.stage subject (.regex opening depth chars)).resume offset (text ++ rest) =
      (st.stage subject (.regex opening depth (text.reverse ++ chars))).resume
        (offset + width text) rest := by
  induction h generalizing offset depth chars rest with
  | nil => rfl
  | @plain c text hc _ ih =>
    simp only [List.mem_cons, List.not_mem_nil, or_false, not_or] at hc
    obtain ⟨hc, hopen, hclose⟩ := hc
    have hstep : (st.stage subject (.regex opening depth chars)).step ⟨offset, .plain c⟩ =
        .ok (st.stage subject (.regex opening depth (c :: chars))) := by
      simp only [step, stage, stepDeclaration]
    rw [List.cons_append, resume_plain hc hstep, ih hd, List.reverse_cons, List.append_assoc,
      width_cons, Nat.add_assoc, List.singleton_append]
  | @escaped c text _ ih =>
    have hw : width ('\\' :: c :: text) = width ['\\', c] + width text :=
      width_append (s := ['\\', c])
    have hstep : (st.stage subject (.regex opening depth chars)).step ⟨offset, .escaped c⟩ =
        .ok (st.stage subject (.regex opening depth (c :: '\\' :: chars))) := rfl
    rw [List.cons_append, List.cons_append, resume_escaped hstep, ih hd, List.reverse_cons,
      List.reverse_cons, List.append_assoc, List.append_assoc, hw, Nat.add_assoc,
      List.singleton_append, List.singleton_append]
  -- the inner text is read one level deeper, where its end is not the end of the regex
  | @braces inner text _ _ ih ih' =>
    have hopen : (st.stage subject (.regex opening depth chars)).step ⟨offset, .plain '{'⟩ =
        .ok (st.stage subject (.regex opening (depth + 1) ('{' :: chars))) := rfl
    have hclose (offset : Nat) (chars : List Char) :
        (st.stage subject (.regex opening (depth + 1) chars)).step ⟨offset, .plain '}'⟩ =
          .ok (st.stage subject (.regex opening depth ('}' :: chars))) := by
      have hne : depth + 1 ≠ 1 := by omega
      simp only [step, stage, stepDeclaration, if_pos hne, Nat.add_sub_cancel]
    have hchars : ('{' :: (inner ++ '}' :: text)).reverse ++ chars =
        text.reverse ++ '}' :: (inner.reverse ++ '{' :: chars) := by simp
    have hwidth : offset + width ('{' :: (inner ++ '}' :: text)) =
        offset + '{'.utf8Size + width inner + '}'.utf8Size + width text := by
      rw [width_cons, width_append, width_cons]
      omega
    rw [List.cons_append, List.append_assoc, List.cons_append, resume_plain (by decide) hopen,
      ih (Nat.succ_pos depth), resume_plain (by decide) (hclose _ _), ih' hd, hchars, hwidth]

/-- A text that does not begin with a brace begins with a name or the name of a kind. -/
theorem resume_start (h : source.head? ≠ some '{') :
    (st.stage subject .start).resume offset source =
      (st.stage subject (.name .any [])).resume offset source := by
  cases source with
  | nil => rfl
  | cons c source =>
    by_cases hc : c = '\\'
    · subst hc
      cases source <;> rfl
    · have hne : Symbol.plain c ≠ .plain '{' := by
        intro he
        exact h (congrArg some (Symbol.plain.inj he))
      -- at any other character the reader does what it does in an empty name
      have hstep : (st.stage subject .start).step ⟨offset, .plain c⟩ =
          (st.stage subject (.name .any [])).step ⟨offset, .plain c⟩ := by
        simp only [step, stage, stepDeclaration, if_neg hne]
        rfl
      rw [resume, resume, tokens_plain hc, List.foldlM_cons, List.foldlM_cons, hstep]

theorem text_reverse (chars : List Char) : Pattern.text chars.reverse = String.ofList chars := by
  rw [Pattern.text, List.reverse_reverse]

theorem isEmpty_reverse (hne : chars ≠ []) : chars.reverse.isEmpty = false := by
  rw [List.isEmpty_eq_false_iff, List.reverse_ne_nil_iff]
  exact hne

/-- A head leads to the name with its constraint. -/
theorem resume_head {name : List Char} (h : Headed subject.inQuery constraint name source) :
    (st.stage subject .start).resume offset (source ++ rest) =
      (st.stage subject (.name constraint name.reverse)).resume (offset + width source) rest := by
  have hcolon : ':' ∈ nameEnds subject := by
    have hm : ':' ∈ nameStops subject.inQuery := by cases subject.inQuery <;> decide
    exact (mem_nameStops.mp hm).resolve_left (by decide)
  -- before the colon of a kind the reader cannot tell its name from that of the param
  cases h with
  | @any _ source hs hne hb =>
    have hsrc : source ≠ [] := fun he => hne (hs.eq_nil_iff.mpr he)
    have hhead : (source ++ rest).head? ≠ some '{' := by
      rwa [List.head?_append_of_ne_nil source hsrc]
    rw [resume_start hhead, (collects_name st subject _).resume hs, List.append_nil]
  | @kind kind name before source hk hkne hb hs hne =>
    have hsrc : before ≠ [] := fun he => hkne (hk.eq_nil_iff.mpr he)
    have hhead : (before ++ (':' :: source ++ rest)).head? ≠ some '{' := by
      rwa [List.head?_append_of_ne_nil before hsrc]
    have hstep (offset : Nat) : (st.stage subject (.name .any kind.reverse)).step
        ⟨offset, .plain ':'⟩ = .ok (st.stage subject (.name (.kind (String.ofList kind)) [])) := by
      simp [step, stage, stepDeclaration, stepName, Pattern.text, hcolon, isEmpty_reverse hkne]
    rw [List.append_assoc, resume_start hhead, (collects_name st subject _).resume hk,
      List.append_nil, List.cons_append, resume_plain (by decide) (hstep _),
      (collects_name st subject _).resume hs, List.append_nil, width_append, width_cons]
    congr 1
    omega
  | @regex regex name source hr hrne hs hne =>
    have hopen : (st.stage subject .start).step ⟨offset, .plain '{'⟩ =
        .ok (st.stage subject (.regex offset 1 [])) := rfl
    have hclose (offset' : Nat) : (st.stage subject (.regex offset 1 regex.reverse)).step
        ⟨offset', .plain '}'⟩ =
          .ok (st.stage subject (.regexEnd offset (String.ofList regex))) := by
      simp [step, stage, stepDeclaration, Pattern.text, isEmpty_reverse hrne]
    have hend (offset' : Nat) :
        (st.stage subject (.regexEnd offset (String.ofList regex))).step ⟨offset', .plain ':'⟩ =
          .ok (st.stage subject (.name (.regex (String.ofList regex)) [])) := rfl
    rw [List.cons_append, resume_plain (by decide) hopen, List.append_assoc,
      resume_regex hr Nat.one_pos, List.append_nil, List.cons_append,
      resume_plain (by decide) (hclose _), List.cons_append, resume_plain (by decide) (hend _),
      (collects_name st subject _).resume hs, List.append_nil, width_cons, width_append,
      width_cons, width_cons]
    congr 1
    omega

/-- Behind a name that is there, a stop other than a colon ends the name. -/
theorem step_name_end (hm : c ∈ nameEnds subject) (hc : c ≠ ':') (hne : chars ≠ []) :
    (st.stage subject (.name constraint chars)).step ⟨offset, .plain c⟩ =
      st.endName subject constraint (Pattern.text chars) false c offset := by
  have hlt : c ≠ '<' := by
    intro h
    subst h
    have hn : '<' ∉ nameEnds subject := by
      obtain ⟨q, _, _⟩ := subject
      cases q <;> simp [nameEnds]
    exact hn hm
  have hin : (nameEnds subject).contains c = true := List.contains_iff_mem.mpr hm
  have hempty : chars.isEmpty = false := List.isEmpty_eq_false_iff.mpr hne
  simp only [step, stage, stepDeclaration, stepName, if_neg hlt, hin, if_neg hc, hempty]
  rfl

section Values

variable {name : String} {multiple : Bool} {equals : Nat} {earlier values : List String}

theorem step_values_comma :
    (st.stage subject (.values constraint name multiple equals earlier chars)).step
        ⟨offset, .plain ','⟩ =
      .ok (st.stage subject
        (.values constraint name multiple equals (Pattern.text chars :: earlier) [])) := by
  obtain ⟨q, _, _⟩ := subject
  cases q <;> rfl

/-- Listed values are collected, the last of them still open. -/
theorem resume_listed (h : Listed subject.inQuery values source) (st : State)
    (constraint : Constraint) (name : String) (multiple : Bool) (equals : Nat)
    (earlier : List String) (offset : Nat) (rest : List Char) :
    ∃ earlier' chars, (Pattern.text chars :: earlier').reverse = earlier.reverse ++ values ∧
      (st.stage subject (.values constraint name multiple equals earlier [])).resume offset
          (source ++ rest) =
        (st.stage subject (.values constraint name multiple equals earlier' chars)).resume
          (offset + width source) rest := by
  induction h generalizing offset earlier with
  | @one value source hs =>
    refine ⟨earlier, value.reverse, ?_, ?_⟩
    · rw [text_reverse, List.reverse_cons]
    · rw [(collects_values st subject _ _ _ _ _).resume hs, List.append_nil]
  | @more value source others values hs _ ih =>
    -- the value behind the comma begins with nothing collected, as the first one did
    obtain ⟨earlier', chars, hv, hr⟩ :=
      ih (String.ofList value :: earlier) (offset + width source + 1)
    refine ⟨earlier', chars, ?_, ?_⟩
    · rw [hv, List.reverse_cons, List.append_assoc, List.singleton_append]
    · rw [List.append_assoc, (collects_values st subject _ _ _ _ _).resume hs, List.append_nil,
        List.cons_append, resume_plain (by decide) step_values_comma, text_reverse]
      refine hr.trans ?_
      rw [width_append, width_cons, ← Nat.add_assoc, ← Nat.add_assoc]
      rfl

/-- Values stand for a default and choices as the grammar says. -/
theorem defaults_eq_ok_iff {default : Option String} {choices : List String} (hne : values ≠ []) :
    defaults values equals = .ok (default, choices) ↔ Stands values default choices := by
  match values, hne with
  | [value], _ =>
    by_cases he : value = ""
    · subst he
      constructor
      · intro h
        cases h
        exact .empty
      · intro h
        cases h with
        | empty => rfl
        | default hn => exact absurd rfl hn
    · have hd : defaults [value] equals = .ok (some value, []) := by
        have hempty : value.isEmpty = false := by simpa using he
        simp [defaults, hempty]
      rw [hd]
      constructor
      · intro h
        cases h
        exact .default he
      · intro h
        cases h with
        | empty => exact absurd rfl he
        | default _ => rfl
  | first :: second :: more, _ =>
    have hiff : (first :: second :: more).any String.isEmpty = true ↔
        ¬ ∀ value ∈ first :: second :: more, value ≠ "" := by
      rw [List.any_eq_true]
      push Not
      simp only [String.isEmpty_iff]
    rw [defaults]
    · split_ifs with hany
      · refine ⟨nofun, fun h => ?_⟩
        cases h with
        | choices hall => exact absurd hall (hiff.mp hany)
      · have hall := not_not.mp (mt hiff.mpr hany)
        constructor
        · intro h
          cases h
          exact .choices hall
        · intro h
          cases h with
          | choices _ => rfl
    · exact nofun

end Values

end State

end RoutePattern.Pattern
