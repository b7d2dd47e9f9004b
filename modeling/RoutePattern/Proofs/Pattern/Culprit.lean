import RoutePattern.Proofs.Pattern.Declaration

/-! What a malformed pattern is refused for: what stands at the place that an error names. Here the errors
within declarations. -/
namespace RoutePattern.Pattern

open Grammar

/-- What stands where a fault lies that is none of groups. -/
inductive Points : Fault → List Char → Prop
  | character {c : Char} {rest : List Char} : Points .unexpectedCharacter (c :: rest)
  | escape : Points .unterminatedEscape ['\\']
  | emptyRegex {rest : List Char} : Points .emptyRegex ('{' :: rest)
  | unterminatedRegex {rest : List Char} : Points .unterminatedRegex ('{' :: rest)
  | colon {c : Char} {rest : List Char} : c ≠ ':' → Points .colonExpected (c :: rest)
  | param {rest : List Char} : Points .unterminatedParam ('<' :: rest)
  | regex {rest : List Char} : Points .unterminatedParam ('{' :: rest)
  | kind {rest : List Char} : Points .emptyKind (':' :: rest)
  | name {c : Char} {rest : List Char} : Points .emptyName (c :: rest)
  | choice {rest : List Char} : Points .emptyChoice ('=' :: rest)

/-- The beginning of a path, in which groups may still be open. -/
inductive Begun : List Char → Prop
  | start : Begun []
  | path {before source : List Char} {names : List String} {nodes : List Node} :
    Begun before → PathText names nodes source → Begun (before ++ source)
  | opened {before : List Char} : Begun before → Begun (before ++ ['('])

/-- What a text is refused for, with what stands in front of the fault and what begins there. -/
inductive Culprit : Fault → List Char → List Char → Prop
  | points {fault : Fault} {before after : List Char} : Points fault after → Culprit fault before after
  /-- a parenthesis that closes no group -/
  | unmatched {path : List Node} {before rest : List Char} :
    PathText [] path before → Culprit .unbalancedGroup before (')' :: rest)
  /-- a parenthesis whose group is not closed, though all groups in it are -/
  | unclosed {names : List String} {nodes : List Node} {before inner rest : List Char} :
    Begun before → PathText names nodes inner → State.Marked rest →
      Culprit .unbalancedGroup before ('(' :: (inner ++ rest))
  | emptyGroup {before rest : List Char} :
    Begun before → Culprit .emptyGroup (before ++ ['(']) (')' :: rest)
  /-- a mark at the end, behind a pattern -/
  | unnamed {path : List Node} {query : List QueryRule} {before : List Char} {mark : Char} :
    PatternText path query before → mark = '?' ∨ mark = '&' → Culprit .emptyName (before ++ [mark]) []

section Places

variable {base offset : Nat} {front more rest : List Char} {c : Char} {fault : Fault}

/-- Whether a character stands at a place in a text that begins at `base`. -/
def At (base : Nat) (front : List Char) (c : Char) (offset : Nat) : Prop :=
  ∃ before after, front = before ++ c :: after ∧ offset = base + width before

/-- Whether a text that begins at `base` is refused for what stands at a place in it. -/
def Blamed (base : Nat) (source : List Char) (fault : Fault) (offset : Nat) : Prop :=
  ∃ before after, source = before ++ after ∧ offset = base + width before ∧ Points fault after

theorem at_end : At base (front ++ c :: more) c (base + width front) := ⟨front, more, rfl, rfl⟩

theorem At.append (h : At base front c offset) (more : List Char) : At base (front ++ more) c offset := by
  obtain ⟨before, after, rfl, hoffset⟩ := h
  exact ⟨before, after ++ more, by rw [List.append_assoc, List.cons_append], hoffset⟩

theorem At.blamed (h : At base front c offset) (hp : ∀ rest, Points fault (c :: rest)) :
    Blamed base front fault offset := by
  obtain ⟨before, after, rfl, hoffset⟩ := h
  exact ⟨before, c :: after, rfl, hoffset, hp after⟩

theorem blamed_end (h : Points fault rest) : Blamed base (front ++ rest) fault (base + width front) :=
  ⟨front, rest, rfl, rfl, h⟩

end Places

namespace State

variable {st : State} {subject : Subject} {stage : Stage} {base offset : Nat} {c : Char}
  {front source rest : List Char}

/-- Whether the places that a stage of a declaration keeps are those of their characters. -/
def Held (base : Nat) (front : List Char) (subject : Subject) : Stage → Prop
  | .start => subject.inQuery = true → front = []
  | .regex opening _ _ | .regexEnd opening _ => At base front '{' opening
  | .name _ _ => front ≠ []
  | .repeated _ _ => subject.inQuery = true
  | .values _ _ _ equals _ _ => At base front '=' equals

/-- Whether a text has been read of a declaration. The text of a param begins with its bracket, that of a
rule behind its mark. -/
structure Placed (base : Nat) (front : List Char) (subject : Subject) (stage : Stage) : Prop where
  start : subject.start = base
  bracket : subject.inQuery = false → ∃ rest, front = '<' :: rest
  held : Held base front subject stage

/-- What a declaration becomes with a character, or an escape, of which `read` is the text. -/
inductive Goes (st : State) (subject : Subject) (stage : Stage) (base : Nat) (front read : List Char) :
    Except Failure State → Prop
  | on {next : Stage} : Placed base (front ++ read) subject next →
    Goes st subject stage base front read (.ok (st.stage subject next))
  | closes {c : Char} {constraint : Constraint} {name : String} {multiple : Bool}
      {default : Option String} {choices : List String} : read = [c] → Closes subject c →
    (subject.inQuery = true → (st.stage subject stage).finish =
      (st.declare subject constraint name multiple default choices).finish) →
    Goes st subject stage base front read
      (.ok (st.closed subject constraint name multiple default choices c (base + width front)))
  | refused {fault : Fault} {offset : Nat} : (∀ rest, Blamed base (front ++ read ++ rest) fault offset) →
    Goes st subject stage base front read (.error (fault, offset))

theorem Placed.next {next : Stage} {read : List Char} (h : Placed base front subject stage)
    (hheld : Held base (front ++ read) subject next) : Placed base (front ++ read) subject next where
  start := h.start
  bracket hq := by
    obtain ⟨rest, rfl⟩ := h.bracket hq
    exact ⟨rest ++ read, rfl⟩
  held := hheld

/-- What begins with a token is refused for it where the fault may lie at any such character. -/
theorem Goes.refused_here {fault : Fault} {read : List Char}
    (hp : ∀ rest, Points fault (read ++ rest)) :
    Goes st subject stage base front read (.error (fault, base + width front)) := by
  refine .refused fun rest => ?_
  rw [List.append_assoc]
  exact blamed_end (hp rest)

section Steps

variable {constraint : Constraint} {name : String} {multiple : Bool} {chars : List Char}

theorem Placed.goes_endName (h : Placed base front subject stage)
    (hdone : subject.inQuery = true → (st.stage subject stage).finish =
      (st.declare subject constraint name multiple none []).finish) :
    Goes st subject stage base front [c]
      (st.endName subject constraint name multiple c (base + width front)) := by
  by_cases hc : Closes subject c
  · rw [endName_closes hc]
    exact .closes rfl hc hdone
  rw [endName]
  split_ifs with heq hq hmark hplus hclose
  · subst heq
    exact .on (h.next at_end)
  · exact absurd (by rw [Closes, if_pos hq]; exact hmark) hc
  · exact .on (h.next hq)
  · exact .refused_here fun _ => .character
  · exact absurd (by rw [Closes, if_neg hq]; exact hclose) hc
  · exact .refused_here fun _ => .character

/-- A name goes on, or ends at a character that its declaration can go on with. -/
theorem Placed.goes_name (h : Placed base front subject stage)
    (hdone : subject.inQuery = true → chars ≠ [] → (st.stage subject stage).finish =
      (st.declare subject constraint (Pattern.text chars) false none []).finish) :
    Goes st subject stage base front [c]
      (st.stepName subject constraint chars ⟨base + width front, .plain c⟩) := by
  have hne : front ++ [c] ≠ [] := List.append_ne_nil_of_right_ne_nil _ (List.cons_ne_nil _ _)
  simp only [stepName]
  split_ifs with hlt hgo hcolon hany hkind hempty
  · exact .refused_here fun _ => .character
  · exact .on (h.next hne)
  · exact .refused_here fun _ => .character
  · subst hcolon
    exact .refused_here fun _ => .kind
  · exact .on (h.next hne)
  · exact .refused_here fun _ => .name
  · exact h.goes_endName fun hq => hdone hq (List.isEmpty_eq_false_iff.mp (Bool.eq_false_iff.mpr hempty))

end Steps

theorem eq_of_defaults_error {values : List String} {equals : Nat} {e : Failure}
    (h : defaults values equals = .error e) : e = (.emptyChoice, equals) := by
  rw [defaults.eq_def] at h
  split at h
  · cases h
  · cases h
  · split_ifs at h
    exact (Except.error.inj h).symm

/-- A rule may end behind its name. -/
theorem finish_name {constraint : Constraint} {chars : List Char} (hq : subject.inQuery = true)
    (hne : chars ≠ []) : (st.stage subject (.name constraint chars)).finish =
      (st.declare subject constraint (Pattern.text chars) false none []).finish := by
  rw [← List.reverse_reverse chars, text_reverse]
  exact (named_name (List.reverse_ne_nil_iff.mpr hne)).done hq

/-- Where the values are those of a default or choices, a rule may end behind them. -/
theorem finish_values {constraint : Constraint} {name : String} {multiple : Bool} {equals : Nat}
    {values : List String} {chars : List Char} {found : Option String × List String}
    (hq : subject.inQuery = true)
    (hd : defaults (Pattern.text chars :: values).reverse equals = .ok found) :
    (st.stage subject (.values constraint name multiple equals values chars)).finish =
      (st.declare subject constraint name multiple found.1 found.2).finish := by
  obtain ⟨q, required, start⟩ := subject
  obtain rfl : q = true := hq
  simp only [finish, stage, finishDeclaration, hd]
  rfl

/-- A value goes on, or ends at a comma, or at the end of its declaration, where all values are checked. -/
theorem Placed.goes_values {constraint : Constraint} {name : String} {multiple : Bool} {equals : Nat}
    {values : List String} {chars : List Char}
    (h : Placed base front subject (.values constraint name multiple equals values chars)) (st : State)
    (c : Char) :
    Goes st subject (.values constraint name multiple equals values chars) base front [c]
      ((st.stage subject (.values constraint name multiple equals values chars)).step
        ⟨base + width front, .plain c⟩) := by
  have hequals : At base (front ++ [c]) '=' equals := At.append h.held [c]
  by_cases hstop : c ∈ valueStops subject.inQuery
  · by_cases hlt : c = '<'
    · subst hlt
      exact .refused_here fun _ => .character
    have hend := (mem_valueStops.mp hstop).resolve_left hlt
    by_cases hcomma : c = ','
    · subst hcomma
      rw [step_values_comma]
      exact .on (h.next hequals)
    rw [step_values_close hend hcomma hlt]
    split_ifs with hcloses
    · cases hd : defaults (Pattern.text chars :: values).reverse equals with
      | error e =>
        obtain rfl := eq_of_defaults_error hd
        exact .refused fun rest => (hequals.append rest).blamed fun _ => .choice
      | ok found =>
        exact .closes rfl hcloses fun hq => finish_values hq hd
    · exact .refused_here fun _ => .character
  · rw [(collects_values st subject _ _ _ _ _).plain _ _ c hstop]
    exact .on (h.next hequals)

/-- A character leads on within a declaration, or ends it, or is refused. -/
theorem Placed.goes_plain (h : Placed base front subject stage) (st : State) (c : Char) :
    Goes st subject stage base front [c]
      ((st.stage subject stage).step ⟨base + width front, .plain c⟩) := by
  have hne : front ++ [c] ≠ [] := List.append_ne_nil_of_right_ne_nil _ (List.cons_ne_nil _ _)
  have hstep : (st.stage subject stage).step ⟨base + width front, .plain c⟩ =
      st.stepDeclaration subject stage ⟨base + width front, .plain c⟩ := rfl
  cases stage with
  | start =>
    rw [hstep, stepDeclaration]
    split_ifs with hbrace
    · obtain rfl : c = '{' := Symbol.plain.inj hbrace
      exact .on (h.next at_end)
    · exact h.goes_name fun _ hempty => absurd rfl hempty
  | regex opening depth chars =>
    have hopening : At base (front ++ [c]) '{' opening := At.append h.held [c]
    by_cases hopen : c = '{'
    · subst hopen
      exact .on (h.next hopening)
    by_cases hclose : c = '}'
    · subst hclose
      rw [hstep]
      simp only [stepDeclaration]
      split_ifs with hdeep hempty
      · exact .on (h.next hopening)
      · exact .refused fun rest => (hopening.append rest).blamed fun _ => .emptyRegex
      · exact .on (h.next hopening)
    · rw [hstep]
      simp only [stepDeclaration]
      exact .on (h.next hopening)
  | regexEnd opening regex =>
    rw [hstep, stepDeclaration]
    split_ifs with hcolon
    · exact .on (h.next hne)
    · exact .refused_here fun _ => .colon fun hc => hcolon (congrArg Symbol.plain hc)
  | name constraint chars =>
    exact h.goes_name fun hq hname => finish_name hq hname
  | repeated constraint name => exact h.goes_endName fun hq => (named_repeated hq).done hq
  | values constraint name multiple equals values chars => exact h.goes_values st c

/-- An escape leads on within a declaration, or is refused for its backslash. -/
theorem Placed.goes_escaped (h : Placed base front subject stage) (st : State) (c : Char) :
    Goes st subject stage base front ['\\', c]
      ((st.stage subject stage).step ⟨base + width front, .escaped c⟩) := by
  have hne : front ++ ['\\', c] ≠ [] := List.append_ne_nil_of_right_ne_nil _ (List.cons_ne_nil _ _)
  cases stage with
  | start => exact .on (h.next hne)
  | regex opening depth chars => exact .on (h.next (At.append h.held _))
  | regexEnd opening regex => exact .refused_here fun _ => .colon (by decide)
  | name constraint chars => exact .on (h.next hne)
  | repeated constraint name => exact .refused_here fun _ => .character
  | values constraint name multiple equals values chars => exact .on (h.next (At.append h.held _))

/-- A backslash at the end is refused. -/
theorem blamed_dangling (st : State) (subject : Subject) (stage : Stage) (base : Nat)
    (front : List Char) :
    ∃ fault offset, (st.stage subject stage).step ⟨base + width front, .dangling⟩ =
      .error (fault, offset) ∧ Blamed base (front ++ ['\\']) fault offset := by
  cases stage with
  | regexEnd opening regex => exact ⟨_, _, rfl, blamed_end (.colon (by decide))⟩
  | repeated constraint name => exact ⟨_, _, rfl, blamed_end .character⟩
  | _ => exact ⟨_, _, rfl, blamed_end .escape⟩

/-- At the end of the text a declaration is refused, unless it is a rule, which may end there. A rule
without any text is refused at the end. -/
theorem Placed.finish_cases (h : Placed base front subject stage) (st : State) :
    (∃ fault offset, (st.stage subject stage).finish = .error (fault, offset) ∧
      Blamed base front fault offset) ∨
    (subject.inQuery = true ∧ ∃ constraint name multiple default choices,
      (st.stage subject stage).finish =
        (st.declare subject constraint name multiple default choices).finish) ∨
    (subject.inQuery = true ∧ front = [] ∧
      (st.stage subject stage).finish = .error (.emptyName, base)) := by
  have hstart (hfront : front ≠ []) : Blamed base front .emptyName subject.start := by
    obtain ⟨c, rest, rfl⟩ := List.exists_cons_of_ne_nil hfront
    exact ⟨[], _, rfl, h.start, .name⟩
  have hparam (hq : ¬ subject.inQuery = true) : Blamed base front .unterminatedParam subject.start := by
    obtain ⟨rest, rfl⟩ := h.bracket (Bool.eq_false_iff.mpr hq)
    exact ⟨[], _, rfl, h.start, .param⟩
  cases stage with
  | start =>
    by_cases hfront : front = []
    · refine Or.inr (Or.inr ⟨?_, hfront, by rw [← h.start]; rfl⟩)
      by_contra hq
      obtain ⟨rest, hrest⟩ := h.bracket (Bool.eq_false_iff.mpr hq)
      cases hfront.symm.trans hrest
    · exact Or.inl ⟨_, _, rfl, hstart hfront⟩
  | regex opening depth chars => exact Or.inl ⟨_, _, rfl, At.blamed h.held fun _ => .unterminatedRegex⟩
  | regexEnd opening regex => exact Or.inl ⟨_, _, rfl, At.blamed h.held fun _ => .regex⟩
  | name constraint chars =>
    by_cases hempty : chars = []
    · subst hempty
      exact Or.inl ⟨_, _, rfl, hstart h.held⟩
    by_cases hq : subject.inQuery = true
    · exact Or.inr (Or.inl ⟨hq, _, _, _, _, _, finish_name hq hempty⟩)
    · refine Or.inl ⟨_, _, ?_, hparam hq⟩
      have hchars : chars.isEmpty = false := List.isEmpty_eq_false_iff.mpr hempty
      simp only [finish, stage, finishDeclaration, hchars, hq]
      rfl
  | repeated constraint name =>
    exact Or.inr (Or.inl ⟨h.held, _, _, _, _, _, (named_repeated h.held).done h.held⟩)
  | values constraint name multiple equals values chars =>
    by_cases hq : subject.inQuery = true
    · cases hd : defaults (Pattern.text chars :: values).reverse equals with
      | error e =>
        obtain rfl := eq_of_defaults_error hd
        refine Or.inl ⟨_, _, ?_, At.blamed h.held fun _ => .choice⟩
        simp only [finish, stage, finishDeclaration, hd, hq]
        rfl
      | ok found => exact Or.inr (Or.inl ⟨hq, _, _, _, _, _, finish_values hq hd⟩)
    · refine Or.inl ⟨_, _, ?_, hparam hq⟩
      simp only [finish, stage, finishDeclaration, hq]
      rfl

/-- What becomes of a declaration in a text, where `front` has been read of it: it is closed, or refused, or
the text ends and a rule with it, or there is no text behind the mark of a rule. -/
inductive Course (st : State) (subject : Subject) (stage : Stage) (base : Nat)
    (front source : List Char) : Prop
  | closed {inner rest : List Char} {c : Char} {constraint : Constraint} {name : String} {multiple : Bool}
      {default : Option String} {choices : List String} :
    source = inner ++ c :: rest → Closes subject c →
    (∀ more, (st.stage subject stage).resume (base + width front) (inner ++ c :: more) =
      (st.closed subject constraint name multiple default choices c
        (base + width (front ++ inner))).resume (base + width (front ++ inner) + 1) more) →
    (subject.inQuery = true → (st.stage subject stage).resume (base + width front) inner =
      (st.declare subject constraint name multiple default choices).finish) →
    Course st subject stage base front source
  | refused {fault : Fault} {offset : Nat} :
    (st.stage subject stage).resume (base + width front) source = .error (fault, offset) →
    Blamed base (front ++ source) fault offset → Course st subject stage base front source
  | ended {constraint : Constraint} {name : String} {multiple : Bool} {default : Option String}
      {choices : List String} :
    subject.inQuery = true →
    (st.stage subject stage).resume (base + width front) source =
      (st.declare subject constraint name multiple default choices).finish →
    Course st subject stage base front source
  | unnamed : subject.inQuery = true → front ++ source = [] →
    (st.stage subject stage).resume (base + width front) source = .error (.emptyName, base) →
    Course st subject stage base front source

/-- What becomes of a declaration behind a token is what becomes of it. -/
theorem Course.of_next {next : Stage} {read : List Char}
    (h : Course st subject next base (front ++ read) rest)
    (hstep : ∀ more, (st.stage subject stage).resume (base + width front) (read ++ more) =
      (st.stage subject next).resume (base + width (front ++ read)) more) :
    Course st subject stage base front (read ++ rest) := by
  cases h with
  | @closed inner rest c _ _ _ _ _ hsource hcloses hrun hdone =>
    subst hsource
    simp only [List.append_assoc] at hrun
    exact .closed (List.append_assoc read inner _).symm hcloses
      (fun more => by rw [List.append_assoc, hstep, hrun]) fun hq => (hstep inner).trans (hdone hq)
  | refused hrun hblamed =>
    refine .refused ((hstep rest).trans hrun) ?_
    rw [← List.append_assoc]
    exact hblamed
  | ended hq hrun => exact .ended hq ((hstep rest).trans hrun)
  | unnamed hq hempty hrun =>
    refine .unnamed hq ?_ ((hstep rest).trans hrun)
    rw [← List.append_assoc]
    exact hempty

/-- Behind a token that is taken, a declaration goes on as its next stage does. -/
theorem Goes.course {read : List Char} {result : Except Failure State}
    (h : Goes st subject stage base front read result)
    (hok : ∀ next more, result = .ok next →
      (st.stage subject stage).resume (base + width front) (read ++ more) =
        next.resume (base + width (front ++ read)) more)
    (herror : ∀ e more, result = .error e →
      (st.stage subject stage).resume (base + width front) (read ++ more) = .error e)
    (hrest : ∀ next, Placed base (front ++ read) subject next →
      Course st subject next base (front ++ read) rest) :
    Course st subject stage base front (read ++ rest) := by
  cases h with
  | on hplaced => exact (hrest _ hplaced).of_next fun more => hok _ more rfl
  | @closes c _ _ _ _ _ hread hcloses hdone =>
    subst hread
    have hwidth : base + width (front ++ [c]) = base + width (front ++ []) + 1 := by
      rw [List.append_nil, width_append, width_cons, hcloses.utf8Size.1]
      rfl
    have hempty : front ++ [] = front := List.append_nil front
    have hsource : [c] ++ rest = [] ++ c :: rest := rfl
    refine .closed hsource hcloses (fun more => ?_) hdone
    rw [← hwidth, hempty]
    exact hok _ more rfl
  | refused hblamed =>
    refine .refused (herror _ rest rfl) ?_
    rw [← List.append_assoc]
    exact hblamed rest

theorem Placed.course (h : Placed base front subject stage) (st : State) (source : List Char) :
    Course st subject stage base front source := by
  -- on the length of the text, since an escape takes two characters at once
  induction hn : source.length using Nat.strongRecOn generalizing source stage front with
  | _ n ih =>
    subst hn
    cases source with
    | nil =>
      rcases h.finish_cases st with ⟨_, _, hfinish, hblamed⟩ | ⟨hq, _, _, _, _, _, hfinish⟩ |
        ⟨hq, hfront, hfinish⟩
      · exact .refused hfinish ((List.append_nil front).symm ▸ hblamed)
      · exact .ended hq hfinish
      · exact .unnamed hq (by rw [hfront]; rfl) hfinish
    | cons c source =>
      by_cases hc : c = '\\'
      · subst hc
        cases source with
        | nil =>
          obtain ⟨_, _, hstep, hblamed⟩ := blamed_dangling st subject stage base front
          refine .refused ?_ hblamed
          rw [resume, tokens, List.foldlM_cons, hstep]
          rfl
        | cons c rest =>
          have hlt : rest.length < ('\\' :: c :: rest).length := by
            simp only [List.length_cons]
            omega
          refine (h.goes_escaped st c).course (fun next more hstep => ?_)
            (fun e more hstep => resume_escaped_error hstep) fun next hnext => ih _ hlt hnext rest rfl
          rw [width_append, ← Nat.add_assoc]
          exact resume_escaped hstep
      · refine (h.goes_plain st c).course (fun next more hstep => ?_)
          (fun e more hstep => resume_plain_error hc hstep)
          fun next hnext => ih _ (Nat.lt_succ_self _) hnext source rfl
        rw [width_append, ← Nat.add_assoc]
        exact resume_plain hc hstep

section Params

theorem exists_append_of_not_mem {x y z before after : List Char}
    (h : before ++ c :: x = after ++ c :: y) (hx : c ∉ x) : ∃ w, before ++ c :: z = after ++ c :: w := by
  rcases List.append_eq_append_iff.mp h with ⟨more, rfl, hmore⟩ | ⟨more, rfl, hmore⟩
  · cases more with
    | nil => exact ⟨z, by rw [List.append_nil]⟩
    | cons d more =>
      obtain ⟨-, rfl⟩ := List.cons.inj hmore
      exact absurd (List.mem_append_right more List.mem_cons_self) hx
  · cases more with
    | nil => exact ⟨z, by rw [List.append_nil]⟩
    | cons d more =>
      obtain ⟨rfl, -⟩ := List.cons.inj hmore
      exact ⟨more ++ c :: z, by rw [List.append_assoc]; rfl⟩

/-- Behind a node a path can be completed by the parentheses that close its groups. -/
theorem exists_resume_closers (hp : st.part = .path) (hl : st.literal = []) (hn : st.nodes ≠ []) :
    ∃ result, st.resume offset (List.replicate st.outer.length ')') = .ok result := by
  obtain ⟨literal, nodes, outer, seen, query, part⟩ := st
  obtain rfl : part = .path := hp
  obtain rfl : literal = [] := hl
  induction outer generalizing nodes offset with
  | nil => exact ⟨_, rfl⟩
  | cons frame outer ih =>
    have hempty : nodes.isEmpty = false := List.isEmpty_eq_false_iff.mpr hn
    have hstep : (State.mk [] nodes (frame :: outer) seen query .path).step ⟨offset, .plain ')'⟩ =
        .ok ⟨[], .option nodes.reverse :: frame.1, outer, seen, query, .path⟩ := by
      simp only [step, stepPath, flush, List.isEmpty_nil, if_true, closeGroup, hempty]
      rfl
    obtain ⟨result, hresult⟩ := ih (.option nodes.reverse :: frame.1) (List.cons_ne_nil _ _)
    exact ⟨result, (resume_plain (by decide) hstep).trans hresult⟩

/-- Behind an opening bracket there is a param, or the text is refused for what stands at a place in it. -/
theorem param_cases (hl : st.literal = []) (offset : Nat) (source : List Char) :
    (∃ p spelled rest, source = spelled ++ '>' :: rest ∧ ParamText st.seen.reverse p spelled) ∨
    ∃ fault place, (st.stage ⟨false, false, offset⟩ .start).resume (offset + 1) source =
      .error (fault, place) ∧ Blamed offset ('<' :: source) fault place := by
  have hplaced : Placed offset ['<'] ⟨false, false, offset⟩ .start := ⟨rfl, fun _ => ⟨[], rfl⟩, nofun⟩
  cases hplaced.course st source with
  | @closed inner rest c constraint name multiple default choices hsource hcloses hrun =>
    obtain rfl : c = '>' := hcloses
    -- a text that the reader accepts has the same beginning, and in this the param is found
    obtain ⟨result, hresult⟩ := exists_resume_closers (rfl : (st.closed ⟨false, false, offset⟩ constraint
      name multiple default choices '>' (offset + width (['<'] ++ inner))).part = .path) hl
      (List.cons_ne_nil _ _)
    obtain ⟨p, spelled, more, hsplit, hparam⟩ := exists_param ((hrun _).trans hresult)
    have hclosers : '>' ∉ List.replicate st.outer.length ')' := by simp
    obtain ⟨more, hmore⟩ := exists_append_of_not_mem hsplit hclosers
    exact Or.inl ⟨p, spelled, more, hsource.trans hmore, hparam⟩
  | refused hrun hblamed => exact Or.inr ⟨_, _, hrun, hblamed⟩
  | ended hq => cases hq
  | unnamed hq => cases hq

end Params

/-- Whether a text is refused for what stands at a place in it, whatever path stands in front of it. -/
def Refused (st : State) (offset : Nat) (source : List Char) : Prop :=
  ∃ fault before after, source = before ++ after ∧
    st.resume offset source = .error (fault, offset + width before) ∧
    ∀ front, Begun front → Culprit fault (front ++ before) after

theorem refused_of_blamed {fault : Fault} {place : Nat} (h : st.resume offset source = .error (fault, place))
    (hb : Blamed offset source fault place) : st.Refused offset source := by
  obtain ⟨before, after, hsource, rfl, hpoints⟩ := hb
  exact ⟨fault, before, after, hsource, h, fun _ _ => .points hpoints⟩

/-- What is refused is refused behind a beginning of a path. -/
theorem Refused.of_next {next : State} {read : List Char}
    (h : next.Refused (offset + width read) rest)
    (hnext : st.resume offset (read ++ rest) = next.resume (offset + width read) rest)
    (hbegun : ∀ front, Begun front → Begun (front ++ read)) : st.Refused offset (read ++ rest) := by
  obtain ⟨fault, before, after, rfl, herror, hculprit⟩ := h
  refine ⟨fault, read ++ before, after, (List.append_assoc _ _ _).symm, ?_, fun front hfront => ?_⟩
  · rw [hnext, herror, width_append, Nat.add_assoc]
  · rw [← List.append_assoc]
    exact hculprit _ (hbegun front hfront)

end State

end RoutePattern.Pattern
