import RoutePattern.Proofs.Pattern.Culprit

/-! The reader accepts exactly the texts of the grammar, and builds the tree that the grammar gives
them. -/
namespace RoutePattern.Pattern

open Grammar

/-- The nodes of a level when text stands in front of them, which joins a literal that comes
first. -/
def joined (before : List Char) (nodes : List Node) : List Node :=
  if before = [] then nodes
  else
    match nodes with
    | .literal text :: rest => .literal (String.ofList before ++ text) :: rest
    | _ => .literal (String.ofList before) :: nodes

theorem joined_nil_left (nodes : List Node) : joined [] nodes = nodes := if_pos rfl

theorem joined_of_not_literal {before : List Char} {nodes : List Node} (hb : before ≠ [])
    (h : ∀ text rest, nodes ≠ .literal text :: rest) :
    joined before nodes = .literal (String.ofList before) :: nodes := by
  unfold joined
  rw [if_neg hb]
  cases nodes with
  | nil => rfl
  | cons node rest =>
    cases node with
    | literal text => exact absurd rfl (h text rest)
    | delimiter => rfl
    | param p => rfl
    | option children => rfl

theorem joined_nil_right {before : List Char} (hb : before ≠ []) :
    joined before [] = [.literal (String.ofList before)] := if_neg hb

/-- Literal text takes in the text in front of it. -/
theorem joined_literal {before text : List Char} {nodes : List Node} (ht : text ≠ [])
    (h : ∀ other rest, nodes ≠ .literal other :: rest) :
    joined before (.literal (String.ofList text) :: nodes) = joined (before ++ text) nodes := by
  have hne : before ++ text ≠ [] := List.append_ne_nil_of_right_ne_nil _ ht
  rw [joined_of_not_literal hne h]
  by_cases hb : before = []
  · rw [hb, joined_nil_left, List.nil_append]
  · rw [joined, if_neg hb, String.ofList_append]

theorem joined_cons {before : List Char} {node : Node} {nodes : List Node}
    (h : ∀ text, node ≠ .literal text) :
    joined before (node :: nodes) = joined before [] ++ node :: nodes := by
  -- a node that is no literal leaves the text in front of it alone
  by_cases hb : before = []
  · rw [hb, joined_nil_left, joined_nil_left, List.nil_append]
  · rw [joined_of_not_literal hb fun text rest he => h text (List.cons.inj he).1,
      joined_nil_right hb, List.singleton_append]

/-- A text at which a level of the path ends. -/
inductive LevelEnd : List Char → Prop
  | done : LevelEnd []
  | mark {c : Char} {rest : List Char} : c = ')' ∨ c = '?' ∨ c = '&' → LevelEnd (c :: rest)

namespace State

variable {st : State} {offset : Nat} {c : Char} {source rest : List Char} {nodes : List Node}
  {result : List Node × List QueryRule}

theorem flush_eq (st : State) :
    st.flush =
      { st with literal := [], nodes := (joined st.literal.reverse []).reverse ++ st.nodes } := by
  obtain ⟨literal, nodes, outer, seen, query, part⟩ := st
  cases literal with
  | nil => rfl
  | cons c literal =>
    have hne : (c :: literal).reverse ≠ [] := List.reverse_ne_nil_iff.mpr (List.cons_ne_nil _ _)
    simp only [joined_nil_right hne]
    rfl

theorem flush_flush (st : State) : st.flush.flush = st.flush := by
  rw [flush_eq st, flush_eq]
  rfl

/-- Where a level ends, the literal text ends too. -/
theorem resume_flush (hp : st.part = .path) (h : LevelEnd rest) :
    st.resume offset rest = st.flush.resume offset rest := by
  have hp' : st.flush.part = .path := by rw [flush_eq, hp]
  have ho : st.flush.outer = st.outer := by rw [flush_eq]
  cases h with
  | done =>
    have hq : st.flush.query = st.query := by rw [flush_eq]
    rw [resume_nil, resume_nil]
    cases houter : st.outer with
    | nil =>
      simp only [finish, hp, hp', bind, Except.bind, ho, houter, hq, flush_flush]
    | cons frame outer =>
      simp only [finish, hp, hp', bind, Except.bind, ho, houter]
  | @mark c rest hc =>
    have hstep : st.step ⟨offset, .plain c⟩ = st.flush.step ⟨offset, .plain c⟩ := by
      rcases hc with rfl | rfl | rfl
      · simp only [step, hp, hp', stepPath, flush_flush]
      · simp only [step, hp, hp', stepPath, flush_flush, ho]
      · simp only [step, hp, hp', stepPath, flush_flush, ho]
    have hback : c ≠ '\\' := by
      rcases hc with rfl | rfl | rfl
      · decide
      · decide
      · decide
    rw [resume, resume, tokens_plain hback, List.foldlM_cons, List.foldlM_cons, hstep]

/-- The state behind the nodes of a level. -/
def withNodes (st : State) (nodes : List Node) : State :=
  { st with
    literal := []
    nodes := (joined st.literal.reverse nodes).reverse ++ st.nodes
    seen := ((Node.paramsOf nodes).map (·.name)).reverse ++ st.seen }

theorem withNodes_nil (st : State) : st.withNodes [] = st.flush := by
  rw [flush_eq]
  rfl

/-- The state behind a node that is no literal. -/
def withNode (st : State) (node : Node) : State :=
  { st.flush.push node with seen := (node.params.map (·.name)).reverse ++ st.seen }

theorem withNode_part {node : Node} : (st.withNode node).part = st.part := by
  rw [withNode, flush_eq]
  rfl

theorem withNode_seen {node : Node} :
    (st.withNode node).seen.reverse = st.seen.reverse ++ node.params.map (·.name) := by
  rw [withNode, List.reverse_append, List.reverse_reverse]

theorem withNodes_cons {node : Node} (h : ∀ text, node ≠ .literal text) :
    st.withNodes (node :: nodes) = (st.withNode node).withNodes nodes := by
  rw [withNode, flush_eq]
  simp only [withNodes, push, List.reverse_nil, joined_nil_left, joined_cons h, Node.paramsOf,
    List.map_append, List.reverse_append, List.reverse_cons, List.append_assoc,
    List.nil_append, List.cons_append]

theorem resume_delimiter (hp : st.part = .path) :
    st.resume offset ('/' :: source) = (st.withNode .delimiter).resume (offset + 1) source := by
  have hstep : st.step ⟨offset, .plain '/'⟩ = .ok (st.withNode .delimiter) := by
    simp only [step, hp, stepPath, withNode, flush_eq]
    rfl
  exact resume_plain (by decide) hstep

/-- The state behind an opening parenthesis. -/
def opened (st : State) (offset : Nat) : State :=
  { st.flush with nodes := [], outer := (st.flush.nodes, offset) :: st.flush.outer }

theorem resume_open (hp : st.part = .path) :
    st.resume offset ('(' :: source) = (st.opened offset).resume (offset + 1) source := by
  have hstep : st.step ⟨offset, .plain '('⟩ = .ok (st.opened offset) := by
    simp only [step, hp, stepPath, opened]
  exact resume_plain (by decide) hstep

theorem opened_eq (st : State) (opening : Nat) :
    st.opened opening =
      { st with
        literal := []
        nodes := []
        outer := (st.flush.nodes, opening) :: st.outer } := by
  rw [opened, flush_eq]

/-- A closing parenthesis makes the nodes of the level an optional group. -/
theorem resume_close {opening : Nat} (hp : st.part = .path) (hn : nodes ≠ []) :
    ((st.opened opening).withNodes nodes).resume offset (')' :: source) =
      (st.withNode (.option nodes)).resume (offset + 1) source := by
  have hstep : ((st.opened opening).withNodes nodes).step ⟨offset, .plain ')'⟩ =
      .ok (st.withNode (.option nodes)) := by
    obtain ⟨literal, _, _, _, _, part⟩ := st
    obtain rfl : part = .path := hp
    rw [opened_eq]
    simp only [withNodes, List.reverse_nil, joined_nil_left, step, stepPath]
    cases literal with
    | nil => simp [flush, closeGroup, hn, push, withNode, Node.params]
    | cons _ _ => simp [flush, closeGroup, hn, push, withNode, Node.params]
  exact resume_plain (by decide) hstep

theorem resume_angle (hp : st.part = .path) :
    st.resume offset ('<' :: source) =
      (st.flush.stage ⟨false, false, offset⟩ .start).resume (offset + 1) source := by
  have hstep : st.step ⟨offset, .plain '<'⟩ =
      .ok (st.flush.stage ⟨false, false, offset⟩ .start) := by
    simp only [step, hp, stepPath]
  exact resume_plain (by decide) hstep

theorem withParam_flush {p : Param} (hp : st.part = .path) :
    st.flush.withParam p = st.withNode (.param p) := by
  rw [withParam, withNode, flush_eq, push, hp]
  rfl

section Between

variable {opening closing : Char} {inner : List Char}

/-- What stands behind a text between two marks. -/
theorem between_append :
    opening :: (inner ++ [closing]) ++ rest = opening :: (inner ++ closing :: rest) := by
  rw [List.cons_append, List.append_assoc, List.singleton_append]

theorem width_between (hopening : opening.utf8Size = 1) (hclosing : closing.utf8Size = 1) :
    offset + width (opening :: (inner ++ [closing])) = offset + 1 + width inner + 1 := by
  have hone : width [closing] = 1 := by rw [width, List.map_singleton, List.sum_singleton, hclosing]
  rw [width_cons, width_append, hopening, hone, ← Nat.add_assoc, ← Nat.add_assoc]

/-- A group is one part of a path, once its nodes are read. -/
theorem resume_option (hp : st.part = .path) (hne : nodes ≠ [])
    (hread : (st.opened offset).resume (offset + 1) (inner ++ ')' :: rest) =
      ((st.opened offset).withNodes nodes).resume (offset + 1 + width inner) (')' :: rest)) :
    st.resume offset ('(' :: (inner ++ ')' :: rest)) =
      (st.withNode (.option nodes)).resume (offset + width ('(' :: (inner ++ [')']))) rest := by
  rw [resume_open hp, hread, resume_close hp hne, width_between rfl rfl]

/-- A param between its brackets is one part of a path. -/
theorem resume_bracketed {p : Param} (hp : st.part = .path) (h : ParamText st.seen.reverse p inner) :
    st.resume offset ('<' :: (inner ++ '>' :: rest)) =
      (st.withNode (.param p)).resume (offset + width ('<' :: (inner ++ ['>']))) rest := by
  have hseen : st.flush.seen = st.seen := by rw [flush_eq]
  rw [← hseen] at h
  rw [resume_angle hp, resume_param h, withParam_flush hp, width_between rfl rfl]

end Between

/-- The text of a path leads to its nodes. -/
theorem resume_path {before : List String} (h : PathText before nodes source)
    (hb : st.seen.reverse = before) (hp : st.part = .path) (hr : LevelEnd rest) :
    st.resume offset (source ++ rest) =
      (st.withNodes nodes).resume (offset + width source) rest := by
  -- along the grammar; a literal is only flushed where the next node or the level ends
  induction h generalizing st offset rest with
  | nil => rw [withNodes_nil, List.nil_append]; exact resume_flush hp hr
  | @literal before text source more nodes hs ht _ hlit ih =>
    have hwith : ({ st with literal := text.reverse ++ st.literal } : State).withNodes nodes =
        st.withNodes (.literal (String.ofList text) :: nodes) := by
      simp only [withNodes, joined_literal ht hlit, List.reverse_append, List.reverse_reverse]
      rfl
    have hcol := (collects_literal st hp).resume hs st.literal offset (more ++ rest)
    rw [List.append_assoc]
    refine hcol.trans ?_
    have hnext : ({ st with literal := text.reverse ++ st.literal } : State).seen.reverse = before :=
      hb
    rw [ih hnext hp hr, hwith, width_append, Nat.add_assoc]
  | @delimiter before more nodes _ ih =>
    have hseen : (st.withNode .delimiter).seen.reverse = before := by
      rw [withNode_seen, hb]
      exact List.append_nil _
    rw [List.cons_append, resume_delimiter hp, ih hseen (withNode_part.trans hp) hr,
      withNodes_cons (fun _ h => by cases h), width_cons, ← Nat.add_assoc]
    rfl
  | @option before source more children nodes _ hne _ ihc ihn =>
    have hopen : (st.opened offset).seen.reverse = before := by
      rw [opened_eq]
      exact hb
    have hpart : (st.opened offset).part = .path := by
      rw [opened_eq]
      exact hp
    have hseen : (st.withNode (.option children)).seen.reverse =
        before ++ (Node.paramsOf children).map (·.name) := by
      rw [withNode_seen, hb, Node.params]
    rw [← between_append, List.append_assoc, between_append,
      resume_option hp hne (ihc hopen hpart (.mark (Or.inl rfl))),
      ihn hseen (withNode_part.trans hp) hr, withNodes_cons (fun _ h => by cases h),
      width_append (t := more), Nat.add_assoc]
  | @param before source more p nodes hparam _ ih =>
    have hseen : (st.withNode (.param p)).seen.reverse = before ++ [p.name] := by
      rw [withNode_seen, hb]
      rfl
    rw [← hb] at hparam
    rw [← between_append, List.append_assoc, between_append, resume_bracketed hp hparam,
      ih hseen (withNode_part.trans hp) hr, withNodes_cons (fun _ h => by cases h),
      width_append (t := more), Nat.add_assoc]

end State

theorem State.Marked.levelEnd {rest : List Char} (h : State.Marked rest) : LevelEnd rest := by
  cases h with
  | done => exact .done
  | mark hc => exact .mark (Or.inr hc)

theorem Grammar.QueryText.marked {rules : List QueryRule} {source : List Char}
    (h : QueryText rules source) : State.Marked source := by
  cases h with
  | nil => exact .done
  | optional _ _ => exact .mark (Or.inl rfl)
  | required _ _ => exact .mark (Or.inr rfl)

theorem Grammar.Spelled.not_stopped {stops text source rest : List Char}
    (h : Spelled stops text source) (ht : text ≠ []) : ¬ Stopped stops (source ++ rest) := by
  intro hs
  -- the first character of the text is no stop, or it stands behind a backslash
  cases h with
  | nil => exact ht rfl
  | @plain c text source hc hm _ =>
    rw [List.cons_append] at hs
    generalize source ++ rest = more at hs
    cases hs with
    | dangling => exact hc rfl
    | stop hm' _ => exact hm hm'
  | escaped _ =>
    rw [List.cons_append] at hs
    cases hs with
    | stop _ hc => exact hc rfl

namespace State

variable {st : State} {offset opening : Nat} {source rest : List Char} {nodes : List Node}
  {result : List Node × List QueryRule}

theorem resume_stray {c : Char} (hp : st.part = .path) (hc : c = '>' ∨ c = '=' ∨ c = ',') :
    st.resume offset (c :: rest) = .error (.unexpectedCharacter, offset) := by
  rcases hc with rfl | rfl | rfl
  · exact resume_plain_error (by decide) (by simp only [step, hp, stepPath])
  · exact resume_plain_error (by decide) (by simp only [step, hp, stepPath])
  · exact resume_plain_error (by decide) (by simp only [step, hp, stepPath])

/-- Outside of every group a path that is read through ends where the query begins. -/
theorem marked_of_resume (hp : st.part = .path) (ho : st.outer = []) (hr : LevelEnd rest)
    (h : st.resume offset rest = .ok result) : Marked rest := by
  cases hr with
  | done => exact .done
  | @mark c more hc =>
    rcases hc with rfl | hc
    · obtain ⟨next, hstep, -⟩ := step_of_resume (by decide) h
      have hflush : st.flush.outer = [] := by rw [flush_eq, ho]
      simp only [step, hp, stepPath, closeGroup, hflush, reduceCtorEq] at hstep
    · exact .mark hc

/-- A group that was opened can only be closed, and only behind a node. -/
theorem group_cases (hp : st.part = .path) (hr : LevelEnd rest) (nodes : List Node)
    (opening offset : Nat) :
    (nodes ≠ [] ∧ ∃ more, rest = ')' :: more) ∨
    (nodes = [] ∧ (∃ more, rest = ')' :: more) ∧
      ((st.opened opening).withNodes nodes).resume offset rest = .error (.emptyGroup, offset)) ∨
    (Marked rest ∧
      ((st.opened opening).withNodes nodes).resume offset rest = .error (.unbalancedGroup, opening)) := by
  obtain ⟨literal, before, outer, seen, query, part⟩ := st
  obtain rfl : part = .path := hp
  rw [opened_eq]
  -- within a group neither the end of the text nor a mark is taken
  cases hr with
  | done => exact Or.inr (Or.inr ⟨.done, rfl⟩)
  | @mark c more hc =>
    rcases hc with rfl | hc
    · by_cases hempty : nodes = []
      · subst hempty
        exact Or.inr (Or.inl ⟨rfl, ⟨more, rfl⟩, resume_plain_error (by decide) rfl⟩)
      · exact Or.inl ⟨hempty, more, rfl⟩
    · refine Or.inr (Or.inr ⟨.mark hc, ?_⟩)
      rcases hc with rfl | rfl
      · exact resume_plain_error (by decide) rfl
      · exact resume_plain_error (by decide) rfl

/-- Whether a text begins with a path of the grammar, up to the end of its level, or is refused for what
stands at a place in it. -/
def Settled (st : State) (offset : Nat) (source : List Char) : Prop :=
  (∃ nodes spelled rest, source = spelled ++ rest ∧ PathText st.seen.reverse nodes spelled ∧
    LevelEnd rest ∧ (Stopped pathStops source → ∀ text more, nodes ≠ .literal text :: more)) ∨
  st.Refused offset source

/-- Behind a node that is no literal a text is what it is without the node. -/
theorem Settled.of_node {node : Node} {read : List Char}
    (h : (st.withNode node).Settled (offset + width read) rest) (hnode : ∀ text, node ≠ .literal text)
    (hread : st.resume offset (read ++ rest) = (st.withNode node).resume (offset + width read) rest)
    (hpath : ∀ {nodes : List Node} {spelled : List Char},
      PathText (st.seen.reverse ++ node.params.map (·.name)) nodes spelled →
        PathText st.seen.reverse (node :: nodes) (read ++ spelled)) :
    st.Settled offset (read ++ rest) := by
  rcases h with ⟨nodes, spelled, rest, rfl, hnodes, hend, -⟩ | hrefused
  · rw [withNode_seen] at hnodes
    refine Or.inl ⟨_, read ++ spelled, rest, (List.append_assoc _ _ _).symm, hpath hnodes, hend, ?_⟩
    intro _ text more he
    exact hnode text (List.cons.inj he).1
  · refine Or.inr (hrefused.of_next hread fun front hfront => ?_)
    rw [← List.append_nil read]
    exact hfront.path (hpath .nil)

theorem settled_group (hp : st.part = .path)
    (ih : ∀ (next : State) offset rest, next.part = .path → rest.length ≤ source.length →
      next.Settled offset rest) : st.Settled offset ('(' :: source) := by
  have hpart : (st.opened offset).part = .path := by
    rw [opened_eq]
    exact hp
  have hseen : (st.opened offset).seen = st.seen := by rw [opened_eq]
  rcases ih (st.opened offset) (offset + 1) source hpart (Nat.le_refl _) with
    ⟨children, inner, rest, rfl, hinner, hend, -⟩ | hrefused
  · have hread : (st.opened offset).resume (offset + 1) (inner ++ rest) =
        ((st.opened offset).withNodes children).resume (offset + 1 + width inner) rest :=
      resume_path hinner rfl hpart hend
    rw [hseen] at hinner
    have hrefused {e : Failure} (herror : ((st.opened offset).withNodes children).resume
        (offset + 1 + width inner) rest = .error e) :
        st.resume offset ('(' :: (inner ++ rest)) = .error e :=
      (resume_open hp).trans (hread.trans herror)
    rcases group_cases hp hend children offset (offset + 1 + width inner) with
      ⟨hne, more, rfl⟩ | ⟨rfl, ⟨more, rfl⟩, herror⟩ | ⟨hmarked, herror⟩
    · have hmore := ih (st.withNode (.option children)) (offset + width ('(' :: (inner ++ [')']))) more
        (withNode_part.trans hp) (by rw [List.length_append, List.length_cons]; omega)
      rw [← between_append]
      refine hmore.of_node (fun _ h => by cases h) ?_ fun h => ?_
      · rw [between_append, resume_option hp hne hread]
      · rw [between_append]
        exact .option hinner hne h
    · cases hinner
      exact Or.inr ⟨_, ['('], _, rfl, hrefused herror, fun _ hb => .emptyGroup hb⟩
    · refine Or.inr ⟨_, [], _, rfl, hrefused herror, fun front hb => ?_⟩
      rw [List.append_nil]
      exact .unclosed hb hinner hmarked
  · exact Or.inr (hrefused.of_next (resume_open hp) fun _ hb => hb.opened)

theorem settled_param (hp : st.part = .path)
    (ih : ∀ (next : State) offset rest, next.part = .path → rest.length ≤ source.length →
      next.Settled offset rest) : st.Settled offset ('<' :: source) := by
  have hseen : st.flush.seen = st.seen := by rw [flush_eq]
  have hliteral : st.flush.literal = [] := by rw [flush_eq]
  rcases param_cases hliteral offset source with ⟨p, inner, rest, rfl, hparam⟩ | ⟨_, _, herror, hblamed⟩
  · have hrest := ih (st.withNode (.param p)) (offset + width ('<' :: (inner ++ ['>']))) rest
      (withNode_part.trans hp) (by rw [List.length_append, List.length_cons]; omega)
    rw [hseen] at hparam
    rw [← between_append]
    refine hrest.of_node (fun _ h => by cases h) ?_ fun h => ?_
    · rw [between_append, resume_bracketed hp hparam]
    · rw [between_append]
      exact .param hparam h
  · exact Or.inr (refused_of_blamed ((resume_angle hp).trans herror) hblamed)

theorem settled (hp : st.part = .path) (offset : Nat) (source : List Char) :
    st.Settled offset source := by
  -- on the length of the text, since a group is read before what follows it
  induction hn : source.length using Nat.strongRecOn generalizing source st offset with
  | _ n ih =>
    subst hn
    have hrest {c : Char} {rest : List Char} (hsource : source = c :: rest) (next : State) (offset : Nat)
        (more : List Char) (hp : next.part = .path) (hle : more.length ≤ rest.length) :
        next.Settled offset more :=
      ih _ (by rw [hsource]; exact Nat.lt_succ_of_le hle) hp offset more rfl
    have hone {c : Char} {rest : List Char} (h : LevelEnd (c :: rest)) : st.Settled offset (c :: rest) :=
      Or.inl ⟨[], [], _, rfl, .nil, h, fun _ _ _ he => by cases he⟩
    have hstray {c : Char} {rest : List Char} (hc : c = '>' ∨ c = '=' ∨ c = ',') :
        st.Settled offset (c :: rest) :=
      Or.inr (refused_of_blamed (resume_stray hp hc) ⟨[], _, rfl, rfl, .character⟩)
    obtain ⟨text, spelled, rest, rfl, hs, hr⟩ := exists_spelled pathStops source
    -- literal text first; where there is none, a stop decides what comes next
    by_cases ht : text = []
    · obtain rfl : spelled = [] := hs.eq_nil_iff.mp ht
      rw [List.nil_append] at hrest ⊢
      cases hr with
      | done => exact Or.inl ⟨[], [], [], rfl, .nil, .done, fun _ _ _ he => by cases he⟩
      | dangling =>
        refine Or.inr (refused_of_blamed ?_ ⟨[], _, rfl, rfl, .escape⟩)
        rw [resume, tokens, List.foldlM_cons, step, hp]
        rfl
      | @stop c rest hm hc =>
        simp only [pathStops, List.mem_cons, List.not_mem_nil, or_false] at hm
        rcases hm with rfl | rfl | rfl | rfl | rfl | rfl | rfl | rfl | rfl
        · have hmore := hrest rfl (st.withNode .delimiter) (offset + 1) rest (withNode_part.trans hp)
            (Nat.le_refl _)
          change st.Settled offset (['/'] ++ rest)
          refine hmore.of_node (fun _ h => by cases h) (resume_delimiter hp) fun h => ?_
          rw [Node.params, List.map_nil, List.append_nil] at h
          exact .delimiter h
        · exact settled_group hp (hrest rfl)
        · exact hone (.mark (Or.inl rfl))
        · exact settled_param hp (hrest rfl)
        · exact hstray (Or.inl rfl)
        · exact hstray (Or.inr (Or.inl rfl))
        · exact hstray (Or.inr (Or.inr rfl))
        · exact hone (.mark (Or.inr (Or.inl rfl)))
        · exact hone (.mark (Or.inr (Or.inr rfl)))
    · have hne : spelled ≠ [] := fun he => ht (hs.eq_nil_iff.mpr he)
      have hlen : rest.length < (spelled ++ rest).length := by
        have hpos := List.length_pos_iff.mpr hne
        rw [List.length_append]
        omega
      have hread := (collects_literal st hp).resume hs st.literal offset rest
      have hp' : ({ st with literal := text.reverse ++ st.literal } : State).part = .path := hp
      rcases ih _ hlen hp' (offset + width spelled) rest rfl with
        ⟨nodes, spelled', rest', rfl, hpath, hend, hlit⟩ | hrefused
      · exact Or.inl ⟨_, spelled ++ spelled', rest', (List.append_assoc _ _ _).symm,
          .literal hs ht hpath (hlit hr), hend, fun hstop => absurd hstop (hs.not_stopped ht)⟩
      · refine Or.inr (hrefused.of_next hread fun front hb => ?_)
        have hliteral : PathText [] [.literal (String.ofList text)] (spelled ++ []) :=
          .literal hs ht .nil fun _ _ he => by cases he
        rw [List.append_nil] at hliteral
        exact hb.path hliteral

/-- A path that is read through is one of the grammar, up to the end of its level. -/
theorem exists_path (hp : st.part = .path) (h : st.resume offset source = .ok result) :
    ∃ nodes spelled rest, source = spelled ++ rest ∧ PathText st.seen.reverse nodes spelled ∧
      LevelEnd rest := by
  rcases settled hp offset source with
    ⟨nodes, spelled, rest, hsource, hpath, hend, -⟩ | ⟨_, _, _, -, herror, -⟩
  · exact ⟨nodes, spelled, rest, hsource, hpath, hend⟩
  · rw [herror] at h
    cases h

/-- Query rules at the end of the text. -/
theorem resume_query {rules : List QueryRule} (h : QueryText rules source) (hp : st.part = .path)
    (hl : st.literal = []) (ho : st.outer = []) :
    st.resume offset source = .ok (st.nodes.reverse, st.query.reverse ++ rules) := by
  induction h generalizing st offset with
  | nil =>
    obtain ⟨literal, before, outer, seen, query, part⟩ := st
    obtain rfl : part = .path := hp
    obtain rfl : literal = [] := hl
    obtain rfl : outer = [] := ho
    rw [List.append_nil]
    rfl
  | @optional rule rules source rest hrule hrules ih =>
    have hpart : (st.withRule rule).part = .path := rfl
    rw [resume_mark hp hl ho (Or.inl rfl), beginRule, decide_eq_false (by decide),
      resume_rule hrule hrules.marked hl ho, ih hpart hl ho, withRule, List.reverse_cons,
      List.append_assoc, List.singleton_append]
  | @required rule rules source rest hrule hrules ih =>
    have hpart : (st.withRule rule).part = .path := rfl
    rw [resume_mark hp hl ho (Or.inr rfl), beginRule, decide_eq_true rfl,
      resume_rule hrule hrules.marked hl ho, ih hpart hl ho, withRule, List.reverse_cons,
      List.append_assoc, List.singleton_append]

/-- A query that is read through is one of the grammar. -/
theorem exists_query (hp : st.part = .path) (hl : st.literal = []) (ho : st.outer = [])
    (hm : Marked source) (h : st.resume offset source = .ok result) :
    ∃ rules, QueryText rules source := by
  -- on the length of the text, of which every rule takes its mark at least
  induction hn : source.length using Nat.strongRecOn generalizing source st offset with
  | _ n ih =>
    subst hn
    cases hm with
    | done => exact ⟨[], .nil⟩
    | @mark c source hc =>
      rw [resume_mark hp hl ho hc, beginRule] at h
      obtain ⟨rule, spelled, rest, rfl, hrule, hm⟩ := exists_rule h
      rw [resume_rule hrule hm hl ho] at h
      have hlen : rest.length < (c :: (spelled ++ rest)).length := by
        simp only [List.length_cons, List.length_append]
        omega
      have hpart : (st.withRule rule).part = .path := rfl
      obtain ⟨rules, hrules⟩ := ih _ hlen hpart hl ho hm h rfl
      rcases hc with rfl | rfl
      · exact ⟨rule :: rules, .optional hrule hrules⟩
      · exact ⟨rule :: rules, .required hrule hrules⟩

end State

section Accepted

variable {path : List Node} {query : List QueryRule} {source : List Char}

theorem readParts_of_patternText (h : PatternText path query source) :
    readParts source = .ok (path, query) := by
  obtain ⟨hpath, hquery⟩ := h
  have hpart : ({} : State).part = .path := rfl
  have hread : readParts _ = _ := State.resume_path hpath rfl hpart hquery.marked.levelEnd
  have hnodes : (({} : State).withNodes path).nodes.reverse = path := by
    simp [State.withNodes, joined_nil_left]
  rw [State.resume_query hquery rfl rfl rfl, hnodes] at hread
  exact hread

theorem patternText_of_readParts (h : readParts source = .ok (path, query)) :
    PatternText path query source := by
  have hpart : ({} : State).part = .path := rfl
  obtain ⟨nodes, spelled, rest, rfl, hpath, hend⟩ := State.exists_path hpart h
  have hrest := h
  rw [show readParts (spelled ++ rest) = ({} : State).resume 0 (spelled ++ rest) from rfl,
    State.resume_path hpath rfl rfl hend] at hrest
  obtain ⟨rules, hrules⟩ :=
    State.exists_query rfl rfl rfl (State.marked_of_resume rfl rfl hend hrest) hrest
  -- the text has a tree of the grammar, and by the other half it is the one that was read
  have htext : PatternText nodes rules (spelled ++ rest) := .intro hpath hrules
  rw [readParts_of_patternText htext] at h
  cases h
  exact htext

/-- Reading accepts exactly the patterns of the grammar, and gives each the tree the grammar gives
it; every other text is malformed. -/
theorem read_eq_ok_iff_patternText (source : String) :
    (∀ p, read source = .ok p ↔
      p.source = source ∧ PatternText p.path p.query source.toList) ∧
    ((∀ path query, ¬ PatternText path query source.toList) ↔
      ∃ fault offset, read source = .error (.malformed fault source offset)) := by
  cases h : readParts source.toList with
  | ok parts =>
    obtain ⟨path, query⟩ := parts
    have hread : read source = .ok ⟨source, path, query⟩ := by rw [read, h]
    have htext := patternText_of_readParts h
    refine ⟨fun p => ⟨?_, ?_⟩, ⟨fun hnone => absurd htext (hnone path query), ?_⟩⟩
    · rw [hread]
      intro hx
      cases hx
      exact ⟨rfl, htext⟩
    · intro hx
      obtain ⟨hsource, hp⟩ := hx
      have he := h.symm.trans (readParts_of_patternText hp)
      cases he
      rw [hread, ← hsource]
    · intro hx
      obtain ⟨fault, offset, he⟩ := hx
      rw [hread] at he
      cases he
  | error e =>
    obtain ⟨fault, offset⟩ := e
    have hread : read source = .error (.malformed fault source offset) := by rw [read, h]
    have hnone (path : List Node) (query : List QueryRule) :
        ¬ PatternText path query source.toList := by
      intro ht
      have he := h.symm.trans (readParts_of_patternText ht)
      cases he
    refine ⟨fun p => ⟨?_, ?_⟩, ⟨fun _ => ⟨fault, offset, hread⟩, fun _ => hnone⟩⟩
    · rw [hread]
      exact nofun
    · intro hx
      obtain ⟨-, hp⟩ := hx
      exact absurd hp (hnone _ _)

end Accepted

end RoutePattern.Pattern
