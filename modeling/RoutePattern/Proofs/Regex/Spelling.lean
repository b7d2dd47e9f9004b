import RoutePattern.Proofs.Regex.Within

/-! What is read of a regex that is put together from texts that can be read. -/
namespace RoutePattern.Regex

/-- Adds items to a group. -/
def Level.pushAll (level : Level) (items : List Item) : Level :=
  { level with items := items.reverse ++ level.items }

theorem Level.pushAll_append (level : Level) (items more : List Item) :
    level.pushAll (items ++ more) = (level.pushAll items).pushAll more := by
  rw [pushAll, List.reverse_append, List.append_assoc]
  rfl

namespace State

/-- The flags where case counts or not, and nothing else is set. -/
def caseFlags (fold : Bool) : Flags := { ignoreCase := fold }

/-- A state between two items, where case counts or not, and no other flags are set. -/
def between (fold : Bool) (level : Level) (outer : List Frame) (g : Nat)
    (names : List (List Char)) : State :=
  { flags := caseFlags fold, level, outer, groups := g, names }

/-- The state where an operator has been put in its place, so that nothing makes it lazy any more. -/
def settled (st : State) : State :=
  match st.mode with
  | .repeated operand low high _ => st.pushRepeated operand low high true
  | _ => st

theorem groups_settled (st : State) : st.settled.groups = st.groups := by
  rw [settled]
  split <;> rfl

variable {st st' : State} {text rest : List Char} {c : Char} {level up : Level} {outer : List Frame}
  {index : Option Nat} {fold : Bool} {g : Nat} {names : List (List Char)}

theorem foldlM_cons_of_step (h : st.step c = some st') :
    (c :: text).foldlM step st = text.foldlM step st' := by
  rw [List.foldlM_cons, h]
  rfl

theorem foldlM_append_of_foldlM (h : text.foldlM step st = some st') :
    (text ++ rest).foldlM step st = rest.foldlM step st' := by
  rw [List.foldlM_append, h]
  rfl

/-- The item that a closed group is. -/
def grouped (index : Option Nat) (body : Item) : Item where
  term := match index with
    | some i => .group i body.term
    | none => body.term
  height := body.height + 1

theorem step_close :
    (between fold level (⟨up, index, caseFlags fold⟩ :: outer) g names).step ')' =
      some (between fold (up.push (grouped index level.close)) outer g names) := rfl

theorem step_or : (between fold level outer g names).step '|' = some (between fold
    { branches := Item.concat level.items :: level.branches, items := [] } outer g names) := rfl

/-- A question mark makes no difference to an operator unless it comes right behind it. -/
theorem step_settled (h : st.settled = between fold level outer g names) (hc : c ≠ '?') :
    st.step c = (between fold level outer g names).step c := by
  have hflags := congrArg State.flags h
  have hcomment := congrArg State.comment h
  rw [← h]
  obtain ⟨flags, level, outer, g, names, classes, mode, comment⟩ := st
  cases mode with
  | repeated operand low high wide =>
    obtain rfl : flags = caseFlags fold := hflags
    obtain rfl : comment = false := hcomment
    -- without the flag for them, blanks are not passed over
    cases wide <;> exact if_neg hc
  | _ => rfl

theorem foldlM_settled (h : st.settled = between fold level outer g names)
    (hhead : text.head? ≠ some '?') (hne : text ≠ []) :
    text.foldlM step st = text.foldlM step (between fold level outer g names) := by
  cases text with
  | nil => exact absurd rfl hne
  | cons c text =>
    have hc : c ≠ '?' := fun h => hhead (by rw [h]; rfl)
    rw [List.foldlM_cons, List.foldlM_cons, step_settled h hc]

theorem finish?_settled (h : st.settled = between fold level [] g names) :
    st.finish? = some level.close := by
  have houter := congrArg State.outer h
  have hlevel := congrArg State.level h
  have hmode := congrArg State.mode h
  obtain ⟨flags, level', outer, g', names', classes, mode, comment⟩ := st
  cases mode with
  | repeated operand low high wide =>
    obtain rfl : outer = [] := houter
    exact congrArg (fun level : Level => some level.close) hlevel
  | item =>
    obtain rfl : outer = [] := houter
    exact congrArg (fun level : Level => some level.close) hlevel
  | _ => cases hmode

/-- Without a question mark behind it a parenthesis opens a group that captures. -/
theorem foldlM_open (hhead : text.head? ≠ some '?') (hne : text ≠ []) :
    ('(' :: text).foldlM step (between fold level outer g names) = text.foldlM step
      (between fold {} (⟨level, some (g + 1), caseFlags fold⟩ :: outer) (g + 1) names) := by
  have hopen : (between fold level outer g names).step '(' =
      some ((between fold level outer g names).goto .opened) := rfl
  rw [foldlM_cons_of_step hopen]
  cases text with
  | nil => exact absurd rfl hne
  | cons c rest =>
    have hmark : c ≠ '?' := fun h => hhead (by rw [h]; rfl)
    have hstep : ((between fold level outer g names).goto .opened).step c =
        (between fold {} (⟨level, some (g + 1), caseFlags fold⟩ :: outer) (g + 1) names).step c := by
      have hleft : ((between fold level outer g names).goto .opened).step c =
          if c = '?' then some (((between fold level outer g names).goto .opened).goto .marked)
          else ((between fold level outer g names).goto .opened).openCapture.stepItem c := rfl
      rw [hleft, if_neg hmark]
      rfl
    rw [List.foldlM_cons, List.foldlM_cons, hstep]

theorem foldlM_openPlain :
    "(?:".toList.foldlM step (between fold level outer g names) =
      some (between fold {} (⟨level, none, caseFlags fold⟩ :: outer) g names) := rfl

end State

open State

/-- Whether a text between two items is read as some items, and leads from one number of groups to
another. -/
structure Reads (fold : Bool) (g : Nat) (text : List Char) (g' : Nat) (items : List Item) :
    Prop where
  head : text.head? ≠ some '?'
  run : ∀ level outer names (st : State), st.settled = between fold level outer g names →
    ∃ st', text.foldlM step st = some st' ∧
      st'.settled = between fold (level.pushAll items) outer g' names

/-- Whether a text within a group is read as an item, with the parenthesis that closes the group. -/
structure Fills (fold : Bool) (g : Nat) (text : List Char) (g' : Nat) (body : Item) : Prop where
  head : text.head? ≠ some '?'
  run : ∀ level index outer names,
    (text ++ [')']).foldlM step
        (between fold {} (⟨level, index, caseFlags fold⟩ :: outer) g names) =
      some (between fold (level.push (grouped index body)) outer g' names)

section Reading

variable {fold : Bool} {g g' g'' : Nat} {text more : List Char} {items others : List Item}
  {body : Item} {c : Char}

theorem head?_cons_ne (hc : c ≠ '?') : (c :: text).head? ≠ some '?' :=
  fun h => hc (Option.some.inj h)

theorem reads_nil : Reads fold g [] g [] where
  head := nofun
  run _ _ _ st hst := ⟨st, rfl, hst⟩

/-- A text that is not empty is read as it is right between two items. -/
theorem reads_of_between (hhead : text.head? ≠ some '?') (hne : text ≠ [])
    (h : ∀ level outer names, ∃ st', text.foldlM step (between fold level outer g names) = some st' ∧
      st'.settled = between fold (level.pushAll items) outer g' names) :
    Reads fold g text g' items where
  head := hhead
  run level outer names st hst := by
    rw [foldlM_settled hst hhead hne]
    exact h level outer names

theorem Reads.append (h : Reads fold g text g' items) (h' : Reads fold g' more g'' others) :
    Reads fold g (text ++ more) g'' (items ++ others) where
  head := by
    cases text with
    | nil => exact h'.head
    | cons c text => exact h.head
  run level outer names st hst := by
    obtain ⟨mid, hmid, hsettled⟩ := h.run level outer names st hst
    obtain ⟨st', hst', hsettled'⟩ := h'.run _ outer names mid hsettled
    refine ⟨st', (foldlM_append_of_foldlM hmid).trans hst', ?_⟩
    rw [hsettled', Level.pushAll_append]

theorem reads_step {item : Item} (hc : c ≠ '?')
    (h : ∀ level outer names, (between fold level outer g names).step c =
      some (between fold (level.push item) outer g names)) :
    Reads fold g [c] g [item] := by
  refine reads_of_between (head?_cons_ne hc) (List.cons_ne_nil _ _) fun level outer names => ?_
  exact ⟨_, foldlM_cons_of_step (h level outer names), rfl⟩

/-- The characters that a single one stands for. -/
def folded (fold : Bool) (c : Char) : CharSet := (caseFlags fold).meant (CharSet.singleton c)

/-- The item for a single character. -/
def charItem (fold : Bool) (c : Char) : Item := { term := .set (folded fold c) }

theorem reads_char (hc : c ∉ metaChars) : Reads fold g [c] g [charItem fold c] := by
  have hne : c ≠ '?' := by
    intro h
    subst h
    exact hc (by decide)
  apply reads_step hne
  intro level outer names
  have hitem : (between fold level outer g names).step c =
      (between fold level outer g names).stepItem c := rfl
  have hblank (next : Option State) : (between fold level outer g names).orBlank c next = next := rfl
  rw [hitem]
  unfold stepItem
  rw [hblank]
  -- each character with a rule of its own is among those that need an escape
  split
  all_goals first | rfl | exact absurd (by decide) hc

theorem reads_escaped (hc : c ∈ metaChars) : Reads fold g ['\\', c] g [charItem fold c] := by
  refine reads_of_between nofun (List.cons_ne_nil _ _) fun level outer names => ?_
  have hopen : (between fold level outer g names).step '\\' =
      some ((between fold level outer g names).goto (.escape .body)) := rfl
  have hstep : ((between fold level outer g names).goto (.escape .body)).step c =
      some (between fold (level.push (charItem fold c)) outer g names) := by
    simp only [metaChars, List.mem_cons, List.not_mem_nil, or_false] at hc
    rcases hc with rfl | rfl | rfl | rfl | rfl | rfl | rfl | rfl | rfl | rfl | rfl | rfl | rfl | rfl |
      rfl | rfl | rfl | rfl
    all_goals rfl
  exact ⟨_, (foldlM_cons_of_step hopen).trans (foldlM_cons_of_step hstep), rfl⟩

theorem reads_escape (c : Char) : Reads fold g (escape [c]) g [charItem fold c] := by
  rw [escape, List.flatMap_singleton]
  split
  · next hc => exact reads_escaped (List.contains_iff_mem.mp hc)
  · next hc => exact reads_char (fun hm => hc (List.contains_iff_mem.mpr hm))

theorem reads_chars (h : ∀ c ∈ text, c ∉ metaChars) :
    Reads fold g text g (text.map (charItem fold)) := by
  induction text with
  | nil => exact reads_nil
  | cons c text ih =>
    obtain ⟨hc, htext⟩ := List.forall_mem_cons.mp h
    exact (reads_char hc).append (ih htext)

theorem Reads.fills (h : Reads fold g text g' items) :
    Fills fold g text g' (Item.concat items.reverse) where
  head := h.head
  run level index outer names := by
    obtain ⟨st', hst', hsettled⟩ := h.run {} (⟨level, index, caseFlags fold⟩ :: outer) names
      (between fold {} (⟨level, index, caseFlags fold⟩ :: outer) g names) rfl
    rw [foldlM_append_of_foldlM hst', List.foldlM_cons, step_settled hsettled (by decide), step_close,
      Level.close, Level.pushAll, List.append_nil]
    rfl

theorem Fills.plain (h : Fills fold g text g' body) :
    Reads fold g ("(?:".toList ++ text ++ [')']) g' [grouped none body] := by
  refine reads_of_between nofun (List.cons_ne_nil _ _) fun level outer names => ?_
  rw [List.append_assoc, foldlM_append_of_foldlM foldlM_openPlain]
  exact ⟨_, h.run level none outer names, rfl⟩

theorem Fills.capture (h : Fills fold (g + 1) text g' body) :
    Reads fold g ('(' :: text ++ [')']) g' [grouped (some (g + 1)) body] := by
  refine reads_of_between nofun (List.cons_ne_nil _ _) fun level outer names => ?_
  have hhead : (text ++ [')']).head? ≠ some '?' := by
    cases text with
    | nil => exact head?_cons_ne (by decide)
    | cons c text => exact h.head
  rw [List.cons_append, foldlM_open hhead (List.append_ne_nil_of_right_ne_nil _ (List.cons_ne_nil _ _))]
  exact ⟨_, h.run level (some (g + 1)) outer names, rfl⟩

/-- The level on which lists of items stand that bars part: each bar makes the items in front of it a
branch. -/
def Level.parted (init : List (List Item)) (last : List Item) : Level where
  branches := (init.map fun items => Item.concat items.reverse).reverse
  items := last.reverse

theorem Level.mem_parted {init : List (List Item)} {last : List Item} {item : Item}
    (h : item ∈ (parted init last).branches ++ (parted init last).items) :
    (∃ items ∈ init, Item.concat items.reverse = item) ∨ item ∈ last := by
  rw [List.mem_append] at h
  exact h.imp (fun h => List.mem_map.mp (List.mem_reverse.mp h)) List.mem_reverse.mp

/-- A bar makes the items in front of it a branch. -/
theorem Reads.bar {branches : List Item} {outer : List Frame} {names : List (List Char)}
    (h : Reads fold g text g items) :
    (text ++ ['|']).foldlM step (between fold ⟨branches, []⟩ outer g names) =
      some (between fold ⟨Item.concat items.reverse :: branches, []⟩ outer g names) := by
  obtain ⟨st, hst, hsettled⟩ := h.run ⟨branches, []⟩ outer names
    (between fold ⟨branches, []⟩ outer g names) rfl
  rw [foldlM_append_of_foldlM hst, List.foldlM_cons, step_settled hsettled (by decide), step_or,
    Level.pushAll, List.append_nil]
  rfl

theorem intercalate_concat {sep : Char} {texts : List (List Char)} {last : List Char} :
    [sep].intercalate (texts ++ [last]) = texts.flatMap (· ++ [sep]) ++ last := by
  induction texts with
  | nil => exact List.append_nil _
  | cons text texts ih =>
    cases texts with
    | nil =>
      rw [List.singleton_append, List.intercalate_cons_cons, List.intercalate_singleton,
        List.flatMap_singleton]
    | cons next texts =>
      rw [List.cons_append, List.cons_append, List.intercalate_cons_cons, ← List.cons_append, ih,
        List.flatMap_cons (x := text), ← List.append_assoc]

section Parted

variable {ι : Type} {written : ι → List Char} {read : ι → List Item} {init : List ι} {last : ι}

theorem foldlM_bars {branches : List Item} {outer : List Frame} {names : List (List Char)}
    (h : ∀ i ∈ init, Reads fold g (written i) g (read i)) :
    ((init.map written).flatMap (· ++ ['|'])).foldlM step
        (between fold ⟨branches, []⟩ outer g names) =
      some (between fold ⟨(init.map fun i => Item.concat (read i).reverse).reverse ++ branches, []⟩
        outer g names) := by
  induction init generalizing branches with
  | nil => rfl
  | cons i init ih =>
    obtain ⟨hi, hinit⟩ := List.forall_mem_cons.mp h
    rw [List.map_cons, List.flatMap_cons, foldlM_append_of_foldlM hi.bar, ih hinit, List.map_cons,
      List.reverse_cons, List.append_assoc, List.singleton_append]

/-- What is read of texts with bars between them. -/
theorem fills_parted (h : ∀ i ∈ init ++ [last], Reads fold g (written i) g (read i)) :
    Fills fold g (['|'].intercalate ((init ++ [last]).map written)) g
      (Level.parted (init.map read) (read last)).close := by
  obtain ⟨hinit, hlast⟩ := List.forall_mem_append.mp h
  have hlast := hlast last List.mem_cons_self
  rw [List.map_append, List.map_singleton, intercalate_concat]
  constructor
  · cases init with
    | nil => exact hlast.head
    | cons i init =>
      rw [List.map_cons, List.flatMap_cons]
      have hi := (hinit i List.mem_cons_self).head
      cases hwritten : written i with
      | nil => exact head?_cons_ne (by decide)
      | cons c text =>
        rw [hwritten] at hi
        exact hi
  · intro level index outer names
    let branches := (init.map fun i => Item.concat (read i).reverse).reverse ++ []
    obtain ⟨st, hst, hsettled⟩ := hlast.run ⟨branches, []⟩
      (⟨level, index, caseFlags fold⟩ :: outer) names (between fold ⟨branches, []⟩ _ g names) rfl
    have hparted : Level.pushAll ⟨branches, []⟩ (read last) =
        Level.parted (init.map read) (read last) := by
      rw [Level.pushAll, Level.parted, List.append_nil, List.map_map]
      exact congrArg (Level.mk · _) (List.append_nil _)
    rw [hparted] at hsettled
    rw [List.append_assoc, foldlM_append_of_foldlM (foldlM_bars hinit), foldlM_append_of_foldlM hst,
      List.foldlM_cons, step_settled hsettled (by decide), step_close]
    rfl

end Parted

/-- The item for a part that may be left out. -/
def optionalItem (body : Item) : Item where
  term := .rep body.term 0 (some 1) true
  height := body.height + 2

/-- A question mark takes the item that a parenthesis has closed. -/
theorem exists_step_optional (level : Level) (outer : List Frame) (names : List (List Char)) :
    ∃ st, (between fold (level.push (grouped none body)) outer g names).step '?' = some st ∧
      st.settled = between fold (level.push (optionalItem body)) outer g names := by
  refine ⟨(between fold level outer g names).goto
    (.repeated (grouped none body) 0 (some 1) false), rfl, ?_⟩
  have hpushed : ((between fold level outer g names).goto
      (.repeated (grouped none body) 0 (some 1) false)).settled =
        ((between fold level outer g names).goto
          (.repeated (grouped none body) 0 (some 1) false)).pushRepeated
            (grouped none body) 0 (some 1) true := rfl
  rw [hpushed, pushRepeated, Term.repeated_optional]
  rfl

theorem Fills.optional (h : Fills fold g text g' body) :
    Reads fold g ("(?:".toList ++ text ++ [')', '?']) g' [optionalItem body] := by
  refine reads_of_between nofun (List.cons_ne_nil _ _) fun level outer names => ?_
  have htext : "(?:".toList ++ text ++ [')', '?'] = "(?:".toList ++ ((text ++ [')']) ++ ['?']) := by
    rw [List.append_assoc, List.append_assoc, List.singleton_append]
  obtain ⟨st, hst, hsettled⟩ := exists_step_optional level outer names
  refine ⟨st, ?_, hsettled⟩
  rw [htext, foldlM_append_of_foldlM foldlM_openPlain,
    foldlM_append_of_foldlM (h.run level none outer names), foldlM_cons_of_step hst]
  rfl

end Reading

section Meaning

open Term

variable {items : List Item} {level : Level} {x y : Spot}

theorem runs_itemConcat :
    (Item.concat items).term.Runs x y ↔ RunsAll (items.reverse.map Item.term) x y := by
  match items with
  | [] => rfl
  | [item] => exact runsAll_singleton.symm
  | first :: second :: more => exact runs_concat

theorem runs_close :
    level.close.term.Runs x y ↔
      (∃ b ∈ level.branches, b.term.Runs x y) ∨ RunsAll (level.items.reverse.map Item.term) x y := by
  rw [Level.close]
  split
  · next h =>
    rw [h, runs_itemConcat]
    simp only [List.not_mem_nil, false_and, exists_false, false_or]
  -- branches are kept with the latest first, and the last one is still open
  · have halt (branches : List Item) (last : Item) :
        (Item.alternation (last :: branches)).term.Runs x y ↔
          (∃ b ∈ branches, b.term.Runs x y) ∨ last.term.Runs x y := by
      have hruns : (alternation ((last :: branches).reverse.map Item.term)).Runs x y ↔
          ∃ t ∈ (last :: branches).reverse.map Item.term, t.Runs x y := runs_alternation
      rw [Item.alternation, hruns]
      rw [← or_comm, ← List.exists_mem_cons_iff fun b : Item => b.term.Runs x y]
      simp only [List.mem_map, List.mem_reverse, exists_exists_and_eq_and]
    rw [halt, runs_itemConcat]

theorem runs_close_parted {ι : Type} {read : ι → List Item} {init : List ι} {last : ι} :
    (Level.parted (init.map read) (read last)).close.term.Runs x y ↔
      ∃ i ∈ init ++ [last], RunsAll ((read i).map Item.term) x y := by
  rw [runs_close, Level.parted, List.reverse_reverse]
  simp only [List.mem_reverse, List.mem_map, exists_exists_and_eq_and, runs_itemConcat,
    List.reverse_reverse, List.mem_append, List.mem_singleton, or_and_right, exists_or,
    exists_eq_left]

end Meaning

/-- Whether a text between two items stands for the texts of a language, and has no groups. -/
def Spells (fold : Bool) (text : List Char) (L : Language Char) : Prop :=
  ∃ items, (∀ g, Reads fold g text g items) ∧ (∀ item ∈ items, item.term.NoGroup) ∧
    Consumes (Term.RunsAll (items.map Item.term)) L

/-- Whether a text within a group stands for the texts of a language, and has no groups of its
own. -/
def Means (fold : Bool) (text : List Char) (L : Language Char) : Prop :=
  ∃ body : Item, (∀ g, Fills fold g text g body) ∧ body.term.NoGroup ∧ Consumes body.term.Runs L

section Spelling

variable {fold : Bool} {text more : List Char} {L M : Language Char} {c : Char}

theorem spells_nil : Spells fold [] 1 :=
  ⟨[], fun _ => reads_nil, nofun, consumes_skip⟩

theorem Spells.append (h : Spells fold text L) (h' : Spells fold more M) :
    Spells fold (text ++ more) (L * M) := by
  obtain ⟨items, hr, hg, hc⟩ := h
  obtain ⟨others, hr', hg', hc'⟩ := h'
  refine ⟨items ++ others, fun g => (hr g).append (hr' g), ?_, ?_⟩
  · intro item hi
    rcases List.mem_append.mp hi with hi | hi
    · exact hg item hi
    · exact hg' item hi
  · refine (hc.seq hc').congr ?_
    intro x z
    rw [List.map_append, Term.runsAll_append]

/-- The texts that a text stands for, character by character. -/
def foldings (fold : Bool) : List Char → Language Char
  | [] => 1
  | c :: text => (Term.set (folded fold c)).language * foldings fold text

theorem foldings_false (text : List Char) : foldings false text = {text} := by
  have hchar (c : Char) : (Term.set (folded false c)).language = {[c]} := by
    ext w
    constructor
    · intro h
      obtain ⟨d, hd, rfl⟩ := h
      have hdc : d = c := of_decide_eq_true ((CharSet.contains_singleton c d).symm.trans hd)
      rw [hdc]
      rfl
    · intro h
      subst h
      exact ⟨c, (CharSet.contains_singleton c c).trans (decide_eq_true rfl), rfl⟩
  induction text with
  | nil => rfl
  | cons c text ih =>
    rw [foldings, hchar, ih]
    ext w
    constructor
    · intro hw
      obtain ⟨_, rfl, _, rfl, rfl⟩ := Language.mem_mul.mp hw
      rfl
    · intro hx
      subst hx
      exact Language.mem_mul.mpr ⟨[c], rfl, text, rfl, rfl⟩

theorem contains_folded (fold : Bool) (c : Char) : (folded fold c).contains c = true := by
  have hself : (CharSet.singleton c).contains c = true := by simp
  cases fold with
  | false => exact hself
  | true =>
    have hmeant : folded true c = (CharSet.singleton c).closeCase := rfl
    rw [hmeant, CharSet.closeCase, CharSet.contains_union, hself, Bool.or_true]

/-- A text stands for itself at least. -/
theorem mem_foldings (fold : Bool) (text : List Char) : text ∈ foldings fold text := by
  induction text with
  | nil => rfl
  | cons c text ih =>
    exact Language.mem_mul.mpr ⟨[c], ⟨c, contains_folded fold c, rfl⟩, text, ih, rfl⟩

theorem consumes_chars (fold : Bool) (text : List Char) :
    Consumes (Term.RunsAll ((text.map (charItem fold)).map Item.term)) (foldings fold text) := by
  induction text with
  | nil => exact consumes_skip
  | cons c text ih =>
    have hchar : Consumes (charItem fold c).term.Runs (charItem fold c).term.language :=
      Term.consumes_language trivial trivial
    exact hchar.seq ih

theorem noGroup_chars : ∀ item ∈ text.map (charItem fold), item.term.NoGroup := by
  intro item hi
  obtain ⟨c, -, rfl⟩ := List.mem_map.mp hi
  trivial

theorem spells_chars (h : ∀ c ∈ text, c ∉ metaChars) : Spells fold text (foldings fold text) :=
  ⟨text.map (charItem fold), fun _ => reads_chars h, noGroup_chars, consumes_chars fold text⟩

theorem spells_escape (c : Char) : Spells fold (escape [c]) (foldings fold [c]) :=
  ⟨[c].map (charItem fold), fun _ => reads_escape c, noGroup_chars, consumes_chars fold [c]⟩

theorem Spells.means (h : Spells fold text L) : Means fold text L := by
  obtain ⟨items, hr, hg, hc⟩ := h
  refine ⟨Item.concat items.reverse, fun g => (hr g).fills, ?_, ?_⟩
  · apply noGroup_itemConcat
    intro item hi
    exact hg item (List.mem_reverse.mp hi)
  · refine hc.congr ?_
    intro x y
    rw [runs_itemConcat, List.reverse_reverse]

theorem Means.spells (h : Means fold text L) : Spells fold ("(?:".toList ++ text ++ [')']) L := by
  obtain ⟨body, hf, hg, hc⟩ := h
  refine ⟨[grouped none body], fun g => (hf g).plain, ?_, ?_⟩
  · intro item hi
    rw [List.mem_singleton.mp hi]
    exact hg
  · refine hc.congr ?_
    intro x y
    exact Term.runsAll_singleton

/-- The texts that one of several spellings stands for. -/
def eitherOf (parts : List (List Char × Language Char)) : Language Char :=
  { w | ∃ p ∈ parts, w ∈ p.2 }

theorem eitherOf_cons (p : List Char × Language Char) (parts : List (List Char × Language Char)) :
    eitherOf (p :: parts) = p.2 + eitherOf parts := by
  ext w
  exact List.exists_mem_cons_iff _ _ _

theorem consumes_exists {ι : Type} {parts : List ι} {R : ι → Spot → Spot → Prop}
    {L : ι → Language Char} (h : ∀ i ∈ parts, Consumes (R i) (L i)) :
    Consumes (fun x y => ∃ i ∈ parts, R i x y) {w | ∃ i ∈ parts, w ∈ L i} := by
  intro cur m y
  constructor
  · rintro ⟨i, hi, hx⟩
    obtain ⟨w, hw, hcur⟩ := (h i hi cur m y).mp hx
    exact ⟨w, ⟨i, hi, hw⟩, hcur⟩
  · rintro ⟨w, ⟨i, hi, hw⟩, hcur⟩
    exact ⟨i, hi, (h i hi cur m y).mpr ⟨w, hw, hcur⟩⟩

theorem means_alternatives {parts : List (List Char × Language Char)} (hne : parts ≠ [])
    (h : ∀ p ∈ parts, Spells fold p.1 p.2) :
    Means fold (['|'].intercalate (parts.map Prod.fst)) (eitherOf parts) := by
  simp only [Spells] at h
  choose! items hreads hgroups hconsumes using h
  obtain ⟨init, last, rfl⟩ : ∃ init last, parts = init ++ [last] :=
    ⟨_, _, (List.dropLast_append_getLast hne).symm⟩
  refine ⟨(Level.parted (init.map items) (items last)).close,
    fun g => fills_parted fun p hp => hreads p hp g, ?_, ?_⟩
  · apply Level.Bare.close
    intro item hi
    rcases Level.mem_parted hi with ⟨others, ho, rfl⟩ | hlast
    · obtain ⟨p, hp, rfl⟩ := List.mem_map.mp ho
      refine noGroup_itemConcat fun item hi => ?_
      exact hgroups p (List.mem_append_left _ hp) item (List.mem_reverse.mp hi)
    · exact hgroups last (List.mem_append_right _ List.mem_cons_self) item hlast
  · refine (consumes_exists hconsumes).congr fun x y => ?_
    rw [runs_close_parted]

end Spelling

/-- The texts that a regex matches as a whole; none if it is malformed. -/
def languageOf (text : List Char) : Language Char :=
  match readItem? text with
  | some item => item.term.language
  | none => 0

/-- Whether a text is a regex on its own, without groups that capture, flags, and conditions on
positions. -/
structure Plain (text : List Char) : Prop where
  read : ∃ st item, text.foldlM step {} = some st ∧ st.finish? = some item ∧ st.groups = 0 ∧
    item.term.NoLook
  flags : ∀ before after st, text = before ++ after → before.foldlM step {} = some st →
    ¬ st.ListsFlags

section Plain

variable {st : State} {text : List Char} {item : Item}

theorem noGroup_of_finish? (hb : st.Bare) (hf : st.finish? = some item) : item.term.NoGroup := by
  obtain ⟨flags, level, outer, g, names, classes, mode, comment⟩ := st
  cases outer with
  | cons frame outer => cases mode <;> cases hf
  | nil =>
    cases mode with
    | item =>
      cases hf
      exact hb.1.close
    | repeated operand low high wide =>
      cases hf
      have hrepeated := noGroup_repeated (hb.2 operand rfl) low high
      exact (hb.1.push (hrepeated _)).close
    | boundary =>
      cases hf
      have hpush : (level.push { term := .look (.word .boundary !flags.unicode) }).Bare :=
        hb.1.push trivial
      exact hpush.close
    | _ => cases hf

theorem tame_start : Tame {} := ⟨⟨nofun, nofun⟩, nofun⟩

/-- A text that opens no group that captures is read as an item without groups. -/
theorem noGroup_of_read (hread : text.foldlM step {} = some st) (hg : st.groups = 0)
    (hf : st.finish? = some item) : item.term.NoGroup := by
  have htame : st.Tame := tame_of_foldlM hread hg tame_start
  exact noGroup_of_finish? htame.1 hf

/-- What ends at the end of a text can also end at the parenthesis that closes a group. -/
theorem step_close_of_finish? {frame : Frame} {outer : List Frame} {g : Nat}
    {names : List (List Char)} (hc : st.comment = false) (ht : st.Tidy)
    (hf : st.finish? = some item) :
    (st.within (frame :: outer) g names).step ')' =
      some
        { flags := frame.flags, level := frame.level.push (grouped frame.index item), outer
          groups := st.groups + g, names := st.names ++ names } := by
  have hblank : Unicode.blank.contains ')' = false := by decide +kernel
  -- only three modes can end a text, and each of them takes the parenthesis as an end too
  obtain ⟨flags, inner, frames, groups, ns, classes, mode, comment⟩ := st
  subst hc
  have hor (st : State) (next : Option State) : st.orBlank ')' next = next := by
    rw [orBlank, hblank]
    split <;> rfl
  cases frames with
  | cons frame frames => cases mode <;> cases hf
  | nil =>
    cases mode with
    | item =>
      obtain rfl : classes = [] := ht not_false
      cases hf
      exact hor _ _
    | repeated operand low high wide =>
      obtain rfl : classes = [] := ht not_false
      cases hf
      cases wide with
      | false => exact hor _ _
      | true => exact (hor _ _).trans (hor _ _)
    | boundary =>
      obtain rfl : classes = [] := ht not_false
      cases hf
      exact hor _ _
    | _ => cases hf

/-- A regex on its own stands for its language within a group too, if it has no groups and no
conditions on positions and does not end in a comment. -/
theorem means_of_finish? (hread : text.foldlM step {} = some st) (hfinish : st.finish? = some item)
    (hgroups : st.groups = 0) (hcomment : st.comment = false) (hlook : item.term.NoLook) :
    Means false text item.term.language := by
  -- what the whole text says of its last state: no groups, no names, and no open class
  have htidy : st.Tidy := tidy_of_foldlM hread fun _ => rfl
  have hnames : st.names = [] := names_of_foldlM hread hgroups
  have hnoGroup : item.term.NoGroup := noGroup_of_read hread hgroups hfinish
  refine ⟨item, fun g => ⟨?_, ?_⟩, hnoGroup, Term.consumes_language hlook hnoGroup⟩
  · intro hhead
    -- a text that begins with a question mark is not read at all
    obtain ⟨rest, rfl⟩ : ∃ rest, text = '?' :: rest := by
      cases text with
      | nil => cases hhead
      | cons c rest => exact ⟨rest, by rw [Option.some.inj hhead]⟩
    cases hread
  · intro level index outer names
    have hwithin := foldlM_within (⟨level, index, caseFlags false⟩ :: outer) g names hread
      (Or.inl hgroups)
    have hstart : State.within (⟨level, index, caseFlags false⟩ :: outer) g names {} =
        between false {} (⟨level, index, caseFlags false⟩ :: outer) g names := by
      rw [State.within, between, Nat.zero_add]
      rfl
    rw [hstart] at hwithin
    rw [foldlM_append_of_foldlM hwithin, foldlM_cons_of_step (step_close_of_finish? hcomment htidy
      hfinish), hgroups, hnames, Nat.zero_add]
    rfl

theorem languageOf_of_finish? (hread : text.foldlM step {} = some st)
    (hfinish : st.finish? = some item) : languageOf text = item.term.language := by
  rw [languageOf, readItem?, hread, Option.bind_some, hfinish]

theorem means_languageOf (h : Plain text) : Means false text (languageOf text) := by
  obtain ⟨st, item, hread, hfinish, hgroups, hlook⟩ := h.read
  have hclean : st.Clean := clean_of_foldlM hread h.flags ⟨rfl, rfl, nofun⟩
  rw [languageOf_of_finish? hread hfinish]
  exact means_of_finish? hread hfinish hgroups hclean.2.1 hlook

end Plain

end RoutePattern.Regex
