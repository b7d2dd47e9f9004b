import RoutePattern.Proofs.Path.Relaxation
import RoutePattern.Proofs.Regex.Whole

/-! The regex for literal text is a regex on its own, for the ways to write the text and no others. -/
namespace RoutePattern

open Regex State Text

section Escaping

variable {fold : Bool} {g : Nat} {text : List Char}

theorem Regex.escape_cons (c : Char) (text : List Char) :
    escape (c :: text) = escape [c] ++ escape text := by
  rw [escape, escape, escape, List.flatMap_cons, List.flatMap_singleton]

theorem Regex.escape_eq_self (h : ∀ c ∈ text, c ∉ metaChars) : escape text = text := by
  induction text with
  | nil => rfl
  | cons c text ih =>
    obtain ⟨hc, htext⟩ := List.forall_mem_cons.mp h
    have hplain : ¬metaChars.contains c = true := fun hm => hc (List.contains_iff_mem.mp hm)
    rw [escape_cons, ih htext, escape, List.flatMap_singleton, if_neg hplain]
    rfl

/-- An escaped text is read as its characters. -/
theorem Regex.reads_escapeAll (text : List Char) :
    Reads fold g (escape text) g (text.map (charItem fold)) := by
  induction text with
  | nil => exact reads_nil
  | cons c text ih =>
    rw [escape_cons]
    exact (reads_escape c).append ih

/-- What bars part nests two levels deep if the items do not nest. -/
theorem Regex.height_parted_le {init : List (List Item)} {last : List Item}
    (hinit : ∀ items ∈ init, ∀ item ∈ items, item.height = 0)
    (hlast : ∀ item ∈ last, item.height = 0) :
    (Level.parted init last).close.height ≤ 2 := by
  have hconcat (items : List Item) (h : ∀ item ∈ items, item.height = 0) :
      (Item.concat items.reverse).height ≤ 1 := by
    refine (height_itemConcat_le _).trans (Nat.succ_le_succ (maxHeight_le_iff.mpr ?_))
    intro item hi
    exact (h item (List.mem_reverse.mp hi)).le
  rw [Level.close]
  split
  · exact (hconcat last hlast).trans (Nat.le_succ 1)
  · refine Nat.succ_le_succ (maxHeight_le_iff.mpr ?_)
    rw [List.forall_mem_cons]
    refine ⟨hconcat last hlast, fun item hi => ?_⟩
    obtain ⟨items, hitems, rfl⟩ := List.mem_map.mp (List.mem_reverse.mp hi)
    exact hconcat items (hinit items hitems)

/-- Escaped texts with bars between them are read as an item for these texts, where case counts. -/
theorem Regex.exists_fills_escaped {texts : List (List Char)} (hne : texts ≠ []) :
    ∃ body : Item, (∀ g, Fills false g (['|'].intercalate (texts.map escape)) g body) ∧
      body.height ≤ 2 ∧ body.term.NoGroup ∧ Consumes body.term.Runs { w | w ∈ texts } := by
  obtain ⟨init, last, rfl⟩ : ∃ init last, texts = init ++ [last] :=
    ⟨_, _, (List.dropLast_append_getLast hne).symm⟩
  let read (text : List Char) : List Item := text.map (charItem false)
  have hchar (text : List Char) : ∀ item ∈ read text, item.height = 0 := by
    intro item hi
    obtain ⟨c, -, rfl⟩ := List.mem_map.mp hi
    rfl
  refine ⟨(Level.parted (init.map read) (read last)).close,
    fun g => fills_parted fun text _ => reads_escapeAll text, ?_, ?_, ?_⟩
  · refine height_parted_le (fun others ho => ?_) (hchar last)
    obtain ⟨text, -, rfl⟩ := List.mem_map.mp ho
    exact hchar text
  · refine Level.Bare.close fun item hi => ?_
    rcases Level.mem_parted hi with ⟨others, ho, rfl⟩ | hlast
    · obtain ⟨text, -, rfl⟩ := List.mem_map.mp ho
      exact noGroup_itemConcat fun item hi => noGroup_chars item (List.mem_reverse.mp hi)
    · exact noGroup_chars item hlast
  · have hbranches : ∀ text ∈ init ++ [last],
        Consumes (Term.RunsAll ((read text).map Item.term)) {text} := by
      intro text _
      rw [← foldings_false]
      exact consumes_chars false text
    have hwords : { w | w ∈ init ++ [last] } =
        { w | ∃ text ∈ init ++ [last], w ∈ ({text} : Language Char) } := by
      ext w
      exact exists_eq_right'.symm
    rw [hwords]
    exact (consumes_exists hbranches).congr fun x y => runs_close_parted

end Escaping

section Whole

variable {text more : List Char} {L M : Language Char} {n : Nat} {body : Item} {r : Regex}

/-- Whether a text spells a language where case counts, and its parts nest three levels deep at most. -/
def Regex.Shallow (text : List Char) (L : Language Char) : Prop :=
  ∃ items : List Item, (∀ g, Reads false g text g items) ∧
    (∀ item ∈ items, item.height ≤ 3 ∧ item.term.NoGroup) ∧
      Consumes (Term.RunsAll (items.map Item.term)) L

theorem Regex.shallow_nil : Shallow [] 1 :=
  ⟨[], fun _ => reads_nil, nofun, consumes_skip⟩

theorem Regex.Shallow.append (h : Shallow text L) (h' : Shallow more M) :
    Shallow (text ++ more) (L * M) := by
  obtain ⟨items, hreads, hitems, hconsumes⟩ := h
  obtain ⟨others, hreads', hothers, hconsumes'⟩ := h'
  refine ⟨items ++ others, fun g => (hreads g).append (hreads' g),
    List.forall_mem_append.mpr ⟨hitems, hothers⟩, ?_⟩
  refine (hconsumes.seq hconsumes').congr fun x z => ?_
  rw [List.map_append, Term.runsAll_append]

/-- What a shallow text is read as, on its own and in brackets. -/
theorem Regex.Shallow.exists_item (h : Shallow text L) : ∃ item : Item,
    readItem? text = some item ∧ Fills false 0 text 0 item ∧ item.height ≤ nestLimit ∧
      item.term.NoGroup ∧ Consumes item.term.Runs L := by
  obtain ⟨items, hreads, hitems, hconsumes⟩ := h
  refine ⟨Item.concat items.reverse, ?_, (hreads 0).fills, ?_, ?_, ?_⟩
  · obtain ⟨st, hst, hsettled⟩ := (hreads 0).run {} [] [] {} rfl
    rw [readItem?, hst, Option.bind_some, finish?_settled hsettled]
    exact congrArg (fun items => some (Item.concat items)) (List.append_nil _)
  · have hmax : Item.maxHeight items.reverse ≤ 3 :=
      maxHeight_le_iff.mpr fun item hi => (hitems item (List.mem_reverse.mp hi)).1
    calc
      (Item.concat items.reverse).height ≤ Item.maxHeight items.reverse + 1 := height_itemConcat_le _
      _ ≤ 3 + 1 := Nat.succ_le_succ hmax
      _ ≤ nestLimit := by decide
  · exact noGroup_itemConcat fun item hi => (hitems item (List.mem_reverse.mp hi)).2
  · refine hconsumes.congr fun x y => ?_
    rw [runs_itemConcat, List.reverse_reverse]

/-- What a regex in brackets is read as between the anchors. -/
theorem Regex.Fills.readItem?_whole (h : Fills false 0 text n body) :
    readItem? ("^(?:".toList ++ text ++ ")$".toList) =
      some (Item.concat (anchored {} [grouped none body]).reverse) := by
  have htext : "^(?:".toList ++ text ++ ")$".toList =
      frontText {} ++ ("(?:".toList ++ text ++ [')']) ++ backText {} := by
    simp only [List.append_assoc]
    rfl
  rw [htext]
  exact readItem?_of_reads h.plain

/-- Between the anchors a regex matches the texts that it matches as a whole. -/
theorem Regex.Fills.isMatch_whole_iff (h : Fills false 0 text n body)
    (hr : ofText? (String.ofList ("^(?:".toList ++ text ++ ")$".toList)) = some r) {path : String} :
    r.isMatch path = true ↔ body.term.MatchesWhole path.toList := by
  obtain ⟨item, hitem, -, -, rfl⟩ := ofText?_eq_some_iff.mp hr
  rw [String.toList_ofList, h.readItem?_whole] at hitem
  obtain rfl := Option.some.inj hitem
  rw [isMatch, captures?, Option.isSome_map]
  exact run_isSome_iff_matchesWhole fun x y => runs_anchored rfl rfl

end Whole

section Characters

variable {small : Bool} {c : Char} {w : List Char}

/-- The ways to write a character: as it is and, where that is another text, in its written form, whose
digits may be small if that is asked for. -/
def charSpellings (small : Bool) (c : Char) : Language Char :=
  let written := Percent.encodeChar c
  { w | w = [c] ∨ written ≠ [c] ∧ (w = written ∨ small = true ∧ w = written.map Char.toLower) }

instance : Decidable (w ∈ charSpellings small c) :=
  inferInstanceAs (Decidable (w = [c] ∨ Percent.encodeChar c ≠ [c] ∧
    (w = Percent.encodeChar c ∨ small = true ∧ w = (Percent.encodeChar c).map Char.toLower)))

/-- The ways to write a character, without those that come twice. -/
def charWords (small : Bool) (c : Char) : List (List Char) :=
  let written := Percent.encodeChar c
  let lower := written.map Char.toLower
  [c] :: written :: if small && lower ≠ written then [lower] else []

theorem mem_charWords_iff (h : Percent.encodeChar c ≠ [c]) :
    w ∈ charWords small c ↔ w ∈ charSpellings small c := by
  have hiff : w ∈ charSpellings small c ↔ w = [c] ∨ w = Percent.encodeChar c ∨
      small = true ∧ w = (Percent.encodeChar c).map Char.toLower :=
    or_congr_right (and_iff_right h)
  rw [hiff, charWords, List.mem_cons, List.mem_cons]
  refine or_congr_right (or_congr_right' fun hw => ?_)
  -- digits that are small already give no new way to write
  rw [List.mem_ite_nil_right, List.mem_singleton, Bool.and_eq_true, decide_eq_true_eq, and_assoc]
  refine and_congr_right fun _ => and_iff_right_of_imp ?_
  rintro rfl
  exact hw

/-- A character that can be written in several ways is a group of them, each escaped. -/
theorem charRegex_eq_group (h : Percent.encodeChar c ≠ [c]) : charRegex small c =
    "(?:".toList ++ ['|'].intercalate ((charWords small c).map escape) ++ [')'] := by
  have hwritten : escape (Percent.encodeChar c) = Percent.encodeChar c :=
    escape_eq_self (encodeChar_not_mem_metaChars h)
  have hlower : escape ((Percent.encodeChar c).map Char.toLower) =
      (Percent.encodeChar c).map Char.toLower :=
    escape_eq_self (toLower_encodeChar_not_mem_metaChars h)
  rw [charRegex, if_neg h, charWords]
  split_ifs <;> simp [List.intercalate, hwritten, hlower]

theorem shallow_charRegex (small : Bool) (c : Char) :
    Shallow (charRegex small c) (charSpellings small c) := by
  by_cases h : Percent.encodeChar c = [c]
  · -- there is no other way to write the character
    have hself : charSpellings small c = foldings false [c] := by
      rw [foldings_false]
      ext w
      exact or_iff_left fun hw => hw.1 h
    rw [charRegex, if_pos h, hself]
    refine ⟨[c].map (charItem false), fun g => reads_escape c, ?_, consumes_chars false [c]⟩
    intro item hi
    rw [List.mem_singleton.mp hi]
    exact ⟨Nat.zero_le 3, trivial⟩
  · have hne : charWords small c ≠ [] := List.cons_ne_nil _ _
    obtain ⟨body, hfills, hheight, hgroup, hconsumes⟩ := exists_fills_escaped hne
    have hwords : { w | w ∈ charWords small c } = charSpellings small c :=
      Set.ext fun w => mem_charWords_iff h
    rw [hwords] at hconsumes
    rw [charRegex_eq_group h]
    refine ⟨[grouped none body], fun g => (hfills g).plain, ?_, ?_⟩
    · intro item hi
      rw [List.mem_singleton.mp hi]
      exact ⟨Nat.succ_le_succ hheight, hgroup⟩
    · exact hconsumes.congr fun x y => Term.runsAll_singleton

end Characters

section Texts

variable {small : Bool}

/-- The ways to write a text: each character in one of its own. -/
def textSpellings (small : Bool) (text : List Char) : Language Char :=
  (text.map (charSpellings small)).prod

theorem flatMap_mem_textSpellings {text : List Char} {write : Char → List Char}
    (h : ∀ c ∈ text, write c ∈ charSpellings small c) : text.flatMap write ∈ textSpellings small text := by
  rw [textSpellings]
  induction text with
  | nil => rfl
  | cons c text ih =>
    obtain ⟨hc, htext⟩ := List.forall_mem_cons.mp h
    rw [List.flatMap_cons, List.map_cons, List.prod_cons]
    exact Language.append_mem_mul hc (ih htext)

theorem shallow_literalRegex (small : Bool) (text : String) :
    Shallow (literalRegex small text) (textSpellings small text.toList) := by
  rw [literalRegex, textSpellings]
  induction text.toList with
  | nil => exact shallow_nil
  | cons c text ih => exact (shallow_charRegex small c).append ih

/-- The regex that holds whole texts to literal text, however it is written. -/
def wholeLiteral (small : Bool) (text : String) : String :=
  String.ofList ("^(?:".toList ++ literalRegex small text ++ ")$".toList)

/-- The regex for literal text is well-formed on its own, whatever the text is, and has no groups. It
matches the ways to write the text as a whole, and nothing else, and so does what runs between anchors. It is
refused only for the size of its automaton. -/
theorem literalRegex_denotes (small : Bool) (text : String) :
    ∃ t, read? (literalRegex small text) = some t ∧ t.lastGroup = 0 ∧
      (ofText? (String.ofList (literalRegex small text))).map Regex.term =
        (if t.fits then some t else none) ∧
      (∀ w, t.MatchesWhole w ↔ w ∈ textSpellings small text.toList) ∧
      ∀ r, ofText? (wholeLiteral small text) = some r →
        ∀ path, r.isMatch path = true ↔ path.toList ∈ textSpellings small text.toList := by
  obtain ⟨item, hread, hfills, hheight, hgroup, hconsumes⟩ :=
    (shallow_literalRegex small text).exists_item
  have hterm : read? (literalRegex small text) = some item.term := by
    rw [read?, hread, Option.bind_some, if_pos hheight]
  refine ⟨item.term, hterm, hgroup.lastGroup_eq, ?_, fun w => hconsumes.matchesWhole_iff,
    fun r hr path => ?_⟩
  · rw [ofText?, String.toList_ofList, hterm, Option.bind_eq_bind, Option.bind_some]
    split_ifs <;> rfl
  · exact (hfills.isMatch_whole_iff hr).trans hconsumes.matchesWhole_iff

/-- What are operators elsewhere is matched as it is and in its written form, here with small digits. -/
theorem literalRegex_denotes_operators : ∃ r, ofText? (wholeLiteral true "(a.|é %") = some r ∧
    r.isMatch "(a.|é %" = true ∧ r.isMatch "(a.%7c%c3%a9%20%25" = true := by
  have hsome : (ofText? (wholeLiteral true "(a.|é %")).isSome = true := by decide +kernel
  obtain ⟨r, hr⟩ := Option.isSome_iff_exists.mp hsome
  obtain ⟨t, -, -, -, -, hmatch⟩ := literalRegex_denotes true "(a.|é %"
  have hsmall : ("(a.|é %".toList.all fun c =>
      decide ((Percent.encodeChar c).map Char.toLower ∈ charSpellings true c)) = true := by decide +kernel
  refine ⟨r, hr, (hmatch r hr _).mpr ?_, (hmatch r hr _).mpr ?_⟩
  · exact flatMap_mem_textSpellings fun c _ => Or.inl (Eq.refl [c])
  · exact flatMap_mem_textSpellings fun c hc => of_decide_eq_true (List.all_eq_true.mp hsmall c hc)

end Texts

end RoutePattern
