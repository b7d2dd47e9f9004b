import RoutePattern.PathRegex
import RoutePattern.Proofs.Regex.Spelling

/-! How a text can be cut along a path, and that the regexes for literal text and for the values of
params say the same. -/
namespace RoutePattern

open Regex Text

/-- The texts that literal text can be found as: each character as it is, or in its written form. -/
def spellings : List Char → Language Char
  | [] => 1
  | c :: text => {[c], Percent.encodeChar c} * spellings text

/-- The texts that one of several literal texts can be found as. -/
def choiceSpellings (choices : List String) : Language Char :=
  { w | ∃ choice ∈ choices, w ∈ spellings choice.toList }

/-- The texts within a segment. -/
def withinSegment : Language Char := { w | w ≠ [] ∧ '/' ∉ w }

/-- The values of a param, as they are written. -/
def Param.values (p : Param) (kinds : Kinds) : Language Char :=
  if p.choices.isEmpty then
    match p.constraint with
    | .any => withinSegment
    | .kind name =>
      match kinds[name]? with
      | some k => languageOf k.fragment.toList
      | none => 0
    | .regex text => languageOf text.toList
  else choiceSpellings p.choices

/-- Whether the regex that a param is held to, if there is one, is plain. -/
def Param.Plain (p : Param) (kinds : Kinds) : Prop :=
  p.choices.isEmpty = true →
    match p.constraint with
    | .any => True
    | .kind name => ∃ k, kinds[name]? = some k ∧ Regex.Plain k.fragment.toList
    | .regex text => Regex.Plain text.toList

mutual
/-- Whether a text is a part of a path, with these values of its params, some of which may be left
out. -/
def Node.Cut (kinds : Kinds) : Node → List Char → List (Option String) → Prop
  | .literal text, w, values => w ∈ spellings text.toList ∧ values = []
  | .delimiter, w, values => w = ['/'] ∧ values = []
  | .param p, w, values => w ∈ p.values kinds ∧ values = [some (String.ofList w)]
  | .option children, w, values =>
    Node.CutAll kinds children w values ∨
      w = [] ∧ values = List.replicate (Node.paramsOf children).length none
termination_by structural node => node

/-- Whether a text is a path, with these values of its params. -/
def Node.CutAll (kinds : Kinds) : List Node → List Char → List (Option String) → Prop
  | [], w, values => w = [] ∧ values = []
  | node :: rest, w, values =>
    ∃ u us v vs, node.Cut kinds u us ∧ Node.CutAll kinds rest v vs ∧ w = u ++ v ∧ values = us ++ vs
termination_by structural nodes => nodes
end

theorem paramsOf_cons (node : Node) (rest : List Node) :
    Node.paramsOf (node :: rest) = node.params ++ Node.paramsOf rest := rfl

section Literals

theorem hexDigit_not_mem_metaChars {n : Nat} (h : n < 16) : hexDigit n ∉ metaChars := by
  have hall : ∀ n < 16, hexDigit n ∉ metaChars := by decide
  exact hall n h

theorem triplet_not_mem_metaChars (b : UInt8) : ∀ c ∈ Percent.triplet b, c ∉ metaChars := by
  have hb : b.toNat < 256 := b.toNat_lt
  intro c hc
  simp only [Percent.triplet, List.mem_cons, List.not_mem_nil, or_false] at hc
  rcases hc with rfl | rfl | rfl
  · decide
  · exact hexDigit_not_mem_metaChars (by omega)
  · exact hexDigit_not_mem_metaChars (by omega)

/-- A character that is not written as it is is not kept, and is written as triplets of its bytes. -/
theorem encodeChar_eq_triplets {c : Char} (h : Percent.encodeChar c ≠ [c]) :
    Percent.encodeChar c = (String.utf8EncodeChar c).flatMap Percent.triplet := by
  rw [Percent.encodeChar]
  apply if_neg
  intro hkept
  apply h
  rw [Percent.encodeChar, if_pos hkept]

/-- The forms of a character that its regex lists, each with the texts it stands for. -/
def charForms (fold : Bool) (c : Char) : List (List Char × Language Char) :=
  let written := Percent.encodeChar c
  let small := written.map Char.toLower
  (escape [c], foldings fold [c]) :: (written, foldings fold written) ::
    if fold && small ≠ written then [(small, foldings fold small)] else []

/-- The texts that a character of literal text is found as, where case counts or not. -/
def charTexts (fold : Bool) (c : Char) : Language Char :=
  if Percent.encodeChar c = [c] then foldings fold [c] else eitherOf (charForms fold c)

/-- The texts that literal text is found as, where case counts or not. -/
def literalTexts (fold : Bool) : List Char → Language Char
  | [] => 1
  | c :: text => charTexts fold c * literalTexts fold text

theorem toLower_triplet_not_mem_metaChars (b : UInt8) :
    ∀ c ∈ Percent.triplet b, c.toLower ∉ metaChars := by
  have hdigit : ∀ n < 16, (hexDigit n).toLower ∉ metaChars := by decide
  have hb : b.toNat < 256 := b.toNat_lt
  intro c hc
  simp only [Percent.triplet, List.mem_cons, List.not_mem_nil, or_false] at hc
  rcases hc with rfl | rfl | rfl
  · decide
  · exact hdigit _ (by omega)
  · exact hdigit _ (by omega)

theorem encodeChar_not_mem_metaChars {c : Char} (h : Percent.encodeChar c ≠ [c]) :
    ∀ d ∈ Percent.encodeChar c, d ∉ metaChars := by
  intro d hd
  rw [encodeChar_eq_triplets h] at hd
  obtain ⟨b, -, hd⟩ := List.mem_flatMap.mp hd
  exact triplet_not_mem_metaChars b d hd

theorem toLower_encodeChar_not_mem_metaChars {c : Char} (h : Percent.encodeChar c ≠ [c]) :
    ∀ d ∈ (Percent.encodeChar c).map Char.toLower, d ∉ metaChars := by
  intro d hd
  obtain ⟨e, he, rfl⟩ := List.mem_map.mp hd
  rw [encodeChar_eq_triplets h] at he
  obtain ⟨b, -, he⟩ := List.mem_flatMap.mp he
  exact toLower_triplet_not_mem_metaChars b e he

theorem spells_charForms {c : Char} (fold : Bool) (h : Percent.encodeChar c ≠ [c]) :
    ∀ p ∈ charForms fold c, Spells fold p.1 p.2 := by
  rw [charForms, List.forall_mem_cons, List.forall_mem_cons]
  refine ⟨spells_escape c, spells_chars (encodeChar_not_mem_metaChars h), ?_⟩
  split_ifs
  · rw [List.forall_mem_singleton]
    exact spells_chars (toLower_encodeChar_not_mem_metaChars h)
  · exact nofun

theorem spells_charRegex (fold : Bool) (c : Char) :
    Spells fold (charRegex fold c) (charTexts fold c) := by
  rw [charRegex, charTexts]
  split
  · exact spells_escape c
  · next h =>
    -- the forms differ, and are written as alternatives
    have hne : charForms fold c ≠ [] := List.cons_ne_nil _ _
    have hspells := (means_alternatives hne (spells_charForms fold h)).spells
    have htext : ['|'].intercalate ((charForms fold c).map Prod.fst) =
        escape [c] ++ '|' :: Percent.encodeChar c ++
          (if fold && (Percent.encodeChar c).map Char.toLower ≠ Percent.encodeChar c
            then '|' :: (Percent.encodeChar c).map Char.toLower else []) := by
      rw [charForms]
      split_ifs <;> simp [List.intercalate]
    rw [htext] at hspells
    simpa only [List.append_assoc] using hspells

theorem charTexts_false (c : Char) : charTexts false c = {[c], Percent.encodeChar c} := by
  rw [charTexts]
  split
  · next h =>
    rw [foldings_false, h]
    exact (Set.pair_eq_singleton [c]).symm
  · have hforms : charForms false c =
        [(escape [c], {[c]}), (Percent.encodeChar c, {Percent.encodeChar c})] := by
      rw [charForms, foldings_false, foldings_false]
      rfl
    rw [hforms, eitherOf_cons, eitherOf_cons]
    ext w
    constructor
    · intro hw
      rcases hw with hw | hw | ⟨p, hp, -⟩
      · exact Or.inl hw
      · exact Or.inr hw
      · cases hp
    · intro hw
      rcases hw with hw | hw
      · exact Or.inl hw
      · exact Or.inr (Or.inl hw)

theorem encodeChar_mem_charTexts (fold : Bool) (c : Char) :
    Percent.encodeChar c ∈ charTexts fold c := by
  rw [charTexts]
  split
  · next h =>
    rw [h]
    exact mem_foldings fold [c]
  · exact ⟨_, List.mem_cons_of_mem _ List.mem_cons_self, mem_foldings fold _⟩

theorem literalTexts_false (text : List Char) : literalTexts false text = spellings text := by
  induction text with
  | nil => rfl
  | cons c text ih => rw [literalTexts, spellings, charTexts_false, ih]

/-- Literal text is found in its written form at least. -/
theorem written_mem_literalTexts (fold : Bool) (text : List Char) :
    text.flatMap Percent.encodeChar ∈ literalTexts fold text := by
  induction text with
  | nil => rfl
  | cons c text ih =>
    rw [List.flatMap_cons]
    exact Language.append_mem_mul (encodeChar_mem_charTexts fold c) ih

theorem spells_literalRegex (fold : Bool) (text : String) :
    Spells fold (literalRegex fold text) (literalTexts fold text.toList) := by
  rw [literalRegex]
  induction text.toList with
  | nil => exact spells_nil
  | cons c text ih => exact (spells_charRegex fold c).append ih

/-- The choices as they are written, each with the texts it is found as. -/
def choiceForms (fold : Bool) (choices : List String) : List (List Char × Language Char) :=
  choices.map fun choice => (literalRegex fold choice, literalTexts fold choice.toList)

theorem spells_choicesRegex (fold : Bool) {choices : List String} (h : choices ≠ []) :
    Spells fold (choicesRegex fold choices) (eitherOf (choiceForms fold choices)) := by
  have hforms : ∀ p ∈ choiceForms fold choices, Spells fold p.1 p.2 := by
    rw [choiceForms, List.forall_mem_map]
    intro choice _
    exact spells_literalRegex fold choice
  have hne : choiceForms fold choices ≠ [] := by
    rw [choiceForms, Ne, List.map_eq_nil_iff]
    exact h
  have hspells := (means_alternatives hne hforms).spells
  have htexts : (choiceForms fold choices).map Prod.fst = choices.map (literalRegex fold) := by
    rw [choiceForms, List.map_map]
    rfl
  rw [htexts] at hspells
  exact hspells

theorem eitherOf_choiceForms (choices : List String) :
    eitherOf (choiceForms false choices) = choiceSpellings choices := by
  ext w
  constructor
  · intro hx
    obtain ⟨p, hp, hw⟩ := hx
    obtain ⟨choice, hchoice, rfl⟩ := List.mem_map.mp hp
    rw [literalTexts_false] at hw
    exact ⟨choice, hchoice, hw⟩
  · intro hx
    obtain ⟨choice, hchoice, hw⟩ := hx
    rw [← literalTexts_false] at hw
    exact ⟨_, List.mem_map_of_mem hchoice, hw⟩

end Literals

section Values

/-- The characters within a segment. -/
def segmentSet (fold : Bool) : CharSet :=
  ((State.caseFlags fold).meant (CharSet.empty.union (CharSet.singleton '/'))).compl

theorem contains_segmentSet {fold : Bool} {c : Char} :
    (segmentSet fold).contains c = true ↔ c ≠ '/' := by
  -- the slash is no letter, so that case adds nothing to it
  have hslash : (CharSet.empty.union (CharSet.singleton '/')).closeCase.contains c =
      decide (c = '/') := by
    have himages : (Unicode.casePairs.flatMap fun p =>
        (CharSet.empty.union (CharSet.singleton '/')).ranges.flatMap p.images) = [] := by
      decide +kernel
    rw [CharSet.closeCase, himages]
    simp [CharSet.covers]
  rw [segmentSet, CharSet.contains_compl]
  cases fold with
  | false => simp [State.caseFlags, Flags.meant]
  | true =>
    have hmeant : (State.caseFlags true).meant (CharSet.empty.union (CharSet.singleton '/')) =
        (CharSet.empty.union (CharSet.singleton '/')).closeCase := rfl
    rw [hmeant, hslash]
    simp

/-- The item for the value of a param without a constraint. -/
def segmentItem (fold : Bool) : Item where
  term := .rep (.set (segmentSet fold)) 1 none false
  height := 2

theorem reads_segment (fold : Bool) (g : Nat) :
    Reads fold g "[^/]+?".toList g [segmentItem fold] := by
  refine reads_of_between (head?_cons_ne (by decide)) (List.cons_ne_nil _ _)
    fun level outer names => ?_
  exact ⟨State.between fold (level.push (segmentItem fold)) outer g names, rfl, rfl⟩

theorem consumes_segment (fold : Bool) :
    Consumes (Term.RunsAll ([segmentItem fold].map Item.term)) withinSegment := by
  have hlanguage : (segmentItem fold).term.language = withinSegment := by
    -- every character but the slash, once or more often
    ext w
    constructor
    · intro hx
      obtain ⟨k, -, hw⟩ := hx
      obtain ⟨parts, rfl, hlength, hparts⟩ := Language.mem_pow.mp hw
      constructor
      · intro hnil
        cases parts with
        | nil =>
          rw [List.length_nil] at hlength
          omega
        | cons part parts =>
          obtain ⟨c, -, hpart⟩ := hparts part List.mem_cons_self
          rw [hpart] at hnil
          cases hnil
      · intro hslash
        obtain ⟨part, hpart, hslash⟩ := List.mem_flatten.mp hslash
        obtain ⟨c, hc, rfl⟩ := hparts part hpart
        rw [contains_segmentSet, ← List.mem_singleton.mp hslash] at hc
        exact hc rfl
    · intro hx
      obtain ⟨hne, hslash⟩ := hx
      have hlength : 1 + (w.length - 1) = w.length := by
        have hpos := List.length_pos_iff.mpr hne
        omega
      refine ⟨w.length - 1, nofun, ?_⟩
      rw [hlength]
      refine Language.mem_pow.mpr ⟨w.map fun c => [c], ?_, List.length_map _, ?_⟩
      · rw [← List.flatMap_def, List.flatMap_singleton']
      · intro part hpart
        obtain ⟨c, hc, rfl⟩ := List.mem_map.mp hpart
        have hne : c ≠ '/' := fun h => hslash (h ▸ hc)
        exact ⟨c, contains_segmentSet.mpr hne, rfl⟩
  have hconsumes : Consumes (segmentItem fold).term.Runs (segmentItem fold).term.language :=
    Term.consumes_language trivial trivial
  rw [← hlanguage]
  refine hconsumes.congr ?_
  intro x y
  exact Term.runsAll_singleton

theorem means_segment (fold : Bool) : Means fold "[^/]+?".toList withinSegment := by
  have hspells : Spells fold "[^/]+?".toList withinSegment := by
    refine ⟨[segmentItem fold], reads_segment fold, ?_, consumes_segment fold⟩
    intro item hi
    rw [List.mem_singleton.mp hi]
    trivial
  exact hspells.means

/-- Whether the regex of a param is written, and stands for the values. -/
def Param.Meant (p : Param) (kinds : Kinds) : Prop :=
  ∃ body, p.regex kinds false = .ok body ∧ Means false body (p.values kinds)

theorem Param.Plain.meant {p : Param} {kinds : Kinds} (h : p.Plain kinds) : p.Meant kinds := by
  rw [Meant, Param.regex, Param.values]
  -- choices come before any constraint, which is not looked at
  by_cases hempty : p.choices.isEmpty = true
  · rw [if_pos hempty, if_pos hempty]
    have hplain := h hempty
    cases hc : p.constraint with
    | any => exact ⟨_, rfl, means_segment false⟩
    | kind name =>
      rw [hc] at hplain
      obtain ⟨k, hk, hplain⟩ := hplain
      simp only [Kinds.resolve, hk]
      exact ⟨_, rfl, means_languageOf hplain⟩
    | regex text =>
      rw [hc] at hplain
      exact ⟨_, rfl, means_languageOf hplain⟩
  · rw [if_neg hempty, if_neg hempty]
    have hchoices : p.choices ≠ [] := by
      intro h
      exact hempty (List.isEmpty_iff.mpr h)
    rw [← eitherOf_choiceForms]
    exact ⟨_, rfl, (spells_choicesRegex false hchoices).means⟩

end Values

end RoutePattern
