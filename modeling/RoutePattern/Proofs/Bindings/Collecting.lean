import Mathlib.Data.List.Induction
import Mathlib.Data.List.Nodup
import RoutePattern.Bindings.Path

/-! What texts collected under names without dots are bound to, and in which order. -/
namespace RoutePattern

open Text

/-- Adds a name to those that came up, unless it is among them. -/
def addName (names : List String) (name : String) : List String :=
  if names.contains name then names else names ++ [name]

namespace Bindings

/-- Collects texts, or their absence, under names, one after the other. -/
def collectAll (b : Bindings) (entries : List (String × Option String)) : Bindings :=
  entries.foldl (fun b e => b.collect e.1 e.2) b

/-- What texts are bound to when they are collected under one name. -/
def gathered : List String → Option Value
  | [] => none
  | [s] => some (.text s)
  | s :: t :: more => some (.array ((s :: t :: more).map .text))

section Names

variable {b : Bindings} {name other : String} {v : Value} {new : Option String}

theorem segments_of_plain (h : '.' ∉ name.toList) : segments name = [name] := by
  rw [segments, splitAll_of_not_mem h, List.map_singleton, String.ofList_toList]

theorem collect_of_plain (h : '.' ∉ name.toList) :
    b.collect name new = b.put name (collected (b.get? name) new) := by
  rw [collect, segments_of_plain h, alter]

theorem lookup?_of_plain (h : '.' ∉ name.toList) : b.lookup? name = b.get? name := by
  rw [lookup?, segments_of_plain h, descend?]
  cases b.get? name <;> rfl

theorem put_of_not_mem (h : name ∉ b.names) : b.put name v = b ++ [(name, v)] := by
  induction b with
  | nil => rfl
  | cons e rest ih =>
    obtain ⟨first, u⟩ := e
    obtain ⟨hfirst, hrest⟩ := not_or.mp (mt List.mem_cons.mpr h)
    rw [put, if_neg (Ne.symm hfirst), ih hrest, List.cons_append]

theorem put_get? (h : b.get? name = some v) : b.put name v = b := by
  induction b with
  | nil => cases h
  | cons e rest ih =>
    obtain ⟨first, u⟩ := e
    rw [put]
    split
    · next hfirst =>
      subst hfirst
      have hu : Bindings.get? ((first, u) :: rest) first = some u := by simp [get?]
      rw [Option.some.inj (hu.symm.trans h)]
    · next hfirst =>
      have hget : Bindings.get? ((first, u) :: rest) name = Bindings.get? rest name := by
        simp [get?, hfirst]
      rw [ih (hget.symm.trans h)]

theorem get?_eq_none_iff : b.get? name = none ↔ name ∉ b.names := by
  rw [get?, Option.map_eq_none_iff, List.find?_eq_none, names, List.mem_map, not_exists]
  constructor
  · intro h e he
    exact h e he.1 (beq_iff_eq.mpr he.2)
  · intro h e he heq
    exact h e ⟨he, beq_iff_eq.mp heq⟩

theorem names_put_of_mem (h : name ∈ b.names) : (b.put name v).names = b.names := by
  induction b with
  | nil => cases h
  | cons e rest ih =>
    obtain ⟨first, u⟩ := e
    rw [put]
    split
    · rfl
    · next hfirst =>
      have hrest : name ∈ Bindings.names rest :=
        (List.mem_cons.mp h).resolve_left (Ne.symm hfirst)
      exact congrArg (first :: ·) (ih hrest)

theorem names_put : (b.put name v).names = addName b.names name := by
  rw [addName]
  split
  · next h => exact names_put_of_mem (List.contains_iff_mem.mp h)
  · next h =>
    rw [put_of_not_mem fun hm => h (List.contains_iff_mem.mpr hm), names, List.map_append]
    rfl

end Names

section Texts

variable {b : Bindings} {name : String} {entries : List (String × String)}

theorem collected_gathered (texts : List String) (s : String) :
    some (collected (gathered texts) (some s)) = gathered (texts ++ [s]) := by
  match texts with
  | [] => rfl
  | [_] => rfl
  | first :: second :: more =>
    have hmap : (first :: second :: (more ++ [s])).map Value.text =
        (first :: second :: more).map Value.text ++ [.text s] := by
      rw [← List.cons_append, ← List.cons_append, List.map_append]
      rfl
    rw [List.cons_append, List.cons_append, gathered, gathered, hmap]
    rfl

/-- The entries of a name, in order. -/
def textsOf (entries : List (String × String)) (name : String) : List String :=
  (entries.filter (·.1 == name)).map (·.2)

theorem textsOf_cons {e : String × String} :
    textsOf (e :: entries) name =
      if e.1 = name then e.2 :: textsOf entries name else textsOf entries name := by
  rw [textsOf, List.filter_cons]
  split_ifs with h hname hname
  · rfl
  · exact absurd (beq_iff_eq.mp h) hname
  · exact absurd (beq_iff_eq.mpr hname) h
  · rfl

theorem length_textsOf {names texts : List String} (h : names.length = texts.length)
    (name : String) : (textsOf (names.zip texts) name).length = names.count name := by
  induction names generalizing texts with
  | nil => rfl
  | cons first names ih =>
    cases texts with
    | nil => cases h
    | cons s texts =>
      have hrest := ih (Nat.succ.inj h)
      rw [List.zip_cons_cons, textsOf_cons, List.count_cons, ← hrest]
      by_cases hfirst : first = name
      · rw [if_pos hfirst, if_pos (beq_iff_eq.mpr hfirst), List.length_cons]
      · rw [if_neg hfirst, if_neg fun hb => hfirst (beq_iff_eq.mp hb), Nat.add_zero]

/-- The texts of a name are numbered as the name's places are. -/
theorem textsOf_getElem? {names texts : List String} (h : names.length = texts.length) {i : Nat}
    (hi : names[i]? = some name) :
    (textsOf (names.zip texts) name)[(names.take i).count name]? = texts[i]? := by
  induction names generalizing texts i with
  | nil => cases hi
  | cons first names ih =>
    cases texts with
    | nil => cases h
    | cons s texts =>
      rw [List.zip_cons_cons, textsOf_cons]
      cases i with
      | zero =>
        rw [if_pos (Option.some.inj hi), List.take_zero, List.count_nil, List.getElem?_cons_zero,
          List.getElem?_cons_zero]
      | succ i =>
        have hrest := ih (Nat.succ.inj h) hi
        rw [List.take_succ_cons, List.count_cons, List.getElem?_cons_succ, ← hrest]
        by_cases hfirst : first = name
        · rw [if_pos hfirst, if_pos (beq_iff_eq.mpr hfirst), List.getElem?_cons_succ]
        · rw [if_neg hfirst, if_neg fun hb => hfirst (beq_iff_eq.mp hb), Nat.add_zero]

/-- A name is bound to the texts that were collected under it, in order. -/
theorem get?_collectAll {names texts : List String} (h : ∀ name ∈ names, '.' ∉ name.toList)
    (name : String) :
    (collectAll [] (names.zip (texts.map some))).get? name =
      gathered (textsOf (names.zip texts) name) := by
  have hentries : ∀ e ∈ names.zip texts, '.' ∉ e.1.toList :=
    fun e he => h e.1 (List.of_mem_zip he).1
  have hzip : names.zip (texts.map some) = (names.zip texts).map fun e => (e.1, some e.2) := by
    rw [List.zip_map_right]
    rfl
  rw [hzip]
  generalize names.zip texts = entries at hentries
  -- from the first entries on: one more of them goes behind those of its name
  induction entries using List.reverseRecOn with
  | nil => rfl
  | append_singleton entries e ih =>
    have hget := ih fun e' he' => hentries e' (List.mem_append_left _ he')
    have hplain := hentries e (List.mem_append_right _ List.mem_cons_self)
    rw [collectAll] at hget
    rw [collectAll, List.map_append, List.foldl_append]
    change Bindings.get? (collect _ e.1 (some e.2)) name = _
    rw [collect_of_plain hplain, textsOf, List.filter_append, List.map_append]
    by_cases hname : e.1 = name
    · subst hname
      have hlast : [e].filter (·.1 == e.1) = [e] := by simp
      rw [get?_put_self, hget, collected_gathered, hlast, textsOf]
      rfl
    · have hlast : [e].filter (·.1 == name) = [] := by simp [hname]
      rw [get?_put_of_ne _ _ (Ne.symm hname), hget, hlast, List.map_nil, List.append_nil, textsOf]

/-- Names are bound in the order in which they come up. -/
theorem names_collectAll {names texts : List String} (h : ∀ name ∈ names, '.' ∉ name.toList)
    (hlength : names.length = texts.length) (b : Bindings) :
    (collectAll b (names.zip (texts.map some))).names = names.foldl addName b.names := by
  induction names generalizing texts b with
  | nil => rfl
  | cons name names ih =>
    cases texts with
    | nil => cases hlength
    | cons s texts =>
      obtain ⟨hname, hnames⟩ := List.forall_mem_cons.mp h
      have hrest := ih hnames (Nat.succ.inj hlength) (b.collect name (some s))
      rw [collect_of_plain hname, names_put, ← collect_of_plain hname] at hrest
      exact hrest

end Texts

theorem collectAll_append (b : Bindings) (entries more : List (String × Option String)) :
    collectAll b (entries ++ more) = collectAll (collectAll b entries) more := List.foldl_append

section Distinct

variable {b b' : Bindings}

/-- Under distinct names an entry is the first one of its name. -/
theorem find?_of_mem {β : Type} {l : List (String × β)} (h : (l.map Prod.fst).Nodup)
    {e : String × β} (he : e ∈ l) : l.find? (·.1 == e.1) = some e := by
  induction l with
  | nil => cases he
  | cons first l ih =>
    obtain ⟨hfirst, hl⟩ := List.nodup_cons.mp h
    rw [List.find?_cons]
    rcases List.mem_cons.mp he with rfl | he
    · rw [beq_self_eq_true]
    · have hne : (first.1 == e.1) = false := by
        rw [beq_eq_false_iff_ne]
        exact fun heq => hfirst (List.mem_map.mpr ⟨e, he, heq.symm⟩)
      rw [hne]
      exact ih hl he

theorem get?_of_mem (h : b.names.Nodup) {e : String × Value} (he : e ∈ b) :
    b.get? e.1 = some e.2 := by
  rw [get?, find?_of_mem h he]
  rfl

/-- Bindings of distinct names are given by the names and what they are bound to. -/
theorem eq_map_names (h : b.names.Nodup) :
    b = b.names.map fun name => (name, (b.get? name).getD .null) := by
  have hself : ∀ e ∈ b, (e.1, (b.get? e.1).getD .null) = e := by
    intro e he
    rw [get?_of_mem h he]
    rfl
  have hid : b.map id = b.map fun e => (e.1, (b.get? e.1).getD .null) :=
    List.map_congr_left fun e he => (hself e he).symm
  rw [names, List.map_map]
  exact (List.map_id b).symm.trans hid

theorem perm_of_get? (h : b.names.Nodup) (hnames : b.names.Perm b'.names)
    (hget : ∀ name ∈ b.names, b.get? name = b'.get? name) : b.Perm b' := by
  rw [eq_map_names h, eq_map_names (hnames.nodup h)]
  have hsame : (b.names.map fun name => (name, (b.get? name).getD .null)) =
      b.names.map fun name => (name, (b'.get? name).getD .null) :=
    List.map_congr_left fun name hname => by rw [hget name hname]
  rw [hsame]
  exact hnames.map _

theorem eq_of_get? (h : b.names.Nodup) (hnames : b'.names = b.names)
    (hget : ∀ name ∈ b.names, b'.get? name = b.get? name) : b' = b := by
  have h' : b'.names.Nodup := hnames ▸ h
  rw [eq_map_names h, eq_map_names h', hnames]
  exact List.map_congr_left fun name hname => by rw [hget name hname]

/-- Distinct names that come up are added behind those that were there, without the ones among them. -/
theorem foldl_addName_eq {l names : List String} (h : names.Nodup) :
    names.foldl addName l = l ++ names.filter (· ∉ l) := by
  induction names generalizing l with
  | nil => exact (List.append_nil l).symm
  | cons name names ih =>
    obtain ⟨hname, hnames⟩ := List.nodup_cons.mp h
    rw [List.foldl_cons, ih hnames, addName]
    by_cases hl : name ∈ l
    · rw [if_pos (List.contains_iff_mem.mpr hl), List.filter_cons_of_neg (by simpa using hl)]
    · -- the new name does not come up again
      have hrest : names.filter (· ∉ l ++ [name]) = names.filter (· ∉ l) := by
        apply List.filter_congr
        intro other hother
        have hne : other ≠ name := fun heq => hname (heq ▸ hother)
        simp [hne]
      rw [if_neg fun hm => hl (List.contains_iff_mem.mp hm), hrest,
        List.filter_cons_of_pos (by simpa using hl), List.append_assoc, List.singleton_append]

theorem foldl_addName_of_nodup {l names : List String} (h : (l ++ names).Nodup) :
    names.foldl addName l = l ++ names := by
  obtain ⟨-, hnames, hapart⟩ := List.nodup_append.mp h
  have hall : names.filter (· ∉ l) = names := by
    rw [List.filter_eq_self]
    intro name hname
    simpa using fun hl => hapart name hl name hname rfl
  rw [foldl_addName_eq hnames, hall]

theorem count_take_of_nodup {names : List String} (h : names.Nodup) {i : Nat} {name : String}
    (hi : names[i]? = some name) : (names.take i).count name = 0 := by
  rw [List.count_eq_zero]
  intro hm
  obtain ⟨hlt, rfl⟩ := List.getElem?_eq_some_iff.mp hi
  obtain ⟨j, hj, hname⟩ := List.mem_take_iff_getElem.mp hm
  have hji : j < i := by omega
  exact absurd (h.getElem_inj_iff.mp hname) (Nat.ne_of_lt hji)

/-- Under distinct names each text stands alone. -/
theorem textsOf_of_nodup {names texts : List String} (hlength : names.length = texts.length)
    (h : names.Nodup) {i : Nat} {name s : String} (hi : names[i]? = some name)
    (hs : texts[i]? = some s) : textsOf (names.zip texts) name = [s] := by
  have hone : (textsOf (names.zip texts) name).length = 1 := by
    rw [length_textsOf hlength]
    exact List.count_eq_one_of_mem h (List.mem_of_getElem? hi)
  have htext := textsOf_getElem? hlength hi
  rw [count_take_of_nodup h hi, hs] at htext
  obtain ⟨t, ht⟩ := List.length_eq_one_iff.mp hone
  rw [ht] at htext ⊢
  rw [Option.some.inj htext]

end Distinct

section Absence

variable {b : Bindings} {l : List String}

theorem mem_addName {l : List String} {name other : String} :
    other ∈ addName l name ↔ other ∈ l ∨ other = name := by
  rw [addName]
  split
  · next h =>
    constructor
    · exact Or.inl
    · intro hx
      rcases hx with hx | rfl
      · exact hx
      · exact List.contains_iff_mem.mp h
  · rw [List.mem_append, List.mem_singleton]

theorem mem_foldl_addName {names : List String} {name : String} :
    name ∈ names.foldl addName l ↔ name ∈ l ∨ name ∈ names := by
  induction names generalizing l with
  | nil => simp
  | cons first names ih => rw [List.foldl_cons, ih, mem_addName, List.mem_cons, or_assoc]

theorem nodup_addName (h : l.Nodup) (name : String) : (addName l name).Nodup := by
  rw [addName]
  split
  · exact h
  · next hnot =>
    rw [← List.concat_eq_append]
    exact h.concat fun hm => hnot (List.contains_iff_mem.mpr hm)

theorem nodup_foldl_addName {names : List String} (h : l.Nodup) : (names.foldl addName l).Nodup := by
  induction names generalizing l with
  | nil => exact h
  | cons name names ih => exact ih (nodup_addName h name)

/-- Absence is noted once for each name that is not bound, in the order in which they come up. -/
theorem collectAll_none (h : ∀ name ∈ l, '.' ∉ name.toList) (b : Bindings) :
    ∃ new, l.foldl addName b.names = b.names ++ new ∧ (∀ name ∈ new, name ∉ b.names) ∧
      collectAll b (l.map fun name => (name, none)) = b ++ new.map fun name => (name, .null) := by
  induction l generalizing b with
  | nil => exact ⟨[], (List.append_nil _).symm, nofun, (List.append_nil _).symm⟩
  | cons name l ih =>
    obtain ⟨hname, hl⟩ := List.forall_mem_cons.mp h
    have hcons : collectAll b ((name :: l).map fun name => (name, none)) =
        collectAll (b.collect name none) (l.map fun name => (name, none)) := rfl
    rw [hcons, collect_of_plain hname, List.foldl_cons]
    cases hget : b.get? name with
    | some v =>
      have hmem : name ∈ b.names := by
        by_contra hm
        rw [get?_eq_none_iff.mpr hm] at hget
        cases hget
      have hsame : addName b.names name = b.names := if_pos (List.contains_iff_mem.mpr hmem)
      have hput : b.put name (collected (some v) none) = b := put_get? hget
      rw [hput, hsame]
      exact ih hl b
    | none =>
      have hmem : name ∉ b.names := get?_eq_none_iff.mp hget
      have hput : b.put name (collected none none) = b ++ [(name, .null)] := put_of_not_mem hmem
      have hadd : addName b.names name = b.names ++ [name] :=
        if_neg fun hm => hmem (List.contains_iff_mem.mp hm)
      have hnames : Bindings.names (b ++ [(name, .null)]) = b.names ++ [name] := List.map_append
      obtain ⟨new, hfold, hnew, hall⟩ := ih hl (b ++ [(name, .null)])
      rw [hnames] at hfold hnew
      refine ⟨name :: new, ?_, ?_, ?_⟩
      · rw [hadd, hfold, List.append_assoc, List.singleton_append]
      · rw [List.forall_mem_cons]
        exact ⟨hmem, fun other ho hb => hnew other ho (List.mem_append_left _ hb)⟩
      · rw [hput, hall, List.append_assoc, List.map_cons, List.singleton_append]

end Absence

end Bindings

end RoutePattern
