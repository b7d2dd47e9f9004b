import RoutePattern.Proofs.Bindings.Collecting

/-! What stands at the end of a path of names, before and after the value at the end of another path
is changed. A dotted name is such a path, and two of them meet only if one goes on behind the other. -/
namespace RoutePattern

open Text

/-- Whether a dotted name goes on behind another one. -/
def Extends (name base : String) : Prop := ∃ more, name = base ++ "." ++ more

section Segments

variable {name other : String}

theorem segments_ne_nil (name : String) : segments name ≠ [] := by
  rw [segments, ne_eq, List.map_eq_nil_iff]
  exact splitAll_ne_nil '.' name.toList

theorem not_mem_of_mem_segments {key : String} (h : key ∈ segments name) : '.' ∉ key.toList := by
  obtain ⟨stretch, hstretch, rfl⟩ := List.mem_map.mp h
  rw [String.toList_ofList]
  exact not_mem_of_mem_splitAll hstretch

theorem map_toList_segments (name : String) :
    (segments name).map String.toList = splitAll '.' name.toList := by
  have hself : String.toList ∘ String.ofList = id := funext fun _ => String.toList_ofList
  rw [segments, List.map_map, hself, List.map_id]

theorem segments_inj (h : segments name = segments other) : name = other := by
  have hsplit := congrArg (List.map String.toList) h
  rw [map_toList_segments, map_toList_segments] at hsplit
  exact String.toList_inj.mp (splitAll_inj hsplit)

theorem segments_extended (base more : String) :
    segments (base ++ "." ++ more) = segments base ++ segments more := by
  have htext : (base ++ "." ++ more).toList = base.toList ++ '.' :: more.toList := by simp
  rw [segments, htext, splitAll_append_sep, List.map_append]
  rfl

/-- One path leads through the end of another if the names are equal or the one extends the other. -/
theorem segments_prefix_iff {base : String} :
    segments base <+: segments name ↔ name = base ∨ Extends name base := by
  constructor
  · intro h
    obtain ⟨rest, hrest⟩ := h
    by_cases hnil : rest = []
    · rw [hnil, List.append_nil] at hrest
      exact Or.inl (segments_inj hrest.symm)
    · -- the segments that are left are those of what is left of the name
      have hplain : ∀ s ∈ rest.map String.toList, '.' ∉ s := by
        rw [List.forall_mem_map]
        intro key hkey
        have hmem : key ∈ segments name := by
          rw [← hrest]
          exact List.mem_append_right _ hkey
        exact not_mem_of_mem_segments hmem
      have hmore : segments (String.ofList (['.'].intercalate (rest.map String.toList))) = rest := by
        rw [segments, String.toList_ofList,
          splitAll_intercalate hplain (mt List.map_eq_nil_iff.mp hnil), List.map_map]
        have hself : String.ofList ∘ String.toList = id := funext fun _ => String.ofList_toList
        rw [hself, List.map_id]
      refine Or.inr ⟨String.ofList (['.'].intercalate (rest.map String.toList)), ?_⟩
      apply segments_inj
      rw [segments_extended, hmore, hrest]
  · intro h
    rcases h with rfl | ⟨more, rfl⟩
    · exact List.prefix_rfl
    · rw [segments_extended]
      exact List.prefix_append _ _

theorem segments_prefix_ne_iff {base : String} :
    segments base <+: segments name ∧ segments base ≠ segments name ↔ Extends name base := by
  constructor
  · intro h
    obtain ⟨hleads, hne⟩ := h
    rcases segments_prefix_iff.mp hleads with rfl | hextends
    · exact absurd rfl hne
    · exact hextends
  · intro h
    refine ⟨segments_prefix_iff.mpr (Or.inr h), ?_⟩
    obtain ⟨more, rfl⟩ := h
    intro heq
    rw [segments_extended] at heq
    exact segments_ne_nil more (List.self_eq_append_right.mp heq)

instance {base : String} : Decidable (Extends name base) := decidable_of_iff _ segments_prefix_ne_iff

end Segments

namespace Value

/-- What stands at the end of a path of names. -/
def reach? : List String → Option Value → Option Value
  | [], v => v
  | name :: path, v => reach? path ((v.bind entries?).bind fun b => Bindings.get? b name)

/-- A value with what stands at the end of a path changed. -/
def altered (change : Option Value → Value) : List String → Option Value → Value
  | [], v => change v
  | name :: path, v =>
    let inner := (v.bind entries?).getD []
    .object (Bindings.put inner name (altered change path (Bindings.get? inner name)))

variable {change : Option Value → Value} {p q : List String} {v : Option Value}

theorem reach?_none (path : List String) : reach? path none = none := by
  induction path with
  | nil => rfl
  | cons name path ih => exact ih

theorem reach?_append (p q : List String) (v : Option Value) :
    reach? (p ++ q) v = reach? q (reach? p v) := by
  induction p generalizing v with
  | nil => rfl
  | cons name p ih => exact ih _

/-- Nothing lies beyond a value that is no object. -/
theorem reach?_of_not_object (h : v.bind entries? = none) (hp : p ≠ []) : reach? p v = none := by
  cases p with
  | nil => exact absurd rfl hp
  | cons name p =>
    rw [reach?, h]
    exact reach?_none p

theorem get?_inner (v : Option Value) (name : String) :
    Bindings.get? ((v.bind entries?).getD []) name =
      (v.bind entries?).bind fun b => Bindings.get? b name := by
  cases v.bind entries? <;> rfl

/-- At the end of the path stands what the change makes of what stood there. -/
theorem reach?_altered (p : List String) (v : Option Value) :
    reach? p (some (altered change p v)) = some (change (reach? p v)) := by
  induction p generalizing v with
  | nil => rfl
  | cons name p ih =>
    rw [altered, reach?, reach?]
    simp only [Option.bind_some, entries?, Bindings.get?_put_self, get?_inner]
    exact ih _

/-- On the way the change is one of what stands there. -/
theorem reach?_altered_append (p q : List String) (v : Option Value) :
    reach? p (some (altered change (p ++ q) v)) = some (altered change q (reach? p v)) := by
  induction p generalizing v with
  | nil => rfl
  | cons name p ih =>
    rw [List.cons_append, altered, reach?, reach?]
    simp only [Option.bind_some, entries?, Bindings.get?_put_self, get?_inner]
    exact ih _

/-- Paths that part from each other do not notice each other's changes. -/
theorem reach?_altered_of_apart (hp : ¬ p <+: q) (hq : ¬ q <+: p) :
    reach? q (some (altered change p v)) = reach? q v := by
  induction p generalizing q v with
  | nil => exact absurd List.nil_prefix hp
  | cons name p ih =>
    cases q with
    | nil => exact absurd List.nil_prefix hq
    | cons other q =>
      rw [altered, reach?, reach?]
      simp only [Option.bind_some, entries?]
      by_cases hname : other = name
      · subst hname
        rw [List.cons_prefix_cons, not_and] at hp hq
        rw [Bindings.get?_put_self, get?_inner]
        exact ih (hp rfl) (hq rfl)
      · rw [Bindings.get?_put_of_ne _ _ hname, get?_inner]

end Value

namespace Bindings

open Value (reach? altered)

variable {change : Option Value → Value} {b : Bindings} {path : List String} {name : String}

theorem descend?_eq_reach? (h : path ≠ []) : descend? path b = reach? path (some (.object b)) := by
  induction path generalizing b with
  | nil => exact absurd rfl h
  | cons name path ih =>
    cases path with
    | nil => rfl
    | cons next path =>
      have hstep : descend? (name :: next :: path) b =
          ((b.get? name).bind Value.entries?).bind (descend? (next :: path)) := rfl
      have hreach : reach? (name :: next :: path) (some (.object b)) =
          reach? (next :: path) (b.get? name) := rfl
      rw [hstep, hreach]
      -- the descent stops at a value that is no object, and nothing lies beyond it
      cases hentries : (b.get? name).bind Value.entries? with
      | none => exact (Value.reach?_of_not_object hentries (List.cons_ne_nil _ _)).symm
      | some inner =>
        rw [Option.bind_some, ih (List.cons_ne_nil _ _), reach?, reach?, hentries]
        rfl

theorem object_alter (h : path ≠ []) :
    Value.object (alter change path b) = altered change path (some (.object b)) := by
  induction path generalizing b with
  | nil => exact absurd rfl h
  | cons name path ih =>
    cases path with
    | nil => rfl
    | cons next path =>
      have hstep : alter change (name :: next :: path) b = b.put name
          (.object (alter change (next :: path) (((b.get? name).bind Value.entries?).getD []))) :=
        rfl
      have hinner (v : Option Value) :
          altered change (next :: path) (some (.object ((v.bind Value.entries?).getD []))) =
            altered change (next :: path) v := by
        rw [altered, altered]
        rfl
      rw [hstep, ih (List.cons_ne_nil _ _), hinner]
      rfl

theorem object_collect (name : String) (new : Option String) :
    Value.object (b.collect name new) =
      altered (collected · new) (segments name) (some (.object b)) :=
  object_alter (segments_ne_nil name)

theorem object_assign (name : String) (v : Value) :
    Value.object (b.assign name v) = altered (fun _ => v) (segments name) (some (.object b)) :=
  object_alter (segments_ne_nil name)

theorem reach?_empty (h : path ≠ []) : reach? path (some (.object [])) = none := by
  cases path with
  | nil => exact absurd rfl h
  | cons name path => exact Value.reach?_none path

/-- A name that is bound as a whole comes before what its segments lead to. -/
theorem lookup?_eq_or (b : Bindings) (name : String) :
    b.lookup? name = (b.get? name).or (reach? (segments name) (some (.object b))) := by
  rw [lookup?, ← descend?_eq_reach? (segments_ne_nil name)]
  cases b.get? name <;> rfl

/-- The names at the top are segments, without dots. -/
def Undotted (b : Bindings) : Prop := ∀ name ∈ b.names, '.' ∉ name.toList

theorem undotted_nil : Undotted [] := fun _ h => absurd h List.not_mem_nil

theorem undotted_alter (h : b.Undotted) (hpath : ∀ name ∈ path, '.' ∉ name.toList) :
    (alter change path b).Undotted := by
  -- only the first segment of the path becomes a name at the top
  have hput {name : String} {v : Value} (hname : '.' ∉ name.toList) : (b.put name v).Undotted := by
    intro other hother
    rw [names_put, mem_addName] at hother
    rcases hother with hother | rfl
    · exact h other hother
    · exact hname
  match path with
  | [] => exact h
  | [name] => exact hput (hpath name List.mem_cons_self)
  | name :: _ :: _ => exact hput (hpath name List.mem_cons_self)

theorem undotted_collect (h : b.Undotted) (name : String) (new : Option String) :
    (b.collect name new).Undotted :=
  undotted_alter h fun _ => not_mem_of_mem_segments

theorem undotted_assign (h : b.Undotted) (name : String) (v : Value) :
    (b.assign name v).Undotted :=
  undotted_alter h fun _ => not_mem_of_mem_segments

theorem undotted_collectAll (entries : List (String × Option String)) :
    Undotted (collectAll [] entries) := by
  induction entries using List.reverseRecOn with
  | nil => exact undotted_nil
  | append_singleton entries e ih =>
    rw [collectAll_append]
    exact undotted_collect ih e.1 e.2

/-- Without dotted names at the top, a name is looked up segment by segment. -/
theorem lookup?_eq_reach? (h : b.Undotted) (name : String) :
    b.lookup? name = reach? (segments name) (some (.object b)) := by
  by_cases hdot : '.' ∈ name.toList
  · have hnone : b.get? name = none := get?_eq_none_iff.mpr fun hm => h name hm hdot
    rw [lookup?_eq_or, hnone, Option.none_or]
  · rw [lookup?_of_plain hdot, segments_of_plain hdot]
    rfl

end Bindings

end RoutePattern
