import RoutePattern.Proofs.Bindings.Descent

/-! Values bound to dotted names. One that is bound is looked up again, and names that stay apart from its
name do not notice. If several are bound and no name extends another one, each keeps its value, and nothing
else is bound but the objects on the way to it. -/
namespace RoutePattern.Bindings

open Value (reach? altered)

/-- Binds dotted names to values, one after the other. -/
def assignAll (b : Bindings) (entries : List (String × Value)) : Bindings :=
  entries.foldl (fun b e => b.assign e.1 e.2) b

/-- Dotted names of which neither is the other or extends it. -/
def Apart (name other : String) : Prop :=
  ¬ segments name <+: segments other ∧ ¬ segments other <+: segments name

theorem apart_iff {name other : String} :
    Apart name other ↔ name ≠ other ∧ ¬ Extends name other ∧ ¬ Extends other name := by
  rw [Apart, segments_prefix_iff, segments_prefix_iff, not_or, not_or]
  constructor
  · intro h
    obtain ⟨⟨-, hother⟩, hne, hname⟩ := h
    exact ⟨hne, hname, hother⟩
  · intro h
    obtain ⟨hne, hname, hother⟩ := h
    exact ⟨⟨Ne.symm hne, hother⟩, hne, hname⟩

variable {b : Bindings} {entries : List (String × Value)} {path : List String}

section Assign

variable {name other : String}

/-- What is bound as a whole stays so, unless the way to the name that is assigned begins with it. -/
theorem get?_assign_of_not_prefix (h : ¬ [other] <+: segments name) (b : Bindings) (v : Value) :
    (b.assign name v).get? other = b.get? other := by
  have hreach (b : Bindings) : b.get? other = reach? [other] (some (.object b)) := rfl
  have hback : ¬ segments name <+: [other] := by
    intro hbegins
    rcases List.prefix_cons_iff.mp hbegins with hnil | ⟨rest, hrest, hempty⟩
    · exact segments_ne_nil name hnil
    · rw [List.prefix_nil.mp hempty] at hrest
      exact h (hrest ▸ List.prefix_rfl)
  rw [hreach, hreach, object_assign, Value.reach?_altered_of_apart hback h]

/-- A name whose first segment is the whole of another one is that name, or extends it. -/
theorem segments_prefix_of_singleton (h : [other] <+: segments name) :
    segments other <+: segments name := by
  have hplain : '.' ∉ other.toList := not_mem_of_mem_segments (h.subset List.mem_cons_self)
  rwa [segments_of_plain hplain]

/-- Assigning to a dotted name changes what it is bound to, and nothing that a name apart from it is bound
to. It is looked up again unless the whole of it was bound before. On the way each object keeps its other
entries, and what is no object is replaced by one without other entries. -/
theorem lookup?_assign (b : Bindings) (name : String) (v : Value) :
    (∀ other, Apart name other → (b.assign name v).lookup? other = b.lookup? other) ∧
    ('.' ∉ name.toList ∨ name ∉ b.names → (b.assign name v).lookup? name = some v) ∧
    ∀ way key rest, segments name = way ++ key :: rest →
      let old : Bindings := ((reach? way (some (.object b))).bind Value.entries?).getD []
      ∃ inner : Bindings, reach? way (some (.object (b.assign name v))) = some (.object inner) ∧
        inner.names = addName old.names key ∧
        ∀ other, other ≠ key → inner.get? other = old.get? other := by
  have hbound : reach? (segments name) (some (.object (b.assign name v))) = some v := by
    rw [object_assign, Value.reach?_altered]
  refine ⟨?_, ?_, ?_⟩
  · intro other hapart
    -- the other name is looked up as a whole first, and no name apart from it leads there
    have hfirst : ¬ [other] <+: segments name := fun h => hapart.2 (segments_prefix_of_singleton h)
    rw [lookup?_eq_or, lookup?_eq_or, get?_assign_of_not_prefix hfirst, object_assign,
      Value.reach?_altered_of_apart hapart.1 hapart.2]
  · intro h
    by_cases hplain : '.' ∉ name.toList
    · rw [segments_of_plain hplain] at hbound
      rw [lookup?_of_plain hplain]
      exact hbound
    -- a dotted name is not a segment of its own way, so it is still not bound as a whole
    · have hfirst : ¬ [name] <+: segments name := by
        intro hbegins
        exact hplain (not_mem_of_mem_segments (hbegins.subset List.mem_cons_self))
      have hnone : b.get? name = none := get?_eq_none_iff.mpr (h.resolve_left hplain)
      rw [lookup?_eq_or, get?_assign_of_not_prefix hfirst, hnone, Option.none_or, hbound]
  -- where the way goes on behind a segment, the object there is the old one with that entry put
  · intro way key rest hsegments old
    rw [object_assign, hsegments, Value.reach?_altered_append, altered]
    refine ⟨_, rfl, names_put, fun other hother => ?_⟩
    exact get?_put_of_ne _ _ hother

/-- A text on the way gives way to an object, and an empty segment is one like any other. -/
theorem lookup?_assign_through_text :
    let b : Bindings := [("a", .text "x"), ("c.d", .bool true), ("a..b.e", .null)]
    let b' := b.assign "a..b" (.text "1")
    Apart "a..b" "c.d" ∧ b'.lookup? "c.d" = some (.bool true) ∧
    "a..b" ∉ b.names ∧ b'.lookup? "a..b" = some (.text "1") ∧
    segments "a..b" = ["a"] ++ "" :: ["b"] ∧
    ∃ inner : Bindings, reach? ["a"] (some (.object b')) = some (.object inner) ∧
      inner.names = [""] := by
  intro b b'
  have hapart : Apart "a..b" "c.d" := by
    rw [Apart]
    decide +kernel
  have hnew : "a..b" ∉ b.names := by decide
  have hsegments : segments "a..b" = ["a"] ++ "" :: ["b"] := by decide +kernel
  obtain ⟨hother, hself, hway⟩ := lookup?_assign b "a..b" (.text "1")
  obtain ⟨inner, hinner, hnames, -⟩ := hway ["a"] "" ["b"] hsegments
  exact ⟨hapart, hother _ hapart, hnew, hself (Or.inr hnew), hsegments, inner, hinner, hnames⟩

end Assign

theorem assignAll_concat (b : Bindings) (entries : List (String × Value)) (e : String × Value) :
    assignAll b (entries ++ [e]) = (assignAll b entries).assign e.1 e.2 := List.foldl_append

theorem undotted_assignAll (h : b.Undotted) (entries : List (String × Value)) :
    (assignAll b entries).Undotted := by
  induction entries generalizing b with
  | nil => exact h
  | cons e entries ih => exact ih (undotted_assign h e.1 e.2)

/-- Names that stay apart keep their values. -/
theorem reach?_assignAll (h : entries.Pairwise fun e e' => Apart e.1 e'.1) (b : Bindings)
    {e : String × Value} (he : e ∈ entries) :
    reach? (segments e.1) (some (.object (assignAll b entries))) = some e.2 := by
  induction entries using List.reverseRecOn with
  | nil => cases he
  | append_singleton entries last ih =>
    obtain ⟨hentries, -, hlast⟩ := List.pairwise_append.mp h
    rw [assignAll_concat, object_assign]
    rcases List.mem_append.mp he with he | he
    · have hapart : Apart e.1 last.1 := hlast e he last List.mem_cons_self
      rw [Value.reach?_altered_of_apart hapart.2 hapart.1]
      exact ih hentries he
    · rw [List.mem_singleton.mp he]
      exact Value.reach?_altered _ _

/-- What is bound lies on the way to one of the names. -/
theorem reach?_assignAll_isSome_iff (h : entries.Pairwise fun e e' => Apart e.1 e'.1)
    (hvalue : ∀ e ∈ entries, e.2.entries? = none) (hpath : path ≠ []) :
    (reach? path (some (.object (assignAll [] entries)))).isSome = true ↔
      ∃ e ∈ entries, path <+: segments e.1 := by
  induction entries using List.reverseRecOn with
  | nil =>
    have hnone : reach? path (some (.object (assignAll [] []))) = none := reach?_empty hpath
    simp [hnone]
  | append_singleton entries last ih =>
    obtain ⟨hentries, -, hlast⟩ := List.pairwise_append.mp h
    have hrest := ih hentries fun e he => hvalue e (List.mem_append_left _ he)
    have hsplit : (∃ e ∈ entries ++ [last], path <+: segments e.1) ↔
        (∃ e ∈ entries, path <+: segments e.1) ∨ path <+: segments last.1 := by
      constructor
      · intro hx
        obtain ⟨e, he, hleads⟩ := hx
        rcases List.mem_append.mp he with he | he
        · exact Or.inl ⟨e, he, hleads⟩
        · rw [List.mem_singleton.mp he] at hleads
          exact Or.inr hleads
      · intro hx
        rcases hx with ⟨e, he, hleads⟩ | hleads
        · exact ⟨e, List.mem_append_left _ he, hleads⟩
        · exact ⟨last, List.mem_append_right _ List.mem_cons_self, hleads⟩
    rw [hsplit, assignAll_concat, object_assign]
    by_cases hto : path <+: segments last.1
    · -- the path leads to the last name, whose value the way to it is made for
      obtain ⟨more, hmore⟩ := hto
      rw [← hmore, Value.reach?_altered_append]
      exact iff_of_true rfl (Or.inr (List.prefix_append path more))
    · by_cases hbeyond : segments last.1 <+: path
      · -- the path leads beyond the last name, and no other name lies there
        obtain ⟨more, rfl⟩ := hbeyond
        have hmore : more ≠ [] := by
          rintro rfl
          rw [List.append_nil] at hto
          exact hto List.prefix_rfl
        have hnone : Option.bind (some last.2) Value.entries? = none :=
          hvalue last (List.mem_append_right _ List.mem_cons_self)
        rw [Value.reach?_append, Value.reach?_altered, Value.reach?_of_not_object hnone hmore]
        apply iff_of_false Bool.false_ne_true
        intro hx
        rcases hx with ⟨e, he, hleads⟩ | hleads
        · have hapart : Apart e.1 last.1 := hlast e he last List.mem_cons_self
          exact hapart.2 ((List.prefix_append _ more).trans hleads)
        · exact hto hleads
      · rw [Value.reach?_altered_of_apart hbeyond hto, hrest, or_iff_left hto]

/-- What stands in the bindings and is no object is the value of one of the names. -/
theorem reach?_assignAll_leaf_iff (h : entries.Pairwise fun e e' => Apart e.1 e'.1)
    (hvalue : ∀ e ∈ entries, e.2.entries? = none) {v : Value} :
    reach? path (some (.object (assignAll [] entries))) = some v ∧ v.entries? = none ↔
      ∃ e ∈ entries, path = segments e.1 ∧ e.2 = v := by
  constructor
  · intro hx
    obtain ⟨hreach, hleaf⟩ := hx
    have hpath : path ≠ [] := by
      rintro rfl
      obtain rfl := Option.some.inj hreach
      cases hleaf
    have hsome := congrArg Option.isSome hreach
    obtain ⟨e, he, more, hmore⟩ := (reach?_assignAll_isSome_iff h hvalue hpath).mp hsome
    have hvalue := reach?_assignAll h [] he
    rw [← hmore, Value.reach?_append, hreach] at hvalue
    -- a path that stops on the way to the name ends at an object
    by_cases hnil : more = []
    · subst hnil
      exact ⟨e, he, (List.append_nil path).symm.trans hmore, (Option.some.inj hvalue).symm⟩
    · have hnone : Option.bind (some v) Value.entries? = none := hleaf
      rw [Value.reach?_of_not_object hnone hnil] at hvalue
      cases hvalue
  · intro hx
    obtain ⟨e, he, rfl, rfl⟩ := hx
    exact ⟨reach?_assignAll h [] he, hvalue e he⟩

end RoutePattern.Bindings
