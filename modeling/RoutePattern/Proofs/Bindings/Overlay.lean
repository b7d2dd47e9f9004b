import RoutePattern.Bindings.Merge
import RoutePattern.Proofs.Bindings.Assigning

/-! Bindings laid over others. At the end of a path the value on top lies over the one below, unless
something on the way hides what is below it. The names come from below first, and bindings laid over
themselves stay what they are. -/
namespace RoutePattern

/-- Every name is bound once, in the objects within as well. -/
inductive Bindings.Distinct : Bindings → Prop
  | mk {b : Bindings} : b.names.Nodup →
      (∀ name inner, b.get? name = some (.object inner) → Bindings.Distinct inner) →
      Bindings.Distinct b

namespace Value

/-- An object in which every name is bound once, or no object. -/
def Distinct (v : Value) : Prop := ∀ inner, v.entries? = some inner → Bindings.Distinct inner

theorem Distinct.of_entries?_eq_none {v : Value} (h : v.entries? = none) : v.Distinct := by
  intro inner hinner
  rw [h] at hinner
  cases hinner

/-- What lies over a value, or over nothing, when there is a value on top or none. -/
def overlaid (under : Option Value) : Option Value → Option Value
  | none => under
  | some v => some (laidOver under v)

/-- No value, a null or an object: on the way to a name these do not hide what lies below. -/
def Yields (v : Option Value) : Prop :=
  v = none ∨ v = some .null ∨ ∃ entries, v = some (.object entries)

theorem overlaid_none (v : Option Value) : overlaid none v = v := by
  cases v with
  | none => rfl
  | some v => cases v <;> rfl

theorem laidOver_of_leaf {v : Value} (hnull : v ≠ .null) (hleaf : v.entries? = none)
    (under : Option Value) : laidOver under v = v := by
  cases v with
  | null => exact absurd rfl hnull
  | object entries => cases hleaf
  | _ => rw [laidOver]

/-- What lies behind the end of a way lies in an object. -/
theorem exists_object_of_reach? {v : Option Value} {w : Value} {p path : List String}
    (h : reach? path v = some w) (hp : p <+: path) (hne : p ≠ path) :
    ∃ entries, reach? p v = some (.object entries) := by
  obtain ⟨more, rfl⟩ := hp
  have hmore : more ≠ [] := by
    rintro rfl
    exact hne (List.append_nil p).symm
  rw [reach?_append] at h
  -- the way goes on from where it is cut, and it does so through objects only
  cases hentries : (reach? p v).bind entries? with
  | none =>
    rw [reach?_of_not_object hentries hmore] at h
    cases h
  | some inner =>
    obtain ⟨u, hu, hinner⟩ := Option.bind_eq_some_iff.mp hentries
    cases u with
    | object entries => exact ⟨entries, hu⟩
    | _ => cases hinner

theorem yields_of_reach? {v : Option Value} {w : Value} {path : List String}
    (h : reach? path v = some w) : ∀ p, p <+: path → p ≠ path → Yields (reach? p v) :=
  fun _ hp hne => Or.inr (Or.inr (exists_object_of_reach? h hp hne))

end Value

namespace Bindings

variable {b base top : Bindings} {name : String} {v : Value} {path : List String}

theorem get?_cons (first : String) (v : Value) (b : Bindings) (name : String) :
    get? ((first, v) :: b) name = if first = name then some v else b.get? name := by
  rw [get?, List.find?_cons]
  split_ifs with h
  · rw [beq_iff_eq.mpr h]
    rfl
  · rw [beq_eq_false_iff_ne.mpr h]
    rfl

section Distinct

theorem distinct_nil : Distinct [] := .mk List.nodup_nil nofun

theorem Distinct.nodup (h : b.Distinct) : b.names.Nodup := by
  cases h with
  | mk hnodup _ => exact hnodup

theorem Distinct.of_get? (h : b.Distinct) (hget : b.get? name = some v) : v.Distinct := by
  cases h with
  | mk _ hinner =>
    intro inner hentries
    cases v with
    | object entries =>
      obtain rfl : entries = inner := Option.some.inj hentries
      exact hinner name entries hget
    | _ => cases hentries

theorem Distinct.put (h : b.Distinct) (hv : v.Distinct) (name : String) :
    (b.put name v).Distinct := by
  refine .mk ?_ ?_
  · rw [names_put]
    exact nodup_addName h.nodup name
  · intro other inner hget
    by_cases hname : other = name
    · rw [hname, get?_put_self] at hget
      exact hv inner (by rw [Option.some.inj hget]; rfl)
    · rw [get?_put_of_ne _ _ hname] at hget
      exact h.of_get? hget inner rfl

theorem distinct_object (h : b.Distinct) : ∀ w ∈ some (Value.object b), w.Distinct := by
  intro w hw inner hinner
  obtain rfl := Option.some.inj hw
  obtain rfl := Option.some.inj hinner
  exact h

theorem distinct_reach? {v : Option Value} (h : ∀ w ∈ v, w.Distinct) (path : List String) :
    ∀ w ∈ Value.reach? path v, w.Distinct := by
  induction path generalizing v with
  | nil => exact h
  | cons name path ih =>
    refine ih fun w hw => ?_
    obtain ⟨inner, hinner, hget⟩ := Option.bind_eq_some_iff.mp hw
    obtain ⟨u, hu, hentries⟩ := Option.bind_eq_some_iff.mp hinner
    exact (h u hu inner hentries).of_get? hget

/-- A change that makes no bad object of a good one may take place anywhere. -/
theorem distinct_altered {change : Option Value → Value}
    (hchange : ∀ v : Option Value, (∀ w ∈ v, w.Distinct) → (change v).Distinct)
    (path : List String) {v : Option Value} (hv : ∀ w ∈ v, w.Distinct) :
    (Value.altered change path v).Distinct := by
  induction path generalizing v with
  | nil => exact hchange v hv
  | cons name path ih =>
    intro inner hinner
    -- the object that the path leads through is the old one, or a new one without entries
    have hold : Distinct ((v.bind Value.entries?).getD []) := by
      cases hentries : v.bind Value.entries? with
      | none => exact distinct_nil
      | some entries =>
        obtain ⟨w, rfl, hw⟩ := Option.bind_eq_some_iff.mp hentries
        exact hv w rfl entries hw
    rw [← Option.some.inj hinner]
    exact hold.put (ih fun w hw => hold.of_get? hw) name

theorem Distinct.alter {change : Option Value → Value}
    (hchange : ∀ v : Option Value, (∀ w ∈ v, w.Distinct) → (change v).Distinct) (h : b.Distinct)
    (hpath : path ≠ []) : (alter change path b).Distinct := by
  have halter := distinct_altered hchange path (distinct_object h)
  rw [← object_alter hpath] at halter
  exact halter _ rfl

theorem distinct_collected (new : Option String) (old : Option Value) (h : ∀ w ∈ old, w.Distinct) :
    (collected old new).Distinct := by
  -- an object is what was there before, and only if nothing comes to it
  cases new with
  | none =>
    cases old with
    | none => exact .of_entries?_eq_none rfl
    | some v => exact h v rfl
  | some s =>
    apply Value.Distinct.of_entries?_eq_none
    match old with
    | none => rfl
    | some v => cases v <;> rfl

theorem Distinct.collect (h : b.Distinct) (name : String) (new : Option String) :
    (b.collect name new).Distinct :=
  h.alter (distinct_collected new) (segments_ne_nil name)

theorem distinct_collectAll (entries : List (String × Option String)) :
    Distinct (collectAll [] entries) := by
  induction entries using List.reverseRecOn with
  | nil => exact distinct_nil
  | append_singleton entries e ih =>
    rw [collectAll_append]
    exact ih.collect e.1 e.2

theorem Distinct.assign (h : b.Distinct) (hv : v.Distinct) (name : String) :
    (b.assign name v).Distinct :=
  h.alter (fun _ _ => hv) (segments_ne_nil name)

theorem distinct_assignAll {entries : List (String × Value)} (h : ∀ e ∈ entries, e.2.Distinct) :
    Distinct (assignAll [] entries) := by
  induction entries using List.reverseRecOn with
  | nil => exact distinct_nil
  | append_singleton entries e ih =>
    rw [assignAll_concat]
    refine (ih fun e' he' => h e' (List.mem_append_left _ he')).assign ?_ e.1
    exact h e (List.mem_append_right _ List.mem_cons_self)

end Distinct

section Merge

open Value (reach? overlaid Yields)

/-- Each name is bound to what the value on top makes of the one below. -/
theorem get?_merge (h : top.names.Nodup) (base : Bindings) (name : String) :
    (base.merge top).get? name = overlaid (base.get? name) (top.get? name) := by
  induction top generalizing base with
  | nil => rw [merge]; rfl
  | cons e rest ih =>
    obtain ⟨first, v⟩ := e
    obtain ⟨hfirst, hrest⟩ := List.nodup_cons.mp h
    rw [merge, mergeEntry, ih hrest, get?_cons]
    split_ifs with hname
    · -- the rest does not bind the name again
      subst hname
      rw [get?_eq_none_iff.mpr hfirst, get?_put_self]
      rfl
    · rw [get?_put_of_ne _ _ (Ne.symm hname)]

theorem names_merge (base top : Bindings) :
    (base.merge top).names = top.names.foldl addName base.names := by
  induction top generalizing base with
  | nil => rw [merge]; rfl
  | cons e rest ih =>
    rw [merge, mergeEntry, ih, names_put]
    rfl

theorem undotted_merge (hbase : base.Undotted) (htop : top.Undotted) :
    (base.merge top).Undotted := by
  intro name hname
  rw [names_merge, mem_foldl_addName] at hname
  exact hname.elim (hbase name) (htop name)

/-- An object on top is joined with one below. -/
theorem entries?_overlaid_object (under : Option Value) (entries : Bindings) :
    (overlaid under (some (.object entries))).bind Value.entries? =
      some ((under.bind Value.entries?).elim entries fun below => merge below entries) := by
  cases under with
  | none => rfl
  | some v => cases v <;> rfl

/-- The value at the end of a path is what the value on top makes of the one below, if nothing on the
way hides what is below it. -/
theorem reach?_overlaid {under top : Option Value} (hdistinct : ∀ w ∈ top, w.Distinct)
    (hway : ∀ p, p <+: path → p ≠ path → Yields (reach? p top)) :
    reach? path (overlaid under top) = overlaid (reach? path under) (reach? path top) := by
  induction path generalizing under top with
  | nil => rfl
  | cons name path ih =>
    rw [reach?, reach?, reach?]
    rcases hway [] List.nil_prefix (List.cons_ne_nil name path).symm with htop | htop | ⟨t, htop⟩
    · obtain rfl : top = none := htop
      rw [overlaid, Option.bind_none, Option.bind_none, Value.reach?_none]
      rfl
    · -- a null shows what is below, and is one itself only if there is nothing
      obtain rfl : top = some .null := htop
      have hnull : (overlaid under (some .null)).bind Value.entries? = under.bind Value.entries? := by
        cases under <;> rfl
      rw [hnull]
      exact congrArg (overlaid _) (Value.reach?_none path).symm
    · obtain rfl : top = some (.object t) := htop
      have hentries : Distinct t := hdistinct _ rfl t rfl
      have hget : ((overlaid under (some (.object t))).bind Value.entries?).bind (get? · name) =
          overlaid ((under.bind Value.entries?).bind (get? · name)) (get? t name) := by
        rw [entries?_overlaid_object, Option.bind_some]
        cases under.bind Value.entries? with
        | none => exact (Value.overlaid_none _).symm
        | some below => exact get?_merge hentries.nodup below name
      rw [hget]
      apply ih
      · exact fun w hw => hentries.of_get? hw
      · intro p hp hne
        exact hway (name :: p) (List.cons_prefix_cons.mpr ⟨rfl, hp⟩)
          fun heq => hne (List.cons.inj heq).2

theorem reach?_merge (hdistinct : top.Distinct)
    (hway : ∀ p, p <+: path → p ≠ path → Yields (reach? p (some (.object top)))) :
    reach? path (some (.object (base.merge top))) =
      overlaid (reach? path (some (.object base))) (reach? path (some (.object top))) := by
  have hmerge : some (Value.object (base.merge top)) =
      overlaid (some (.object base)) (some (.object top)) := by
    rw [overlaid, Value.laidOver]
  rw [hmerge]
  exact reach?_overlaid (distinct_object hdistinct) hway

/-- A dotted name is bound to what the value on top makes of the one below, if nothing on the way to it
hides what is below. -/
theorem lookup?_merge (hbase : base.Undotted) (htop : top.Undotted) (hdistinct : top.Distinct)
    (hway : ∀ p, p <+: segments name → p ≠ segments name →
      Yields (reach? p (some (.object top)))) :
    (base.merge top).lookup? name = overlaid (base.lookup? name) (top.lookup? name) := by
  rw [lookup?_eq_reach? (undotted_merge hbase htop), lookup?_eq_reach? hbase,
    lookup?_eq_reach? htop, reach?_merge hdistinct hway]

/-- Laid over themselves, bindings stay what they are, and so do the objects in them. -/
theorem merge_self (h : b.Distinct) : b.merge b = b := by
  -- the induction is on the depth of the objects: the ones within stay what they are
  induction h with
  | @mk b hnodup _ ih =>
    refine eq_of_get? hnodup ?_ fun name _ => ?_
    · have hold : b.names.filter (· ∉ b.names) = [] := by simp
      rw [names_merge, foldl_addName_eq hnodup, hold, List.append_nil]
    · rw [get?_merge hnodup]
      cases hget : b.get? name with
      | none => rfl
      | some v =>
        rw [overlaid]
        cases v with
        | object inner => rw [Value.laidOver, ih name inner hget]
        | null =>
          rw [Value.laidOver]
          rfl
        | _ => rw [Value.laidOver]

theorem merge_nil (b : Bindings) : b.merge [] = b := by
  rw [merge]

theorem nil_merge (h : b.names.Nodup) : merge [] b = b := by
  refine eq_of_get? h ?_ fun name _ => ?_
  · have hnames : names ([] : Bindings) = [] := rfl
    rw [names_merge, hnames, foldl_addName_of_nodup h, List.nil_append]
  · rw [get?_merge h]
    exact Value.overlaid_none _

/-- Bindings are laid over others leaf by leaf. A text, number, truth value or array on top is found in its
place; where there is nothing or a null on top, and nothing on the way that hides what is below, that is
found. Where objects meet, the names below come first and the new ones behind them. Laid over themselves,
over nothing and under nothing, bindings stay what they are. -/
theorem merge_leafwise (base : Bindings) (htop : top.Distinct) :
    (∀ path v, reach? path (some (.object top)) = some v → v ≠ .null → v.entries? = none →
      reach? path (some (.object (base.merge top))) = some v) ∧
    (∀ path v, reach? path (some (.object base)) = some v →
      reach? path (some (.object top)) = none ∨ reach? path (some (.object top)) = some .null →
      (∀ p, p <+: path → p ≠ path → Yields (reach? p (some (.object top)))) →
      reach? path (some (.object (base.merge top))) = some v) ∧
    (∀ path (below above : Bindings), reach? path (some (.object base)) = some (.object below) →
      reach? path (some (.object top)) = some (.object above) →
      ∃ joined : Bindings, reach? path (some (.object (base.merge top))) = some (.object joined) ∧
        joined.names = below.names ++ above.names.filter (· ∉ below.names)) ∧
    top.merge top = top ∧ top.merge [] = top ∧ merge [] top = top := by
  refine ⟨?_, ?_, ?_, merge_self htop, merge_nil top, nil_merge htop.nodup⟩
  -- a value on top lies behind objects on top, which hide nothing
  · intro path v hv hnull hleaf
    rw [reach?_merge htop (Value.yields_of_reach? hv), hv, overlaid,
      Value.laidOver_of_leaf hnull hleaf]
  · intro path v hv habsent hway
    rw [reach?_merge htop hway, hv]
    rcases habsent with hnone | hnoted
    · rw [hnone]
      rfl
    · rw [hnoted, overlaid, Value.laidOver]
      rfl
  · intro path below above hbelow habove
    have hnodup : above.names.Nodup :=
      (distinct_reach? (distinct_object htop) path _ habove above rfl).nodup
    refine ⟨below.merge above, ?_, ?_⟩
    · rw [reach?_merge htop (Value.yields_of_reach? habove), hbelow, habove, overlaid,
        Value.laidOver]
    · rw [names_merge, foldl_addName_eq hnodup]

/-- An object of both, one name in it that only the top has, and one that the top only notes. -/
theorem merge_leafwise_nested :
    let base : Bindings :=
      [("a", .text "q"), ("n", .object [("x", .text "1"), ("y", .text "2")]), ("q", .text "only")]
    let top : Bindings :=
      [("new", .null), ("n", .object [("z", .array []), ("x", .null)]), ("a", .text "p")]
    let merged := some (Value.object (base.merge top))
    top.Distinct ∧ reach? ["n", "z"] merged = some (.array []) ∧
    reach? ["n", "x"] merged = some (.text "1") ∧
    (∃ joined : Bindings, reach? ["n"] merged = some (.object joined) ∧
      joined.names = ["x", "y", "z"]) ∧
    top.merge top = top := by
  intro base top merged
  have hinner : Distinct [("z", .array []), ("x", .null)] :=
    (distinct_nil.put (.of_entries?_eq_none rfl) "z").put (.of_entries?_eq_none rfl) "x"
  have htop : top.Distinct :=
    ((distinct_nil.put (.of_entries?_eq_none rfl) "new").put
      (distinct_object hinner _ rfl) "n").put (.of_entries?_eq_none rfl) "a"
  obtain ⟨hleaf, hshown, hjoined, hself, -, -⟩ := merge_leafwise base htop
  have hway : ∀ p, p <+: ["n", "x"] → p ≠ ["n", "x"] → Yields (reach? p (some (.object top))) :=
    Value.yields_of_reach? (w := .null) rfl
  exact ⟨htop, hleaf ["n", "z"] _ rfl nofun rfl, hshown ["n", "x"] _ rfl (Or.inr rfl) hway,
    hjoined ["n"] _ _ rfl rfl, hself⟩

end Merge

end Bindings

end RoutePattern
