import RoutePattern.Proofs.Bindings.Assigning
import RoutePattern.Proofs.Bindings.Overlay
import RoutePattern.Proofs.Query.Writing

/-! Pairs of a query grouped by their keys. A query that is written from pairs and read without rules
binds each key to all its values, in order, and holds nothing else. -/
namespace RoutePattern.Query

open Bindings (textsOf gathered assignAll Apart)
open Value (reach?)

section Groups

variable {ps : List (String × String)} {key : String}

theorem valuesOf_addValue (groups : List (String × List String)) (p : String × String)
    (key : String) :
    valuesOf (addValue groups p) key =
      if p.1 = key then valuesOf groups key ++ [p.2] else valuesOf groups key := by
  induction groups with
  | nil =>
    rw [addValue, valuesOf, List.find?_singleton]
    by_cases h : p.1 = key <;> simp [h, valuesOf]
  | cons g rest ih =>
    obtain ⟨first, values⟩ := g
    simp only [valuesOf] at ih ⊢
    rw [addValue]
    by_cases hfirst : first = key
    · -- the group of the key is the first one
      subst hfirst
      by_cases hp : first = p.1
      · simp [hp]
      · simp [hp, Ne.symm hp]
    · have hother : (first == key) = false := beq_eq_false_iff_ne.mpr hfirst
      by_cases hp : first = p.1
      · have hne : p.1 ≠ key := fun h => hfirst (hp.trans h)
        rw [if_pos hp, if_neg hne, List.find?_cons, List.find?_cons, hother]
      · rw [if_neg hp, List.find?_cons, hother, ih, List.find?_cons, hother]

/-- Grouping pairs by their keys keeps the order of the values of each key. -/
theorem valuesOf_group (ps : List (String × String)) (key : String) :
    valuesOf (group ps) key = textsOf ps key := by
  induction ps using List.reverseRecOn with
  | nil => rfl
  | append_singleton ps p ih =>
    have hgroup : group (ps ++ [p]) = addValue (group ps) p := List.foldl_append
    rw [hgroup, valuesOf_addValue, ih, textsOf, textsOf, List.filter_append,
      List.map_append]
    by_cases h : p.1 = key <;> simp [h]

theorem keys_addValue (groups : List (String × List String)) (p : String × String) :
    (addValue groups p).map Prod.fst = addName (groups.map Prod.fst) p.1 := by
  rw [addName]
  induction groups with
  | nil => rfl
  | cons g rest ih =>
    obtain ⟨first, values⟩ := g
    rw [addValue]
    by_cases hfirst : first = p.1
    · have hmem : (first :: rest.map Prod.fst).contains p.1 = true := by simp [hfirst]
      rw [if_pos hfirst, List.map_cons, List.map_cons, if_pos hmem]
    · have hmem : (first :: rest.map Prod.fst).contains p.1 = (rest.map Prod.fst).contains p.1 := by
        simp [Ne.symm hfirst]
      rw [if_neg hfirst, List.map_cons, List.map_cons, ih, hmem]
      split_ifs <;> rfl

theorem keys_group (ps : List (String × String)) :
    (group ps).map Prod.fst = (ps.map Prod.fst).foldl addName [] := by
  induction ps using List.reverseRecOn with
  | nil => rfl
  | append_singleton ps p ih =>
    have hgroup : group (ps ++ [p]) = addValue (group ps) p := List.foldl_append
    rw [hgroup, keys_addValue, ih, List.map_append, List.foldl_append]
    rfl

theorem mem_keys_group : key ∈ (group ps).map Prod.fst ↔ key ∈ ps.map Prod.fst := by
  rw [keys_group, Bindings.mem_foldl_addName]
  exact or_iff_right List.not_mem_nil

theorem nodup_keys_group (ps : List (String × String)) : ((group ps).map Prod.fst).Nodup := by
  rw [keys_group]
  exact Bindings.nodup_foldl_addName List.nodup_nil

/-- Each group has all the values of its key. -/
theorem values_of_mem_group {g : String × List String} (hg : g ∈ group ps) :
    g.2 = textsOf ps g.1 := by
  rw [← valuesOf_group, valuesOf, Bindings.find?_of_mem (nodup_keys_group ps) hg]
  rfl

end Groups

section Writing

variable {entries : List (String × String)} {parts : List (List Char)} {path : List String}
  {v : Value}

/-- One value is bound by itself, several as an array. -/
theorem some_bound {values : List String} (h : values ≠ []) : some (bound values) = gathered values := by
  match values with
  | [] => exact absurd rfl h
  | [_] => rfl
  | _ :: _ :: _ => rfl

theorem entries?_bound (values : List String) : (bound values).entries? = none := by
  match values with
  | [] => rfl
  | [_] => rfl
  | _ :: _ :: _ => rfl

/-- The names of a query without rules, with what they are bound to. -/
def named (ps : List (String × String)) : List (String × Value) :=
  ((group ps).filter (·.1 ≠ "")).map fun g => (g.1, bound g.2)

theorem bindings_eq (query : String) : bindings query = assignAll [] (named (pairs query)) := by
  rw [assignAll, named, List.foldl_map]
  rfl

theorem undotted_bindings (query : String) : (bindings query).Undotted := by
  rw [bindings_eq]
  exact Bindings.undotted_assignAll Bindings.undotted_nil _

theorem textsOf_ne_nil {ps : List (String × String)} {name : String} (h : name ∈ ps.map Prod.fst) :
    textsOf ps name ≠ [] := by
  obtain ⟨p, hp, rfl⟩ := List.mem_map.mp h
  exact List.ne_nil_of_mem (List.mem_map_of_mem (List.mem_filter.mpr ⟨hp, beq_self_eq_true p.1⟩))

/-- Each name is bound to the texts of its pairs. -/
theorem mem_named {ps : List (String × String)} {name : String} :
    (name, v) ∈ named ps ↔ name ≠ "" ∧ name ∈ ps.map Prod.fst ∧ gathered (textsOf ps name) = some v := by
  rw [named, List.mem_map]
  constructor
  · intro h
    obtain ⟨g, hg, heq⟩ := h
    obtain ⟨hg, hne⟩ := List.mem_filter.mp hg
    obtain ⟨rfl, rfl⟩ := Prod.mk.inj heq
    have hname : g.1 ∈ ps.map Prod.fst := mem_keys_group.mp (List.mem_map_of_mem hg)
    refine ⟨of_decide_eq_true hne, hname, ?_⟩
    rw [values_of_mem_group hg, some_bound (textsOf_ne_nil hname)]
  · intro h
    obtain ⟨hne, hname, hv⟩ := h
    obtain ⟨g, hg, rfl⟩ := List.mem_map.mp (mem_keys_group.mpr hname)
    refine ⟨g, List.mem_filter.mpr ⟨hg, decide_eq_true hne⟩, ?_⟩
    rw [← some_bound (textsOf_ne_nil hname), ← values_of_mem_group hg] at hv
    rw [Option.some.inj hv]

theorem entries?_of_mem_named {ps : List (String × String)} :
    ∀ e ∈ named ps, e.2.entries? = none := by
  intro e he
  obtain ⟨g, -, rfl⟩ := List.mem_map.mp he
  exact entries?_bound g.2

theorem pairwise_named {ps : List (String × String)}
    (h : ∀ p ∈ ps, ∀ p' ∈ ps, ¬ Extends p.1 p'.1) :
    (named ps).Pairwise fun e e' => Apart e.1 e'.1 := by
  have hdistinct : ((named ps).map Prod.fst).Nodup := by
    rw [named, List.map_map]
    exact (nodup_keys_group ps).sublist (List.filter_sublist.map Prod.fst)
  refine (List.pairwise_map.mp hdistinct).imp_of_mem ?_
  intro e e' he he' hne
  obtain ⟨-, hname, -⟩ := mem_named.mp he
  obtain ⟨-, hname', -⟩ := mem_named.mp he'
  obtain ⟨p, hp, hkey⟩ := List.mem_map.mp hname
  obtain ⟨p', hp', hkey'⟩ := List.mem_map.mp hname'
  rw [Bindings.apart_iff, ← hkey, ← hkey']
  exact ⟨hkey ▸ hkey' ▸ hne, h p hp p' hp', h p' hp' p hp⟩

/-- Written pairs are read back, whatever empty parts stand between them. -/
theorem pairs_of_written (h : parts.filter (· ≠ []) = entries.map fun e => Pattern.written ⟨e.1, e.2⟩) :
    pairs (String.ofList (['&'].intercalate parts)) = entries := by
  have hamp : ∀ part ∈ parts, '&' ∉ part := by
    intro part hpart
    by_cases hempty : part = []
    · rw [hempty]
      exact List.not_mem_nil
    · have hmem : part ∈ entries.map fun e => Pattern.written ⟨e.1, e.2⟩ := by
        rw [← h]
        exact List.mem_filter.mpr ⟨hpart, decide_eq_true hempty⟩
      obtain ⟨e, -, rfl⟩ := List.mem_map.mp hmem
      exact ampersand_not_mem_written _
  rw [pairs_intercalate hamp, h, List.map_map]
  have hself : pair ∘ (fun e : String × String => Pattern.written ⟨e.1, e.2⟩) = id :=
    funext fun e => pair_written ⟨e.1, e.2⟩
  rw [hself, List.map_id]

/-- A query without rules that is written from pairs, with empty parts anywhere between them, binds each
key to the text of its pair, or to the array of its texts in the order of the pairs. Nothing else is bound
but the objects on the way to a key, in which each name is bound once. -/
theorem bindings_written
    (hparts : parts.filter (· ≠ []) = entries.map fun e => Pattern.written ⟨e.1, e.2⟩)
    (hkeys : ∀ e ∈ entries, e.1 ≠ "")
    (hapart : ∀ e ∈ entries, ∀ e' ∈ entries, ¬ Extends e.1 e'.1) :
    let b := bindings (String.ofList (['&'].intercalate parts))
    b.Distinct ∧
    (∀ e ∈ entries, b.lookup? e.1 = gathered (textsOf entries e.1)) ∧
    ∀ path v, reach? path (some (.object b)) = some v ∧ v.entries? = none ↔
      ∃ e ∈ entries, path = segments e.1 ∧ gathered (textsOf entries e.1) = some v := by
  intro b
  have hb : b = assignAll [] (named entries) := by
    rw [← pairs_of_written hparts]
    exact bindings_eq _
  have hleaf (path : List String) (v : Value) :
      reach? path (some (.object b)) = some v ∧ v.entries? = none ↔
        ∃ e ∈ entries, path = segments e.1 ∧ gathered (textsOf entries e.1) = some v := by
    rw [hb, Bindings.reach?_assignAll_leaf_iff (pairwise_named hapart) entries?_of_mem_named]
    constructor
    · intro hx
      obtain ⟨⟨name, w⟩, hnamed, rfl, rfl⟩ := hx
      obtain ⟨-, hname, hw⟩ := mem_named.mp hnamed
      obtain ⟨e, he, rfl⟩ := List.mem_map.mp hname
      exact ⟨e, he, rfl, hw⟩
    · intro hx
      obtain ⟨e, he, rfl, hv⟩ := hx
      exact ⟨(e.1, v), mem_named.mpr ⟨hkeys e he, List.mem_map_of_mem he, hv⟩, rfl, rfl⟩
  refine ⟨?_, fun e he => ?_, hleaf⟩
  · rw [hb]
    exact Bindings.distinct_assignAll fun e he => .of_entries?_eq_none (entries?_of_mem_named e he)
  · have hbound := some_bound (textsOf_ne_nil (List.mem_map_of_mem he))
    rw [Bindings.lookup?_eq_reach? (undotted_bindings _), ← hbound]
    exact ((hleaf _ _).mpr ⟨e, he, rfl, hbound.symm⟩).1

/-- Two keys share an object, and one comes twice; keys and values have the marks of a query in them. -/
theorem bindings_written_nested :
    let entries := [("user.tag", "a&"), ("user.id", "+"), ("q=", ""), ("user.tag", "%")]
    let parts := ["", "user.tag=a%26", "", "user.id=%2B", "q%3D=", "user.tag=%25", ""].map String.toList
    let b := bindings (String.ofList (['&'].intercalate parts))
    parts.filter (· ≠ []) = (entries.map fun e => Pattern.written ⟨e.1, e.2⟩) ∧
    (∀ e ∈ entries, e.1 ≠ "") ∧ (∀ e ∈ entries, ∀ e' ∈ entries, ¬ Extends e.1 e'.1) ∧
    b.lookup? "user.tag" = some (.array [.text "a&", .text "%"]) ∧
    b.lookup? "user.id" = some (.text "+") ∧ b.lookup? "q=" = some (.text "") := by
  intro entries parts b
  have hparts : parts.filter (· ≠ []) = entries.map fun e => Pattern.written ⟨e.1, e.2⟩ := by
    decide +kernel
  have hkeys : ∀ e ∈ entries, e.1 ≠ "" := by decide
  have hapart : ∀ e ∈ entries, ∀ e' ∈ entries, ¬ Extends e.1 e'.1 := by decide +kernel
  obtain ⟨-, hlookup, -⟩ := bindings_written hparts hkeys hapart
  exact ⟨hparts, hkeys, hapart, hlookup ("user.tag", "a&") (by decide),
    hlookup ("user.id", "+") (by decide), hlookup ("q=", "") (by decide)⟩

end Writing

end RoutePattern.Query
