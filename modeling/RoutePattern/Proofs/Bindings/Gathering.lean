import Mathlib.Data.List.ReduceOption
import RoutePattern.Proofs.Bindings.Assigning

/-! Texts collected under dotted names. If no name extends another one, a name is bound to all that was
collected under it, in order, whatever was collected under the others in between. -/
namespace RoutePattern.Bindings

open Value (reach?)

variable {entries : List (String × Option String)} {name : String}

/-- What was collected under a name, texts and absences, in order. -/
def under (entries : List (String × Option String)) (name : String) : List (Option String) :=
  (entries.filter (·.1 == name)).map (·.2)

/-- The texts among it. -/
def textsUnder (entries : List (String × Option String)) (name : String) : List String :=
  (under entries name).reduceOption

theorem under_cons (e : String × Option String) (entries : List (String × Option String))
    (name : String) :
    under (e :: entries) name =
      if e.1 = name then e.2 :: under entries name else under entries name := by
  rw [under, List.filter_cons]
  split_ifs with h hname hname
  · rfl
  · exact absurd (beq_iff_eq.mp h) hname
  · exact absurd (beq_iff_eq.mpr hname) h
  · rfl

theorem under_append (before after : List (String × Option String)) (name : String) :
    under (before ++ after) name = under before name ++ under after name := by
  rw [under, List.filter_append, List.map_append]
  rfl

theorem under_ne_nil (h : name ∈ entries.map Prod.fst) : under entries name ≠ [] := by
  obtain ⟨e, he, rfl⟩ := List.mem_map.mp h
  refine List.ne_nil_of_mem (List.mem_map_of_mem (a := e) ?_)
  exact List.mem_filter.mpr ⟨he, beq_self_eq_true e.1⟩

/-- What is collected under names apart from a name makes no difference to it. -/
theorem reach?_collectAll_eq_foldl (h : ∀ e ∈ entries, e.1 = name ∨ Apart e.1 name) (b : Bindings) :
    reach? (segments name) (some (.object (collectAll b entries))) =
      (under entries name).foldl (fun v new => some (collected v new))
        (reach? (segments name) (some (.object b))) := by
  -- the bindings change from entry to entry, so the induction is for all of them
  induction entries generalizing b with
  | nil => rfl
  | cons e entries ih =>
    obtain ⟨hfirst, hrest⟩ := List.forall_mem_cons.mp h
    have hstep : collectAll b (e :: entries) = collectAll (b.collect e.1 e.2) entries := rfl
    rw [hstep, ih hrest, object_collect, under_cons]
    rcases hfirst with rfl | hapart
    · rw [if_pos rfl, Value.reach?_altered, List.foldl_cons]
    · have hne : e.1 ≠ name := (apart_iff.mp hapart).1
      rw [if_neg hne, Value.reach?_altered_of_apart hapart.1 hapart.2]

/-- A null that stands for absence makes no difference to the texts that come behind it. -/
theorem collected_getD_null (v : Option Value) (s : String) :
    collected (some (v.getD .null)) (some s) = collected v (some s) := by
  cases v <;> rfl

/-- Texts and absences make up what the texts among them make up, and a null if there are none. -/
theorem foldl_collected {news : List (Option String)} (hne : news ≠ []) :
    news.foldl (fun v new => some (collected v new)) none =
      some ((gathered news.reduceOption).getD .null) := by
  -- a text comes to the end of what was gathered, so the last one is taken off first
  induction news using List.reverseRecOn with
  | nil => exact absurd rfl hne
  | append_singleton news new ih =>
    rw [List.foldl_append, List.foldl_cons, List.foldl_nil, List.reduceOption_append]
    by_cases hnews : news = []
    · subst hnews
      cases new <;> rfl
    · rw [ih hnews]
      cases new with
      | none => rw [List.reduceOption_singleton, Option.toList_none, List.append_nil]; rfl
      | some s =>
        rw [collected_getD_null, List.reduceOption_singleton, Option.toList_some,
          ← collected_gathered, Option.getD_some]

/-- A name under which something was collected is bound to a null if there was no text, to the text if
there was one, and to the array of them if there were several. -/
theorem lookup?_collectAll_eq_gathered
    (h : ∀ e ∈ entries, ∀ e' ∈ entries, ¬ Extends e.1 e'.1) (hname : name ∈ entries.map Prod.fst) :
    (collectAll [] entries).lookup? name =
      some ((gathered (textsUnder entries name)).getD .null) := by
  obtain ⟨e, he, rfl⟩ := List.mem_map.mp hname
  have hapart : ∀ e' ∈ entries, e'.1 = e.1 ∨ Apart e'.1 e.1 := by
    intro e' he'
    by_cases heq : e'.1 = e.1
    · exact Or.inl heq
    · exact Or.inr (apart_iff.mpr ⟨heq, h e' he' e he, h e he e' he'⟩)
  rw [lookup?_eq_reach? (undotted_collectAll entries), reach?_collectAll_eq_foldl hapart,
    reach?_empty (segments_ne_nil e.1), foldl_collected (under_ne_nil hname), textsUnder]

theorem lookup?_collectAll_interleaved :
    let entries := [("user.tag", some "a"), ("user.id", none), ("q", none), ("user.tag", none),
      ("user.tag", some "b"), ("q", some "x"), ("user.tag", some "a"), ("q", none)]
    (∀ e ∈ entries, ∀ e' ∈ entries, ¬ Extends e.1 e'.1) ∧
    (collectAll [] entries).lookup? "user.id" = some .null ∧
    (collectAll [] entries).lookup? "q" = some (.text "x") ∧
    (collectAll [] entries).lookup? "user.tag" = some (.array [.text "a", .text "b", .text "a"]) := by
  intro entries
  have h : ∀ e ∈ entries, ∀ e' ∈ entries, ¬ Extends e.1 e'.1 := by decide +kernel
  exact ⟨h, lookup?_collectAll_eq_gathered h (by decide), lookup?_collectAll_eq_gathered h (by decide),
    lookup?_collectAll_eq_gathered h (by decide)⟩

end RoutePattern.Bindings
