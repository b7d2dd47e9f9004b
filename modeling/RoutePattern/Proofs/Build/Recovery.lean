import RoutePattern.Proofs.Bindings.Collecting
import RoutePattern.Proofs.Build.Acceptance
import RoutePattern.Proofs.Path.Compilation

/-! What a match of a built URL gives back: the values of the params, where the path can be cut in
one way only. -/
namespace RoutePattern

open Regex Text

section Values

variable {args : Bindings} {p : Param} {texts : List String}

theorem Param.value?_of_gathered (hplain : '.' ∉ p.name.toList)
    (hget : args.get? p.name = Bindings.gathered texts) :
    p.value? args = texts[p.occurrence]?.filter (· ≠ "") := by
  have htext (s : String) : (if (Value.text s).scalarText.isEmpty then none
      else some (Value.text s).scalarText) = (some s).filter (· ≠ "") := by
    simp only [Value.scalarText, Option.filter, String.isEmpty_iff]
    by_cases h : s = "" <;> simp [h]
  rw [value?, Bindings.lookup?_of_plain hplain, hget]
  match texts with
  | [] => rfl
  | [s] =>
    cases hocc : p.occurrence with
    | zero => exact htext s
    | succ n => rfl
  | first :: second :: more =>
    have hitems : ((first :: second :: more).map Value.text)[p.occurrence]? =
        (first :: second :: more)[p.occurrence]?.map Value.text := List.getElem?_map
    simp only [Bindings.gathered, bind, Option.bind_some, hitems]
    cases (first :: second :: more)[p.occurrence]? with
    | none => rfl
    | some s => exact htext s

/-- A param without a default takes the text with the number of its occurrence. -/
theorem Param.resolved_of_gathered (hplain : '.' ∉ p.name.toList) (hdefault : p.default = none)
    (hget : args.get? p.name = Bindings.gathered texts) :
    p.resolved args = texts[p.occurrence]?.getD "" := by
  rw [resolved, value?_of_gathered hplain hget, hdefault]
  cases htext : texts[p.occurrence]? with
  | none => rfl
  | some s =>
    by_cases h : s = ""
    · rw [h]
      rfl
    · simp [Option.filter, h]

end Values

section Matches

/-- A text as it is written. -/
def written (s : String) : String := String.ofList (Percent.encode s.toList)

theorem decode_written (s : String) : String.ofList (Percent.decode (written s).toList) = s := by
  rw [written, String.toList_ofList, Percent.decode_encode, String.ofList_toList]

/-- The texts of the groups are decoded and collected under the names of the params. -/
theorem pathBindings_eq_collectAll {groups : List String} {captures : Captures}
    {values : List (Option String)}
    (h : (List.range groups.length).map (fun i => captures.group? (i + 1)) =
      values.map (Option.map written)) :
    pathBindings groups captures = Bindings.collectAll [] (groups.zip values) := by
  have hdecoded : values = (List.range groups.length).map fun i =>
      (captures.group? (i + 1)).map fun text => String.ofList (Percent.decode text.toList) := by
    have hall := congrArg
      (List.map (Option.map fun text => String.ofList (Percent.decode text.toList))) h
    rw [List.map_map, List.map_map] at hall
    have hsame : (Option.map fun text => String.ofList (Percent.decode text.toList)) ∘
        Option.map written = id := by
      funext v
      cases v with
      | none => rfl
      | some s => exact congrArg some (decode_written s)
    rw [hsame, List.map_id] at hall
    exact hall.symm
  rw [pathBindings, List.zipIdx_eq_zip_range', ← List.range_eq_range', hdecoded,
    Bindings.collectAll, List.zip_map_right, List.foldl_map]
  rfl

/-- No argument is left for the query if params stand for all of them. -/
theorem Pattern.leftover_eq_nil {p : Pattern} {args : Bindings}
    (h : ∀ name ∈ args.names, name ∈ p.params.map (·.name)) : p.leftover args = [] := by
  have hnone : args.filter (fun e => !p.owns e.1) = [] := by
    rw [List.filter_eq_nil_iff]
    intro e he
    obtain ⟨q, hq, hname⟩ := List.mem_map.mp (h e.1 (List.mem_map_of_mem he))
    have howns : p.owns e.1 = true :=
      List.any_eq_true.mpr ⟨q, hq, Bool.or_eq_true_iff.mpr (Or.inl (beq_iff_eq.mpr hname))⟩
    simp [howns]
  have hleftover : p.leftover args = (args.filter fun e => !p.owns e.1).flatMap _ := rfl
  rw [hleftover, hnone]
  rfl

namespace Rule

variable {α : Type} {source : String} {data : RuleData α} {kinds : Kinds} {rule : Rule α}
  {args : Bindings}

/-- Without query rules, and with no argument left for the query, a built URL is matched if its path is. -/
theorem matchUrl?_build (hmake : make source data kinds = .ok rule)
    (hquery : rule.pattern.query = []) (hleft : rule.pattern.leftover args = []) :
    rule.matchUrl? (rule.build args) = (rule.compiled.path.regex.captures?
      (String.ofList (Node.buildAll args rule.pattern.path).1)).map fun captures =>
        ⟨pathBindings (rule.pattern.params.map (·.name)) captures, []⟩ := by
  obtain ⟨pattern, compiled, -, hcompile, rfl⟩ := make_eq_ok hmake
  obtain ⟨hpath, -, hslots⟩ := Pattern.compile_eq_ok hcompile
  obtain ⟨hsplit, hnone⟩ := pattern.splitUrl_build args
  have hempty : compiled.slots = [] := by
    rw [hquery, List.map_eq_nil_iff] at hslots
    exact hslots
  have hnames : compiled.path.groups = pattern.params.map (·.name) := Pattern.groups_eq hpath
  rw [matchUrl?, build]
  cases hurl : Query.splitUrl (pattern.build args) with
  | mk path query =>
    rw [hurl] at hsplit hnone
    obtain rfl : path = _ := hsplit
    obtain rfl : query = none := hnone hleft
    simp only [hempty, hnames]
    cases compiled.path.regex.captures? (String.ofList (Node.buildAll args pattern.path).1) with
    | none => rfl
    | some captures => rfl

section Cuts

variable (hmake : make source data kinds = .ok rule) (hoptions : data.options = {})
  (hquery : rule.pattern.query = []) (hmeant : ∀ q ∈ rule.pattern.params, q.Meant kinds)
  (hleft : rule.pattern.leftover args = [])
include hmake hoptions hquery hmeant hleft

/-- A built URL is matched if its path can be cut. -/
theorem matchUrl?_build_isSome_iff : (rule.matchUrl? (rule.build args)).isSome = true ↔
    ∃ vs, Node.CutAll kinds rule.pattern.path (Node.buildAll args rule.pattern.path).1 vs := by
  rw [matchUrl?_build hmake hquery hleft, Option.isSome_map]
  obtain ⟨pattern, compiled, -, hcompile, rfl⟩ := make_eq_ok hmake
  rw [hoptions] at hcompile
  obtain ⟨hpath, -, -⟩ := Pattern.compile_eq_ok hcompile
  obtain ⟨hmatch, -⟩ := Pattern.captures_iff_cut hpath rfl rfl rfl hmeant
  rw [hmatch, String.toList_ofList]

/-- Where the built path can be cut in one way only, a match binds the values of this cut. -/
theorem eq_of_matchUrl?_build {m : RuleMatch} {values : List (Option String)}
    (hcut : ∀ vs, Node.CutAll kinds rule.pattern.path (Node.buildAll args rule.pattern.path).1 vs →
      vs = values.map (Option.map written)) (hm : rule.matchUrl? (rule.build args) = some m) :
    m = ⟨Bindings.collectAll [] ((rule.pattern.params.map (·.name)).zip values), []⟩ := by
  rw [matchUrl?_build hmake hquery hleft] at hm
  obtain ⟨captures, hcaptures, rfl⟩ := Option.map_eq_some_iff.mp hm
  obtain ⟨pattern, compiled, -, hcompile, rfl⟩ := make_eq_ok hmake
  rw [hoptions] at hcompile
  obtain ⟨hpath, -, -⟩ := Pattern.compile_eq_ok hcompile
  obtain ⟨-, hgroups⟩ := Pattern.captures_iff_cut hpath rfl rfl rfl hmeant
  have hvalues := hgroups _ captures hcaptures
  rw [String.toList_ofList] at hvalues
  rw [pathBindings_eq_collectAll]
  rw [List.length_map]
  exact hcut _ hvalues

end Cuts

/-- Where the params take any text, and the built path can be cut in one way only, a match binds the
values of this cut. -/
theorem matchUrl?_build_eq (hmake : make source data kinds = .ok rule)
    (hoptions : data.options = {}) (hquery : rule.pattern.query = [])
    (hfree : ∀ q ∈ rule.pattern.params, q.constraint = .any ∧ q.choices = [])
    (hfull : (Node.buildAll args rule.pattern.path).2 = false)
    (hleft : rule.pattern.leftover args = []) {values : List (Option String)}
    (hcut : ∀ vs, Node.CutAll kinds rule.pattern.path (Node.buildAll args rule.pattern.path).1 vs →
      vs = values.map (Option.map written)) :
    rule.matchUrl? (rule.build args) =
      some ⟨Bindings.collectAll [] ((rule.pattern.params.map (·.name)).zip values), []⟩ := by
  have hserved : ∀ q ∈ rule.pattern.params, q.Served args := by
    intro q hq
    obtain ⟨hany, hchoices⟩ := hfree q hq
    exact ⟨Or.inr hany, fun h => absurd hchoices h⟩
  have hmeant : ∀ q ∈ rule.pattern.params, q.Meant kinds := by
    intro q hq
    apply Param.Plain.meant
    intro _
    rw [(hfree q hq).1]
    trivial
  have hsome : (rule.matchUrl? (rule.build args)).isSome = true := by
    rw [matchUrl?_build hmake hquery hleft, Option.isSome_map]
    obtain ⟨pattern, compiled, -, hcompile, rfl⟩ := make_eq_ok hmake
    exact Pattern.captures?_build (Pattern.compile_eq_ok hcompile).1 hserved hfull
  obtain ⟨m, hm⟩ := Option.isSome_iff_exists.mp hsome
  rw [hm, eq_of_matchUrl?_build hmake hoptions hquery hmeant hleft hcut hm]

end Rule

end Matches

end RoutePattern
