import RoutePattern.Build
import RoutePattern.Proofs.Text.Percent
import RoutePattern.Query.Pairs

/-! Queries that are written are read as what they were written from. -/
namespace RoutePattern

open Text

namespace Text.Percent

/-- No plus sign is written, so that none is taken for a blank. -/
theorem decodeQuery_encode (text : List Char) : decodeQuery (encode text) = text := by
  have hplus : ∀ c ∈ encode text, (if c = '+' then ' ' else c) = c := by
    intro c hc
    refine if_neg ?_
    rintro rfl
    exact not_mem_encode (by decide) (by decide) hc
  rw [decodeQuery, List.map_congr_left hplus, List.map_id', decode_encode]

end Text.Percent

namespace Query

variable {segments : List (List Char)}

theorem pair_written (p : QueryPair) : pair (Pattern.written p) = (p.key, p.value) := by
  have hkey : '=' ∉ Percent.encode p.key.toList := Percent.not_mem_encode (by decide) (by decide)
  rw [pair, Pattern.written, splitFirst_append_cons hkey]
  simp only [Option.getD_some, Percent.decodeQuery_encode, String.ofList_toList]

theorem written_ne_nil (p : QueryPair) : Pattern.written p ≠ [] :=
  List.append_ne_nil_of_right_ne_nil _ (List.cons_ne_nil _ _)

theorem ampersand_not_mem_written (p : QueryPair) : '&' ∉ Pattern.written p := by
  have hencode (text : List Char) : '&' ∉ Percent.encode text :=
    Percent.not_mem_encode (by decide) (by decide)
  rw [Pattern.written, List.mem_append, List.mem_cons, not_or, not_or]
  exact ⟨hencode _, by decide, hencode _⟩

/-- What stands between ampersands is read as one pair, unless it is empty. -/
theorem pairs_intercalate (h : ∀ s ∈ segments, '&' ∉ s) :
    pairs (String.ofList (['&'].intercalate segments)) =
      (segments.filter (· ≠ [])).map pair := by
  rw [pairs, String.toList_ofList]
  by_cases hne : segments = []
  · rw [hne]
    rfl
  · rw [splitAll_intercalate h hne]

theorem pairs_written (written : List QueryPair) :
    pairs (String.ofList (['&'].intercalate (written.map Pattern.written))) =
      written.map fun p => (p.key, p.value) := by
  have hamp : ∀ s ∈ written.map Pattern.written, '&' ∉ s :=
    List.forall_mem_map.mpr fun p _ => ampersand_not_mem_written p
  have hne : ∀ s ∈ written.map Pattern.written, decide (s ≠ []) = true :=
    List.forall_mem_map.mpr fun p _ => decide_eq_true (written_ne_nil p)
  rw [pairs_intercalate hamp, List.filter_eq_self.mpr hne, List.map_map]
  exact List.map_congr_left fun p _ => pair_written p

end Query

end RoutePattern
