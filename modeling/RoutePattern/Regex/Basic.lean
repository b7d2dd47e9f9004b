import RoutePattern.Regex.Extent
import RoutePattern.Regex.Reader
import RoutePattern.Regex.Search

/-!
Regexes: texts that were read and written out as programs.
-/
namespace RoutePattern

/-- A regex, with the text it was read from. -/
structure Regex where
  source : String
  term : Regex.Term
  program : Regex.Program

/-- What the groups of a regex matched. -/
structure Captures where
  text : List Char
  marks : Regex.Marks

namespace Regex

/-- Reads a regex. There is none if the text is malformed, nests too deeply, or stands for too large an
automaton. -/
def ofText? (source : String) : Option Regex := do
  let term ← read? source.toList
  if term.fits then some ⟨source, term, term.program⟩ else none

theorem ofText?_eq_some_iff {source : String} {r : Regex} : ofText? source = some r ↔
    ∃ item, readItem? source.toList = some item ∧ item.height ≤ nestLimit ∧
      item.term.fits = true ∧ r = ⟨source, item.term, item.term.program⟩ := by
  rw [ofText?, read?]
  cases readItem? source.toList with
  | none => exact ⟨nofun, fun h => nomatch h.choose_spec.1⟩
  | some item =>
    simp only [Option.bind_eq_bind, Option.bind_some, Option.some.injEq, exists_eq_left']
    split
    · next hheight =>
      rw [Option.bind_some, Option.ite_none_right_eq_some, Option.some.injEq]
      exact ⟨fun h => ⟨hheight, h.1, h.2.symm⟩, fun h => ⟨h.2.1, h.2.2.symm⟩⟩
    · next hheight => exact ⟨nofun, fun h => absurd h.1 hheight⟩

/-- The number of groups, the whole match not counted. A group that is left out, as the first one of
`(a){0}(b)` is, keeps its number, and counts where one behind it is left. -/
def groups (r : Regex) : Nat := r.term.lastGroup

/-- The captures of the preferred match that starts first. -/
def captures? (r : Regex) (text : String) : Option Captures :=
  (r.program.run text.toList).map fun marks => ⟨text.toList, marks⟩

/-- Whether the regex matches somewhere in the text. -/
def isMatch (r : Regex) (text : String) : Bool := (r.captures? text).isSome

/-- A regex that matches the text itself. -/
def escape (text : List Char) : List Char :=
  text.flatMap fun c => if metaChars.contains c then ['\\', c] else [c]

end Regex

/-- The stretch that a group matched the last time it took part in the match. -/
def Captures.span? (cs : Captures) (index : Nat) : Option (Nat × Nat) := do
  return (← cs.marks.lookup (2 * index), ← cs.marks.lookup (2 * index + 1))

/-- The text of a group. -/
def Captures.group? (cs : Captures) (index : Nat) : Option String :=
  (cs.span? index).map fun (start, stop) =>
    String.ofList ((cs.text.drop start).take (stop - start))

end RoutePattern
