import RoutePattern.Text.CharSet
import RoutePattern.Text.Hexadecimal
import RoutePattern.Text.Split

/-!
How sets of code points are written down.

A table is a text of hexadecimal entries with blanks between them: `lo` for one code point, `lo-hi` for
a range, `lo-hi/step` for every code point of a range that is a number of steps away from its start.
A recipe makes a set out of other sets, which it names, and of two tables.
-/
namespace RoutePattern.Unicode

open Text (hexValue? splitFirst splitAll)

/-- The value of a hexadecimal numeral. -/
def hexadecimal (digits : List Char) : Nat :=
  digits.foldl (fun n c => 16 * n + (hexValue? c).getD 0) 0

/-- The ranges that one entry stands for. -/
def tableEntry (entry : List Char) : List (Nat × Nat) :=
  let (bounds, step) := splitFirst '/' entry
  let (lo, hi) := splitFirst '-' bounds
  let lo := hexadecimal lo
  let hi := (hi.map hexadecimal).getD lo
  match step.map hexadecimal with
  | none => [(lo, hi)]
  | some step => (List.range ((hi - lo) / step + 1)).map fun i => (lo + step * i, lo + step * i)

/-- The set that a text of entries stands for. -/
def table (text : String) : CharSet :=
  let entries := (splitAll '\n' text.toList).flatMap (splitAll ' ')
  CharSet.ofRanges ((entries.filter (· ≠ [])).flatMap tableEntry)

/-- Sets by their names in normal form: lower case, without blanks, dashes and low lines. -/
abbrev Sets := String → Option CharSet

/-- The union of several sets. -/
def Sets.all (sets : Sets) (names : List String) : CharSet :=
  (names.filterMap sets).foldr CharSet.union CharSet.empty

/-- How a set is made up: its names, the sets it is put together from, the sets that do not count for
that, the code points it has besides, and those it leaves out. -/
structure Recipe where
  names : List String
  parts : List String := []
  without : List String := []
  more : String := ""
  fewer : String := ""

/-- The set that a recipe describes. -/
def Recipe.make (r : Recipe) (sets : Sets) : CharSet :=
  (((sets.all r.parts).diff (sets.all r.without)).union (table r.more)).diff (table r.fewer)

/-- The sets of a list of recipes, beside those that are there already. A recipe may refer to the ones
in front of it. -/
def Sets.extend (sets : Sets) (recipes : List Recipe) : Sets :=
  recipes.foldl
    (fun sets r name => if r.names.contains name then some (r.make sets) else sets name) sets

/-- The sets of a list of recipes alone. -/
def Sets.ofRecipes (sets : Sets) (recipes : List Recipe) : Sets := fun name =>
  (recipes.find? (·.names.contains name)).map (·.make sets)

end RoutePattern.Unicode
