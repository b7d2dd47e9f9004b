import RoutePattern.PathRegex
import RoutePattern.Pattern.Reader
import RoutePattern.Query.Slot

/-!
Patterns compiled against a set of kinds.
-/
namespace RoutePattern

/-- What matching needs of a pattern: the regex of its path, and its query rules with their checks. -/
structure Compiled where
  path : PathRegex
  slots : List QuerySlot

namespace Pattern

/-- Compiles a pattern, the path first. -/
def compile (p : Pattern) (kinds : Kinds) (options : Options) : Except Error Compiled := do
  let path ← p.pathRegex kinds options
  let slots ← p.query.mapM fun rule => QuerySlot.make rule kinds options.ignoreCase
  return ⟨path, slots⟩

/-- Reads a pattern and compiles it. -/
def readAndCompile (source : String) (kinds : Kinds) (options : Options) :
    Except Error (Pattern × Compiled) := do
  let p ← read source
  let compiled ← p.compile kinds options
  return (p, compiled)

end Pattern

end RoutePattern
