/-!
Options for the matching of patterns.
-/
namespace RoutePattern

/-- How a path is matched: with or without regard to case, and whether a match has to begin and to end
where the path does. -/
structure Options where
  ignoreCase : Bool := false
  anchorStart : Bool := true
  anchorEnd : Bool := true
deriving DecidableEq

end RoutePattern
