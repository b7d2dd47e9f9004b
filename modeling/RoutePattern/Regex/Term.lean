import RoutePattern.Unicode.Class

/-!
Terms: what a regex matches, free of its spelling. Flags and classes are worked out already, so a
term holds sets of characters, conditions on positions, and the operators that join them.
-/
namespace RoutePattern.Regex

/-- What a position next to words is required to be. -/
inductive Edge
  | boundary
  | inside
  | start
  | stop
  | startHalf
  | stopHalf
deriving DecidableEq

/-- A condition on a position of the text. -/
inductive Look
  | textStart
  | textStop
  | lineStart
  | lineStop
  | crlfLineStart
  | crlfLineStop
  | word (edge : Edge) (ascii : Bool)
deriving DecidableEq

/-- ASCII letters, digits and the low line. -/
def asciiWord : CharSet :=
  CharSet.ofRanges [(0x30, 0x39), (0x41, 0x5A), (0x5F, 0x5F), (0x61, 0x7A)]

def Edge.holds (before after : Bool) : Edge → Bool
  | boundary => before != after
  | inside => before == after
  | start => !before && after
  | stop => before && !after
  | startHalf => !before
  | stopHalf => !after

/-- Whether a position satisfies the condition, by the characters before and after it. A carriage
return and the line feed behind it end a line together. -/
def Look.holds (before after : Option Char) : Look → Bool
  | textStart => before.isNone
  | textStop => after.isNone
  | lineStart => before.isNone || before == some '\n'
  | lineStop => after.isNone || after == some '\n'
  | crlfLineStart =>
    before.isNone || before == some '\n' || (before == some '\r' && after != some '\n')
  | crlfLineStop =>
    after.isNone || after == some '\r' || (after == some '\n' && before != some '\r')
  | word edge ascii =>
    let members := if ascii then asciiWord else Unicode.word
    edge.holds (before.any members.contains) (after.any members.contains)

/-- What a regex matches. -/
inductive Term
  | empty
  | set (s : CharSet)
  | look (l : Look)
  | cat (a b : Term)
  | alt (a b : Term)
  | rep (t : Term) (low : Nat) (high : Option Nat) (greedy : Bool)
  | group (index : Nat) (t : Term)
deriving DecidableEq

namespace Term

/-- The number of operators and leaves. -/
def size : Term → Nat
  | empty | set _ | look _ => 1
  | cat a b | alt a b => a.size + b.size + 1
  | rep t _ _ _ | group _ t => t.size + 1

/-- The least number of characters a match takes; none if a set without characters stands in the
way of an answer. -/
def minLength? : Term → Option Nat
  | empty | look _ => some 0
  | set s => if s.isVacant then none else some 1
  | cat a b => do return (← a.minLength?) + (← b.minLength?)
  | alt a b => do return min (← a.minLength?) (← b.minLength?)
  | rep t low _ _ => do return (← t.minLength?) * low
  | group _ t => t.minLength?

/-- Whether every match takes a character at least. -/
def consumes (t : Term) : Bool :=
  t.minLength?.any (0 < ·)

/-- Whether no match can take a character. -/
def isVoid : Term → Bool
  | empty | look _ => true
  | set _ => false
  | cat a b | alt a b => a.isVoid && b.isVoid
  | rep t _ _ _ | group _ t => t.isVoid

/-- Whether the term is a single character. -/
def isChar : Term → Bool
  | set s => s.single?.isSome
  | _ => false

/-- The highest index of a group, 0 without groups. -/
def lastGroup : Term → Nat
  | empty | set _ | look _ => 0
  | cat a b | alt a b => max a.lastGroup b.lastGroup
  | rep t _ _ _ => t.lastGroup
  | group i t => max i t.lastGroup

/-- The factors of nested concatenations, from left to right, the empty ones left out. -/
def factors : Term → List Term
  | empty => []
  | cat a b => a.factors ++ b.factors
  | t => [t]

/-- The branches of nested alternations, from left to right. -/
def branches : Term → List Term
  | alt a b => a.branches ++ b.branches
  | t => [t]

/-- The concatenation of factors as they are. -/
def ofFactors : List Term → Term
  | [] => empty
  | [t] => t
  | t :: rest => cat t (ofFactors rest)

/-- The alternation of branches as they are; without branches nothing matches. -/
def ofBranches : List Term → Term
  | [] => set CharSet.empty
  | [t] => t
  | t :: rest => alt t (ofBranches rest)

/-- One term after the other. -/
def concat (ts : List Term) : Term :=
  ofFactors (ts.flatMap factors)

/-- The factors with neighbouring single characters taken together, since these make up one literal
text. -/
def chunks : List Term → List (List Term)
  | [] => []
  | t :: rest =>
    match chunks rest with
    | (u :: us) :: more =>
      if t.isChar && u.isChar then (t :: u :: us) :: more else [t] :: (u :: us) :: more
    | other => [t] :: other

/-- The longest common beginning of two lists. -/
def commonStart {α : Type} [DecidableEq α] : List α → List α → List α
  | a :: as, b :: bs => if a = b then a :: commonStart as bs else []
  | _, _ => []

/-- The set of a term that is one. -/
def set? : Term → Option CharSet
  | set s => some s
  | _ => none

/-- The chunks with which all branches begin, if each branch has two chunks at least. -/
def sharedStart : List (List (List Term)) → List (List Term)
  | [] => []
  | first :: rest =>
    if (first :: rest).all (2 ≤ ·.length) then rest.foldl commonStart first else []

/-- The first of several branches that matches. Branches that are sets alone become one set, and what
all branches begin with is taken out in front of them; `fuel` bounds how often. -/
def alternationWithin : Nat → List Term → Term
  | 0, ts => ofBranches (ts.flatMap branches)
  | fuel + 1, ts =>
    let bs := ts.flatMap branches
    match bs with
    | [] => set CharSet.empty
    | [t] => t
    | _ =>
      if bs.all isChar || bs.all (fun t => t.set?.any (·.single?.isNone)) then
        set ((bs.filterMap set?).foldr CharSet.union CharSet.empty)
      else
        let parts := bs.map fun t => chunks t.factors
        match sharedStart parts with
        | [] => ofBranches bs
        | start =>
          let tails := parts.map fun p => concat (p.drop start.length).flatten
          concat (start.flatten ++ [alternationWithin fuel tails])

/-- The first of several branches that matches. -/
def alternation (ts : List Term) : Term :=
  alternationWithin ((ts.map size).foldr (· + ·) 1) ts

/-- A term repeated between `low` and `high` times. Of what takes no characters, one repetition is as
good as many. -/
def repeated (t : Term) (low : Nat) (high : Option Nat) (greedy : Bool) : Term :=
  let low := if t.isVoid then min low 1 else low
  let high := if t.isVoid then some (min (high.getD 1) 1) else high
  if high = some 0 then empty
  else if low = 1 ∧ high = some 1 then t
  else rep t low high greedy

end Term

end RoutePattern.Regex
