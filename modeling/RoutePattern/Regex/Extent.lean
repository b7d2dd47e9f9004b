import Std.Data.TreeMap
import RoutePattern.Regex.Term
import RoutePattern.Text.ByteRange
import RoutePattern.Text.Split
import RoutePattern.Text.Utf8

/-!
How large a term is when it is written out as an automaton over bytes. A regex is accepted only if
its automaton keeps to a limit, both forwards, where it notes the groups, and backwards.

The automaton itself is not needed for that: a piece of it is described by what it adds to the
extent of the pieces before it. In the piece for a set of characters, states that do the same are
shared as far as a table of a fixed size can tell.
-/
namespace RoutePattern.Regex

open Text (ByteRange)

/-- The way in which an automaton reads a text. -/
inductive Direction
  | forward
  | backward
deriving DecidableEq

/-- The number of the states of an automaton, and of the bytes they take. -/
structure Extent where
  states : Nat := 0
  bytes : Nat := 0

namespace Extent

/-- The largest automaton that is accepted, in bytes. -/
def limit : Nat := 10 <<< 20

def fits (e : Extent) : Bool := e.bytes ≤ limit

/-- The extent with one more state, which takes some bytes for the ways that lead on from it. -/
def add (e : Extent) (ways : Nat) : Extent := ⟨e.states + 1, e.bytes + 32 + ways⟩

end Extent

/-- A set of characters in the making: what has been written so far, and a table of the states that
can be used again. The place of a state in the table depends on what it does; of two states with one
place the later one keeps it. -/
structure Draft where
  extent : Extent
  places : Nat
  known : Std.TreeMap Nat (List Nat × Nat) := ∅

namespace Draft

/-- The place for a state in a table, by the numbers that describe it, which are mixed by
multiplication with a prime. -/
def place (places : Nat) (numbers : List Nat) : Nat :=
  let mixed := numbers.foldl
    (fun h n => (h ^^^ UInt64.ofNat n) * (1099511628211 : UInt64)) (14695981039346656037 : UInt64)
  mixed.toNat % places

/-- The number of the state that is described by some numbers, and takes some bytes for its ways. It
is written unless the table has it. -/
def state (d : Draft) (numbers : List Nat) (ways : Nat) : Nat × Draft :=
  let place := place d.places numbers
  match d.known[place]?.filter (·.1 = numbers) with
  | some (_, number) => (number, d)
  | none =>
    let number := d.extent.states
    let known := d.known.insert place (numbers, number)
    (number, { d with extent := d.extent.add ways, known })

/-- The state from which sequences of byte ranges lead to the state `goal`. The sequences are in
order, so those with a common beginning are neighbours. -/
def tree (goal : Nat) : Nat → List (List ByteRange) → Draft → Nat × Draft
  | 0, _, d => (goal, d)
  | depth + 1, sequences, d =>
    if sequences.head? = some [] then (goal, d)
    else
      let groups := sequences.splitBy fun s t => s.head? == t.head?
      let (ways, d) := groups.foldl
        (fun (ways, d) group =>
          let range := (group.head?.bind List.head?).getD (0, 0)
          let (next, d) := tree goal depth (group.map List.tail) d
          (next :: range.2 :: range.1 :: ways, d))
        (([] : List Nat), d)
      d.state ways.reverse (8 * groups.length)

/-- States that lead to `goal` along the ranges of a sequence, the first range last. -/
def path (goal : Nat) (sequence : List ByteRange) (d : Draft) : Draft :=
  (sequence.foldl (fun (next, d) range => d.state [next, range.1, range.2] 0) (goal, d)).2

end Draft

/-- A piece of an automaton, by what it adds to the extent of the pieces before it. -/
structure Piece where
  write : Extent → Extent

namespace Piece

def state (ways : Nat) : Piece := ⟨fun e => e.add ways⟩

/-- A state with one way. -/
def step : Piece := state 0

/-- A state that leads on to several others without taking anything. -/
def fork (ways : Nat) : Piece := state (4 * ways)

def seq (p q : Piece) : Piece := ⟨fun e => q.write (p.write e)⟩

def all (ps : List Piece) : Piece := ps.foldr seq ⟨id⟩

/-- The extent after several copies of a piece. Beyond the limit they are not counted any more. -/
def writeCopies (p : Piece) : Nat → Extent → Extent
  | 0, e => e
  | n + 1, e => if e.fits then writeCopies p n (p.write e) else e

def copies (p : Piece) (n : Nat) : Piece := ⟨p.writeCopies n⟩

/-- The places of the table for a tree. -/
def treePlaces : Nat := 10000

/-- The places of the table for paths. -/
def pathPlaces : Nat := 1000

/-- A set of characters. ASCII characters are told apart by one state; the others by a tree along
their bytes, or backwards by one path for each sequence. -/
def set (dir : Direction) (s : CharSet) : Piece :=
  if let some n := s.single? then step.copies (Text.Utf8.encode [Char.ofNat n]).length
  else if s.isAscii then step.seq (state (8 * s.size))
  else
    let sequences := s.ranges.flatMap fun r => Text.byteRanges r.1 r.2
    match dir with
    | .forward => ⟨fun e => (Draft.tree e.states 5 sequences ⟨e.add 0, treePlaces, ∅⟩).2.extent⟩
    | .backward =>
      let head := (fork sequences.length).seq step
      ⟨fun e =>
        let start : Draft := ⟨head.write e, pathPlaces, ∅⟩
        (sequences.foldl (fun d s => d.path (e.states + 1) s) start).extent⟩

/-- The texts that are tried at one state of a tree of literal texts. `depth` exceeds their lengths.
A text that ends here lets those behind it start afresh. -/
def texts : Nat → List (List UInt8) → Extent → Extent
  | 0, _, e => e
  | depth + 1, ts, e =>
    if ts.all (·.isEmpty) then e
    else
      let ts := if ts.head? = some [] then [] :: ts.dropWhile (·.isEmpty) else ts
      let stretches := Text.splitAll [] ts
      let e := stretches.foldl
        (fun e stretch =>
          let firsts := (stretch.filterMap List.head?).eraseDups
          let e := firsts.foldl
            (fun e b =>
              texts depth ((stretch.filter fun t => t.head? = some b).map List.tail) e) e
          match firsts.length with
          | 0 => e
          | 1 => e.add 0
          | n => e.add (8 * n))
        e
      e.add (4 * ((stretches.filter (· ≠ [])).length + (stretches.length - 1)))

/-- A choice between literal texts. -/
def literals (dir : Direction) (ts : List (List Char)) : Piece :=
  let bytes := ts.map fun t =>
    match dir with
    | .forward => Text.Utf8.encode t
    | .backward => (Text.Utf8.encode t).reverse
  step.seq ⟨texts ((bytes.map List.length).foldl max 0 + 1) bytes⟩

/-- A choice between other pieces. -/
def choice (ps : List Piece) : Piece :=
  all (ps.take 2 ++ [fork ps.length, step] ++ ps.drop 2)

/-- A repetition. -/
def repetition (p : Piece) (consumes : Bool) (low : Nat) (high : Option Nat) : Piece :=
  match low, high with
  | 0, some 1 => all [fork 2, p, step]
  | 0, none => if consumes then (fork 2).seq p else all [p, fork 2, fork 2, step]
  | n + 1, none => (p.copies (n + 1)).seq (fork 2)
  | low, some high =>
    let start := if low = 0 then step else p.copies low
    if low = high then start
    else all [start, step, ((fork 2).seq p).copies (high - low)]

end Piece

/-- A branch of an alternation: its piece, and its text if it is a literal one. -/
structure Branch where
  piece : Piece
  text : Option (List Char) := none

namespace Branch

/-- The piece for all branches together. Literal texts alone share their beginnings. -/
def join (dir : Direction) (bs : List Branch) : Piece :=
  match bs with
  | [b] => b.piece
  | bs =>
    match bs.mapM text with
    | some ts => Piece.literals dir ts
    | none => Piece.choice (bs.map piece)

/-- The text of a term with these branches that is a literal one. -/
def literal? (bs : List Branch) : Option (List Char) :=
  match bs with
  | [b] => b.text
  | _ => none

end Branch

namespace Term

/-- The branches of a term; one if it is no alternation. -/
def layout (dir : Direction) : Term → List Branch
  | empty | look _ => [{ piece := .step }]
  | set s => [{ piece := .set dir s, text := s.single?.map fun n => [Char.ofNat n] }]
  | cat a b =>
    let first := a.layout dir
    let second := b.layout dir
    let text := (Branch.literal? first).bind fun t => (Branch.literal? second).map (t ++ ·)
    match dir with
    | .forward => [{ piece := (Branch.join dir first).seq (Branch.join dir second), text }]
    | .backward => [{ piece := (Branch.join dir second).seq (Branch.join dir first), text }]
  | alt a b => a.layout dir ++ b.layout dir
  | rep t low high _ =>
    [{ piece := (Branch.join dir (t.layout dir)).repetition t.consumes low high }]
  | group _ t =>
    let body := Branch.join dir (t.layout dir)
    match dir with
    | .forward => [{ piece := .all [.step, body, .step] }]
    | .backward => [{ piece := body }]

/-- Whether every match begins at the start of the text; backwards, whether every match ends at its
end. -/
def anchored (dir : Direction) : Term → Bool
  | empty | set _ => false
  | look l => l = match dir with
    | .forward => .textStart
    | .backward => .textStop
  | cat a b =>
    match dir with
    | .forward => a.anchored dir || (a.isVoid && b.anchored dir)
    | .backward => b.anchored dir || (b.isVoid && a.anchored dir)
  | alt a b => a.anchored dir && b.anchored dir
  | rep t low _ _ => 0 < low && t.anchored dir
  | group _ t => t.anchored dir

/-- The extent of the automaton for a term. If a match may start later, the automaton passes over
the text in front of it; group 0 is the whole match. -/
def extent (dir : Direction) (t : Term) : Extent :=
  let start := if t.anchored dir then Piece.step else .all [.fork 2, .step, .state 8]
  (Piece.all [start, Branch.join dir ((group 0 t).layout dir), .step]).write {}

/-- Whether the automaton for the term keeps to the limit in both directions. -/
def fits (t : Term) : Bool :=
  (t.extent .forward).fits && (t.extent .backward).fits

end Term

end RoutePattern.Regex
