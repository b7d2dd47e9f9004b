import Std.Data.ExtTreeSet
import RoutePattern.Regex.Program

/-!
Running a program over a text. Of all ways through the program the preferred one is found by trying
the ways in order; a pair of instruction and position that was tried once is not tried again, since
it failed then, or is being tried and would only come back to itself.
-/
namespace RoutePattern.Regex

/-- A position in a text: the character before it, the text behind it, and its number. -/
structure Cursor where
  before : Option Char
  rest : List Char
  offset : Nat

namespace Cursor

def ofText (text : List Char) : Cursor := ⟨none, text, 0⟩

/-- The position behind the next character. -/
def next? (cur : Cursor) : Option (Char × Cursor) :=
  match cur.rest with
  | [] => none
  | c :: rest => some (c, ⟨some c, rest, cur.offset + 1⟩)

/-- All positions from one on. -/
def walk (before : Option Char) (offset : Nat) : List Char → List Cursor
  | [] => [⟨before, [], offset⟩]
  | c :: rest => ⟨before, c :: rest, offset⟩ :: walk (some c) (offset + 1) rest

end Cursor

/-- The positions that were marked, the latest first. -/
abbrev Marks := List (Nat × Nat)

/-- An instruction to be tried at a position, with the marks made on the way to it. -/
structure Thread where
  pc : Nat
  cursor : Cursor
  marks : Marks

namespace Thread

/-- The threads that an instruction leads to, the preferred one first. -/
def advance (t : Thread) : Inst → List Thread
  | .set s next =>
    match t.cursor.next? with
    | some (c, cursor) => if s.contains c then [⟨next, cursor, t.marks⟩] else []
    | none => []
  | .look l next =>
    if l.holds t.cursor.before t.cursor.rest.head? then [{ t with pc := next }] else []
  | .mark slot next => [⟨next, t.cursor, (slot, t.cursor.offset) :: t.marks⟩]
  | .fork first second => [{ t with pc := first }, { t with pc := second }]
  | .done => []

/-- A number for the instruction and the position of the thread. -/
def key (width : Nat) (t : Thread) : Nat := t.cursor.offset * width + t.pc

end Thread

/-- The marks of the first thread that comes to the end of the program. The keys of the threads that
were tried are in `seen`. -/
def explore (code : Array Inst) : Nat → Std.ExtTreeSet Nat → List Thread → Option Marks
  | 0, _, _ => none
  | _, _, [] => none
  | fuel + 1, seen, t :: rest =>
    if seen.contains (t.key code.size) then explore code fuel seen rest
    else
      match code[t.pc]? with
      | none => explore code fuel seen rest
      | some .done => some t.marks
      | some inst => explore code fuel (seen.insert (t.key code.size)) (t.advance inst ++ rest)

/-- The marks of the preferred match that starts first. Each pair of an instruction and a position
is tried once and adds two threads at most, which bounds the number of steps. -/
def Program.run (p : Program) (text : List Char) : Option Marks :=
  let starts := (Cursor.walk none 0 text).map fun cursor => (⟨p.start, cursor, []⟩ : Thread)
  let fuel := starts.length * (2 * p.code.size + 1) + 1
  explore p.code fuel ∅ starts

end RoutePattern.Regex
