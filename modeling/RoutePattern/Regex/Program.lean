import RoutePattern.Regex.Term

/-!
Programs: a term written out as numbered instructions that a matcher walks over.

A fragment of a program is a function of the place where it starts and of the instruction that
follows it, so that fragments are put together without patching addresses.
-/
namespace RoutePattern.Regex

/-- One instruction. `mark` notes the current position, with an even number at the start of a group and
the next odd one at its end; `fork` prefers its first way. -/
inductive Inst
  | set (s : CharSet) (next : Nat)
  | look (l : Look) (next : Nat)
  | mark (slot : Nat) (next : Nat)
  | fork (first second : Nat)
  | done

/-- A piece of a program of `size` instructions. `build` is given the address of its first
instruction and the address to go on to; it answers where to enter, and the instructions. -/
structure Fragment where
  size : Nat
  build : Nat → Nat → Nat × List Inst

/-- A fork that prefers `into` if it is greedy, and `past` if it is lazy. -/
def Inst.choice (greedy : Bool) (into past : Nat) : Inst :=
  if greedy then .fork into past else .fork past into

namespace Fragment

def skip : Fragment := ⟨0, fun _ next => (next, [])⟩

def one (inst : Nat → Inst) : Fragment := ⟨1, fun base next => (base, [inst next])⟩

def seq (f g : Fragment) : Fragment where
  size := f.size + g.size
  build base next :=
    let second := g.build (base + f.size) next
    let first := f.build base second.1
    (first.1, first.2 ++ second.2)

def either (f g : Fragment) : Fragment where
  size := f.size + g.size + 1
  build base next :=
    let first := f.build (base + 1) next
    let second := g.build (base + 1 + f.size) next
    (base, .fork first.1 second.1 :: (first.2 ++ second.2))

def optional (greedy : Bool) (f : Fragment) : Fragment where
  size := f.size + 1
  build base next :=
    let body := f.build (base + 1) next
    (base, .choice greedy body.1 next :: body.2)

/-- Any number of times; for bodies that take a character each time. -/
def many (greedy : Bool) (f : Fragment) : Fragment where
  size := f.size + 1
  build base next :=
    let body := f.build (base + 1) base
    (base, .choice greedy body.1 next :: body.2)

/-- Once or more. -/
def some (greedy : Bool) (f : Fragment) : Fragment where
  size := f.size + 1
  build base next :=
    let body := f.build base (base + f.size)
    (body.1, body.2 ++ [.choice greedy body.1 next])

def copies (f : Fragment) : Nat → Fragment
  | 0 => skip
  | n + 1 => f.seq (f.copies n)

/-- At most `n` times, where all ways out lead to the end. -/
def upTo (greedy : Bool) (f : Fragment) : Nat → Fragment
  | 0 => skip
  | n + 1 => optional greedy (f.seq (upTo greedy f n))

def group (index : Nat) (f : Fragment) : Fragment :=
  (one (.mark (2 * index))).seq (f.seq (one (.mark (2 * index + 1))))

/-- A repetition. A body that can match without taking characters is entered through an option in
front of its loop, which keeps the preference between its ways. -/
def repetition (f : Fragment) (consumes : Bool) (low : Nat) (high : Option Nat) (greedy : Bool) :
    Fragment :=
  match low, high with
  | 0, none => if consumes then many greedy f else optional greedy (some greedy f)
  | n + 1, none => (f.copies n).seq (some greedy f)
  | low, .some high => (f.copies low).seq (upTo greedy f (high - low))

end Fragment

/-- The fragment for a term. -/
def Term.fragment : Term → Fragment
  | empty => .skip
  | set s => .one (.set s)
  | look l => .one (.look l)
  | cat a b => a.fragment.seq b.fragment
  | alt a b => a.fragment.either b.fragment
  | rep t low high greedy => t.fragment.repetition t.consumes low high greedy
  | group i t => t.fragment.group i

/-- A whole program. -/
structure Program where
  start : Nat
  code : Array Inst

/-- The program for a term, with group 0 around the whole match. -/
def Term.program (t : Term) : Program :=
  let body := t.fragment.group 0
  let built := body.build 0 body.size
  ⟨built.1, (built.2 ++ [Inst.done]).toArray⟩

end RoutePattern.Regex
