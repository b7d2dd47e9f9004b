/-!
Methods of HTTP requests, and sets of them.
-/
namespace RoutePattern

/-- A method. -/
inductive Verb
  | get
  | head
  | post
  | put
  | patch
  | delete
  | options
  | trace
  | connect
deriving DecidableEq

namespace Verb

/-- All methods, in the order of their slots. -/
def all : List Verb := [get, head, post, put, patch, delete, options, trace, connect]

/-- The place of a method in a table of methods. -/
def slot : Verb → Fin 9
  | get => 0
  | head => 1
  | post => 2
  | put => 3
  | patch => 4
  | delete => 5
  | options => 6
  | trace => 7
  | connect => 8

def name : Verb → String
  | get => "GET"
  | head => "HEAD"
  | post => "POST"
  | put => "PUT"
  | patch => "PATCH"
  | delete => "DELETE"
  | options => "OPTIONS"
  | trace => "TRACE"
  | connect => "CONNECT"

/-- A text without regard to the case of ASCII letters. -/
def caseless (text : String) : List Char := text.toList.map Char.toLower

/-- The method of a name, whose case does not count. -/
def ofName? (name : String) : Option Verb :=
  all.find? fun v => caseless v.name = caseless name

end Verb

/-- A set of methods, one bit for each slot. -/
structure Verbs where
  bits : BitVec 9
deriving DecidableEq

namespace Verbs

def empty : Verbs := ⟨0⟩

def single (v : Verb) : Verbs := ⟨BitVec.twoPow 9 v.slot⟩

def contains (vs : Verbs) (v : Verb) : Bool := vs.bits[v.slot]

def union (a b : Verbs) : Verbs := ⟨a.bits ||| b.bits⟩

def isEmpty (vs : Verbs) : Bool := vs.bits = 0

/-- Whether all methods of the second set belong to the first. -/
def includes (a b : Verbs) : Bool := a.bits &&& b.bits = b.bits

/-- The set with the given bits; none if a bit is not that of a method. -/
def ofBits? (n : Nat) : Option Verbs :=
  if n < 512 then some ⟨BitVec.ofNat 9 n⟩ else none

/-- The set of the methods with the given names; none if one is unknown. -/
def ofNames? (names : List String) : Option Verbs :=
  names.foldlM (fun vs name => (Verb.ofName? name).map fun v => vs.union (single v)) empty

def toList (vs : Verbs) : List Verb := Verb.all.filter vs.contains

def names (vs : Verbs) : List String := vs.toList.map Verb.name

/-- The slot of the only method of the set, if it has just one. -/
def slot? (vs : Verbs) : Option (Fin 9) :=
  match vs.toList with
  | [v] => some v.slot
  | _ => none

/-- The set with HEAD added if it has GET. -/
def normalized (vs : Verbs) : Verbs :=
  if vs.contains .get then vs.union (single .head) else vs

end Verbs

end RoutePattern
