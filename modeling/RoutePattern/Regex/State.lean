import RoutePattern.Regex.Term
import RoutePattern.Unicode.Folding

/-!
What has been read of a regex at some point of its text: the groups and classes that are open, the
flags in force, and what the next character may continue.
-/
namespace RoutePattern.Regex

/-- A switch that a regex can set for itself. -/
inductive Flag
  | ignoreCase
  | multiLine
  | dotAll
  | swapGreed
  | unicode
  | crlf
  | extended
deriving DecidableEq

def Flag.ofChar? : Char → Option Flag
  | 'i' => some ignoreCase
  | 'm' => some multiLine
  | 's' => some dotAll
  | 'U' => some swapGreed
  | 'u' => some unicode
  | 'R' => some crlf
  | 'x' => some extended
  | _ => none

/-- The flags in force. -/
structure Flags where
  ignoreCase : Bool := false
  multiLine : Bool := false
  dotAll : Bool := false
  swapGreed : Bool := false
  unicode : Bool := true
  crlf : Bool := false
  extended : Bool := false
deriving DecidableEq

namespace Flags

def put (fs : Flags) (on : Bool) : Flag → Flags
  | .ignoreCase => { fs with ignoreCase := on }
  | .multiLine => { fs with multiLine := on }
  | .dotAll => { fs with dotAll := on }
  | .swapGreed => { fs with swapGreed := on }
  | .unicode => { fs with unicode := on }
  | .crlf => { fs with crlf := on }
  | .extended => { fs with extended := on }

/-- Sets the flags of a list in order; those behind the dash, written `none`, are cleared. -/
def update (fs : Flags) (marks : List (Option Flag)) : Flags :=
  let on := marks.takeWhile (·.isSome)
  let off := marks.dropWhile (·.isSome)
  let fs := (on.filterMap id).foldl (fun fs f => fs.put true f) fs
  (off.filterMap id).foldl (fun fs f => fs.put false f) fs

/-- A set as it is meant under the flags: closed under case if case does not count. -/
def meant (fs : Flags) (s : CharSet) : CharSet :=
  if !fs.ignoreCase then s
  else if fs.unicode then s.closeCase
  else
    let upper : Unicode.CasePairs := ⟨0x41, 0x5A, 1, 0x61⟩
    let lower : Unicode.CasePairs := ⟨0x61, 0x7A, 1, 0x41⟩
    (CharSet.ofRanges (s.ranges.flatMap fun r => upper.images r ++ lower.images r)).union s

/-- A class as it is meant under the flags. Without Unicode it must keep to ASCII. -/
def class? (fs : Flags) (negated : Bool) (s : CharSet) : Option CharSet :=
  let s := fs.meant s
  let s := if negated then s.compl else s
  if fs.unicode || s.isAscii then some s else none

/-- The class behind one of the letters `d`, `s`, `w`, negated if the letter is a capital. -/
def letterClass? (fs : Flags) (letter : Char) : Option CharSet :=
  let positive : Option CharSet :=
    match letter.toLower with
    | 'd' => some (if fs.unicode then Unicode.digit else CharSet.ofRanges [(0x30, 0x39)])
    | 's' => some (if fs.unicode then Unicode.blank else CharSet.ofRanges [(0x9, 0xD), (0x20, 0x20)])
    | 'w' => some (if fs.unicode then Unicode.word else asciiWord)
    | _ => none
  positive.bind fun s =>
    if letter.isLower then some s
    else if fs.unicode then some s.compl
    else none

/-- The characters a dot stands for. -/
def dot? (fs : Flags) : Option CharSet :=
  if !fs.unicode then none
  else if fs.dotAll then some CharSet.empty.compl
  else if fs.crlf then some (CharSet.ofChars ['\n', '\r']).compl
  else some (CharSet.singleton '\n').compl

def lineStart (fs : Flags) : Look :=
  if !fs.multiLine then .textStart else if fs.crlf then .crlfLineStart else .lineStart

def lineStop (fs : Flags) : Look :=
  if !fs.multiLine then .textStop else if fs.crlf then .crlfLineStop else .lineStop

end Flags

/-- The ASCII classes that can be named inside brackets. -/
def asciiClasses : List (String × CharSet) :=
  [("alnum", .ofRanges [(0x30, 0x39), (0x41, 0x5A), (0x61, 0x7A)]),
   ("alpha", .ofRanges [(0x41, 0x5A), (0x61, 0x7A)]),
   ("ascii", .ofRanges [(0x0, 0x7F)]),
   ("blank", .ofChars ['\t', ' ']),
   ("cntrl", .ofRanges [(0x0, 0x1F), (0x7F, 0x7F)]),
   ("digit", .ofRanges [(0x30, 0x39)]),
   ("graph", .ofRanges [(0x21, 0x7E)]),
   ("lower", .ofRanges [(0x61, 0x7A)]),
   ("print", .ofRanges [(0x20, 0x7E)]),
   ("punct", .ofRanges [(0x21, 0x2F), (0x3A, 0x40), (0x5B, 0x60), (0x7B, 0x7E)]),
   ("space", .ofRanges [(0x9, 0xD), (0x20, 0x20)]),
   ("upper", .ofRanges [(0x41, 0x5A)]),
   ("word", asciiWord),
   ("xdigit", .ofRanges [(0x30, 0x39), (0x41, 0x46), (0x61, 0x66)])]

/-- The characters with a meaning of their own in a regex. -/
def metaChars : List Char :=
  ['\\', '.', '+', '*', '?', '(', ')', '|', '[', ']', '{', '}', '^', '$', '#', '&', '-', '~']

/-- A part of a concatenation. `height` counts the levels of nesting below it; a change of flags is a
part too, which matches the empty text and cannot be repeated. -/
structure Item where
  term : Term
  height : Nat := 0
  repeatable : Bool := true

namespace Item

def maxHeight (items : List Item) : Nat :=
  (items.map height).foldl max 0

/-- The concatenation of items, given from the last to the first. -/
def concat (items : List Item) : Item :=
  match items with
  | [] => { term := .empty, repeatable := false }
  | [item] => item
  | _ => { term := .concat (items.reverse.map term), height := maxHeight items + 1 }

/-- The alternation of items, given from the last to the first. -/
def alternation (items : List Item) : Item :=
  { term := .alternation (items.reverse.map term), height := maxHeight items + 1 }

end Item

/-- What a group holds so far: the branches that are complete and the items of the last one, each
from the last to the first. -/
structure Level where
  branches : List Item := []
  items : List Item := []

namespace Level

def push (level : Level) (item : Item) : Level :=
  { level with items := item :: level.items }

def close (level : Level) : Item :=
  let last := Item.concat level.items
  match level.branches with
  | [] => last
  | branches => Item.alternation (last :: branches)

end Level

/-- What stands around an open group: the level it is part of, its index if it captures, and the flags
that come back into force behind it. -/
structure Frame where
  level : Level
  index : Option Nat
  flags : Flags

/-- How two operands of a class are joined. -/
inductive ClassOp
  | inter
  | diff
  | symmDiff

def ClassOp.apply : ClassOp → CharSet → CharSet → CharSet
  | inter => CharSet.inter
  | diff => CharSet.diff
  | symmDiff => CharSet.symmDiff

/-- An open bracketed class: the operand to the left of the last operator, and the members read since. -/
structure ClassLevel where
  negated : Bool := false
  left : Option (ClassOp × CharSet × Nat) := none
  set : CharSet := CharSet.empty
  count : Nat := 0
  height : Nat := 0

namespace ClassLevel

def add (level : ClassLevel) (s : CharSet) (height : Nat) : ClassLevel :=
  { level with
    set := level.set.union s, count := level.count + 1, height := max level.height height }

/-- The set read so far, with its levels of nesting. -/
def total (level : ClassLevel) (flags : Flags) : CharSet × Nat :=
  let height := if 2 ≤ level.count then level.height + 1 else level.height
  match level.left with
  | none => (level.set, height)
  | some (op, left, leftHeight) =>
    (op.apply (flags.meant left) (flags.meant level.set), max leftHeight height + 1)

end ClassLevel

/-- What an escape or a plain character stands for. -/
inductive Prim
  | char (c : Char)
  | set (s : CharSet)
  | look (l : Look)

/-- Where an escape stands: among the items of a group, among the members of a class, or at the upper
end of a range. -/
inductive Place
  | body
  | member
  | bound (lo : Char)

/-- How far a count in braces has been read. `closed` means that a blank ended the digits. -/
inductive Count
  | low (digits : Option Nat) (closed : Bool)
  | comma (low : Nat)
  | high (low : Nat) (digits : Option Nat) (closed : Bool)

/-- What the next character may continue. Texts are kept from the last character to the first. -/
inductive Mode
  /-- a new item of a group -/
  | item
  /-- an operator behind an item, which a question mark makes lazy; `wide` if blanks may come between -/
  | repeated (operand : Item) (low : Nat) (high : Option Nat) (wide : Bool)
  | count (operand : Item) (count : Count)
  /-- behind an opening parenthesis -/
  | opened
  /-- behind `(?` -/
  | marked
  /-- behind `(?P` -/
  | markedP
  | groupName (name : List Char)
  | flagList (marks : List (Option Flag))
  | escape (place : Place)
  /-- behind the letter of a hexadecimal escape of `width` digits -/
  | hex (place : Place) (width : Nat)
  | hexDigits (place : Place) (left value : Nat) (short : Bool)
  | hexBraces (place : Place) (value : Option Nat)
  | property (place : Place) (negated : Bool)
  | propertyName (place : Place) (negated : Bool) (name : List Char)
  /-- behind `\b` -/
  | boundary
  | boundaryBrace
  | boundaryName (name : List Char)
  /-- the beginning of a class; `first` right behind the bracket -/
  | classStart (first : Bool)
  /-- a new member of a class -/
  | member
  /-- behind a character that starts an operator if it comes twice -/
  | operator (char : Char) (op : ClassOp)
  /-- behind a member that may be the lower end of a range -/
  | lower (prim : Prim)
  /-- behind a member and a dash -/
  | dashed (prim : Prim) (spaced : Bool)
  /-- behind a bracket inside a class -/
  | nested
  | className (name : List Char)

/-- What has been read of a regex. -/
structure State where
  flags : Flags := {}
  level : Level := {}
  outer : List Frame := []
  groups : Nat := 0
  names : List (List Char) := []
  classes : List ClassLevel := []
  mode : Mode := .item
  comment : Bool := false

end RoutePattern.Regex
