import RoutePattern.Regex.State
import RoutePattern.Text.Hexadecimal
import RoutePattern.Unicode.Latest

/-!
Reading a regex, character by character. A text is refused when a character cannot continue it, or
when it ends within something that is open.
-/
namespace RoutePattern.Regex

open Text (hexValue?)

/-- The deepest nesting that is accepted. -/
def nestLimit : Nat := 250

/-- The largest count of repetitions that is accepted. -/
def countLimit : Nat := 0xFFFFFFFF

/-- A character by its code point, if there is one. -/
def charOf? (n : Nat) : Option Char :=
  if n.isValidChar then some (Char.ofNat n) else none

/-- Whether a backslash in front of the character takes its meaning away. -/
def isEscapable (c : Char) : Bool :=
  metaChars.contains c || (c.toNat < 128 && !c.isAlphanum && c ≠ '<' && c ≠ '>')

/-- Letters, with the latest ones. -/
def nameLetters : CharSet := Unicode.alphabetic.union Unicode.latestLetters

/-- Letters and numbers, with the latest ones. -/
def nameAlphanumerics : CharSet :=
  (nameLetters.union Unicode.alphanumeric).union Unicode.latestNumbers

/-- Whether a character may stand in the name of a group. -/
def isNameChar (first : Bool) (c : Char) : Bool :=
  c = '_' ||
    if first then nameLetters.contains c
    else ['.', '[', ']'].contains c || nameAlphanumerics.contains c

/-- The escapes for single characters by a letter. -/
def letterChar? : Char → Option Char
  | 'a' => some '\x07'
  | 'f' => some '\x0C'
  | 't' => some '\t'
  | 'n' => some '\n'
  | 'r' => some '\r'
  | 'v' => some '\x0B'
  | _ => none

def letterLook? (ascii : Bool) : Char → Option Look
  | 'A' => some .textStart
  | 'z' => some .textStop
  | 'b' => some (.word .boundary ascii)
  | 'B' => some (.word .inside ascii)
  | '<' => some (.word .start ascii)
  | '>' => some (.word .stop ascii)
  | _ => none

def namedEdge? (name : String) : Option Edge :=
  match name with
  | "start" => some .start
  | "end" => some .stop
  | "start-half" => some .startHalf
  | "end-half" => some .stopHalf
  | _ => none

/-- The texts between the first two neighbouring characters `a` and `b`. -/
def splitPair (a b : Char) : List Char → Option (List Char × List Char)
  | c :: d :: rest =>
    if c = a ∧ d = b then some ([], rest)
    else (splitPair a b (d :: rest)).map fun (before, after) => (c :: before, after)
  | _ => none

/-- The class for the text in the braces of a property escape, and whether it is to be negated. -/
def propertyClass? (text : List Char) : Option (CharSet × Bool) :=
  match splitPair '!' '=' text with
  | some (name, value) => (Unicode.valued? name value).map (·, true)
  | none =>
    match Text.splitFirst ':' text with
    | (name, some value) => (Unicode.valued? name value).map (·, false)
    | _ =>
      match Text.splitFirst '=' text with
      | (name, some value) => (Unicode.valued? name value).map (·, false)
      | _ => (Unicode.named? text).map (·, false)

/-- The spellings of the ASCII classes behind their opening `[:`, with what they stand for. -/
def classSpellings : List (List Char × CharSet × Bool) :=
  asciiClasses.flatMap fun (name, s) =>
    [(name.toList ++ [':', ']'], s, false), ('^' :: name.toList ++ [':', ']'], s, true)]

namespace State

def ascii (st : State) : Bool := !st.flags.unicode

def goto (st : State) (mode : Mode) : State := { st with mode }

/-- Adds an item to the innermost group. -/
def push (st : State) (item : Item) : State :=
  { st with level := st.level.push item, mode := .item }

def pushTerm (st : State) (t : Term) : State := st.push { term := t }

def pushChar (st : State) (c : Char) : State :=
  st.pushTerm (.set (st.flags.meant (CharSet.singleton c)))

/-- Passes over a blank or the start of a comment if the flags allow them; else goes on. -/
def orBlank (st : State) (c : Char) (next : Option State) : Option State :=
  if !st.flags.extended then next
  else if Unicode.blank.contains c then some st
  else if c = '#' then some { st with comment := true }
  else next

/-- Opens a group. -/
def openGroup (st : State) (index : Option Nat) (flags : Flags) : State :=
  { st with
    outer := ⟨st.level, index, st.flags⟩ :: st.outer, level := {}, flags, mode := .item,
    groups := st.groups + if index.isSome then 1 else 0 }

def openCapture (st : State) : State := st.openGroup (some (st.groups + 1)) st.flags

/-- Closes the innermost group. -/
def closeGroup? (st : State) : Option State :=
  match st.outer with
  | [] => none
  | frame :: outer =>
    let body := st.level.close
    let term := match frame.index with
      | some i => .group i body.term
      | none => body.term
    some
      { st with
        outer, flags := frame.flags, mode := .item
        level := frame.level.push { term, height := body.height + 1 } }

/-- Begins another branch of the innermost group. -/
def nextBranch (st : State) : State :=
  { st with
    level := { branches := Item.concat st.level.items :: st.level.branches, items := [] } }

/-- Takes the last item back to apply an operator to it. -/
def operand? (st : State) : Option (Item × State) :=
  match st.level.items with
  | [] => none
  | item :: items =>
    if item.repeatable then some (item, { st with level := { st.level with items } }) else none

/-- Puts a repetition in the place of its operand. -/
def pushRepeated (st : State) (operand : Item) (low : Nat) (high : Option Nat) (greedy : Bool) :
    State :=
  st.push
    { term := operand.term.repeated low high (greedy != st.flags.swapGreed)
      height := operand.height + 1 }

/-- Changes the innermost class. -/
def inClass (st : State) (change : ClassLevel → ClassLevel) (mode : Mode) : State :=
  match st.classes with
  | [] => st
  | level :: outer => { st with classes := change level :: outer, mode }

/-- Adds a set to the members of the innermost class. -/
def addMember (st : State) (s : CharSet) (mode : Mode := .member) : State :=
  st.inClass (·.add s 0) mode

/-- Adds a character, a range or a class to the members. Conditions on positions have no place there,
and without Unicode characters keep to ASCII. -/
def addPrim? (st : State) (p : Prim) : Option State :=
  match p with
  | .char c => if st.ascii && 128 ≤ c.toNat then none else some (st.addMember (CharSet.singleton c))
  | .set s => some (st.addMember s)
  | .look _ => none

def addBounds? (st : State) (lo hi : Char) : Option State :=
  if hi < lo || (st.ascii && 128 ≤ hi.toNat) then none
  else some (st.addMember (CharSet.range lo hi))

/-- Opens a bracketed class. -/
def openClass (st : State) : State :=
  { st with classes := {} :: st.classes, mode := .classStart true }

/-- Closes the innermost class, which becomes a member of the one around it, or an item. -/
def closeClass? (st : State) : Option State := do
  let (level, outer) ← match st.classes with
    | [] => none
    | level :: outer => some (level, outer)
  let (s, height) := level.total st.flags
  let s ← st.flags.class? level.negated s
  match outer with
  | [] => some { st.push { term := .set s, height := height + 1 } with classes := [] }
  | up :: rest => some { st with classes := up.add s (height + 1) :: rest, mode := .member }

/-- Makes what was read of a class the left operand of an operator. -/
def beginOperand (st : State) (op : ClassOp) : State :=
  st.inClass
    (fun level =>
      let (s, height) := level.total st.flags
      { negated := level.negated, left := some (op, s, height) })
    .member

/-- Puts what an escape stands for into its place. -/
def deliver? (st : State) (place : Place) (p : Prim) : Option State :=
  match place, p with
  | .body, .char c => some (st.pushChar c)
  | .body, .set s => some (st.pushTerm (.set s))
  | .body, .look l => some (st.pushTerm (.look l))
  | .member, .look _ => none
  | .member, p => some (st.goto (.lower p))
  | .bound lo, .char hi => st.addBounds? lo hi
  | .bound _, _ => none

def deliverCode? (st : State) (place : Place) (code : Nat) : Option State :=
  (charOf? code).bind fun c => st.deliver? place (.char c)

/-- Begins an item of a group. -/
def stepItem (st : State) (c : Char) : Option State :=
  st.orBlank c <|
    match c with
    | '(' => some (st.goto .opened)
    | ')' => st.closeGroup?
    | '|' => some st.nextBranch
    | '[' => some st.openClass
    | '?' => st.operand?.map fun (item, st) => st.goto (.repeated item 0 (some 1) false)
    | '*' => st.operand?.map fun (item, st) => st.goto (.repeated item 0 none false)
    | '+' => st.operand?.map fun (item, st) => st.goto (.repeated item 1 none false)
    | '{' => st.operand?.map fun (item, st) => st.goto (.count item (.low none false))
    | '\\' => some (st.goto (.escape .body))
    | '.' => st.flags.dot?.map fun s => st.pushTerm (.set s)
    | '^' => some (st.pushTerm (.look st.flags.lineStart))
    | '$' => some (st.pushTerm (.look st.flags.lineStop))
    | c => some (st.pushChar c)

/-- Goes on behind an operator. -/
def stepRepeated (st : State) (operand : Item) (low : Nat) (high : Option Nat) (wide : Bool)
    (c : Char) : Option State :=
  let next : Option State :=
    if c = '?' then some (st.pushRepeated operand low high false)
    else ((st.pushRepeated operand low high true).goto .item).stepItem c
  if wide then st.orBlank c next else next

/-- Reads a digit of a count. -/
def countDigit? (digits : Option Nat) (c : Char) : Option Nat :=
  let n := 10 * digits.getD 0 + (c.toNat - 48)
  if n ≤ countLimit then some n else none

/-- Ends a count. -/
def closeCount (st : State) (operand : Item) (low : Nat) (high : Option Nat) : State :=
  st.goto (.repeated operand low high true)

def stepCount (st : State) (operand : Item) (count : Count) (c : Char) : Option State :=
  st.orBlank c <|
    let stay (count : Count) : Option State := some (st.goto (.count operand count))
    let blank := Unicode.blank.contains c
    match count with
    | .low digits closed =>
      if blank then stay (.low digits digits.isSome)
      else if c.isDigit then
        if closed then none else (countDigit? digits c).bind fun n => stay (.low (some n) false)
      else
        match digits with
        | none => none
        | some n =>
          if c = ',' then stay (.comma n)
          else if c = '}' then some (st.closeCount operand n (some n))
          else none
    | .comma low =>
      if c = '}' then some (st.closeCount operand low none)
      else if blank then stay (.high low none false)
      else if c.isDigit then (countDigit? none c).bind fun n => stay (.high low (some n) false)
      else none
    | .high low digits closed =>
      if blank then stay (.high low digits digits.isSome)
      else if c.isDigit then
        if closed then none else (countDigit? digits c).bind fun n => stay (.high low (some n) false)
      else
        match digits with
        | none => none
        | some n =>
          if c = '}' ∧ low ≤ n then some (st.closeCount operand low (some n)) else none

/-- Reads the flags between `(?` and the character that ends them. -/
def stepFlags (st : State) (marks : List (Option Flag)) (c : Char) : Option State :=
  if c = ')' ∨ c = ':' then
    if marks.head? = some none then none
    else
      let flags := st.flags.update marks.reverse
      if c = ':' then some (st.openGroup none flags)
      else if marks.isEmpty then none
      else some { st.push { term := .empty, repeatable := false } with flags }
  else
    let mark? : Option (Option Flag) := if c = '-' then some none else (Flag.ofChar? c).map some
    mark?.bind fun mark =>
      if marks.contains mark then none else some (st.goto (.flagList (mark :: marks)))

def stepEscape (st : State) (place : Place) (c : Char) : Option State :=
  if c.isDigit then none
  else
    match c with
    | 'x' => some (st.goto (.hex place 2))
    | 'u' => some (st.goto (.hex place 4))
    | 'U' => some (st.goto (.hex place 8))
    | 'p' => some (st.goto (.property place false))
    | 'P' => some (st.goto (.property place true))
    | 'd' | 's' | 'w' | 'D' | 'S' | 'W' =>
      (st.flags.letterClass? c).bind fun s => st.deliver? place (.set s)
    | _ =>
      if isEscapable c then st.deliver? place (.char c)
      else
        match letterChar? c with
        | some d => st.deliver? place (.char d)
        | none =>
          match letterLook? st.ascii c, place with
          | some l, .body =>
            if c = 'b' then some (st.goto .boundary) else some (st.pushTerm (.look l))
          | _, _ => none

/-- Reads a digit of a hexadecimal escape of fixed width. Without Unicode one of two digits stands for
a byte, which must be ASCII. -/
def stepHexDigit (st : State) (place : Place) (left value : Nat) (short : Bool) (c : Char) :
    Option State :=
  (hexValue? c).bind fun d =>
    let value := 16 * value + d
    if 1 < left then some (st.goto (.hexDigits place (left - 1) value short))
    else if short && st.ascii && 128 ≤ value then none
    else st.deliverCode? place value

/-- The class of a property escape. -/
def deliverProperty? (st : State) (place : Place) (negated : Bool) (found : Option (CharSet × Bool)) :
    Option State := do
  let (s, inverse) ← found
  if st.ascii then none
  else
    let s ← st.flags.class? (negated != inverse) s
    st.deliver? place (.set s)

/-- The word boundary whose name in braces was not there after all. -/
def pushBoundary (st : State) : State := st.pushTerm (.look (.word .boundary st.ascii))

/-- Reads the closing brace or another character of the name of a word boundary. -/
def stepBoundaryName (st : State) (name : List Char) (c : Char) : Option State :=
  st.orBlank c <|
    if c.isAlpha || c = '-' then some (st.goto (.boundaryName (c :: name)))
    else if c = '}' then
      (namedEdge? (String.ofList name.reverse)).map fun edge =>
        st.pushTerm (.look (.word edge st.ascii))
    else none

/-- Begins a member of a class. -/
def stepMember (st : State) (c : Char) : Option State :=
  st.orBlank c <|
    match c with
    | '[' => some (st.goto .nested)
    | ']' => st.closeClass?
    | '&' => some (st.goto (.operator c .inter))
    | '-' => some (st.goto (.operator c .diff))
    | '~' => some (st.goto (.operator c .symmDiff))
    | '\\' => some (st.goto (.escape .member))
    | c => some (st.goto (.lower (.char c)))

/-- Goes on behind a member. -/
def stepLower (st : State) (p : Prim) (c : Char) : Option State :=
  st.orBlank c <|
    if c = '-' then some (st.goto (.dashed p false))
    else (st.addPrim? p).bind fun st => st.stepMember c

/-- Reads the character behind a member and a dash: the end of a range, unless the dash is a member of
its own or part of an operator. -/
def stepDashed (st : State) (p : Prim) (spaced : Bool) (c : Char) : Option State :=
  (st.goto (.dashed p true)).orBlank c <|
    if c = ']' then
      ((st.addPrim? p).bind fun st => st.addPrim? (.char '-')).bind closeClass?
    else if c = '-' then
      (st.addPrim? p).bind fun st =>
        if spaced then some (st.goto (.dashed (.char '-') false)) else some (st.beginOperand .diff)
    else
      match p with
      | .char lo => if c = '\\' then some (st.goto (.escape (.bound lo))) else st.addBounds? lo c
      | _ => none

/-- Begins a class: a caret negates it, dashes and then a bracket stand for themselves. -/
def stepClassStart (st : State) (first : Bool) (c : Char) : Option State :=
  st.orBlank c <|
    if first && c = '^' then
      some (st.inClass (fun level => { level with negated := true }) (.classStart false))
    else if c = '-' then some (st.addMember (CharSet.singleton '-') (.classStart false))
    else if c = ']' && st.classes.head?.any (·.count = 0) then
      some (st.addMember (CharSet.singleton ']'))
    else (st.goto .member).stepMember c

/-- Reads on in the name of an ASCII class. If it turns out to be none, its characters are members of a
class of its own. -/
def stepClassName (st : State) (name : List Char) (c : Char) : Option State :=
  let text := (c :: name).reverse
  match classSpellings.find? (·.1 = text) with
  | some (_, s, negated) => (st.flags.class? negated s).map fun s => st.addMember s
  | none =>
    if classSpellings.any (text.isPrefixOf ·.1) then some (st.goto (.className (c :: name)))
    else
      match name ++ [':'] with
      | [] => none
      | last :: earlier =>
        let opened := (earlier.reverse.map CharSet.singleton).foldl addMember st.openClass
        (opened.goto (.lower (.char last))).stepLower (.char last) c

/-- Takes the next character. -/
def step (st : State) (c : Char) : Option State :=
  if st.comment then some { st with comment := c ≠ '\n' }
  else
    match st.mode with
    | .item => st.stepItem c
    | .repeated operand low high wide => st.stepRepeated operand low high wide c
    | .count operand count => st.stepCount operand count c
    | .opened =>
      st.orBlank c <| if c = '?' then some (st.goto .marked) else st.openCapture.stepItem c
    | .marked =>
      match c with
      | '<' => some (st.goto (.groupName []))
      | 'P' => some (st.goto .markedP)
      | c => st.stepFlags [] c
    | .markedP => if c = '<' then some (st.goto (.groupName [])) else none
    | .groupName name =>
      if c = '>' then
        if name.isEmpty || st.names.contains name then none
        else some { st.openCapture with names := name :: st.names }
      else if isNameChar name.isEmpty c then some (st.goto (.groupName (c :: name)))
      else none
    | .flagList marks => st.stepFlags marks c
    | .escape place => st.stepEscape place c
    | .hex place width =>
      st.orBlank c <|
        if c = '{' then some (st.goto (.hexBraces place none))
        else st.stepHexDigit place width 0 (width = 2) c
    | .hexDigits place left value short => st.orBlank c <| st.stepHexDigit place left value short c
    | .hexBraces place value =>
      st.orBlank c <|
        if c = '}' then value.bind fun n => st.deliverCode? place n
        else (hexValue? c).map fun d => st.goto (.hexBraces place (some (16 * value.getD 0 + d)))
    | .property place negated =>
      st.orBlank c <|
        if c = '{' then some (st.goto (.propertyName place negated []))
        else if c = '\\' then none
        else st.deliverProperty? place negated ((Unicode.named? [c]).map (·, false))
    | .propertyName place negated name =>
      st.orBlank c <|
        if c = '}' then st.deliverProperty? place negated (propertyClass? name.reverse)
        else some (st.goto (.propertyName place negated (c :: name)))
    | .boundary =>
      if c = '{' then some (st.goto .boundaryBrace) else st.pushBoundary.stepItem c
    | .boundaryBrace =>
      st.orBlank c <|
        if c.isAlpha || c = '-' then some (st.goto (.boundaryName [c]))
        else
          st.pushBoundary.operand?.bind fun (item, st) => st.stepCount item (.low none false) c
    | .boundaryName name => st.stepBoundaryName name c
    | .classStart first => st.stepClassStart first c
    | .member => st.stepMember c
    | .operator char op =>
      if c = char then some (st.beginOperand op)
      else (st.goto (.lower (.char char))).stepLower (.char char) c
    | .lower p => st.stepLower p c
    | .dashed p spaced => st.stepDashed p spaced c
    | .nested => if c = ':' then some (st.goto (.className [])) else st.openClass.stepClassStart true c
    | .className name => st.stepClassName name c

/-- Ends the text. -/
def finish? (st : State) : Option Item := do
  let st ← match st.mode with
    | .item => some st
    | .repeated operand low high _ => some (st.pushRepeated operand low high true)
    | .boundary => some st.pushBoundary
    | _ => none
  if st.outer.isEmpty then some st.level.close else none

end State

/-- The item that a text spells. -/
def readItem? (text : List Char) : Option Item :=
  (text.foldlM State.step {}).bind State.finish?

/-- The term that a text spells. -/
def read? (text : List Char) : Option Term :=
  (readItem? text).bind fun item => if item.height ≤ nestLimit then some item.term else none

end RoutePattern.Regex
