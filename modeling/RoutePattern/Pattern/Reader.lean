import RoutePattern.Error
import RoutePattern.Pattern.Basic
import RoutePattern.Pattern.Token

/-!
Reading patterns.

A path is made of literal text, `/`, optional groups in parentheses, and params in angle brackets; the
first `?` or `&` begins the rules for the query, each introduced by `?` if it is optional and by `&` if
it is required. A param or rule is a name, with a kind and a colon or a regex in braces and a colon in
front of it, and an equals sign and values separated by commas behind it; a `+` behind the name of a
rule lets its argument repeat. A backslash takes the meaning from the character behind it.
-/
namespace RoutePattern.Pattern

/-- A fault and where it lies. -/
abbrev Failure := Fault × Nat

/-- What is being declared: a param of the path or a rule of the query. `start` is the place of the
opening bracket or the place behind the mark that introduces the rule. -/
structure Subject where
  inQuery : Bool
  required : Bool
  start : Nat

/-- How much of a declaration has been read. Texts are kept from the last character to the first. -/
inductive Stage
  | start
  /-- inside the braces of a regex that were opened at `opening` -/
  | regex (opening depth : Nat) (text : List Char)
  | regexEnd (opening : Nat) (text : String)
  | name (constraint : Constraint) (text : List Char)
  /-- behind the `+` of a query rule -/
  | repeated (constraint : Constraint) (name : String)
  /-- behind the equals sign at `equals`; `values` from the last to the first -/
  | values (constraint : Constraint) (name : String) (multiple : Bool) (equals : Nat)
      (values : List String) (text : List Char)

/-- Where the reader is. -/
inductive Part
  | path
  | declaration (subject : Subject) (stage : Stage)

/-- What has been read of a pattern. Lists and texts are kept from the last element to the first. -/
structure State where
  literal : List Char := []
  nodes : List Node := []
  /-- the nodes before each open group, and the place of its parenthesis -/
  outer : List (List Node × Nat) := []
  /-- the names of the params -/
  seen : List String := []
  query : List QueryRule := []
  part : Part := .path

def text (reversed : List Char) : String := String.ofList reversed.reverse

namespace State

/-- Ends a stretch of literal text. -/
def flush (st : State) : State :=
  if st.literal.isEmpty then st
  else { st with literal := [], nodes := .literal (text st.literal) :: st.nodes }

def push (st : State) (node : Node) : State := { st with nodes := node :: st.nodes }

def pushChar (st : State) (c : Char) : State := { st with literal := c :: st.literal }

def stage (st : State) (subject : Subject) (stage : Stage) : State :=
  { st with part := .declaration subject stage }

/-- Begins a rule of the query behind the mark at `offset`. -/
def beginRule (st : State) (mark : Char) (offset : Nat) : State :=
  st.stage ⟨true, mark = '&', offset + 1⟩ .start

/-- Closes the innermost group. -/
def closeGroup (st : State) (offset : Nat) : Except Failure State :=
  match st.outer with
  | [] => .error (.unbalancedGroup, offset)
  | (before, _) :: outer =>
    if st.nodes.isEmpty then .error (.emptyGroup, offset)
    else .ok { st with nodes := .option st.nodes.reverse :: before, outer }

/-- The default and the choices that the values behind the equals sign at `equals` stand for. One value
is a default, unless it is empty; several are choices, the first of them the default. -/
def defaults (values : List String) (equals : Nat) :
    Except Failure (Option String × List String) :=
  match values with
  | [] => .ok (none, [])
  | [value] => .ok (if value.isEmpty then none else some value, [])
  | value :: _ =>
    if values.any String.isEmpty then .error (.emptyChoice, equals) else .ok (some value, values)

/-- Ends a declaration. -/
def declare (st : State) (subject : Subject) (constraint : Constraint) (name : String)
    (multiple : Bool) (default : Option String) (choices : List String) : State :=
  if subject.inQuery then
    let rule : QueryRule :=
      { name, constraint, required := subject.required, multiple, default, choices }
    { st with query := rule :: st.query, part := .path }
  else
    let occurrence := st.seen.count name
    { st with
      nodes := .param { name, constraint, default, choices, occurrence } :: st.nodes
      seen := name :: st.seen, part := .path }

/-- Takes a character that ends the name of a declaration or stands behind the `+` of one. -/
def endName (st : State) (subject : Subject) (constraint : Constraint) (name : String)
    (multiple : Bool) (c : Char) (offset : Nat) : Except Failure State :=
  if c = '=' then .ok (st.stage subject (.values constraint name multiple offset [] []))
  else if subject.inQuery then
    if c = '?' ∨ c = '&' then
      .ok ((st.declare subject constraint name multiple none []).beginRule c offset)
    else if c = '+' ∧ !multiple then .ok (st.stage subject (.repeated constraint name))
    else .error (.unexpectedCharacter, offset)
  else if c = '>' then .ok (st.declare subject constraint name multiple none [])
  else .error (.unexpectedCharacter, offset)

/-- The characters that end a name. -/
def nameEnds (subject : Subject) : List Char :=
  if subject.inQuery then ['?', '&', ':', '=', '+', ',', '>'] else [':', '=', '>', ',']

/-- The characters that end a value. -/
def valueEnds (subject : Subject) : List Char :=
  if subject.inQuery then ['?', '&', ',', '=', '>'] else [',', '>', '=', ':']

/-- Reads on in a name, or in the name of the kind in front of it. -/
def stepName (st : State) (subject : Subject) (constraint : Constraint) (chars : List Char)
    (t : Token) : Except Failure State :=
  match t.symbol with
  | .dangling => .error (.unterminatedEscape, t.offset)
  | .escaped c => .ok (st.stage subject (.name constraint (c :: chars)))
  | .plain c =>
    if c = '<' then .error (.unexpectedCharacter, t.offset)
    else if !(nameEnds subject).contains c then .ok (st.stage subject (.name constraint (c :: chars)))
    else if c = ':' then
      if constraint ≠ .any then .error (.unexpectedCharacter, t.offset)
      else if chars.isEmpty then .error (.emptyKind, t.offset)
      else .ok (st.stage subject (.name (.kind (text chars)) []))
    else if chars.isEmpty then .error (.emptyName, t.offset)
    else st.endName subject constraint (text chars) false c t.offset

/-- Reads on in the values of a declaration. -/
def stepValues (st : State) (subject : Subject) (constraint : Constraint) (name : String)
    (multiple : Bool) (equals : Nat) (values : List String) (chars : List Char) (t : Token) :
    Except Failure State :=
  let stay (values : List String) (chars : List Char) : Except Failure State :=
    .ok (st.stage subject (.values constraint name multiple equals values chars))
  match t.symbol with
  | .dangling => .error (.unterminatedEscape, t.offset)
  | .escaped c => stay values (c :: chars)
  | .plain c =>
    if c = '<' then .error (.unexpectedCharacter, t.offset)
    else if !(valueEnds subject).contains c then stay values (c :: chars)
    else if c = ',' then stay (text chars :: values) []
    else if (if subject.inQuery then c = '?' ∨ c = '&' else c = '>') then do
      let (default, choices) ← defaults (text chars :: values).reverse equals
      let st := st.declare subject constraint name multiple default choices
      return if subject.inQuery then st.beginRule c t.offset else st
    else .error (.unexpectedCharacter, t.offset)

/-- Reads on in a declaration. -/
def stepDeclaration (st : State) (subject : Subject) (stage : Stage) (t : Token) :
    Except Failure State :=
  match stage with
  | .start =>
    if t.symbol = .plain '{' then .ok (st.stage subject (.regex t.offset 1 []))
    else st.stepName subject .any [] t
  | .regex opening depth chars =>
    match t.symbol with
    | .dangling => .error (.unterminatedEscape, t.offset)
    | .escaped c => .ok (st.stage subject (.regex opening depth (c :: '\\' :: chars)))
    | .plain '{' => .ok (st.stage subject (.regex opening (depth + 1) ('{' :: chars)))
    | .plain '}' =>
      if depth ≠ 1 then .ok (st.stage subject (.regex opening (depth - 1) ('}' :: chars)))
      else if chars.isEmpty then .error (.emptyRegex, opening)
      else .ok (st.stage subject (.regexEnd opening (text chars)))
    | .plain c => .ok (st.stage subject (.regex opening depth (c :: chars)))
  | .regexEnd _ regex =>
    if t.symbol = .plain ':' then .ok (st.stage subject (.name (.regex regex) []))
    else .error (.colonExpected, t.offset)
  | .name constraint chars => st.stepName subject constraint chars t
  | .repeated constraint name =>
    match t.symbol with
    | .plain c => st.endName subject constraint name true c t.offset
    | _ => .error (.unexpectedCharacter, t.offset)
  | .values constraint name multiple equals values chars =>
    st.stepValues subject constraint name multiple equals values chars t

/-- Reads on in the path. -/
def stepPath (st : State) (t : Token) : Except Failure State :=
  match t.symbol with
  | .dangling => .error (.unterminatedEscape, t.offset)
  | .escaped c => .ok (st.pushChar c)
  | .plain c =>
    match c with
    | '/' => .ok (st.flush.push .delimiter)
    | '(' =>
      let st := st.flush
      .ok { st with nodes := [], outer := (st.nodes, t.offset) :: st.outer }
    | ')' => st.flush.closeGroup t.offset
    | '<' => .ok (st.flush.stage ⟨false, false, t.offset⟩ .start)
    | '>' | '=' | ',' => .error (.unexpectedCharacter, t.offset)
    | '?' | '&' =>
      match st.outer with
      | (_, opening) :: _ => .error (.unbalancedGroup, opening)
      | [] => .ok (st.flush.beginRule c t.offset)
    | c => .ok (st.pushChar c)

/-- Takes the next token. -/
def step (st : State) (t : Token) : Except Failure State :=
  match st.part with
  | .path => st.stepPath t
  | .declaration subject stage => st.stepDeclaration subject stage t

/-- Ends a declaration at the end of the text. -/
def finishDeclaration (st : State) (subject : Subject) (stage : Stage) : Except Failure State :=
  match stage with
  | .start => .error (.emptyName, subject.start)
  | .regex opening .. => .error (.unterminatedRegex, opening)
  | .regexEnd opening _ => .error (.unterminatedParam, opening)
  | .name constraint chars =>
    if chars.isEmpty then .error (.emptyName, subject.start)
    else if subject.inQuery then .ok (st.declare subject constraint (text chars) false none [])
    else .error (.unterminatedParam, subject.start)
  | .repeated constraint name => .ok (st.declare subject constraint name true none [])
  | .values constraint name multiple equals values chars =>
    if subject.inQuery then do
      let (default, choices) ← defaults (text chars :: values).reverse equals
      return st.declare subject constraint name multiple default choices
    else .error (.unterminatedParam, subject.start)

/-- Ends the text. -/
def finish (st : State) : Except Failure (List Node × List QueryRule) := do
  let st ← match st.part with
    | .path => .ok st
    | .declaration subject stage => st.finishDeclaration subject stage
  match st.outer with
  | (_, opening) :: _ => .error (.unbalancedGroup, opening)
  | [] => .ok (st.flush.nodes.reverse, st.query.reverse)

end State

/-- Reads the path and the query rules of a pattern. -/
def readParts (source : List Char) : Except Failure (List Node × List QueryRule) :=
  ((tokens 0 source).foldlM State.step {}).bind State.finish

/-- Reads a pattern. -/
def read (source : String) : Except Error Pattern :=
  match readParts source.toList with
  | .ok (path, query) => .ok { source, path, query }
  | .error (fault, offset) => .error (.malformed fault source offset)

end RoutePattern.Pattern
