import RoutePattern.Bindings.Merge
import RoutePattern.Build
import RoutePattern.Compile
import RoutePattern.Query.Assignment
import RoutePattern.Query.Pairs
import RoutePattern.Verb

/-!
Rules: compiled patterns that match URLs for some methods, each with something to hand out.
-/
namespace RoutePattern

/-- What a rule is registered with. -/
structure RuleData (α : Type) where
  name : Option String := none
  verbs : Verbs := Verbs.single .get
  options : Options := {}
  payload : α

/-- A rule. `kinds` are those it was compiled against. -/
structure Rule (α : Type) where
  source : String
  name : String
  pattern : Pattern
  kinds : Kinds
  compiled : Compiled
  data : RuleData α

/-- The bindings of a match. -/
structure RuleMatch where
  path : Bindings
  query : Bindings

/-- The bindings of the query with those of the path laid over them. -/
def RuleMatch.merged (m : RuleMatch) : Bindings := m.query.merge m.path

/-- The bindings of the groups of a path, under the names of their params. -/
def pathBindings (groups : List String) (captures : Captures) : Bindings :=
  groups.zipIdx.foldl
    (fun b (name, i) =>
      b.collect name ((captures.group? (i + 1)).map fun text =>
        String.ofList (Text.Percent.decode text.toList)))
    []

namespace QuerySlot

/-- What the assignment of values asks of a slot. -/
def taker (s : QuerySlot) : Query.Taker := ⟨s.rule.required, s.rule.multiple, s.accepts⟩

/-- What a name is bound to when its slots took the values with the given indexes. One slot for one
value binds the value or its default; else all values make up an array, to which a slot without values
adds its default. -/
def bound (slots : List QuerySlot) (assigned : List (List Nat)) (values : List String) : Value :=
  if slots.length ≤ 1 ∧ !slots.any (·.rule.multiple) then
    match assigned.head?.bind List.head? with
    | some i => .text (values.getD i "")
    | none => ((slots.head?.bind (·.rule.default)).map Value.text).getD .null
  else
    let items := (slots.zip assigned).flatMap fun (slot, taken) =>
      if taken.isEmpty then (slot.rule.default.map Value.text).toList
      else taken.map fun i => Value.text (values.getD i "")
    if items.isEmpty then .null else .array items

/-- The names of the slots, each where it first occurs. -/
def names (slots : List QuerySlot) : List String :=
  (slots.map (·.rule.name)).foldl
    (fun names name => if names.contains name then names else names ++ [name]) []

/-- The bindings of a query with rules; none if a rule that requires a value gets none. -/
def queryBindings? (slots : List QuerySlot) (query : String) : Option Bindings :=
  let groups := Query.group (Query.pairs query)
  (names slots).foldlM
    (fun b name => do
      let same := slots.filter (·.rule.name == name)
      let values := Query.valuesOf groups name
      let assigned ← Query.assign? (same.map taker) values
      return b.assign name (bound same assigned values))
    []

end QuerySlot

namespace Rule

variable {α : Type}

/-- Reads and compiles a rule. Without a name it is called like its pattern. -/
def make (source : String) (data : RuleData α) (kinds : Kinds) : Except Error (Rule α) := do
  let data := { data with verbs := data.verbs.normalized }
  let (pattern, compiled) ← Pattern.readAndCompile source kinds data.options
  return { source, name := data.name.getD source, pattern, kinds, compiled, data }

/-- The rule compiled against other kinds. -/
def recompile (r : Rule α) (kinds : Kinds) : Except Error (Rule α) :=
  (r.pattern.compile kinds r.data.options).map fun compiled => { r with kinds, compiled }

def verbs (r : Rule α) : Verbs := r.data.verbs

def payload (r : Rule α) : α := r.data.payload

/-- The text of the regex of the path. -/
def regexText (r : Rule α) : String := r.compiled.path.regex.source

/-- Whether the rule allows all the methods, of which there must be one. -/
def allows (r : Rule α) (verbs : Verbs) : Bool := !verbs.isEmpty && r.verbs.includes verbs

/-- The bindings of a URL. -/
def matchUrl? (r : Rule α) (url : String) : Option RuleMatch := do
  let (path, query) := Query.splitUrl url
  let captures ← r.compiled.path.regex.captures? path
  let pathBound := pathBindings r.compiled.path.groups captures
  let queryText := query.getD ""
  if r.compiled.slots.isEmpty then return ⟨pathBound, Query.bindings queryText⟩
  else
    let queryBound ← QuerySlot.queryBindings? r.compiled.slots queryText
    return ⟨pathBound, queryBound⟩

/-- The URL for the arguments. -/
def build (r : Rule α) (args : Bindings) : String := r.pattern.build args

end Rule

end RoutePattern
