import RoutePattern.Rule

/-!
Routers: rules in the order of their registration, with an index of their names and, for each method,
the number of rules that allow it.
-/
namespace RoutePattern

/-- How many rules allow each method. -/
abbrev VerbCounts := Vector Nat 9

namespace VerbCounts

def zero : VerbCounts := Vector.replicate 9 0

/-- Changes the counts of the methods in a set. -/
def adjust (counts : VerbCounts) (verbs : Verbs) (change : Nat → Nat) : VerbCounts :=
  Vector.ofFn fun i => if verbs.bits[i] then change counts[i] else counts[i]

end VerbCounts

structure Router (α : Type) where
  rules : List (Rule α) := []
  index : Std.ExtTreeMap String Nat := ∅
  counts : VerbCounts := VerbCounts.zero
  kinds : Kinds := ∅
  nextId : Nat := 0

/-- The outcome of a search for a rule. -/
inductive Lookup (α : Type)
  | found (rule : Rule α) (bindings : RuleMatch)
  /-- the methods that the rules for the URL allow; none if no rule at all allows the method -/
  | methodNotAllowed (verbs : Verbs)
  | notFound

/-- How far the rules have been gone through: behind the rule of a name, or to the end. -/
structure Progress where
  after : Option String := none
  finished : Bool := false

namespace Router

variable {α : Type}

/-- Registers a kind, and compiles all rules against it. -/
def registerKind (r : Router α) (name fragment : String) : Except Error (Router α) := do
  let kinds ← r.kinds.register name fragment
  let rules ← r.rules.mapM (·.recompile kinds)
  return { r with kinds, rules }

/-- The first name from number `id` on that no rule has, and the number behind it; `fuel` bounds the
numbers that are tried. -/
def freshName (r : Router α) : Nat → Nat → String × Nat
  | 0, id => (s!"rule_{id}", id + 1)
  | fuel + 1, id =>
    if r.index.contains s!"rule_{id}" then r.freshName fuel (id + 1) else (s!"rule_{id}", id + 1)

/-- The data with a name, and the router with the number behind the one that was used for it. -/
def nameRule (r : Router α) (data : RuleData α) : RuleData α × Router α :=
  match data.name with
  | some _ => (data, r)
  | none =>
    let (name, nextId) := r.freshName r.rules.length r.nextId
    ({ data with name := some name }, { r with nextId })

/-- Puts a rule in the place of the one with its name, or at the end if there is none. -/
def place (r : Router α) (rule : Rule α) : Router α :=
  let counts := r.counts.adjust rule.verbs (· + 1)
  match r.index[rule.name]? with
  | some slot =>
    let counts := match r.rules[slot]? with
      | some old => counts.adjust old.verbs (· - 1)
      | none => counts
    { r with rules := r.rules.set slot rule, counts }
  | none =>
    { r with
      rules := r.rules ++ [rule], counts, index := r.index.insert rule.name r.rules.length }

/-- Compiles a rule and registers it. A rule without a name is given one, whose number is used up even
if the rule cannot be compiled. -/
def addRule (r : Router α) (source : String) (data : RuleData α) :
    Router α × Except Error (Rule α) :=
  let (data, r) := r.nameRule data
  match Rule.make source data r.kinds with
  | .ok rule => (r.place rule, .ok rule)
  | .error e => (r, .error e)

def rule? (r : Router α) (name : String) : Option (Rule α) :=
  r.index[name]?.bind fun slot => r.rules[slot]?

/-- The number of rules that allow a method. -/
def verbCount (r : Router α) (v : Verb) : Nat := r.counts.get v.slot

/-- The first of the rules that matches the URL and allows the method. `allowed` collects the methods of
the rules that match. -/
def search (v : Verb) (url : String) (allowed : Verbs) : List (Rule α) → Lookup α
  | [] => if allowed.isEmpty then .notFound else .methodNotAllowed allowed
  | rule :: rest =>
    match rule.matchUrl? url with
    | none => search v url allowed rest
    | some bindings =>
      if rule.allows (Verbs.single v) then .found rule bindings
      else search v url (allowed.union rule.verbs) rest

/-- The first rule for a URL and a method, among those behind the rule called `after` if it is given. -/
def find (r : Router α) (verb url : String) (after : Option String) : Lookup α :=
  let start? : Option Nat := match after with
    | none => some 0
    | some name => r.index[name]?.map (· + 1)
  match start? with
  | none => .notFound
  | some start =>
    match (Verb.ofName? verb).filter fun v => 0 < r.verbCount v with
    | none => .methodNotAllowed Verbs.empty
    | some v => search v url Verbs.empty (r.rules.drop start)

/-- The next rule for a URL and a method. -/
def next (r : Router α) (verb url : String) (p : Progress) :
    Option (Rule α × RuleMatch) × Progress :=
  if p.finished then (none, p)
  else
    match r.find verb url p.after with
    | .found rule bindings => (some (rule, bindings), { p with after := some rule.name })
    | _ => (none, { p with finished := true })

/-- The rules that come next; `fuel` bounds their number. -/
def nextAll (r : Router α) (verb url : String) : Nat → Progress → List (Rule α × RuleMatch)
  | 0, _ => []
  | fuel + 1, p =>
    match r.next verb url p with
    | (some found, p) => found :: r.nextAll verb url fuel p
    | (none, _) => []

/-- All rules for a URL and a method, in order. -/
def matching (r : Router α) (verb url : String) : List (Rule α × RuleMatch) :=
  r.nextAll verb url (r.rules.length + 1) {}

/-- The URL that the rule of a name builds from the arguments. -/
def build? (r : Router α) (name : String) (args : Bindings) : Option String :=
  (r.rule? name).map (·.build args)

end Router

end RoutePattern
