import RoutePattern.Pattern.Reader

/-! The grammar of patterns, as relations between texts and what they stand for. It says nothing
about how a text is read. -/
namespace RoutePattern.Pattern.Grammar

/-- The characters that end literal text. -/
def pathStops : List Char := ['/', '(', ')', '<', '>', '=', ',', '?', '&']

/-- The characters that end the name of a param, or that of an argument of the query. -/
def nameStops : Bool → List Char
  | false => ['<', ':', '=', '>', ',']
  | true => ['<', '?', '&', ':', '=', '+', ',', '>']

/-- The characters that end a value of a param, or one of an argument of the query. -/
def valueStops : Bool → List Char
  | false => ['<', ',', '>', '=', ':']
  | true => ['<', '?', '&', ',', '=', '>']

/-- Text, in which a backslash takes the meaning from any character, and only from there on may a
character among the stops stand. -/
inductive Spelled (stops : List Char) : List Char → List Char → Prop
  | nil : Spelled stops [] []
  | plain {c : Char} {text source : List Char} :
    c ≠ '\\' → c ∉ stops → Spelled stops text source → Spelled stops (c :: text) (c :: source)
  | escaped {c : Char} {text source : List Char} :
    Spelled stops text source → Spelled stops (c :: text) ('\\' :: c :: source)

/-- Text whose braces are balanced, those behind a backslash not counted. -/
inductive Balanced : List Char → Prop
  | nil : Balanced []
  | plain {c : Char} {source : List Char} :
    c ∉ ['\\', '{', '}'] → Balanced source → Balanced (c :: source)
  | escaped {c : Char} {source : List Char} : Balanced source → Balanced ('\\' :: c :: source)
  | braces {inner source : List Char} :
    Balanced inner → Balanced source → Balanced ('{' :: (inner ++ '}' :: source))

/-- A name with the constraint in front of it. Without a regex the first character is no brace. -/
inductive Headed (inQuery : Bool) : Constraint → List Char → List Char → Prop
  | any {name source : List Char} :
    Spelled (nameStops inQuery) name source → name ≠ [] → source.head? ≠ some '{' →
      Headed inQuery .any name source
  | kind {kind name before source : List Char} :
    Spelled (nameStops inQuery) kind before → kind ≠ [] → before.head? ≠ some '{' →
    Spelled (nameStops inQuery) name source → name ≠ [] →
      Headed inQuery (.kind (String.ofList kind)) name (before ++ ':' :: source)
  | regex {regex name source : List Char} :
    Balanced regex → regex ≠ [] → Spelled (nameStops inQuery) name source → name ≠ [] →
      Headed inQuery (.regex (String.ofList regex)) name ('{' :: (regex ++ '}' :: ':' :: source))

/-- Values with commas between them. -/
inductive Listed (inQuery : Bool) : List String → List Char → Prop
  | one {value source : List Char} :
    Spelled (valueStops inQuery) value source → Listed inQuery [String.ofList value] source
  | more {value source others : List Char} {values : List String} :
    Spelled (valueStops inQuery) value source → Listed inQuery values others →
      Listed inQuery (String.ofList value :: values) (source ++ ',' :: others)

/-- The default and the choices that values stand for: one value is a default unless it is empty;
several, of which none is empty, are choices, and the first of them is the default. -/
inductive Stands : List String → Option String → List String → Prop
  | empty : Stands [""] none []
  | default {value : String} : value ≠ "" → Stands [value] (some value) []
  | choices {first second : String} {more : List String} :
    (∀ value ∈ first :: second :: more, value ≠ "") →
      Stands (first :: second :: more) (some first) (first :: second :: more)

/-- The default and the choices behind a name. -/
inductive Given (inQuery : Bool) : Option String → List String → List Char → Prop
  | nothing : Given inQuery none [] []
  | values {values choices : List String} {default : Option String} {source : List Char} :
    Listed inQuery values source → Stands values default choices →
      Given inQuery default choices ('=' :: source)

/-- What stands between the angle brackets of a param, where `before` are the names of the params to
its left. -/
inductive ParamText (before : List String) : Param → List Char → Prop
  | intro {constraint : Constraint} {name head tail : List Char} {default : Option String}
      {choices : List String} :
    Headed false constraint name head → Given false default choices tail →
      ParamText before
        { name := String.ofList name, constraint, default, choices
          occurrence := before.count (String.ofList name) } (head ++ tail)

/-- What stands behind the mark of a query rule. -/
inductive RuleText (required : Bool) : QueryRule → List Char → Prop
  | once {constraint : Constraint} {name head tail : List Char} {default : Option String}
      {choices : List String} :
    Headed true constraint name head → Given true default choices tail →
      RuleText required
        { name := String.ofList name, constraint, required, default, choices } (head ++ tail)
  | multiple {constraint : Constraint} {name head tail : List Char} {default : Option String}
      {choices : List String} :
    Headed true constraint name head → Given true default choices tail →
      RuleText required
        { name := String.ofList name, constraint, required, multiple := true, default, choices }
        (head ++ '+' :: tail)

/-- A path, where `before` are the names of the params to its left. Literal text reaches as far as
it can. -/
inductive PathText : List String → List Node → List Char → Prop
  | nil {before : List String} : PathText before [] []
  | literal {before : List String} {text source rest : List Char} {nodes : List Node} :
    Spelled pathStops text source → text ≠ [] → PathText before nodes rest →
    (∀ other more, nodes ≠ .literal other :: more) →
      PathText before (.literal (String.ofList text) :: nodes) (source ++ rest)
  | delimiter {before : List String} {rest : List Char} {nodes : List Node} :
    PathText before nodes rest → PathText before (.delimiter :: nodes) ('/' :: rest)
  | option {before : List String} {source rest : List Char} {children nodes : List Node} :
    PathText before children source → children ≠ [] →
    PathText (before ++ (Node.paramsOf children).map (·.name)) nodes rest →
      PathText before (.option children :: nodes) ('(' :: (source ++ ')' :: rest))
  | param {before : List String} {source rest : List Char} {p : Param} {nodes : List Node} :
    ParamText before p source → PathText (before ++ [p.name]) nodes rest →
      PathText before (.param p :: nodes) ('<' :: (source ++ '>' :: rest))

/-- Query rules, each behind its mark. -/
inductive QueryText : List QueryRule → List Char → Prop
  | nil : QueryText [] []
  | optional {rule : QueryRule} {rules : List QueryRule} {source rest : List Char} :
    RuleText false rule source → QueryText rules rest →
      QueryText (rule :: rules) ('?' :: (source ++ rest))
  | required {rule : QueryRule} {rules : List QueryRule} {source rest : List Char} :
    RuleText true rule source → QueryText rules rest →
      QueryText (rule :: rules) ('&' :: (source ++ rest))

/-- A pattern: a path, and query rules if there are any. -/
inductive PatternText : List Node → List QueryRule → List Char → Prop
  | intro {path : List Node} {query : List QueryRule} {source rest : List Char} :
    PathText [] path source → QueryText query rest → PatternText path query (source ++ rest)

end RoutePattern.Pattern.Grammar
