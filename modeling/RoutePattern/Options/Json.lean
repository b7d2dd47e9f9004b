import RoutePattern.Text.Hexadecimal

/-!
JSON texts. Numbers are recognised and not evaluated.
-/
namespace RoutePattern

/-- A JSON value. A text is none if its escapes name half a surrogate pair. -/
inductive Json
  | null
  | bool (b : Bool)
  | number
  | text (s : Option String)
  | array (items : List Json)
  | object (members : List (Option String × Json))

namespace Json

/-- The tokens of JSON. -/
inductive Token
  | mark (c : Char)
  | text (s : Option String)
  | number
  | null
  | bool (b : Bool)

/-- The text that code points and halves of surrogate pairs stand for. -/
def join : List Nat → Option (List Char)
  | [] => some []
  | a :: rest =>
    if 0xD800 ≤ a ∧ a < 0xDC00 then
      match rest with
      | b :: rest =>
        if 0xDC00 ≤ b ∧ b < 0xE000 then
          (join rest).map (Char.ofNat (0x10000 + (a - 0xD800) * 0x400 + (b - 0xDC00)) :: ·)
        else none
      | [] => none
    else if 0xDC00 ≤ a ∧ a < 0xE000 then none
    else (join rest).map (Char.ofNat a :: ·)

/-- The character for the letter of an escape. -/
def escapeChar? : Char → Option Char
  | '"' => some '"'
  | '\\' => some '\\'
  | '/' => some '/'
  | 'b' => some '\x08'
  | 'f' => some '\x0C'
  | 'n' => some '\n'
  | 'r' => some '\r'
  | 't' => some '\t'
  | _ => none

/-- The value of four hexadecimal digits. -/
def hexUnit? (a b c d : Char) : Option Nat := do
  let high := 16 * (← Text.hexValue? a) + (← Text.hexValue? b)
  let low := 16 * (← Text.hexValue? c) + (← Text.hexValue? d)
  return 256 * high + low

/-- Reads a text behind its opening quote, up to its closing one. -/
def readText : List Char → Option (List Nat × List Char)
  | [] => none
  | '"' :: rest => some ([], rest)
  | '\\' :: 'u' :: a :: b :: c :: d :: rest => do
    let unit ← hexUnit? a b c d
    let (units, rest) ← readText rest
    return (unit :: units, rest)
  | '\\' :: e :: rest => do
    let c ← escapeChar? e
    let (units, rest) ← readText rest
    return (c.toNat :: units, rest)
  | c :: rest => do
    if c.toNat < 0x20 ∨ c = '\\' then none
    let (units, rest) ← readText rest
    return (c.toNat :: units, rest)

/-- Passes over one digit or more. -/
def skipDigits? (cs : List Char) : Option (List Char) :=
  if cs.head?.any Char.isDigit then some (cs.dropWhile Char.isDigit) else none

/-- Passes over a number. A leading zero stands alone. -/
def skipNumber? (cs : List Char) : Option (List Char) := do
  let cs := if cs.head? = some '-' then cs.tail else cs
  let cs ← if cs.head? = some '0' then some cs.tail else skipDigits? cs
  let cs ← if cs.head? = some '.' then skipDigits? cs.tail else some cs
  match cs with
  | e :: cs =>
    if e = 'e' ∨ e = 'E' then
      match cs with
      | sign :: rest => if sign = '+' ∨ sign = '-' then skipDigits? rest else skipDigits? cs
      | [] => none
    else return e :: cs
  | [] => return []

/-- The first token of a text that does not begin with a blank, and the text behind it. -/
def token? : List Char → Option (Token × List Char)
  | 'n' :: 'u' :: 'l' :: 'l' :: rest => some (.null, rest)
  | 't' :: 'r' :: 'u' :: 'e' :: rest => some (.bool true, rest)
  | 'f' :: 'a' :: 'l' :: 's' :: 'e' :: rest => some (.bool false, rest)
  | '"' :: rest =>
    (readText rest).map fun (units, rest) => (.text ((join units).map String.ofList), rest)
  | c :: rest =>
    if ['[', ']', '{', '}', ',', ':'].contains c then some (.mark c, rest)
    else (skipNumber? (c :: rest)).map (.number, ·)
  | [] => none

/-- The tokens of a text; `fuel` bounds their number. -/
def tokensWithin? : Nat → List Char → Option (List Token)
  | _, [] => some []
  | 0, _ => none
  | fuel + 1, c :: rest =>
    if [' ', '\t', '\n', '\r'].contains c then tokensWithin? fuel rest
    else do
      let (t, rest) ← token? (c :: rest)
      return t :: (← tokensWithin? fuel rest)

/-- The tokens of a text. -/
def tokens? (cs : List Char) : Option (List Token) := tokensWithin? cs.length cs

mutual
/-- Reads a value; `fuel` bounds the number of steps. -/
def readValue : Nat → List Token → Option (Json × List Token)
  | 0, _ => none
  | _, [] => none
  | fuel + 1, t :: rest =>
    match t with
    | .null => some (.null, rest)
    | .bool b => some (.bool b, rest)
    | .number => some (.number, rest)
    | .text s => some (.text s, rest)
    | .mark '[' =>
      match rest with
      | .mark ']' :: rest => some (.array [], rest)
      | rest => (readItems fuel rest).map fun (items, rest) => (.array items, rest)
    | .mark '{' =>
      match rest with
      | .mark '}' :: rest => some (.object [], rest)
      | rest => (readMembers fuel rest).map fun (members, rest) => (.object members, rest)
    | .mark _ => none

/-- Reads the items of an array up to its end. -/
def readItems : Nat → List Token → Option (List Json × List Token)
  | 0, _ => none
  | fuel + 1, ts => do
    match ← readValue fuel ts with
    | (item, .mark ']' :: rest) => return ([item], rest)
    | (item, .mark ',' :: rest) =>
      let (items, rest) ← readItems fuel rest
      return (item :: items, rest)
    | _ => none

/-- Reads the members of an object up to its end. -/
def readMembers : Nat → List Token → Option (List (Option String × Json) × List Token)
  | fuel + 1, .text key :: .mark ':' :: rest => do
    match ← readValue fuel rest with
    | (v, .mark '}' :: rest) => return ([(key, v)], rest)
    | (v, .mark ',' :: rest) =>
      let (members, rest) ← readMembers fuel rest
      return ((key, v) :: members, rest)
    | _ => none
  | _, _ => none
end

/-- The value that a text spells. -/
def ofText? (text : String) : Option Json := do
  let ts ← tokens? text.toList
  match ← readValue (2 * ts.length + 1) ts with
  | (v, []) => return v
  | _ => none

end Json

end RoutePattern
