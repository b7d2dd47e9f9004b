import RoutePattern.Unicode.Age
import RoutePattern.Unicode.Segment

/-!
The character classes that texts and regexes refer to, and the classes that can be asked for by the
name of a Unicode property.
-/
namespace RoutePattern.Unicode

/-- White space. -/
def blank : CharSet :=
  CharSet.ofRanges [(0x9, 0xD), (0x20, 0x20), (0x85, 0x85), (0xA0, 0xA0), (0x1680, 0x1680),
    (0x2000, 0x200A), (0x2028, 0x2029), (0x202F, 0x202F), (0x205F, 0x205F), (0x3000, 0x3000)]

def alphabetic : CharSet := (property? "alphabetic").getD CharSet.empty

/-- The characters of words: letters, marks, decimal digits, connectors, and the two joiners. -/
def word : CharSet :=
  (alphabetic.union (category?.all ["mn", "mc", "me", "nd", "pc"])).union
    (CharSet.ofRanges [(0x200C, 0x200D)])

/-- Letters and numbers of all scripts. -/
def alphanumeric : CharSet :=
  alphabetic.union (category?.all ["nd", "nl", "no"])

/-- The normal form of a property's name: lower case, without blanks, dashes and low lines, and
without a leading `is` — except in `isc`, which is a name of its own. -/
def normalName (name : List Char) : List Char :=
  let isStart := match name with
    | a :: b :: _ => (a = 'i' || a = 'I') && (b = 's' || b = 'S')
    | _ => false
  let rest := if isStart then name.drop 2 else name
  let kept := (rest.filter fun c => !(c = ' ' || c = '_' || c = '-') && c.toNat < 128).map Char.toLower
  if isStart && kept = ['c'] then ['i', 's', 'c'] else kept

/-- The class named by a property, a category or a script. -/
def named? (name : List Char) : Option CharSet :=
  property? (String.ofList (normalName name))

/-- The class of the characters for which a property has a given value. -/
def valued? (name value : List Char) : Option CharSet :=
  let value := String.ofList (normalName value)
  match String.ofList (normalName name) with
  | "gc" | "generalcategory" => category? value
  | "sc" | "script" => script? value
  | "scx" | "scriptextensions" => scriptExtensions? value
  | "age" => age? value
  | "gcb" | "graphemeclusterbreak" => cluster? value
  | "wb" | "wordbreak" => wordPart? value
  | "sb" | "sentencebreak" => sentencePart? value
  | _ => none

end RoutePattern.Unicode
