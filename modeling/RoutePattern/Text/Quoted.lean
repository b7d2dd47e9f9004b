import RoutePattern.Unicode.Latest

/-!
Quoted texts in messages: between double quotes, with escapes for the quote, the backslash, control
characters, and every character that could not be seen on its own.
-/
namespace RoutePattern.Text.Quoted

/-- The characters that are not shown as they are: controls, blanks other than the space, code points
without a character, those that are ignored where they cannot be shown, and marks that join the
character before them — except the two halfwidth voice marks of Japanese, which stand by themselves. -/
def hidden : CharSet :=
  let blank := (Unicode.category?.all ["cc", "cf", "co", "cn", "z"]).diff (CharSet.singleton ' ')
  let joined := (Unicode.property?.all ["graphemeextend"]).diff (CharSet.ofRanges [(0xFF9E, 0xFF9F)])
  ((blank.union (Unicode.property?.all ["defaultignorablecodepoint"])).union joined).diff
    Unicode.latestVisible

def encodeChar (c : Char) : List Char :=
  match c with
  | '"' => ['\\', '"']
  | '\\' => ['\\', '\\']
  | '\n' => ['\\', 'n']
  | '\r' => ['\\', 'r']
  | '\t' => ['\\', 't']
  | '\x00' => ['\\', '0']
  | c =>
    if hidden.contains c then ['\\', 'u', '{'] ++ Nat.toDigits 16 c.toNat ++ ['}'] else [c]

/-- The text between quotes. -/
def encode (cs : List Char) : List Char := '"' :: cs.flatMap encodeChar ++ ['"']

end RoutePattern.Text.Quoted
