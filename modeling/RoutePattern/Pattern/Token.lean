/-!
Tokens of a pattern: its characters, where a backslash and the character behind it are one token.
-/
namespace RoutePattern.Pattern

/-- What stands at one place of a pattern. -/
inductive Symbol
  | plain (c : Char)
  | escaped (c : Char)
  /-- a backslash at the end of the text -/
  | dangling
deriving DecidableEq

/-- A symbol and the number of bytes before it. -/
structure Token where
  offset : Nat
  symbol : Symbol
deriving DecidableEq

/-- The tokens of a text that starts at `offset`. -/
def tokens (offset : Nat) : List Char → List Token
  | [] => []
  | ['\\'] => [⟨offset, .dangling⟩]
  | '\\' :: c :: rest => ⟨offset, .escaped c⟩ :: tokens (offset + 1 + c.utf8Size) rest
  | c :: rest => ⟨offset, .plain c⟩ :: tokens (offset + c.utf8Size) rest

end RoutePattern.Pattern
