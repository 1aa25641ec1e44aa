import CardSearch.Pattern.Fault
/-!
The tokens of a written pattern: single characters, and a backslash with the character it escapes.
-/
namespace CardSearch.Pattern

inductive Token where
  | plain (c : Char)
  | escaped (c : Char)
deriving Repr, DecidableEq

namespace Token

def written : Token → Text
  | plain c => [c]
  | escaped c => ['\\', c]

def length (token : Token) : Nat := token.written.length

def isPlain (holds : Char → Bool) : Token → Bool
  | plain c => holds c
  | escaped _ => false

/-- The tokens of the text from a place on; a backslash at the very end escapes nothing. -/
def readFrom (position : Nat) : Text → Except Fault (List Token)
  | [] => .ok []
  | ['\\'] => .error (.malformed .danglingEscape (some position))
  | '\\' :: c :: rest => (readFrom (position + 2) rest).map (escaped c :: ·)
  | c :: rest => (readFrom (position + 1) rest).map (plain c :: ·)

end Token

end CardSearch.Pattern
