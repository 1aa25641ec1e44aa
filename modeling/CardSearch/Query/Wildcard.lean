import CardSearch.Pattern.Reader
/-!
Wildcard terms. A star stands for any characters of one line, as many as possible, and the whole
term begins and ends at the edge of a word; letters of either case are alike. In pattern mode the
other characters of a term are read as a pattern too, and a term that is no pattern is taken
literally.
-/
namespace CardSearch.Query

/-- Whether the characters of a wildcard term other than the star stand for themselves. -/
inductive WildcardMode where
  | literal
  | pattern
deriving Repr, DecidableEq

def isWildcard (term : Text) : Bool := term.contains '*'

namespace Wildcard

def edge : Pattern := .anchor (.wordEdge false false)

def literalPart (c : Char) : Pattern :=
  if c == '*' then .many 0 none .most (.any false) else .one (.letter c.toNat .allScripts)

def literal (term : Text) : Pattern := Pattern.ofList (edge :: term.map literalPart ++ [edge])

def specialChars : List Char :=
  ['(', ')', '[', ']', '{', '}', '?', '*', '+', '-', '|', '^', '$', '\\', '.', '&', '~', '#', ' ',
    '\t', '\n', '\r', '\x0b', '\x0c']

def escapeChar (c : Char) : Text := if specialChars.contains c then ['\\', c] else [c]

def starText : Text := ['.', '*']

def edgeText : Text := ['\\', 'b']

/-- The written form of the literal pattern of a term. -/
def literalText (term : Text) : Text :=
  edgeText ++ term.flatMap (fun c => if c == '*' then starText else escapeChar c) ++ edgeText

/-- The written pattern that a term stands for in pattern mode. -/
def patternText (term : Text) : Text :=
  edgeText ++ term.flatMap (fun c => if c == '*' then starText else [c]) ++ edgeText

end Wildcard

/-- A wildcard term that was taken literally because it is no pattern. -/
structure Rejection where
  term : Text
  fault : Pattern.Fault
deriving Repr, DecidableEq

def Rejection.message (rejection : Rejection) : String :=
  "Wildcard term " ++ String.ofList (Text.quoted rejection.term) ++ " is not a valid regex (" ++
    rejection.fault.message (Wildcard.patternText rejection.term) ++ "); matching literally"

/-- Work that may meet wildcard terms which are no patterns. Those taken literally are kept, latest
first, also where the work fails; one whose repetition count cannot even be read as a number makes it
fail. -/
abbrev TermM := ExceptT Pattern.Fault (StateM (List Rejection))

structure CompiledTerm where
  pattern : Pattern
  written : Text
deriving Repr, DecidableEq

def compileLiteral (term : Text) : CompiledTerm :=
  ⟨Wildcard.literal term, Wildcard.literalText term⟩

def compilePattern (term : Text) : TermM CompiledTerm :=
  match Pattern.read? (Wildcard.patternText term) with
  | .ok pattern => return ⟨pattern, Wildcard.patternText term⟩
  -- the one fault that is not forgiven
  | .error (.numeralTooLong digits) => throw (.numeralTooLong digits)
  | .error fault => do
    modify (⟨term, fault⟩ :: ·)
    return compileLiteral term

def compileTerm (mode : WildcardMode) (term : Text) : TermM CompiledTerm :=
  match mode with
  | .literal => return compileLiteral term
  | .pattern => compilePattern term

/-- Whether a term matches within a text, its wildcard characters other than stars taken literally.
A term without a star matches where it occurs. -/
def matchesLiterally (term text : Text) : Bool :=
  if isWildcard term then (Wildcard.literal term).occursIn text else Text.occurs term text

def matchesPattern (term text : Text) : TermM Bool :=
  if isWildcard term then do
    let compiled ← compilePattern term
    return compiled.pattern.occursIn text
  else return Text.occurs term text

def matchesTerm (mode : WildcardMode) (term text : Text) : TermM Bool :=
  match mode with
  | .literal => return matchesLiterally term text
  | .pattern => matchesPattern term text

end CardSearch.Query
