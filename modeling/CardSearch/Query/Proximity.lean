import CardSearch.Text.Blank
import CardSearch.Text.DecimalDigit
import CardSearch.Text.LetterCase
/-!
Proximity clauses: two terms joined by `near/N` or `n/N` hold where a word matching the first and a
word matching the second stand at most `N` words apart.
-/
namespace CardSearch.Query

structure Proximity where
  first : Text
  second : Text
  distance : Int
deriving Repr, DecidableEq

namespace Proximity

def dropLetters : (letters text : Text) → Option Text
  | [], text => some text
  | _ :: _, [] => none
  | letter :: letters, c :: text =>
    if Text.lowerCode c.toNat == letter.toNat then dropLetters letters text else none

def dropMarker (text : Text) : Option Text :=
  (dropLetters ['n', 'e', 'a', 'r', '/'] text).or (dropLetters ['n', '/'] text)

/-- How many of the blanks that end a clause's marker belong to the marker, if the clause ends in
`tail`. The second term starts behind them; it is not empty and holds no newline, so it keeps the
last blank where nothing else follows. -/
def gapBefore (blanks tail : Text) : Option Nat :=
  if tail.isEmpty then
    match blanks.reverse with
    | last :: _ :: _ => if last == '\n' then none else some (blanks.length - 1)
    | _ => none
  else if tail.contains '\n' then none
  else some blanks.length

/-- The marker of a clause and where the second term starts, in characters from the marker. -/
structure Marker where
  digits : Text
  width : Nat
deriving Repr, DecidableEq

/-- The marker that starts here: blanks, `near/` or `n/`, digits, and blanks before a second term. -/
def marker? (text : Text) : Option Marker := do
  let keyword := text.dropWhile Text.isBlank
  if keyword.length = text.length then none
  let numeral ← dropMarker keyword
  let digits := numeral.takeWhile Text.isDigit
  if digits.isEmpty then none
  let gap := numeral.drop digits.length
  let blanks := gap.takeWhile Text.isBlank
  let inside ← gapBefore blanks (gap.drop blanks.length)
  if inside = 0 then none
  return ⟨digits, text.length - gap.length + inside⟩

/-- The first marker behind at least one character, with its offset; no newline lies in front. -/
def findMarker? (offset : Nat) : Text → Option (Nat × Marker)
  | [] => none
  | c :: rest =>
    if c == '\n' then none
    else
      match marker? rest with
      | some marker => some (offset + 1, marker)
      | none => findMarker? (offset + 1) rest

/-- Reads a whole query as one clause. Its marker is looked for in the mask, which must have the
query's length; the terms are cut from the query. A distance of too many digits makes no clause. -/
def read? (query mask : Text) : Option Proximity := do
  -- no marker is written without a slash
  if mask.length ≠ query.length || !mask.contains '/' then none
  let (start, marker) ← findMarker? 0 mask
  if marker.digits.length > Text.maxNumeralDigits then none
  let distance ← Text.numeral? marker.digits
  return {
    first := Text.trim (query.take start)
    second := Text.trim (query.drop (start + marker.width))
    distance }

end Proximity

def nearest? (anchor : Int) : List Int → Option Int
  | [] => none
  | p :: positions =>
    match nearest? anchor positions with
    | some q => if (q - anchor).natAbs < (p - anchor).natAbs then some q else some p
    | none => some p

/-- Some position of the first list has its nearest position of the second within the distance. -/
def withinDistance (first second : List Int) (distance : Int) : Bool :=
  first.any fun anchor =>
    match nearest? anchor second with
    | some p => ((p - anchor).natAbs : Int) ≤ distance
    | none => false

variable {m : Type → Type} [Monad m]

def positionsFrom (test : Text → m Bool) : (index : Nat) → List Text → m (List Int)
  | _, [] => pure []
  | index, word :: words => do
    let passes ← test word
    let later ← positionsFrom test (index + 1) words
    return if passes then (index : Int) :: later else later

def Proximity.evaluate (test : (term word : Text) → m Bool) (clause : Proximity) (text : Text) :
    m Bool := do
  let words := Text.words text
  let first ← positionsFrom (test clause.first) 0 words
  let second ← positionsFrom (test clause.second) 0 words
  return withinDistance first second clause.distance

end CardSearch.Query
