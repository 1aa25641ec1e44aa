import CardSearch.Text.Blank
import CardSearch.Text.DecimalDigit
/-!
Signed whole numbers as they are written: blanks around, one sign, decimal digits of any script, and
single underscores between digits.
-/
namespace CardSearch.Text

/-- The digits of a numeral without its underscores, of which each stands between two digits. -/
def ungrouped? : Text → Option Text
  | [] => some []
  | [c] => if isDigit c then some [c] else none
  | c :: '_' :: rest =>
    if isDigit c && !rest.isEmpty then (ungrouped? rest).map (c :: ·) else none
  | c :: d :: rest => if isDigit c then (ungrouped? (d :: rest)).map (c :: ·) else none

def integer? (text : Text) : Option Int := do
  let (negative, body) :=
    match trim text with
    | '-' :: rest => (true, rest)
    | '+' :: rest => (false, rest)
    | rest => (false, rest)
  let digits ← ungrouped? body
  if digits.isEmpty || digits.length > maxNumeralDigits then none
  let magnitude ← numeral? digits
  return if negative then -magnitude else magnitude

end CardSearch.Text
