import CardSearch.Text.Blank
/-!
The mask of a query: the same text with the content of quoted phrases blanked out. Operators and
parentheses are looked for in the mask, so that those inside phrases stay literal text. A quote
opens a phrase only at the start of a term and closes it only at the end of one, and a phrase holds
at least one character and no newline.
-/
namespace CardSearch.Query

def blankMark : Char := '_'

def isQuote (c : Char) : Bool := c == '"' || c == '\''

/-- A phrase may open after `before`, the character in front of its quote. -/
def opensAfter : (before : Option Char) → Bool
  | none => true
  | some c => Text.isBlank c || c == '('

/-- The text starts with `quote` at the end of a term. -/
def closesWith (quote : Char) : Text → Bool
  | [] => false
  | [c] => c == quote
  | c :: d :: _ => c == quote && (Text.isBlank d || d == ')')

/-- The length of the phrase that starts here, inside the opening quote. -/
def phraseLength? (quote : Char) : Text → Option Nat
  | [] => none
  | c :: rest =>
    if c == '\n' then none
    else if closesWith quote rest then some 1
    else (phraseLength? quote rest).map (· + 1)

inductive MaskScan where
  | outside (before : Option Char)
  /-- Inside a phrase, with so many characters to go before its closing quote. -/
  | inside (left : Nat)

def maskFrom : MaskScan → Text → Text
  | _, [] => []
  | .inside 0, c :: rest => c :: maskFrom (.outside (some c)) rest
  | .inside (left + 1), _ :: rest => blankMark :: maskFrom (.inside left) rest
  | .outside before, c :: rest =>
    if isQuote c && opensAfter before then
      match phraseLength? c rest with
      | some length => c :: maskFrom (.inside length) rest
      | none => c :: maskFrom (.outside (some c)) rest
    else c :: maskFrom (.outside (some c)) rest

def mask (query : Text) : Text := maskFrom (.outside none) query

theorem maskFrom_length (scan : MaskScan) (query : Text) :
    (maskFrom scan query).length = query.length := by
  fun_induction maskFrom scan query <;> simp_all

theorem mask_length (query : Text) : (mask query).length = query.length :=
  maskFrom_length _ _

private theorem maskFrom_keeps (scan : MaskScan) (query : Text) (i : Nat) (c : Char)
    (shown : (maskFrom scan query)[i]? = some c) (visible : c ≠ blankMark) :
    query[i]? = some c := by
  fun_induction maskFrom scan query generalizing i <;> cases i <;> simp_all

/-- What the mask shows, other than its blank mark, stands in the query at the same offset. -/
theorem mask_keeps {query : Text} {i : Nat} {c : Char} (shown : (mask query)[i]? = some c)
    (visible : c ≠ blankMark) : query[i]? = some c :=
  maskFrom_keeps _ _ _ _ shown visible

end CardSearch.Query
