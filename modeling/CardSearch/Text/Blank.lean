import CardSearch.Text.Basic
import CardSearch.Text.Range
/-!
White space: the blank characters, trimming, and the words between them.
-/
namespace CardSearch.Text

/-- The blank characters of Unicode, the four information separators included. -/
def blankRanges : List (Nat × Nat) := [
  (0x9, 0xd), (0x1c, 0x20), (0x85, 0x85), (0xa0, 0xa0), (0x1680, 0x1680), (0x2000, 0x200a),
  (0x2028, 0x2029), (0x202f, 0x202f), (0x205f, 0x205f), (0x3000, 0x3000)]

def isBlank (c : Char) : Bool := inRanges blankRanges c.toNat

def trimStart (text : Text) : Text := text.dropWhile isBlank

def trimEnd (text : Text) : Text := (text.reverse.dropWhile isBlank).reverse

def trim (text : Text) : Text := trimEnd (trimStart text)

/-- The words of `text` as `mask` shows them: the maximal stretches where the mask is not blank. -/
def wordsAlong : (text mask : Text) → List Text
  | c :: text, m :: mask =>
    if isBlank m then wordsAlong text mask
    else
      match mask with
      | [] => [[c]]
      | n :: _ =>
        if isBlank n then [c] :: wordsAlong text mask
        else
          match wordsAlong text mask with
          | [] => [[c]]
          | word :: words => (c :: word) :: words
  | _, _ => []

def words (text : Text) : List Text := wordsAlong text text

theorem trimStart_length_le (text : Text) : (trimStart text).length ≤ text.length :=
  (List.dropWhile_sublist _).length_le

theorem trimEnd_length_le (text : Text) : (trimEnd text).length ≤ text.length := by
  have := (List.dropWhile_sublist isBlank (l := text.reverse)).length_le
  simpa [trimEnd] using this

theorem trim_sublist (text : Text) : (trim text).Sublist text := by
  refine List.Sublist.trans ?_ (List.dropWhile_sublist isBlank)
  have := List.dropWhile_sublist isBlank (l := (trimStart text).reverse)
  simpa [trim, trimEnd, trimStart] using this.reverse

end CardSearch.Text
