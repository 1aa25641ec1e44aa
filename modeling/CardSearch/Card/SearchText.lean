import CardSearch.Card.Basic
import CardSearch.Text.Blank
import CardSearch.Text.LetterCase
/-!
The text of a card that queries are tested on: front, back and tags in lower case, one space between
them, without blanks at either end.
-/
namespace CardSearch

inductive Entry where
  | card (card : Card)
  | raw (value : Value)
deriving Repr

namespace Entry

/-- A text in lower case; what is absent or of another kind is empty. -/
def lowered : Option Value → Text
  | some (.text text) => Text.lower text.toList
  | _ => []

def text? : Value → Option Text
  | .text text => some text.toList
  | _ => none

def loweredTags : Option Value → Text
  | some (.text tag) => Text.lower tag.toList
  | some (.list items) | some (.tuple items) | some (.set items) =>
    Text.lower (Text.joinWith [' '] (items.filterMap text?))
  | _ => []

/-- The back of data that was never checked: `back_text` counts only where `backText` is missing. -/
def backOf (fields : List (String × Value)) : Option Value :=
  match Value.lookup "backText" fields with
  | some back => some back
  | none => Value.lookup "back_text" fields

def joinParts (front back tags : Text) : Text :=
  Text.trim (Text.joinWith [' '] [front, back, tags])

/-- The search text of a member. What is neither a card nor has fields has none. -/
def searchText : Entry → Text
  | card c =>
    joinParts (lowered (c.text.map .text)) (lowered (c.backText.map .text))
      (loweredTags (some (.tuple (c.tags.map .text))))
  | raw (.object fields) =>
    joinParts (lowered (Value.lookup "text" fields)) (lowered (backOf fields))
      (loweredTags (Value.lookup "tags" fields))
  | raw _ => []

/-- The id of a member; members without one are skipped by a search. -/
def id? : Entry → Option Value
  | card c => some c.id.toValue
  | raw (.object fields) =>
    match Value.lookup "id" fields with
    | some .null => none
    | id => id
  | raw _ => none

end Entry

end CardSearch
