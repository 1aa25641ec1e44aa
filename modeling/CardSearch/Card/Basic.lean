import CardSearch.Value
/-!
Cards: notes with a front, a back and tags, known by an id that is a text or a whole number. An id is
shown with all its digits: the limit of 4300 digits, which holds where numerals are read, is left out
where they are written.
-/
namespace CardSearch

inductive CardId where
  | text (value : String)
  | number (value : Int)
deriving Repr, DecidableEq

def CardId.shown : CardId → String
  | text value => value
  | number value => toString value

def CardId.toValue : CardId → Value
  | text value => .text value
  | number value => .int value

structure Card where
  id : CardId
  text : Option String
  backText : Option String
  tags : List String
  created : Option Int
deriving Repr, DecidableEq

end CardSearch
