import CardSearch.Query.Evaluate
import CardSearch.Query.Wildcard
import CardSearch.Text.LetterCase
import CardSearch.Value
/-!
Queries as a whole: their normal form, and whether a query holds of a text.
-/
namespace CardSearch.Query

def normalize (raw : Text) : Text := Text.lower (Text.trim raw)

def holdsLiterally (query text : Text) : Bool :=
  Id.run (evaluate (fun term text => pure (matchesLiterally term text)) (Text.lower text)
    (Text.lower query))

def holds (mode : WildcardMode) (query text : Text) : TermM Bool :=
  match mode with
  | .literal => return holdsLiterally query text
  | .pattern => evaluate matchesPattern (Text.lower text) (Text.lower query)

/-- Whether a query that is one proximity clause holds of a text; any other query does not. -/
def holdsAsProximity (mode : WildcardMode) (query text : Text) : TermM Bool :=
  match Proximity.read? query query with
  | some clause => clause.evaluate (matchesTerm mode) text
  | none => return false

end CardSearch.Query
