import CardSearch.Log.Level
import CardSearch.Log.Template
/-!
Log records: who logs, how urgent it is, a message template with its arguments, further named values
and the error that is being handled, if any.
-/
namespace CardSearch

structure Raised where
  kind : String
  text : String
deriving Repr, DecidableEq, Inhabited

def Raised.ownKinds : List String := ["CardQueryError", "CardStoreError"]

def Raised.qualifiedKind (raised : Raised) : String :=
  if Raised.ownKinds.contains raised.kind then "card_query.errors." ++ raised.kind else raised.kind

/-- An error raised with a message. A missing name is shown between quotes. -/
def Raised.ofMessage (kind message : String) : Raised :=
  ⟨kind, if kind = "KeyError" then Value.quotedString message else message⟩

namespace Log

structure Record where
  logger : String
  level : Level
  template : String
  arguments : List Value := []
  extra : List (String × Value) := []
  raised : Option Raised := none
deriving Inhabited

def Record.message (record : Record) : Except TemplateFault String :=
  fill record.template record.arguments

end Log

end CardSearch
