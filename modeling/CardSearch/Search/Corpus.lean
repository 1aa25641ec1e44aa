import CardSearch.Card.SearchText
import CardSearch.Query.Basic
import CardSearch.Search.Event
import CardSearch.Search.Outcome
/-!
Searching a corpus: a query is tested on the search text of every member that has an id, and the ids of
those it holds of are the outcome. Ids of unchecked members are put together by the equality of values
before they are checked.
-/
namespace CardSearch.Search

open Query (WildcardMode TermM)

inductive Failure where
  /-- A matching member has an id that cannot be in a set, of this kind. -/
  | changeableId (kind : String)
  | invalid (invalid : Invalid)
  | term (fault : Pattern.Fault)
deriving Repr, DecidableEq

namespace Failure

def changeableMessage (kind : String) : String := "unhashable type: '" ++ kind ++ "'"

def raised : Failure → Raised
  | .changeableId kind => ⟨"TypeError", changeableMessage kind⟩
  | .invalid faults => ⟨"ValidationError", faults.report⟩
  | .term fault => ⟨"ValueError", fault.message []⟩

end Failure

/-- The normal form of a query as handed over; what is no text counts as empty. -/
def normalized : Value → Text
  | .text raw => Query.normalize raw.toList
  | _ => []

abbrev SearchM := ExceptT Failure (StateM (List Query.Rejection))

def holds (mode : WildcardMode) (query text : Text) : SearchM Bool :=
  (Query.holds mode query text).adapt .term

def addId (found : List Value) (id : Value) : Except Failure (List Value) :=
  match id.changeable? with
  | some kind => .error (.changeableId kind)
  | none => .ok (Outcome.insertNew Value.same found id)

def collect (mode : WildcardMode) (query : Text) : (found : List Value) → List Entry →
    SearchM (List Value)
  | found, [] => return found
  | found, entry :: entries =>
    match entry.id? with
    | none => collect mode query found entries
    | some id => do
      -- whether an id can be in a set is only asked where its member matches
      if ← holds mode query entry.searchText then
        collect mode query (← (addId found id : Except Failure (List Value))) entries
      else collect mode query found entries

def logger : String := "card_query.search.orchestrator"

def termLogger : String := "card_query.search.matcher"

def rejectionRecord (rejection : Query.Rejection) : Log.Record :=
  { logger := termLogger, level := .debug, template := rejection.message }

def matchedRecord (query : Text) (count : Nat) : Log.Record :=
  { logger, level := .debug, template := "Query %r matched %d cards"
    arguments := [.text (String.ofList query), .int count] }

def run (mode : WildcardMode) (query : Text) (entries : List Entry) :
    List Event × Except Failure Outcome :=
  let (result, rejections) := (collect mode query [] entries).run []
  let events := rejections.reverse.map (fun rejection => .logged (rejectionRecord rejection)) ++
    [.timed .search]
  match result with
  | .error failure => (events, .error failure)
  | .ok found =>
    (events ++ [.counted .search (if found.isEmpty then .empty else .matched),
        .logged (matchedRecord query found.length)],
      (Outcome.ofMatches (String.ofList query) found).mapError .invalid)

/-- Searches a corpus for a query as typed. An empty query clears the search. -/
def search (mode : WildcardMode) (raw : Value) (entries : List Entry) :
    List Event × Except Failure Outcome :=
  let query := normalized raw
  if query.isEmpty then ([.counted .search .cleared], .ok .clear) else run mode query entries

end CardSearch.Search
