import CardSearch.Log.Record
/-!
What operations on a corpus report while they run: counts, measured times and log records.
-/
namespace CardSearch

inductive Operation where
  | search
  | serviceSearch
  | tagFilter
  | dateFilter
deriving Repr, DecidableEq

def Operation.name : Operation → String
  | search => "search"
  | serviceSearch => "service_search"
  | tagFilter => "filter_by_tag"
  | dateFilter => "filter_by_date_range"

inductive Ending where
  | cleared
  | matched
  | empty
  | superseded
deriving Repr, DecidableEq

def Ending.name : Ending → String
  | cleared => "cleared"
  | matched => "matched"
  | empty => "empty"
  | superseded => "superseded"

inductive Event where
  | counted (operation : Operation) (ending : Ending)
  | timed (operation : Operation)
  | logged (record : Log.Record)

namespace Event

def endings (operation : Operation) (ending : Ending) (events : List Event) : Nat :=
  events.countP fun
    | counted o e => o == operation && e == ending
    | _ => false

def timings (operation : Operation) (events : List Event) : Nat :=
  events.countP fun
    | timed o => o == operation
    | _ => false

def records (events : List Event) : List Log.Record :=
  events.filterMap fun
    | logged record => some record
    | _ => none

end Event

end CardSearch
