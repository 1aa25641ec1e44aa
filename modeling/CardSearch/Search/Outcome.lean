import CardSearch.Card.Validation
/-!
The outcome of one search: the ids that match, or the signal that the search was cleared, which is not
the same as a search that matches nothing.
-/
namespace CardSearch

structure Outcome where
  cleared : Bool
  /-- The ids that match, each once, in the order in which they are visited. -/
  matchingIds : List CardId
  query : String
deriving Repr, DecidableEq

namespace Outcome

def clear : Outcome := ⟨true, [], ""⟩

def subject : String := "SearchOutcome"

def insertNew {α : Type} (same : α → α → Bool) (items : List α) (item : α) : List α :=
  if items.any (same item) then items else items ++ [item]

def distinct {α : Type} (same : α → α → Bool) (items : List α) : List α :=
  items.foldl (insertNew same) []

/-- The ids of a collection, with the faults of all that are none. `index` is the position of the
first. -/
def readIds : (index : Nat) → List Value → Except (List Fault) (List CardId)
  | _, [] => .ok []
  | index, value :: values =>
    let later := readIds (index + 1) values
    match Card.readId value, later with
    | .ok id, .ok ids => .ok (id :: ids)
    | .ok _, .error faults => .error faults
    | .error here, .ok _ => .error (here.map (Fault.under (toString index)))
    | .error here, .error faults => .error (here.map (Fault.under (toString index)) ++ faults)

def readIdSet : Option Value → Except (List Fault) (List CardId)
  | none => .ok []
  | some (.list items) | some (.tuple items) | some (.set items) =>
    (readIds 0 items).map (distinct (· == ·))
  | some _ => .error [⟨[], .notSet⟩]

def readCleared : Option Value → Except (List Fault) Bool
  | none => .error [⟨[], .missing⟩]
  | some value => (Validation.truth value).mapError fun misfit => [⟨[], misfit⟩]

def readQuery : Option Value → Except (List Fault) String
  | none => .ok ""
  | some value => (Validation.text value).mapError fun misfit => [⟨[], misfit⟩]

def faultsOf {α : Type} (field : String) : Except (List Fault) α → List Fault
  | .ok _ => []
  | .error faults => faults.map (Fault.under field)

/-- The outcome with these fields; fields that outcomes do not have are ignored. -/
def ofFields (fields : List (String × Value)) : Except Invalid Outcome :=
  let cleared := readCleared (Value.lookup "cleared" fields)
  let ids := readIdSet (Value.lookup "matching_ids" fields)
  let query := readQuery (Value.lookup "query" fields)
  match cleared, ids, query with
  | .ok cleared, .ok ids, .ok query => .ok ⟨cleared, ids, query⟩
  | cleared, ids, query =>
    .error ⟨subject,
      faultsOf "cleared" cleared ++ faultsOf "matching_ids" ids ++ faultsOf "query" query⟩

def ofMatches (query : String) (ids : List Value) : Except Invalid Outcome :=
  match readIdSet (some (.set ids)) with
  | .ok ids => .ok ⟨false, ids, query⟩
  | .error faults => .error ⟨subject, faults.map (Fault.under "matching_ids")⟩

def ofValue : Value → Except Invalid Outcome
  | .object fields => ofFields fields
  | _ => .error ⟨subject, [⟨[], .notObject subject⟩]⟩

/-- Whether a value is one of the matching ids. A value that cannot be in a set is refused with its
kind. -/
def contains? (value : Value) (outcome : Outcome) : Except String Bool :=
  match value.changeable? with
  | some kind => .error kind
  | none => .ok (outcome.matchingIds.any fun id => id.toValue.same value)

end Outcome

end CardSearch
