import CardSearch.Card.Basic
import CardSearch.Validation
/-!
Cards from loosely shaped data. Only the id can make a card invalid, apart from times of creation that
are no finite number: other fields of the wrong shape count as absent.
-/
namespace CardSearch.Card

def idNumber : Value → Except Misfit Int
  | .bool value => .ok value.toNat
  | .int value => .ok value
  | .float value => Validation.wholeFloat value
  | .text _ | .bytes _ => .error .unreadableWhole
  | _ => .error .notWhole

def readId (value : Value) : Except (List Fault) CardId :=
  match Validation.text value with
  | .ok text => .ok (.text text)
  | .error asText =>
    match idNumber value with
    | .ok number => .ok (.number number)
    | .error asNumber => .error [⟨["str"], asText⟩, ⟨["int"], asNumber⟩]

def readText : Option Value → Option String
  | some (.text text) => some text
  | _ => none

def textsOf : List Value → List String
  | [] => []
  | .text text :: items => text :: textsOf items
  | _ :: items => textsOf items

def readTags : Option Value → List String
  | some (.text tag) => [tag]
  | some (.list items) | some (.tuple items) | some (.set items) => textsOf items
  | _ => []

inductive TimeFault where
  | notANumber
  | infinite
deriving Repr, DecidableEq

/-- A number's whole part as the time of creation; values of other kinds count as absent. -/
def readCreated : Option Value → Except TimeFault (Option Int)
  | some (.int time) => .ok (some time)
  | some (.float time) =>
    match time with
    | .notANumber => .error .notANumber
    | .infinite _ => .error .infinite
    | time => .ok time.truncate?
  | _ => .ok none

def backField (fields : List (String × Value)) : Option Value :=
  (Value.lookup "backText" fields).or (Value.lookup "back_text" fields)

inductive Rejection where
  | invalid (invalid : Invalid)
  /-- An infinite time of creation, which is not reported as a fault of the data. -/
  | infiniteTime
deriving Repr, DecidableEq

def Rejection.infiniteTimeMessage : String := "cannot convert float infinity to integer"

def subject : String := "Card"

/-- The card with these fields; fields that cards do not have are ignored. -/
def ofFields (fields : List (String × Value)) : Except Rejection Card :=
  let id : Except (List Fault) CardId :=
    match Value.lookup "id" fields with
    | none => .error [⟨[], .missing⟩]
    | some value => readId value
  match id, readCreated (Value.lookup "created" fields) with
  -- it is not caught with the other faults, and hides them
  | _, .error .infinite => .error .infiniteTime
  | .ok id, .ok created => .ok {
      id
      text := readText (Value.lookup "text" fields)
      backText := readText (backField fields)
      tags := readTags (Value.lookup "tags" fields)
      created }
  | id, created =>
    let idFaults := match id with
      | .ok _ => []
      | .error faults => faults.map (Fault.under "id")
    let timeFaults := match created with
      | .ok _ => []
      | .error _ => [⟨["created"], .refused "cannot convert float NaN to integer"⟩]
    .error (.invalid ⟨subject, idFaults ++ timeFaults⟩)

def ofValue : Value → Except Rejection Card
  | .object fields => ofFields fields
  | _ => .error (.invalid ⟨subject, [⟨[], .notObject subject⟩]⟩)

def assignmentFault (field : String) : Invalid := ⟨subject, [⟨[field], .frozen⟩]⟩

end CardSearch.Card
