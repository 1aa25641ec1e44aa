import CardSearch.Card.Validation
/-!
The errors of card stores. Some have a cause, which stands at the end of their message.
-/
namespace CardSearch

inductive StoreError where
  | invalidCard (invalid : Invalid)
  | fileMissing (path : String)
  /-- The operating system refuses to read the file, for a reason it gives. -/
  | unreadable (path reason : String)
  | notJson (path : String)
  | notList (path : String)
  | notObject (index : Nat) (path : String)
  | invalidEntry (index : Nat) (path : String) (invalid : Invalid)
  | failed (message : String)
deriving Repr, DecidableEq

namespace StoreError

def kind : String := "CardStoreError"

def cause? : StoreError → Option Invalid
  | invalidCard invalid => some invalid
  | invalidEntry _ _ invalid => some invalid
  | _ => none

def notJsonCause : String := "the document ends early or breaks the grammar"

def messageWith (cause : String) : StoreError → String
  | invalidCard _ => "Invalid card: " ++ cause
  | fileMissing path => "Card file not found: " ++ path
  | unreadable path reason => "Card file cannot be read: " ++ path ++ ": " ++ reason
  | notJson path => "Card file is not valid JSON: " ++ path ++ ": " ++ cause
  | notList path => "Card file must hold a list of cards: " ++ path
  | notObject index path => "Card #" ++ toString index ++ " in " ++ path ++ " is not an object"
  | invalidEntry index path _ =>
    "Card #" ++ toString index ++ " in " ++ path ++ " is invalid: " ++ cause
  | failed message => message

def message (error : StoreError) : String :=
  match error.cause? with
  | some invalid => error.messageWith invalid.report
  | none => error.messageWith notJsonCause

end StoreError

/-- Why a store refuses an operation: an error of its own, or one that it does not turn into its
own. -/
inductive StoreFailure where
  | store (error : StoreError)
  | infiniteTime
  | impossiblePath
deriving Repr, DecidableEq

def StoreFailure.impossiblePathMessage : String := "embedded null byte"

end CardSearch
