import CardSearch.Log.Context
import CardSearch.Log.Record
/-!
Spans: pieces of work with a name, attributes and the way they ended. An error that leaves a span marks
it and is recorded twice, once by the work and once by the tracer; a cancellation is no error.
-/
namespace CardSearch.Trace

inductive Status where
  | unset
  | error
deriving Repr, DecidableEq

def Status.name : Status → String
  | unset => "UNSET"
  | error => "ERROR"

structure Span where
  name : String
  parent : Option String := none
  attributes : List (String × Value) := []
  status : Status := .unset
  description : Option String := none
  errors : List Raised := []

def cancellation : String := "CancelledError"

def describe (raised : Raised) : String := raised.kind ++ ": " ++ raised.text

def Span.leftBy (raised : Raised) (span : Span) : Span :=
  if raised.kind = cancellation then span
  else { span with status := .error, description := some (describe raised), errors := [raised, raised] }

def scalarKind? : Value → Option String
  | .bool b => some (Value.kindName (.bool b))
  | .int n => some (Value.kindName (.int n))
  | .float x => some (Value.kindName (.float x))
  | .text s => some (Value.kindName (.text s))
  | _ => none

def uniform (items : List Value) : Bool :=
  let kinds := (items.filter fun | .null => false | _ => true).map scalarKind?
  kinds.all (·.isSome) && kinds.all (· == kinds.head?.getD none)

def attribute? (name : String) (value : Value) : Option Value :=
  if name.isEmpty then none
  else match value with
    | .list items | .tuple items => if uniform items then some (.list items) else none
    | value => if (scalarKind? value).isSome then some value else none

def attributesOf (given : List (String × Value)) : List (String × Value) :=
  given.foldl (fun kept (name, value) =>
    match attribute? name value with
    | some value => Value.assign name value kept
    | none => kept) []

end CardSearch.Trace
