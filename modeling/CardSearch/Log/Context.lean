import CardSearch.Text.Quoted
import CardSearch.Value
/-!
The context of log records: the ids of the trace and the span that records belong to. Reading a
context that has no trace replaces it by a fresh one.
-/
namespace CardSearch.Log

structure FreshIds where
  traceId : String
  spanId : String
deriving Repr, DecidableEq

def FreshIds.ofNumbers (trace span : Nat) : FreshIds :=
  ⟨String.ofList (Text.hexDigits 32 trace), String.ofList (Text.hexDigits 16 span)⟩

structure Context where
  traceId : Option String
  spanId : Option String
  extra : List (String × Value)

namespace Context

def ofIds (traceId spanId : String) (extra : List (String × Value)) : Context :=
  ⟨some traceId, some spanId, extra⟩

def hasTrace (context : Context) : Bool :=
  match context.traceId with
  | some traceId => traceId != ""
  | none => false

def read (fresh : FreshIds) : Option Context → Context
  | some context => if context.hasTrace then context else ofIds fresh.traceId fresh.spanId []
  | none => ofIds fresh.traceId fresh.spanId []

/-- Moves a context to another span; an absent context gets no trace. -/
def withSpan (spanId : String) : Option Context → Context
  | some context => { context with spanId := some spanId }
  | none => ⟨none, some spanId, []⟩

end Context

end CardSearch.Log
