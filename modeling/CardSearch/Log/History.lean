import CardSearch.Log.Context
/-!
What happens to the context of log records over time. At first there is none.
-/
namespace CardSearch.Log.Context

inductive Event where
  | set (traceId spanId : String) (extra : List (String × Value))
  | move (spanId : String)
  /-- A record asks for the context. Two numbers are at hand for the ids of a new trace. -/
  | read (trace span : Nat)
  | clear

def next (context : Option Context) : Event → Option Context
  | .set traceId spanId extra => some (ofIds traceId spanId extra)
  | .move spanId => some (withSpan spanId context)
  | .read trace span => some (read (.ofNumbers trace span) context)
  | .clear => none

/-- The context behind some events. That behind a reading is also what was read. -/
def after (events : List Event) : Option Context := events.foldl next none

theorem after_concat (events : List Event) (event : Event) :
    after (events ++ [event]) = next (after events) event := by
  rw [after, List.foldl_append, ← after]
  rfl

end CardSearch.Log.Context
