import CardSearch.Log.History
import Mathlib.Data.List.Basic
import Mathlib.Data.List.Induction
/-!
The context of log records and the current span. A context that has a trace follows its span; one that
has none is replaced when it is read, and its span is lost. Main statement: the exact histories behind
which a context follows a move to another span, and what is read behind all others.
-/
namespace CardSearch.Log

theorem FreshIds.traceId_ofNumbers_ne_empty (trace span : Nat) : (ofNumbers trace span).traceId ≠ "" := by
  intro empty
  have digits := congrArg String.toList empty
  rw [ofNumbers, String.toList_ofList] at digits
  exact absurd digits (by simp [Text.hexDigits])

namespace Context

/-! ### Traces -/

/-- Whether an event leaves a context with a trace, if that does not depend on the context before. -/
def Event.leavesTrace? : Event → Option Bool
  | .set traceId _ _ => some (traceId != "")
  | .move _ => none
  | .read _ _ => some true
  | .clear => some false

/-- Whether a history leaves a context with a trace: the last event other than a move decides. -/
def leavesTrace (events : List Event) : Bool :=
  (events.reverse.findSome? Event.leavesTrace?).getD false

theorem leavesTrace_concat (events : List Event) (event : Event) :
    leavesTrace (events ++ [event]) = event.leavesTrace?.getD (leavesTrace events) := by
  rw [leavesTrace, List.reverse_concat, List.findSome?_cons, leavesTrace]
  cases event.leavesTrace? <;> rfl

theorem hasTrace_ofIds (traceId spanId : String) (extra : List (String × Value)) :
    (ofIds traceId spanId extra).hasTrace = (traceId != "") := rfl

theorem hasTrace_withSpan (spanId : String) (context : Option Context) :
    (withSpan spanId context).hasTrace = context.any hasTrace := by
  cases context <;> rfl

theorem hasTrace_read (trace span : Nat) (context : Option Context) :
    (read (.ofNumbers trace span) context).hasTrace = true := by
  have fresh : ∀ extra, (ofIds (FreshIds.ofNumbers trace span).traceId
      (FreshIds.ofNumbers trace span).spanId extra).hasTrace = true := by
    intro extra
    rw [hasTrace_ofIds, bne_iff_ne]
    exact FreshIds.traceId_ofNumbers_ne_empty trace span
  cases context with
  | none => exact fresh []
  | some context =>
    rw [read]
    split
    · assumption
    · exact fresh []

theorem hasTrace_next (context : Option Context) (event : Event) :
    (next context event).any hasTrace = event.leavesTrace?.getD (context.any hasTrace) := by
  cases event with
  | set traceId spanId extra => rfl
  | move spanId => exact hasTrace_withSpan spanId context
  | read trace span => exact hasTrace_read trace span context
  | clear => rfl

theorem hasTrace_after (events : List Event) : (after events).any hasTrace = leavesTrace events := by
  induction events using List.reverseRecOn with
  | nil => rfl
  | append_singleton events event ih => rw [after_concat, hasTrace_next, ih, leavesTrace_concat]

/-! ### Moves -/

variable {context : Option Context}

theorem read_withSpan_of_trace {fresh : FreshIds} {context : Context} (trace : context.hasTrace = true)
    (spanId : String) :
    read fresh (some (withSpan spanId (some context))) = { context with spanId := some spanId } := by
  rw [read, hasTrace_withSpan, Option.any_some, trace, if_pos rfl]
  rfl

theorem read_withSpan_of_no_trace {fresh : FreshIds} (none : context.any hasTrace = false)
    (spanId : String) :
    read fresh (some (withSpan spanId context)) = ofIds fresh.traceId fresh.spanId [] := by
  rw [read, hasTrace_withSpan, none]
  rfl

/-- What is read behind a move to a span. Where the history before the move left a trace, it is the context
of that moment in the new span, with its trace and all else that it held. Otherwise it is a new context
without the span, unless the id at hand for a new span is that very id. -/
theorem read_behind_move (before : List Event) (spanId : String) (trace span : Nat) :
    ∃ seen, after (before ++ [.move spanId, .read trace span]) = some seen ∧
      (seen.spanId = some spanId ↔
        leavesTrace before = true ∨ (FreshIds.ofNumbers trace span).spanId = spanId) ∧
      (∀ context, after before = some context → context.hasTrace = true →
        seen.spanId = some spanId ∧ seen.traceId = context.traceId ∧ seen.extra = context.extra) ∧
      (leavesTrace before = false →
        seen = ofIds (FreshIds.ofNumbers trace span).traceId (FreshIds.ofNumbers trace span).spanId []) := by
  have state : after (before ++ [.move spanId, .read trace span]) =
      some (read (.ofNumbers trace span) (some (withSpan spanId (after before)))) := by
    rw [List.append_cons, after_concat, after_concat]
    rfl
  rw [← hasTrace_after]
  refine ⟨_, state, ?_⟩
  cases held : (after before).any hasTrace with
  | true =>
    obtain ⟨context, there, has⟩ := (Option.any_eq_true ..).mp held
    rw [there, read_withSpan_of_trace has]
    refine ⟨by simp, ?_, by simp⟩
    rintro _ ⟨⟩ _
    exact ⟨rfl, rfl, rfl⟩
  | false =>
    rw [read_withSpan_of_no_trace held]
    refine ⟨by simp [ofIds], ?_, fun _ => rfl⟩
    intro context there has
    rw [there, Option.any_some, has] at held
    contradiction

/-- A move behind a whole context that was read once. -/
theorem read_behind_second_span :
    (Context.ofIds "t" "a" [("user", .text "u")]).hasTrace = true ∧
      ∃ seen, after ([.set "t" "a" [("user", .text "u")], .read 1 2] ++ [.move "b", .read 3 4]) =
        some seen ∧ seen.spanId = some "b" ∧ seen.traceId = some "t" ∧
          seen.extra = [("user", .text "u")] := by
  refine ⟨rfl, ?_⟩
  obtain ⟨seen, state, -, kept, -⟩ :=
    read_behind_move [.set "t" "a" [("user", .text "u")], .read 1 2] "b" 3 4
  exact ⟨seen, state, kept _ rfl rfl⟩

/-- Without a context before it, the first span is lost when the context is read. -/
theorem first_span_is_lost :
    "s" ≠ "" ∧ ¬ ∃ seen, after [.move "s", .read 1 2] = some seen ∧ seen.spanId = some "s" := by
  refine ⟨by decide, ?_⟩
  rintro ⟨seen, state, span⟩
  cases state
  exact absurd span (by decide)

end Context

end CardSearch.Log
