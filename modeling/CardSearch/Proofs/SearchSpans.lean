import CardSearch.Proofs.Origin
/-!
The spans that a run of the service leaves. A search whose query is not empty has one span, which ends
when the call is answered, however that comes about. Main statement: the finished spans are those of the
answered searches, in the order of their answers, and they tell by what error a search was left.
-/
namespace CardSearch.Service

def closedAnswers (state : State) (steps : List Step) : List (Nat × Answer) :=
  answersOf state steps ++ (close (after state steps)).2.answers

def closedSpans (state : State) (steps : List Step) : List Trace.Span :=
  spansOf state steps ++ (close (after state steps)).2.spans

/-! ### What a span is to tell -/

/-- The query that a call searches for. Filters have none, and an empty query is not searched for. -/
def Call.searched? : Call → Option Text
  | search raw => if (Search.normalized raw).isEmpty then none else some (Search.normalized raw)
  | withTag _ | createdBetween .. => none

/-- The error that a call is left by. A cancellation is none. -/
def leaving? : Except CallFailure (Option Outcome) → Option Raised
  | .ok _ | .error .cancelled => none
  | .error failure => some failure.raised

/-- The finished span of a search with this result: it has no span around it, counts the characters of
the query, and records the error that the search was left by twice. -/
def finishedSpan (query : Text) (result : Except CallFailure (Option Outcome)) : Trace.Span where
  name := "card_query.search"
  parent := none
  attributes := [("query.length", .int query.length)]
  status := if (leaving? result).isSome then .error else .unset
  description := (leaving? result).map Trace.describe
  errors := (leaving? result).toList.flatMap fun raised => [raised, raised]

def spanOf? (calls : List Call) (given : Nat × Answer) : Option Trace.Span :=
  calls[given.1]?.bind fun call => call.searched?.map (finishedSpan · given.2.result)

/-! ### The span of one answer -/

theorem searched?_of_asks {raw : Value} (asks : (Call.search raw).asks = true) :
    (Call.search raw).searched? = some (Search.normalized raw) := by
  have shown : (Search.normalized raw).isEmpty = false := by simpa [Call.asks] using asks
  rw [Call.searched?, shown]
  rfl

theorem leftBy_searchSpan (query : Text) (failure : CallFailure) :
    (searchSpan query).leftBy failure.raised = finishedSpan query (.error failure) := by
  cases failure with
  | invertedRange start stop => rfl
  | store failure => cases failure <;> rfl
  | search failure => cases failure <;> rfl
  | cancelled => rfl

theorem spans_of_begin {call : Call} {generation : Nat} {answer : Answer}
    (begun : call.begin generation = .answered answer) :
    answer.spans = (call.searched?.map (finishedSpan · answer.result)).toList := by
  cases call <;> rw [Call.begin] at begun <;> split at begun <;> cases begun <;>
    simp_all [Call.searched?]

theorem spans_of_fail {call : Call} (asks : call.asks = true) (generation : Nat)
    (failure : CallFailure) :
    let answer := (call.waiting generation).fail failure
    answer.spans = (call.searched?.map (finishedSpan · answer.result)).toList := by
  cases call with
  | search raw =>
    rw [searched?_of_asks asks]
    exact congrArg (fun span => [span]) (leftBy_searchSpan (Search.normalized raw) failure)
  | withTag raw => rfl
  | createdBetween start stop => rfl

theorem spans_of_answerSearch (settings : Settings) (latest : Nat) (query : Text) (generation : Nat)
    (cards : List Card) :
    (answerSearch settings latest query generation cards).spans =
      [finishedSpan query (answerSearch settings latest query generation cards).result] := by
  rw [answerSearch]
  dsimp only
  split
  · rfl
  · split
    · rename_i failure _
      exact congrArg (fun span => [span]) (leftBy_searchSpan query (.search failure))
    · rfl

theorem spans_of_answer {call : Call} (asks : call.asks = true) (settings : Settings)
    (latest generation : Nat) (cards : List Card) :
    let answer := (call.waiting generation).answer settings latest cards
    answer.spans = (call.searched?.map (finishedSpan · answer.result)).toList := by
  cases call with
  | search raw =>
    rw [searched?_of_asks asks]
    exact spans_of_answerSearch ..
  | withTag raw => rfl
  | createdBetween start stop => rfl

/-! ### The spans of a run -/

variable {settings : Settings} {store : CardStore} {gated : Bool} {steps : List Step}

theorem spans_of_mem {given : Nat × Answer}
    (there : given ∈ answersOf (.fresh settings store gated) steps) :
    given.2.spans = (spanOf? (callsOf steps) given).toList := by
  obtain ⟨before, s, later, call, -, begun, origin⟩ := exists_givenIn there
  rw [spanOf?, begun, Option.bind_some]
  generalize given.2 = answer at origin ⊢
  -- only a call that asks for a snapshot has opened its span before the step that answers it
  cases origin with
  | atOnce begins newest begun => exact spans_of_begin begun
  | read goesOn asks => exact spans_of_answer asks ..
  | failed fails asks => exact spans_of_fail asks ..
  | cancelled cancels asks => exact spans_of_fail asks ..

theorem spans_of_mem_close {given : Nat × Answer}
    (there : given ∈ (close (after (.fresh settings store gated) steps)).2.answers) :
    given.2.spans = (spanOf? (callsOf steps) given).toList := by
  obtain ⟨task, waits, rfl⟩ := List.mem_map.mp there
  obtain ⟨call, begun, asks, waiting⟩ :=
    (isTask_of_mem settings store gated steps (List.mem_filter.mp waits).1).1.call
  rw [spanOf?, begun, Option.bind_some, waiting]
  exact spans_of_fail asks ..

theorem flatMap_spans {calls : List Call} {answers : List (Nat × Answer)}
    (each : ∀ given ∈ answers, given.2.spans = (spanOf? calls given).toList) :
    answers.flatMap (·.2.spans) = answers.filterMap (spanOf? calls) := by
  rw [List.filterMap_eq_flatMap_toList]
  exact List.flatMap_congr each

theorem numbers_close (state : State) :
    (close state).2.answers.map (·.1) = state.tasks.map Task.number := by
  simp [close, settle]

/-- The finished spans of a run are those of its answered searches in the order of their answers, and
each call is answered at most once. When the run is closed, every call has been answered once. -/
theorem spans_match_searches (settings : Settings) (store : CardStore) (gated : Bool)
    (steps : List Step) :
    let start := State.fresh settings store gated
    spansOf start steps = (answersOf start steps).filterMap (spanOf? (callsOf steps)) ∧
    ((answersOf start steps).map (·.1)).Nodup ∧
    closedSpans start steps = (closedAnswers start steps).filterMap (spanOf? (callsOf steps)) ∧
    ((closedAnswers start steps).map (·.1)).Perm (List.range (callsOf steps).length) := by
  intro start
  have spans : spansOf start steps = (answersOf start steps).filterMap (spanOf? (callsOf steps)) := by
    rw [spansOf_eq]
    exact flatMap_spans fun _ => spans_of_mem
  refine ⟨spans, nodup_answered settings store gated steps, ?_, ?_⟩
  · rw [closedSpans, closedAnswers, List.filterMap_append, spans, Report.spans]
    exact congrArg _ (flatMap_spans fun _ => spans_of_mem_close)
  · rw [closedAnswers, List.map_append, numbers_close]
    exact answered_or_waiting settings store gated steps

end CardSearch.Service
