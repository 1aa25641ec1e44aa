import CardSearch.Card.SearchText
import CardSearch.Search.Corpus
import CardSearch.Settings.Basic
import CardSearch.Store.Error
import CardSearch.Trace.Span
/-!
Calls of the search service. A call is answered at once or waits for a snapshot of the cards; when the
snapshot arrives, fails or is given up, the call is answered. A search whose snapshot arrives after a
newer search began has no outcome if only the latest search counts. The times in labels and messages
are written however many digits they have; a limit on written numbers is left out.
-/
namespace CardSearch.Service

inductive Call where
  | search (raw : Value)
  | withTag (raw : Value)
  | createdBetween (start stop : Int)

/-- A call that waits for a snapshot. A search keeps its number among all searches. -/
inductive Waiting where
  | search (query : Text) (generation : Nat)
  | withTag (wanted : Text)
  | createdBetween (start stop : Int)
deriving Repr, DecidableEq

inductive CallFailure where
  | invertedRange (start stop : Int)
  | store (failure : StoreFailure)
  | search (failure : Search.Failure)
  | cancelled
deriving Repr, DecidableEq

def CallFailure.raised : CallFailure → Raised
  | .invertedRange start stop =>
    ⟨"ValueError", "start_ms (" ++ toString start ++ ") is after end_ms (" ++ toString stop ++ ")"⟩
  | .store (.store error) => ⟨StoreError.kind, error.message⟩
  | .store .infiniteTime => ⟨"OverflowError", Card.Rejection.infiniteTimeMessage⟩
  | .store .impossiblePath => ⟨"ValueError", StoreFailure.impossiblePathMessage⟩
  | .search failure => failure.raised
  | .cancelled => ⟨Trace.cancellation, ""⟩

/-- What a call leaves: reports, finished spans, and an outcome. A superseded search has none. -/
structure Answer where
  events : List Event
  spans : List Trace.Span
  result : Except CallFailure (Option Outcome)

inductive Begun where
  | answered (answer : Answer)
  | waits (waiting : Waiting)

def logger : String := "card_query.service_layer.search_service"

def debugRecord (template : String) (arguments : List Value) : Event :=
  .logged { logger, level := .debug, template, arguments }

/-- Begins a call; a search is the one of number `generation`. -/
def Call.begin (generation : Nat) : Call → Begun
  | search raw =>
    let query := Search.normalized raw
    if query.isEmpty then
      .answered ⟨[debugRecord "Empty query; clearing search state" [],
        .counted .serviceSearch .cleared], [], .ok (some .clear)⟩
    else .waits (.search query generation)
  | withTag raw =>
    let wanted := Search.normalized raw
    if wanted.isEmpty then .answered ⟨[], [], .ok (some .clear)⟩ else .waits (.withTag wanted)
  | createdBetween start stop =>
    if start > stop then .answered ⟨[], [], .error (.invertedRange start stop)⟩
    else .waits (.createdBetween start stop)

def idsOf (cards : List Card) : List CardId := Outcome.distinct (· == ·) (cards.map Card.id)

def carries (wanted : Text) (card : Card) : Bool :=
  card.tags.any fun tag => Text.lower (Text.trim tag.toList) == wanted

def isCreatedBetween (start stop : Int) (card : Card) : Bool :=
  match card.created with
  | some time => start ≤ time && time ≤ stop
  | none => false

def searchSpan (query : Text) : Trace.Span :=
  { name := "card_query.search", attributes := [("query.length", .int query.length)] }

def supersededRecord (generation latest : Nat) : Event :=
  debugRecord "Discarding superseded search %d (latest is %d)" [.int generation, .int latest]

def matchedRecord (query : Text) (found total : Nat) : Event :=
  .logged {
    logger, level := .info, template := "Search matched %d of %d cards"
    arguments := [.int found, .int total]
    extra := [("query", .text (String.ofList query))] }

def answerSearch (settings : Settings) (latest : Nat) (query : Text) (generation : Nat)
    (cards : List Card) : Answer :=
  let span := searchSpan query
  if settings.latestOnly && generation != latest then
    ⟨[supersededRecord generation latest, .counted .serviceSearch .superseded], [span], .ok none⟩
  else
    -- the pass normalizes the query once more
    let raw := .text (String.ofList query)
    match Search.search settings.wildcards raw (cards.map .card) with
    | (events, .error failure) =>
      ⟨events, [span.leftBy failure.raised], .error (.search failure)⟩
    | (events, .ok outcome) =>
      ⟨events ++ [matchedRecord query outcome.matchingIds.length cards.length], [span],
        .ok (some outcome)⟩

def answerFilter (operation : Operation) (label : String) (cards : List Card) (record : Nat → Event) :
    Answer :=
  let ids := idsOf cards
  ⟨[.timed operation, record ids.length], [], .ok (some ⟨false, ids, label⟩)⟩

/-- Answers a waiting call whose snapshot arrived; `latest` is the number of the newest search. -/
def Waiting.answer (settings : Settings) (latest : Nat) (cards : List Card) : Waiting → Answer
  | search query generation => answerSearch settings latest query generation cards
  | withTag wanted =>
    let tag := String.ofList wanted
    answerFilter .tagFilter ("tag:" ++ tag) (cards.filter (carries wanted)) fun count =>
      debugRecord "Tag %r matched %d cards" [.text tag, .int count]
  | createdBetween start stop =>
    answerFilter .dateFilter ("created:" ++ toString start ++ ".." ++ toString stop)
      (cards.filter (isCreatedBetween start stop)) fun count =>
        debugRecord "Date range %d..%d matched %d cards" [.int start, .int stop, .int count]

def Waiting.fail (failure : CallFailure) : Waiting → Answer
  | search query _ => ⟨[], [(searchSpan query).leftBy failure.raised], .error failure⟩
  | withTag _ => ⟨[.timed .tagFilter], [], .error failure⟩
  | createdBetween .. => ⟨[.timed .dateFilter], [], .error failure⟩

end CardSearch.Service
