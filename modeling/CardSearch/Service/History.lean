import CardSearch.Service.Run
/-!
What a run of the service leaves behind: the calls that began, those of them that asked for a
snapshot, the answers, and the result of each call. A call is known by its number in the order in
which the calls began.
-/
namespace CardSearch.Service

/-! ### Calls -/

def Step.call? : Step → Option Call
  | .start call => some call
  | _ => none

def callsOf (steps : List Step) : List Call := steps.filterMap Step.call?

def Call.isSearch : Call → Bool
  | search _ => true
  | _ => false

/-- Whether a call asks for a snapshot; the others are answered at once. -/
def Call.asks : Call → Bool
  | search raw | withTag raw => !(Search.normalized raw).isEmpty
  | createdBetween start stop => start ≤ stop

def Call.waiting (generation : Nat) : Call → Waiting
  | search raw => .search (Search.normalized raw) generation
  | withTag raw => .withTag (Search.normalized raw)
  | createdBetween start stop => .createdBetween start stop

def searchesIn (calls : List Call) : Nat := calls.countP Call.isSearch

def generationOf (calls : List Call) (number : Nat) : Nat := searchesIn (calls.take (number + 1))

def askers (calls : List Call) : List Nat := (calls.zipIdx.filter (·.1.asks)).map (·.2)

theorem Call.begin_of_asks {call : Call} (asks : call.asks = true) (generation : Nat) :
    call.begin generation = .waits (call.waiting generation) := by
  cases call <;> simp_all [Call.asks, Call.begin, waiting]

theorem Call.begin_of_not_asks {call : Call} (asks : call.asks = false) (generation : Nat) :
    ∃ answer, call.begin generation = .answered answer := by
  cases call <;> simp_all [Call.asks, Call.begin]

/-- An answer at once does not depend on the number of a search. -/
theorem Call.begin_congr {call : Call} (asks : call.asks = false) (first second : Nat) :
    call.begin first = call.begin second := by
  cases call <;> simp_all [Call.asks, Call.begin]

theorem Step.call?_eq_some_iff {s : Step} {call : Call} : s.call? = some call ↔ s = .start call := by
  cases s <;> simp [call?]

@[simp] theorem callsOf_append (a b : List Step) : callsOf (a ++ b) = callsOf a ++ callsOf b :=
  List.filterMap_append

@[simp] theorem callsOf_start (call : Call) : callsOf [.start call] = [call] := rfl

theorem callsOf_singleton (s : Step) : callsOf [s] = s.call?.toList := by
  cases s <;> rfl

theorem callsOf_cons (s : Step) (steps : List Step) :
    callsOf (s :: steps) = callsOf [s] ++ callsOf steps :=
  callsOf_append [s] steps

theorem searchesIn_append (a b : List Call) : searchesIn (a ++ b) = searchesIn a + searchesIn b :=
  List.countP_append

theorem generationAfter_eq (generation : Nat) (call : Call) :
    generationAfter generation call = generation + searchesIn [call] := by
  cases call <;> rfl

theorem askers_concat (calls : List Call) (call : Call) :
    askers (calls ++ [call]) = askers calls ++ if call.asks then [calls.length] else [] := by
  rw [askers, List.zipIdx_append, List.filter_append, List.map_append, ← askers]
  cases asks : call.asks <;> simp [asks]

/-! ### Runs -/

def State.fresh (settings : Settings) (store : CardStore) (gated : Bool) : State :=
  { settings, store, gated }

def after (state : State) (steps : List Step) : State :=
  steps.foldl (fun state s => (step state s).1) state

/-- The answers of a run with the numbers of their calls, in the order in which they are given. -/
def answersOf (state : State) (steps : List Step) : List (Nat × Answer) :=
  (run state steps).flatMap (·.2.answers)

def eventsOf (state : State) (steps : List Step) : List Event := (run state steps).flatMap (·.2.events)

def spansOf (state : State) (steps : List Step) : List Trace.Span := (run state steps).flatMap (·.2.spans)

def resultOf (state : State) (steps : List Step) (number : Nat) :
    Option (Except CallFailure (Option Outcome)) :=
  ((answersOf state steps).lookup number).map Answer.result

/-- In the step `s` behind the steps `before` a call gets the snapshot that it asked for. -/
inductive ReadGoesOn (start : State) (before : List Step) : (s : Step) → (number : Nat) → Prop
  | released {snapshot number : Nat} (gated : start.gated = true)
      (asked : (askers (callsOf before))[snapshot]? = some number)
      (unanswered : resultOf start before number = none) :
      ReadGoesOn start before (.release snapshot) number
  | atOnce {call : Call} (open' : start.gated = false) (asks : call.asks = true) :
      ReadGoesOn start before (.start call) (callsOf before).length

@[simp] theorem after_nil (state : State) : after state [] = state := rfl

@[simp] theorem after_cons (state : State) (s : Step) (steps : List Step) :
    after state (s :: steps) = after (step state s).1 steps :=
  rfl

@[simp] theorem after_append (state : State) (a b : List Step) :
    after state (a ++ b) = after (after state a) b :=
  List.foldl_append

@[simp] theorem answersOf_nil (state : State) : answersOf state [] = [] := rfl

theorem answersOf_cons (state : State) (s : Step) (steps : List Step) :
    answersOf state (s :: steps) = (step state s).2.answers ++ answersOf (step state s).1 steps :=
  rfl

theorem answersOf_append (state : State) (a b : List Step) :
    answersOf state (a ++ b) = answersOf state a ++ answersOf (after state a) b := by
  induction a generalizing state with
  | nil => rfl
  | cons s a ih => rw [List.cons_append, answersOf_cons, ih, answersOf_cons, List.append_assoc]; rfl

theorem answersOf_concat (state : State) (steps : List Step) (s : Step) :
    answersOf state (steps ++ [s]) = answersOf state steps ++ (step (after state steps) s).2.answers := by
  rw [answersOf_append, answersOf_cons, answersOf_nil, List.append_nil]

theorem eventsOf_eq (state : State) (steps : List Step) :
    eventsOf state steps = (answersOf state steps).flatMap (·.2.events) := by
  rw [eventsOf, answersOf, List.flatMap_assoc]
  rfl

theorem spansOf_eq (state : State) (steps : List Step) :
    spansOf state steps = (answersOf state steps).flatMap (·.2.spans) := by
  rw [spansOf, answersOf, List.flatMap_assoc]
  rfl

end CardSearch.Service
