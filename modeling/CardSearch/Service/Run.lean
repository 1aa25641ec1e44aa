import CardSearch.Service.Call
import CardSearch.Store.Memory
/-!
Runs of the search service over a store in memory. Calls, snapshots, cancellations and changes of the
store come in any order. Each waiting call has asked for one snapshot; where snapshots are held back, it
is taken when it is released, and otherwise at once.
-/
namespace CardSearch.Service

/-- A call that waits, by its number among the calls and that of its snapshot among the snapshots. -/
structure Task where
  number : Nat
  snapshot : Nat
  waiting : Waiting
deriving Repr, DecidableEq

structure State where
  settings : Settings
  store : CardStore
  gated : Bool
  generation : Nat := 0
  calls : Nat := 0
  snapshots : Nat := 0
  tasks : List Task := []

inductive Step where
  | start (call : Call)
  | release (snapshot : Nat)
  | breakOff (snapshot : Nat) (message : String)
  | cancel (call : Nat)
  | add (entry : Entry)
  | remove (id : Value)

inductive Change where
  | added (result : Except StoreFailure Unit)
  | removed (found : Bool)

/-- What one step leaves: the calls it answered by their numbers, and what the store says. -/
structure Report where
  answers : List (Nat × Answer) := []
  change : Option Change := none

def generationAfter (generation : Nat) : Call → Nat
  | .search _ => generation + 1
  | _ => generation

def startCall (call : Call) (state : State) : State × Report :=
  let generation := generationAfter state.generation call
  let begun : State := { state with generation, calls := state.calls + 1 }
  match call.begin generation with
  | .answered answer => (begun, { answers := [(state.calls, answer)] })
  | .waits waiting =>
    let asked := { begun with snapshots := state.snapshots + 1 }
    if state.gated then
      ({ asked with tasks := state.tasks ++ [⟨state.calls, state.snapshots, waiting⟩] }, {})
    else
      -- the snapshot is there at once
      (asked,
        { answers := [(state.calls, waiting.answer state.settings generation state.store.cards)] })

def settle (chosen : Task → Bool) (answer : Waiting → Answer) (state : State) : State × Report :=
  ({ state with tasks := state.tasks.filter fun task => !chosen task },
    { answers := (state.tasks.filter chosen).map fun task => (task.number, answer task.waiting) })

def step (state : State) : Step → State × Report
  | .start call => startCall call state
  | .release snapshot =>
    settle (·.snapshot == snapshot)
      (Waiting.answer state.settings state.generation state.store.cards) state
  | .breakOff snapshot message =>
    settle (·.snapshot == snapshot) (Waiting.fail (.store (.store (.failed message)))) state
  | .cancel call => settle (·.number == call) (Waiting.fail .cancelled) state
  | .add entry =>
    match state.store.add entry with
    | .ok store => ({ state with store }, { change := some (.added (.ok ())) })
    | .error failure => (state, { change := some (.added (.error failure)) })
  | .remove id =>
    ({ state with store := state.store.remove id },
      { change := some (.removed (state.store.removes id)) })

def run (state : State) : List Step → List (State × Report)
  | [] => []
  | s :: steps =>
    let next := step state s
    next :: run next.1 steps

def close (state : State) : State × Report := settle (fun _ => true) (Waiting.fail .cancelled) state

def Report.events (report : Report) : List Event := report.answers.flatMap (·.2.events)

def Report.spans (report : Report) : List Trace.Span := report.answers.flatMap (·.2.spans)

end CardSearch.Service
