import CardSearch.Service.History
import Mathlib.Data.List.Induction
import Mathlib.Data.List.Nodup
import Mathlib.Data.List.Perm.Basic
/-!
The calls that wait in a run. One step answers the waiting calls that it concerns and leaves the
others waiting; a call that begins is answered at once or waits from then on. Main statements: behind
every run each call that began was answered once or waits, and an answer comes from the beginning of
its call, from its snapshot, or from a failure.
-/
namespace CardSearch.Service

/-! ### One step -/

/-- The answer that a step gives to a waiting call, if the step concerns the call. -/
def Task.answerIn (state : State) (task : Task) : Step → Option Answer
  | .release snapshot =>
    if task.snapshot = snapshot then
      some (task.waiting.answer state.settings state.generation state.store.cards)
    else none
  | .breakOff snapshot message =>
    if task.snapshot = snapshot then some (task.waiting.fail (.store (.store (.failed message))))
    else none
  | .cancel number => if task.number = number then some (task.waiting.fail .cancelled) else none
  | .start _ | .add _ | .remove _ => none

def Call.answerIn (state : State) (call : Call) : Option Answer :=
  let generation := generationAfter state.generation call
  match call.begin generation with
  | .answered answer => some answer
  | .waits waiting =>
    if state.gated then none
    else some (waiting.answer state.settings generation state.store.cards)

def Call.task (state : State) (call : Call) : Task :=
  ⟨state.calls, state.snapshots, call.waiting (generationAfter state.generation call)⟩

/-- What a change of the store leaves of it; other steps leave it alone. -/
def Step.storeAfter (store : CardStore) : Step → CardStore
  | .add entry =>
    match store.add entry with
    | .ok later => later
    | .error _ => store
  | .remove id => store.remove id
  | _ => store

section

variable (state : State)

private theorem settle_answers (chosen : Task → Bool) (answer : Waiting → Answer) :
    (settle chosen answer state).2.answers = state.tasks.filterMap fun task =>
      (if chosen task then some (answer task.waiting) else none).map (Prod.mk task.number) := by
  rw [settle]
  induction state.tasks with
  | nil => rfl
  | cons task tasks ih =>
    cases here : chosen task <;> simp_all

private theorem settle_tasks (chosen : Task → Bool) (answer : Waiting → Answer) :
    (settle chosen answer state).1.tasks = state.tasks.filter fun task =>
      (if chosen task then some (answer task.waiting) else none : Option Answer).isNone := by
  rw [settle]
  apply List.filter_congr
  intro task _
  cases chosen task <;> rfl

/-- A step that begins no call answers the waiting calls that it concerns, and the others go on
waiting. -/
theorem step_settles {s : Step} (other : s.call? = none) :
    (step state s).2.answers =
        state.tasks.filterMap (fun task => (task.answerIn state s).map (Prod.mk task.number)) ∧
      (step state s).1.tasks = state.tasks.filter fun task => (task.answerIn state s).isNone := by
  cases s with
  | start call => contradiction
  | release snapshot => rw [step, settle_answers, settle_tasks]; simp [Task.answerIn]
  | breakOff snapshot message => rw [step, settle_answers, settle_tasks]; simp [Task.answerIn]
  | cancel number => rw [step, settle_answers, settle_tasks]; simp [Task.answerIn]
  | add entry => rw [step]; split <;> simp [Task.answerIn]
  | remove id => simp [step, Task.answerIn]

theorem step_start_answers (call : Call) :
    (step state (.start call)).2.answers =
      ((call.answerIn state).map (Prod.mk state.calls)).toList := by
  rw [step, startCall, Call.answerIn]
  dsimp only
  cases call.begin (generationAfter state.generation call) with
  | answered answer => rfl
  | waits waiting => cases state.gated <;> rfl

theorem step_start_tasks (call : Call) :
    (step state (.start call)).1.tasks =
      state.tasks ++ if (call.answerIn state).isNone then [call.task state] else [] := by
  rw [step, startCall, Call.answerIn]
  cases asks : call.asks with
  | false =>
    obtain ⟨answer, begun⟩ := call.begin_of_not_asks asks (generationAfter state.generation call)
    simp [begun]
  | true =>
    rw [call.begin_of_asks asks]
    cases state.gated <;> simp [Call.task]

theorem step_keeps (s : Step) :
    (step state s).1.settings = state.settings ∧ (step state s).1.gated = state.gated := by
  cases s with
  | start call => rw [step, startCall]; dsimp only; split <;> [skip; split] <;> exact ⟨rfl, rfl⟩
  | add entry => rw [step]; split <;> exact ⟨rfl, rfl⟩
  | _ => exact ⟨rfl, rfl⟩

theorem step_store (s : Step) : (step state s).1.store = s.storeAfter state.store := by
  cases s with
  | start call => rw [step, startCall]; dsimp only; split <;> [skip; split] <;> rfl
  | add entry => rw [step, Step.storeAfter]; split <;> simp_all
  | _ => rfl

theorem step_counts (s : Step) :
    (step state s).1.calls = state.calls + (callsOf [s]).length ∧
      (step state s).1.generation = state.generation + searchesIn (callsOf [s]) ∧
      (step state s).1.snapshots = state.snapshots + (callsOf [s]).countP Call.asks := by
  cases s with
  | start call =>
    rw [callsOf_start, ← generationAfter_eq, step, startCall]
    cases asks : call.asks with
    | false =>
      obtain ⟨answer, begun⟩ := call.begin_of_not_asks asks (generationAfter state.generation call)
      simp [begun, asks]
    | true =>
      rw [call.begin_of_asks asks]
      cases state.gated <;> simp [asks]
  | add entry => rw [step]; split <;> exact ⟨rfl, rfl, rfl⟩
  | _ => exact ⟨rfl, rfl, rfl⟩

end

theorem Call.answerIn_eq_none_iff {state : State} {call : Call} :
    call.answerIn state = none ↔ call.asks = true ∧ state.gated = true := by
  rw [answerIn]
  cases asks : call.asks with
  | false =>
    obtain ⟨answer, begun⟩ := call.begin_of_not_asks asks (generationAfter state.generation call)
    simp [begun]
  | true =>
    rw [call.begin_of_asks asks]
    cases state.gated <;> simp

/-! ### Numbers of calls and of snapshots -/

theorem countP_take_lt {α : Type} {items : List α} {holds : α → Bool} {item : α} {place stop : Nat}
    (there : items[place]? = some item) (here : holds item = true) (beyond : place < stop) :
    (items.take place).countP holds < (items.take stop).countP holds := by
  have next : items.take (place + 1) = items.take place ++ [item] := by
    rw [List.take_add_one, there, Option.toList_some]
  have counted : (items.take (place + 1)).countP holds = (items.take place).countP holds + 1 := by
    rw [next, List.countP_append, List.countP_singleton, if_pos here]
  have more : (items.take (place + 1)).countP holds ≤ (items.take stop).countP holds :=
    (List.take_sublist_take_left beyond).countP_le
  omega

section

variable (calls more : List Call)

theorem length_askers : (askers calls).length = calls.countP Call.asks := by
  have counted := List.countP_map (p := Call.asks) (f := Prod.fst) (l := calls.zipIdx)
  rw [List.zipIdx_map_fst] at counted
  rw [askers, List.length_map, ← List.countP_eq_length_filter, counted]
  rfl

variable {calls} in
theorem mem_askers {number : Nat} :
    number ∈ askers calls ↔ ∃ call, calls[number]? = some call ∧ call.asks = true := by
  simp only [askers, List.mem_map, List.mem_filter, Prod.exists, List.mem_zipIdx_iff_getElem?]
  constructor
  · rintro ⟨call, _, ⟨there, asks⟩, rfl⟩
    exact ⟨call, there, asks⟩
  · rintro ⟨call, there, asks⟩
    exact ⟨call, number, ⟨there, asks⟩, rfl⟩

theorem nodup_askers : (askers calls).Nodup := by
  have whole : (calls.zipIdx.map (·.2)).Nodup := by
    rw [List.zipIdx_map_snd]
    exact List.nodup_range'
  exact whole.sublist ((List.filter_sublist).map _)

theorem askers_prefix : askers calls <+: askers (calls ++ more) := by
  rw [askers, askers, List.zipIdx_append, List.filter_append, List.map_append]
  exact List.prefix_append _ _

variable {calls} in
theorem askers_append_of_some {snapshot number : Nat} (asked : (askers calls)[snapshot]? = some number) :
    (askers (calls ++ more))[snapshot]? = some number := by
  obtain ⟨later, whole⟩ := askers_prefix calls more
  obtain ⟨bound, _⟩ := List.getElem?_eq_some_iff.mp asked
  rw [← whole, List.getElem?_append_left bound, asked]

variable {calls} in
theorem getElem?_append_of_some {number : Nat} {call : Call} (there : calls[number]? = some call) :
    (calls ++ more)[number]? = some call := by
  obtain ⟨bound, _⟩ := List.getElem?_eq_some_iff.mp there
  rw [List.getElem?_append_left bound, there]

variable {calls} in
theorem generationOf_append {number : Nat} (bound : number < calls.length) :
    generationOf (calls ++ more) number = generationOf calls number := by
  rw [generationOf, generationOf, List.take_append_of_le_length bound]

theorem generationOf_length (call : Call) :
    generationOf (calls ++ [call]) calls.length = searchesIn (calls ++ [call]) := by
  rw [generationOf, List.take_of_length_le (by simp)]

end

/-- A task is how one of the calls waits. -/
structure IsTask (calls : List Call) (task : Task) : Prop where
  call : ∃ call, calls[task.number]? = some call ∧ call.asks = true ∧
    task.waiting = call.waiting (generationOf calls task.number)
  snapshot : (askers calls)[task.snapshot]? = some task.number

theorem IsTask.append {calls : List Call} {task : Task} (waits : IsTask calls task)
    (more : List Call) : IsTask (calls ++ more) task := by
  obtain ⟨⟨call, there, asks, same⟩, asked⟩ := waits
  have bound := (List.getElem?_eq_some_iff.mp there).1
  refine ⟨⟨call, getElem?_append_of_some more there, asks, ?_⟩, askers_append_of_some more asked⟩
  rw [same, generationOf_append more bound]

theorem IsTask.snapshot_inj {calls : List Call} {a b : Task} (first : IsTask calls a)
    (second : IsTask calls b) : a.snapshot = b.snapshot ↔ a.number = b.number := by
  have left := first.snapshot
  have right := second.snapshot
  constructor
  · intro same
    rw [same, right] at left
    exact (Option.some.inj left).symm
  · intro same
    rw [← same] at right
    have bound := (List.getElem?_eq_some_iff.mp left).1
    exact (List.getElem?_inj bound (nodup_askers calls)).mp (left.trans right.symm)

theorem IsTask.eq_of_number {calls : List Call} {a b : Task} (first : IsTask calls a)
    (second : IsTask calls b) (same : a.number = b.number) : a = b := by
  obtain ⟨call, there, _, waits⟩ := first.call
  obtain ⟨other, here, _, otherWaits⟩ := second.call
  have snapshots := (first.snapshot_inj second).mpr same
  rw [← same, there] at here
  cases Option.some.inj here
  rw [← same, ← waits] at otherWaits
  cases a
  cases b
  simp_all

/-! ### Behind a run -/

theorem after_keeps (start : State) (steps : List Step) :
    (after start steps).settings = start.settings ∧ (after start steps).gated = start.gated := by
  induction steps generalizing start with
  | nil => exact ⟨rfl, rfl⟩
  | cons s steps ih =>
    obtain ⟨settings, gated⟩ := step_keeps start s
    rw [after_cons, (ih _).1, (ih _).2, settings, gated]
    exact ⟨rfl, rfl⟩

section

variable (settings : Settings) (store : CardStore) (gated : Bool) (steps : List Step)

/-- A state counts the calls of its run, the searches among them and the snapshots asked for. -/
theorem after_counts :
    (after (.fresh settings store gated) steps).calls = (callsOf steps).length ∧
      (after (.fresh settings store gated) steps).generation = searchesIn (callsOf steps) ∧
      (after (.fresh settings store gated) steps).snapshots = (askers (callsOf steps)).length := by
  rw [length_askers]
  induction steps using List.reverseRecOn with
  | nil => exact ⟨rfl, rfl, rfl⟩
  | append_singleton steps s ih =>
    obtain ⟨calls, generation, snapshots⟩ := ih
    obtain ⟨nextCalls, nextGeneration, nextSnapshots⟩ :=
      step_counts (after (.fresh settings store gated) steps) s
    rw [after_append, after_cons, after_nil, nextCalls, nextGeneration, nextSnapshots, calls,
      generation, snapshots, callsOf_append, List.length_append, searchesIn_append,
      List.countP_append]
    exact ⟨rfl, rfl, rfl⟩

private theorem isTask_begun (call : Call) (asks : call.asks = true) :
    IsTask (callsOf steps ++ [call]) (call.task (after (.fresh settings store gated) steps)) := by
  obtain ⟨calls, generation, snapshots⟩ := after_counts settings store gated steps
  rw [Call.task, calls, generation, snapshots]
  constructor
  · refine ⟨call, List.getElem?_concat_length, asks, ?_⟩
    rw [generationOf_length, generationAfter_eq, searchesIn_append]
  · rw [askers_concat, if_pos asks]
    exact List.getElem?_concat_length

/-- Only calls that asked for a snapshot wait, and only while snapshots are held back. -/
theorem isTask_of_mem {task : Task}
    (waits : task ∈ (after (.fresh settings store gated) steps).tasks) :
    IsTask (callsOf steps) task ∧ gated = true := by
  induction steps using List.reverseRecOn with
  | nil => contradiction
  | append_singleton steps s ih =>
    rw [after_append, after_cons, after_nil] at waits
    rw [callsOf_append]
    have old : task ∈ (after (.fresh settings store gated) steps).tasks →
        IsTask (callsOf steps ++ callsOf [s]) task ∧ gated = true := by
      intro there
      obtain ⟨waiting, held⟩ := ih there
      exact ⟨waiting.append _, held⟩
    cases begins : s.call? with
    | none =>
      rw [(step_settles _ begins).2] at waits
      exact old (List.mem_filter.mp waits).1
    | some call =>
      obtain rfl := Step.call?_eq_some_iff.mp begins
      rw [step_start_tasks, List.mem_append] at waits
      rcases waits with there | begun
      · exact old there
      · split at begun
        · rename_i asked
          obtain ⟨asks, held⟩ := Call.answerIn_eq_none_iff.mp (Option.isNone_iff_eq_none.mp asked)
          rw [(after_keeps _ steps).2] at held
          rw [List.mem_singleton.mp begun]
          exact ⟨isTask_begun settings store gated steps call asks, held⟩
        · contradiction

private theorem step_numbers (state : State) (s : Step) :
    ((step state s).2.answers.map (·.1) ++ (step state s).1.tasks.map Task.number).Perm
      (state.tasks.map Task.number ++ (callsOf [s]).map fun _ => state.calls) := by
  cases begins : s.call? with
  | none =>
    have none : callsOf [s] = [] := by rw [callsOf_singleton, begins]; rfl
    have answered : (state.tasks.filterMap fun task =>
        (task.answerIn state s).map (Prod.mk task.number)).map (·.1) =
          (state.tasks.filter fun task => !(task.answerIn state s).isNone).map Task.number := by
      induction state.tasks with
      | nil => rfl
      | cons task tasks ih =>
        cases here : task.answerIn state s <;> simp_all
    rw [(step_settles _ begins).1, (step_settles _ begins).2, none, answered, ← List.map_append, List.map_nil,
      List.append_nil]
    refine (List.perm_append_comm.trans ?_).map Task.number
    exact List.filter_append_perm _ _
  | some call =>
    obtain rfl := Step.call?_eq_some_iff.mp begins
    rw [step_start_answers, step_start_tasks, callsOf_start]
    cases call.answerIn state with
    | none => simp [Call.task]
    | some answer => simpa using (List.perm_append_singleton state.calls _).symm

theorem answered_or_waiting :
    ((answersOf (.fresh settings store gated) steps).map (·.1) ++
      (after (.fresh settings store gated) steps).tasks.map Task.number).Perm
        (List.range (callsOf steps).length) := by
  induction steps using List.reverseRecOn with
  | nil => exact .nil
  | append_singleton steps s ih =>
    have counted := (after_counts settings store gated steps).1
    rw [answersOf_concat, after_append, after_cons, after_nil, List.map_append, List.append_assoc,
      callsOf_append, List.length_append]
    refine ((step_numbers _ s).append_left _).trans ?_
    rw [← List.append_assoc, counted]
    refine (ih.append_right _).trans (.of_eq ?_)
    rw [callsOf_singleton]
    cases s.call? with
    | none => simp
    | some call => simp [List.range_succ]

end

end CardSearch.Service
