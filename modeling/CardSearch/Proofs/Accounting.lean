import CardSearch.Proofs.Snapshots
import Mathlib.Algebra.BigOperators.Group.List.Basic
import Mathlib.Algebra.Ring.Nat
/-!
Every call is accounted for once. What an answer reports fits its call and its result, and behind a
run each call was answered once or waits. Main statement: the searches that began are those that were
cleared, superseded, matched or empty, with those that failed, were cancelled or wait; and the times
taken are those of the searches that matched or were empty, and of the filters that ended.
-/
namespace CardSearch.Service

open Event (endings timings)

/-! ### Counting calls -/

@[simp]
def Call.filter? : Call → Option Operation
  | search _ => none
  | withTag _ => some .tagFilter
  | createdBetween .. => some .dateFilter

@[simp]
def readFailed : Option (Except CallFailure (Option Outcome)) → Bool
  | some (.error (.store _)) => true
  | _ => false

@[simp]
def wasCancelled : Option (Except CallFailure (Option Outcome)) → Bool
  | some (.error .cancelled) => true
  | _ => false

def tally (state : State) (steps : List Step)
    (counted : Call → Option (Except CallFailure (Option Outcome)) → Bool) : Nat :=
  (callsOf steps).zipIdx.countP fun begun => counted begun.1 (resultOf state steps begun.2)

theorem searchesIn_eq_tally (state : State) (steps : List Step) :
    searchesIn (callsOf steps) = tally state steps fun call _ => call.isSearch := by
  have counted := List.countP_map (p := Call.isSearch) (f := Prod.fst) (l := (callsOf steps).zipIdx)
  rw [List.zipIdx_map_fst] at counted
  exact counted

private theorem countP_zipIdx {α : Type} (items : List α) (counted : α × Nat → Bool) :
    items.zipIdx.countP counted =
      (List.range items.length).countP fun number => items[number]?.any (counted ⟨·, number⟩) := by
  induction items using List.reverseRecOn with
  | nil => rfl
  | append_singleton items item ih =>
    rw [List.zipIdx_append, List.countP_append, ih, List.length_append, List.length_singleton,
      List.range_succ, List.countP_append]
    congr 1
    · refine List.countP_congr fun number within => ?_
      rw [List.getElem?_append_left (List.mem_range.mp within)]
    · simp

private theorem sum_map_toNat {α : Type} (items : List α) (counted : α → Bool) :
    (items.map fun item => (counted item).toNat).sum = items.countP counted := by
  induction items with
  | nil => rfl
  | cons item items ih =>
    rw [List.map_cons, List.sum_cons, ih, List.countP_cons, Nat.add_comm]
    cases counted item <;> rfl

section

variable (settings : Settings) (store : CardStore) (gated : Bool) (steps : List Step)
  (counted : Call → Option (Except CallFailure (Option Outcome)) → Bool)

theorem tally_eq :
    tally (.fresh settings store gated) steps counted =
      ((answersOf (.fresh settings store gated) steps).map fun given =>
        ((callsOf steps)[given.1]?.any (counted · (some given.2.result))).toNat).sum +
      (after (.fresh settings store gated) steps).tasks.countP fun task =>
        (callsOf steps)[task.number]?.any (counted · none) := by
  rw [tally, countP_zipIdx, ← (answered_or_waiting settings store gated steps).countP_eq,
    List.countP_append, List.countP_map, List.countP_map, sum_map_toNat]
  congr 1
  · refine List.countP_congr fun given there => ?_
    dsimp only [Function.comp_apply]
    rw [resultOf_of_mem there]
  · refine List.countP_congr fun task there => ?_
    dsimp only [Function.comp_apply]
    rw [resultOf_of_waiting there]

theorem tally_of_answered (answered : ∀ call, counted call none = false) :
    tally (.fresh settings store gated) steps counted =
      ((answersOf (.fresh settings store gated) steps).map fun given =>
        ((callsOf steps)[given.1]?.any (counted · (some given.2.result))).toNat).sum := by
  rw [tally_eq, Nat.add_eq_left, List.countP_eq_zero]
  intro task _
  cases (callsOf steps)[task.number]? <;> simp [answered]

theorem tally_of_waiting (waiting : ∀ call result, counted call (some result) = false) :
    tally (.fresh settings store gated) steps counted =
      (after (.fresh settings store gated) steps).tasks.countP fun task =>
        (callsOf steps)[task.number]?.any (counted · none) := by
  rw [tally_eq, Nat.add_eq_right, sum_map_toNat, List.countP_eq_zero]
  intro given _
  cases (callsOf steps)[given.1]? <;> simp [waiting]

end

/-! ### What one answer reports -/

/-- What an answer reports fits its call and its result. -/
structure Booked (call : Call) (answer : Answer) : Prop where
  cleared : endings .search .cleared answer.events = 0
  passes : timings .search answer.events =
    endings .search .matched answer.events + endings .search .empty answer.events
  tagFilter : timings .tagFilter answer.events =
    (call.filter? = some .tagFilter && call.asks).toNat
  dateFilter : timings .dateFilter answer.events =
    (call.filter? = some .dateFilter && call.asks).toNat
  search : endings .serviceSearch .cleared answer.events +
      endings .serviceSearch .superseded answer.events + endings .search .matched answer.events +
      endings .search .empty answer.events + (call.isSearch && readFailed (some answer.result)).toNat +
      (call.isSearch && wasCancelled (some answer.result)).toNat = call.isSearch.toNat

variable {settings : Settings} {call : Call}

theorem booked_begun {generation : Nat} {answer : Answer}
    (begun : call.begin generation = .answered answer) : Booked call answer := by
  have asks : call.asks = false := by
    cases asks : call.asks with
    | false => rfl
    | true =>
      rw [call.begin_of_asks asks] at begun
      contradiction
  cases call <;> rw [Call.begin] at begun <;> split at begun <;> cases begun <;> constructor <;>
    simp [asks, Call.isSearch, endings, timings, debugRecord]

theorem booked_fail (asks : call.asks = true) (generation : Nat) {failure : CallFailure}
    (kind : (∃ broken, failure = .store broken) ∨ failure = .cancelled) :
    Booked call ((call.waiting generation).fail failure) := by
  rcases kind with ⟨broken, rfl⟩ | rfl <;> cases call <;> constructor <;>
    simp [asks, Call.isSearch, Call.waiting, Waiting.fail, endings, timings]

theorem booked_answer (literal : settings.wildcards = .literal) (asks : call.asks = true)
    (latest generation : Nat) (cards : List Card) :
    Booked call ((call.waiting generation).answer settings latest cards) := by
  cases call with
  | search raw =>
    rw [Call.waiting, Waiting.answer, answerSearch_literal literal asks]
    dsimp only
    split
    · constructor <;> simp [Call.isSearch, endings, timings, supersededRecord, debugRecord]
    · split <;> constructor <;> simp [Call.isSearch, endings, timings, matchedRecord]
  | withTag raw =>
    constructor <;> simp [asks, Call.isSearch, Call.waiting, Waiting.answer, answerFilter, endings,
      timings, debugRecord]
  | createdBetween start stop =>
    constructor <;> simp [asks, Call.isSearch, Call.waiting, Waiting.answer, answerFilter, endings,
      timings, debugRecord]

/-! ### What a run reports -/

variable {store : CardStore} {gated : Bool} {steps : List Step}

theorem booked_of_mem (literal : settings.wildcards = .literal) {number : Nat} {answer : Answer}
    (there : (number, answer) ∈ answersOf (.fresh settings store gated) steps) :
    ∃ call, (callsOf steps)[number]? = some call ∧ Booked call answer := by
  obtain ⟨before, s, later, call, -, begun, origin⟩ := exists_givenIn there
  refine ⟨call, begun, ?_⟩
  cases origin with
  | atOnce begins newest begun => exact booked_begun begun
  | read goesOn asks => exact booked_answer literal asks _ _ _
  | failed fails asks => exact booked_fail asks _ (.inl ⟨_, rfl⟩)
  | cancelled cancels asks => exact booked_fail asks _ (.inr rfl)

theorem endings_eventsOf (state : State) (operation : Operation) (ending : Ending) :
    endings operation ending (eventsOf state steps) =
      ((answersOf state steps).map fun given => endings operation ending given.2.events).sum := by
  rw [eventsOf_eq, endings, List.countP_flatMap]
  rfl

theorem timings_eventsOf (state : State) (operation : Operation) :
    timings operation (eventsOf state steps) =
      ((answersOf state steps).map fun given => timings operation given.2.events).sum := by
  rw [eventsOf_eq, timings, List.countP_flatMap]
  rfl

theorem timings_search (literal : settings.wildcards = .literal) :
    let events := eventsOf (.fresh settings store gated) steps
    timings .search events = endings .search .matched events + endings .search .empty events := by
  intro events
  rw [timings_eventsOf, endings_eventsOf, endings_eventsOf, ← List.sum_map_add]
  congr 1
  refine List.map_congr_left fun given there => ?_
  obtain ⟨call, -, fits⟩ := booked_of_mem literal there
  exact fits.passes

theorem endings_search_cleared (literal : settings.wildcards = .literal) :
    endings .search .cleared (eventsOf (.fresh settings store gated) steps) = 0 := by
  rw [endings_eventsOf, List.sum_eq_zero]
  intro count there
  obtain ⟨given, member, rfl⟩ := List.mem_map.mp there
  obtain ⟨call, -, fits⟩ := booked_of_mem literal member
  exact fits.cleared

/-- A filter is timed once for each call that ended behind its snapshot or without it. -/
theorem timings_filter (literal : settings.wildcards = .literal) {filter : Operation}
    (fits : ∀ {call answer}, Booked call answer →
      timings filter answer.events = (call.filter? = some filter && call.asks).toNat) :
    timings filter (eventsOf (.fresh settings store gated) steps) =
      tally (.fresh settings store gated) steps fun call result =>
        call.filter? = some filter && call.asks && result.isSome := by
  rw [timings_eventsOf, tally_of_answered _ _ _ _ _ fun call => Bool.and_false _]
  congr 1
  refine List.map_congr_left fun given there => ?_
  obtain ⟨call, begun, booked⟩ := booked_of_mem literal there
  rw [begun, Option.any_some, fits booked]
  simp

theorem searchesIn_eq (literal : settings.wildcards = .literal) :
    let start := State.fresh settings store gated
    let events := eventsOf start steps
    searchesIn (callsOf steps) =
      endings .serviceSearch .cleared events + endings .serviceSearch .superseded events +
      endings .search .matched events + endings .search .empty events +
      tally start steps (fun call result => call.isSearch && readFailed result) +
      tally start steps (fun call result => call.isSearch && wasCancelled result) +
      tally start steps (fun call result => call.isSearch && result.isNone) := by
  intro start events
  rw [searchesIn_eq_tally start, tally_eq]
  congr 1
  · rw [tally_of_answered _ _ _ _ _ fun call => Bool.and_false _,
      tally_of_answered _ _ _ _ _ fun call => Bool.and_false _, endings_eventsOf, endings_eventsOf,
      endings_eventsOf, endings_eventsOf, ← List.sum_map_add, ← List.sum_map_add, ← List.sum_map_add,
      ← List.sum_map_add, ← List.sum_map_add]
    congr 1
    refine List.map_congr_left fun given there => ?_
    obtain ⟨call, begun, fits⟩ := booked_of_mem literal there
    rw [begun]
    exact fits.search.symm
  · rw [tally_of_waiting _ _ _ _ _ fun call result => Bool.and_false _]
    refine List.countP_congr fun task _ => ?_
    cases (callsOf steps)[task.number]? <;> simp

/-- With literal wildcards every search is counted under one ending, or it failed, was cancelled or
waits; the times taken are those of the passes over cards and of the filters that ended. -/
theorem calls_are_accounted_for (settings : Settings) (literal : settings.wildcards = .literal)
    (store : CardStore) (gated : Bool) (steps : List Step) :
    let start := State.fresh settings store gated
    let events := eventsOf start steps
    (after start steps).generation = searchesIn (callsOf steps) ∧
    (after start steps).generation =
      endings .serviceSearch .cleared events + endings .serviceSearch .superseded events +
      endings .search .matched events + endings .search .empty events +
      tally start steps (fun call result => call.isSearch && readFailed result) +
      tally start steps (fun call result => call.isSearch && wasCancelled result) +
      tally start steps (fun call result => call.isSearch && result.isNone) ∧
    endings .search .cleared events = 0 ∧
    timings .search events = endings .search .matched events + endings .search .empty events ∧
    timings .tagFilter events = tally start steps (fun call result =>
      call.filter? = some .tagFilter && call.asks && result.isSome) ∧
    timings .dateFilter events = tally start steps (fun call result =>
      call.filter? = some .dateFilter && call.asks && result.isSome) := by
  intro start events
  have generation := (after_counts settings store gated steps).2.1
  refine ⟨generation, ?_, ?_, ?_, ?_, ?_⟩
  · rw [generation]
    exact searchesIn_eq literal
  · exact endings_search_cleared literal
  · exact timings_search literal
  · exact timings_filter literal Booked.tagFilter
  · exact timings_filter literal Booked.dateFilter

/-- One search is cleared at once, one gives way to the third, and that one waits. -/
theorem three_searches_are_accounted_for :
    ({} : Settings).wildcards = .literal ∧
      let start := State.fresh {} ⟨[]⟩ true
      let steps := [.start (.search (.text "")), .start (.search (.text "a")),
        .start (.search (.text "b")), .release 0]
      let events := eventsOf start steps
      3 = endings .serviceSearch .cleared events + endings .serviceSearch .superseded events +
        endings .search .matched events + endings .search .empty events +
        tally start steps (fun call result => call.isSearch && readFailed result) +
        tally start steps (fun call result => call.isSearch && wasCancelled result) +
        tally start steps (fun call result => call.isSearch && result.isNone) := by
  refine ⟨rfl, ?_⟩
  intro start steps events
  exact (calls_are_accounted_for {} rfl ⟨[]⟩ true steps).2.1

end CardSearch.Service
