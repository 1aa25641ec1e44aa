import CardSearch.Proofs.Waiting
/-!
Where answers come from. Main statements: a call whose snapshot arrives is answered in that step, on
the cards that the store then holds, and nothing else is; and every answer of a run was given when
its call began, when its snapshot arrived or failed, or when it was cancelled.
-/
namespace CardSearch.Service

variable {settings : Settings} {store : CardStore} {gated : Bool} {before steps : List Step}
  {s : Step} {number : Nat} {answer : Answer}

/-! ### Numbers of answered calls -/

theorem nodup_numbers (settings : Settings) (store : CardStore) (gated : Bool) (steps : List Step) :
    ((answersOf (.fresh settings store gated) steps).map (·.1) ++
      (after (.fresh settings store gated) steps).tasks.map Task.number).Nodup :=
  (answered_or_waiting settings store gated steps).nodup_iff.mpr List.nodup_range

theorem nodup_answered (settings : Settings) (store : CardStore) (gated : Bool)
    (steps : List Step) : ((answersOf (.fresh settings store gated) steps).map (·.1)).Nodup :=
  (List.nodup_append.mp (nodup_numbers settings store gated steps)).1

theorem number_lt_of_mem
    (given : (number, answer) ∈ answersOf (.fresh settings store gated) steps) :
    number < (callsOf steps).length := by
  have there := List.mem_map_of_mem (f := Prod.fst) given
  have counted := (answered_or_waiting settings store gated steps).mem_iff.mp
    (List.mem_append_left _ there)
  exact List.mem_range.mp counted

theorem resultOf_eq_none_iff {state : State} :
    resultOf state steps number = none ↔ number ∉ (answersOf state steps).map (·.1) := by
  rw [resultOf, Option.map_eq_none_iff, List.lookup_eq_none_iff]
  simp only [List.mem_map, not_exists, not_and, bne_iff_ne, ne_eq]
  constructor
  · intro others given member same
    exact others given member same.symm
  · intro others given member same
    exact others given member same.symm

theorem resultOf_of_mem
    (given : (number, answer) ∈ answersOf (.fresh settings store gated) steps) :
    resultOf (.fresh settings store gated) steps number = some answer.result := by
  have nodup := nodup_answered settings store gated steps
  rw [resultOf]
  generalize answersOf (.fresh settings store gated) steps = answers at given nodup
  induction answers with
  | nil => contradiction
  | cons first answers ih =>
    obtain ⟨other, otherAnswer⟩ := first
    rw [List.map_cons, List.nodup_cons] at nodup
    rcases List.mem_cons.mp given with here | later
    · cases here
      simp
    · have different : number ≠ other := by
        rintro rfl
        exact nodup.1 (List.mem_map.mpr ⟨_, later, rfl⟩)
      rw [List.lookup_cons, beq_eq_false_iff_ne.mpr different]
      exact ih later nodup.2

theorem resultOf_of_waiting {task : Task}
    (waits : task ∈ (after (.fresh settings store gated) steps).tasks) :
    resultOf (.fresh settings store gated) steps task.number = none := by
  rw [resultOf_eq_none_iff]
  intro answered
  have disjoint := (List.nodup_append.mp (nodup_numbers settings store gated steps)).2.2
  exact disjoint _ answered _ (List.mem_map_of_mem waits) rfl

/-! ### Snapshots that arrive -/

private theorem filterMap_eq_singleton {α β : Type} {items : List α} {item : α} {f : α → Option β}
    {value : β} (member : item ∈ items) (nodup : items.Nodup) (here : f item = some value)
    (only : ∀ other ∈ items, other ≠ item → f other = none) : items.filterMap f = [value] := by
  induction items with
  | nil => contradiction
  | cons first items ih =>
    rw [List.nodup_cons] at nodup
    rcases List.mem_cons.mp member with rfl | later
    · have rest : items.filterMap f = [] := by
        rw [List.filterMap_eq_nil_iff]
        intro other there
        exact only other (List.mem_cons_of_mem _ there) (ne_of_mem_of_not_mem there nodup.1)
      rw [List.filterMap_cons_some here, rest]
    · have other := only first (List.mem_cons_self ..) (ne_of_mem_of_not_mem later nodup.1).symm
      rw [List.filterMap_cons_none other]
      exact ih later nodup.2 fun item there => only item (List.mem_cons_of_mem _ there)

theorem exists_task_of_asked {snapshot : Nat}
    (asked : (askers (callsOf steps))[snapshot]? = some number)
    (unanswered : resultOf (.fresh settings store gated) steps number = none) :
    ∃ task ∈ (after (.fresh settings store gated) steps).tasks,
      task.number = number ∧ task.snapshot = snapshot := by
  have asker : number ∈ askers (callsOf steps) := List.mem_of_getElem? asked
  obtain ⟨call, there, _⟩ := mem_askers.mp asker
  have bound := (List.getElem?_eq_some_iff.mp there).1
  have counted := (answered_or_waiting settings store gated steps).mem_iff.mpr (List.mem_range.mpr bound)
  rcases List.mem_append.mp counted with answered | waits
  · exact absurd answered (resultOf_eq_none_iff.mp unanswered)
  · obtain ⟨task, waiting, rfl⟩ := List.mem_map.mp waits
    have own := (isTask_of_mem settings store gated steps waiting).1.snapshot
    refine ⟨task, waiting, rfl, ?_⟩
    exact (List.getElem?_inj (List.getElem?_eq_some_iff.mp own).1 (nodup_askers _)).mp
      (own.trans asked.symm)

theorem step_answers_of_task {task : Task}
    (waits : task ∈ (after (.fresh settings store gated) before).tasks) (other : s.call? = none)
    (given : task.answerIn (after (.fresh settings store gated) before) s = some answer) :
    (step (after (.fresh settings store gated) before) s).2.answers = [(task.number, answer)] := by
  rw [(step_settles _ other).1]
  have nodup := (List.nodup_append.mp (nodup_numbers settings store gated before)).2.1
  refine filterMap_eq_singleton waits (List.Nodup.of_map _ nodup) (by rw [given]; rfl) ?_
  intro another there different
  have mine := (isTask_of_mem settings store gated before waits).1
  have its := (isTask_of_mem settings store gated before there).1
  have numbers : another.number ≠ task.number := fun same => different (its.eq_of_number mine same)
  have snapshots : another.snapshot ≠ task.snapshot := fun same =>
    numbers ((its.snapshot_inj mine).mp same)
  -- the step names one snapshot or one call, and the task has it
  cases s with
  | start call => contradiction
  | release snapshot => simp_all [Task.answerIn]
  | breakOff snapshot message => simp_all [Task.answerIn]
  | cancel number => simp_all [Task.answerIn]
  | add entry => contradiction
  | remove id => contradiction

/-- A call whose snapshot arrives is the one that is answered, on the cards of that moment. -/
theorem step_of_readGoesOn (goesOn : ReadGoesOn (.fresh settings store gated) before s number) :
    ∃ call, (callsOf (before ++ [s]))[number]? = some call ∧ call.asks = true ∧
      (step (after (.fresh settings store gated) before) s).2.answers =
        [(number, (call.waiting (generationOf (callsOf (before ++ [s])) number)).answer settings
          (searchesIn (callsOf (before ++ [s])))
          (after (.fresh settings store gated) before).store.cards)] := by
  obtain ⟨calls, generation, _⟩ := after_counts settings store gated before
  have kept := after_keeps (.fresh settings store gated) before
  cases goesOn with
  | @released snapshot number held asked unanswered =>
    obtain ⟨task, waits, rfl, rfl⟩ := exists_task_of_asked asked unanswered
    obtain ⟨call, there, asks, waiting⟩ := (isTask_of_mem settings store gated before waits).1.call
    have same : callsOf (before ++ [.release task.snapshot]) = callsOf before := by
      simp [callsOf_singleton, Step.call?]
    rw [same]
    refine ⟨call, there, asks, ?_⟩
    apply step_answers_of_task waits rfl
    rw [Task.answerIn, if_pos rfl, waiting, generation, kept.1]
    rfl
  | @atOnce call open' asks =>
    rw [callsOf_append, callsOf_start]
    refine ⟨call, List.getElem?_concat_length, asks, ?_⟩
    rw [step_start_answers, Call.answerIn, call.begin_of_asks asks, generation, kept.1, kept.2, calls,
      generationOf_length, generationAfter_eq, ← searchesIn_append]
    simp [State.fresh, show gated = false from open']

/-! ### Answers -/

/-- How a step behind a run answers a call. -/
inductive GivenIn (start : State) (before : List Step) (s : Step) (number : Nat) (call : Call) :
    Answer → Prop
  | atOnce {answer : Answer} (begins : s = .start call) (newest : number = (callsOf before).length)
      (begun : call.begin (generationOf (callsOf (before ++ [s])) number) = .answered answer) :
      GivenIn start before s number call answer
  | read (goesOn : ReadGoesOn start before s number) (asks : call.asks = true) :
      GivenIn start before s number call
        ((call.waiting (generationOf (callsOf (before ++ [s])) number)).answer start.settings
          (searchesIn (callsOf (before ++ [s]))) (after start before).store.cards)
  | failed {snapshot : Nat} {message : String} (fails : s = .breakOff snapshot message)
      (asks : call.asks = true) :
      GivenIn start before s number call
        ((call.waiting (generationOf (callsOf (before ++ [s])) number)).fail
          (.store (.store (.failed message))))
  | cancelled (cancels : s = .cancel number) (asks : call.asks = true) :
      GivenIn start before s number call
        ((call.waiting (generationOf (callsOf (before ++ [s])) number)).fail .cancelled)

theorem generationOf_begun (call : Call) :
    generationOf (callsOf (before ++ [.start call])) (callsOf before).length =
      generationAfter (searchesIn (callsOf before)) call := by
  rw [callsOf_append, callsOf_start, generationOf_length, generationAfter_eq, searchesIn_append]

theorem generationOf_newest (call : Call) :
    generationOf (callsOf (before ++ [.start call])) (callsOf before).length =
      searchesIn (callsOf (before ++ [.start call])) := by
  rw [callsOf_append, callsOf_start, generationOf_length]

/-- A call that is answered when it begins needs no cards, or reads them at once. -/
theorem givenIn_of_begun {call : Call}
    (answered : call.answerIn (after (.fresh settings store gated) before) = some answer) :
    GivenIn (.fresh settings store gated) before (.start call) (callsOf before).length call
      answer := by
  obtain ⟨_, generation, _⟩ := after_counts settings store gated before
  have kept := after_keeps (.fresh settings store gated) before
  rw [Call.answerIn, generation, ← generationOf_begun, kept.1, kept.2] at answered
  cases asks : call.asks with
  | false =>
    obtain ⟨other, begun⟩ := call.begin_of_not_asks asks
      (generationOf (callsOf (before ++ [.start call])) (callsOf before).length)
    rw [begun] at answered
    cases answered
    exact .atOnce rfl rfl begun
  | true =>
    rw [call.begin_of_asks asks] at answered
    cases held : gated with
    | true => simp [State.fresh, held] at answered
    | false =>
      subst gated
      have read : answer = (call.waiting
          (generationOf (callsOf (before ++ [.start call])) (callsOf before).length)).answer settings
            (searchesIn (callsOf (before ++ [.start call])))
            (after (.fresh settings store false) before).store.cards := by
        rw [← generationOf_newest]
        exact (Option.some.inj answered).symm
      rw [read]
      exact .read (.atOnce rfl asks) asks

theorem givenIn_of_settled {task : Task}
    (waits : task ∈ (after (.fresh settings store gated) before).tasks) (other : s.call? = none)
    (answered : task.answerIn (after (.fresh settings store gated) before) s = some answer) :
    ∃ call, (callsOf (before ++ [s]))[task.number]? = some call ∧
      GivenIn (.fresh settings store gated) before s task.number call answer := by
  obtain ⟨_, generation, _⟩ := after_counts settings store gated before
  have kept := after_keeps (.fresh settings store gated) before
  have same : callsOf (before ++ [s]) = callsOf before := by
    rw [callsOf_append, callsOf_singleton, other]
    exact List.append_nil _
  have unanswered := resultOf_of_waiting waits
  obtain ⟨own, held⟩ := isTask_of_mem settings store gated before waits
  obtain ⟨call, there, asks, waiting⟩ := own.call
  refine ⟨call, by rw [same]; exact there, ?_⟩
  rw [← same] at waiting
  cases s with
  | start call => contradiction
  | release snapshot =>
    obtain ⟨rfl, given⟩ := Option.ite_none_right_eq_some.mp answered
    rw [generation, ← same, waiting, kept.1] at given
    cases given
    exact .read (.released held own.snapshot unanswered) asks
  | breakOff snapshot message =>
    obtain ⟨-, given⟩ := Option.ite_none_right_eq_some.mp answered
    rw [waiting] at given
    cases given
    exact .failed rfl asks
  | cancel number =>
    obtain ⟨rfl, given⟩ := Option.ite_none_right_eq_some.mp answered
    rw [waiting] at given
    cases given
    exact .cancelled rfl asks
  | add entry => contradiction
  | remove id => contradiction

theorem givenIn_of_mem
    (given : (number, answer) ∈ (step (after (.fresh settings store gated) before) s).2.answers) :
    ∃ call, (callsOf (before ++ [s]))[number]? = some call ∧
      GivenIn (.fresh settings store gated) before s number call answer := by
  cases begins : s.call? with
  | some call =>
    obtain rfl := Step.call?_eq_some_iff.mp begins
    obtain ⟨calls, _⟩ := after_counts settings store gated before
    rw [step_start_answers, Option.mem_toList, Option.map_eq_some_iff] at given
    obtain ⟨_, answered, pair⟩ := given
    cases pair
    rw [calls]
    refine ⟨call, ?_, givenIn_of_begun answered⟩
    rw [callsOf_append]
    exact List.getElem?_concat_length
  | none =>
    rw [(step_settles _ begins).1, List.mem_filterMap] at given
    obtain ⟨task, waits, found⟩ := given
    obtain ⟨_, answered, pair⟩ := Option.map_eq_some_iff.mp found
    cases pair
    exact givenIn_of_settled waits begins answered

theorem exists_step_of_mem {state : State} (given : (number, answer) ∈ answersOf state steps) :
    ∃ before s later, steps = before ++ s :: later ∧
      (number, answer) ∈ (step (after state before) s).2.answers := by
  induction steps generalizing state with
  | nil => contradiction
  | cons s steps ih =>
    rw [answersOf_cons, List.mem_append] at given
    rcases given with here | later
    · exact ⟨[], s, steps, rfl, here⟩
    · obtain ⟨before, t, rest, rfl, there⟩ := ih later
      exact ⟨s :: before, t, rest, rfl, there⟩

theorem exists_givenIn (given : (number, answer) ∈ answersOf (.fresh settings store gated) steps) :
    ∃ before s later call, steps = before ++ s :: later ∧ (callsOf steps)[number]? = some call ∧
      GivenIn (.fresh settings store gated) before s number call answer := by
  obtain ⟨before, s, later, rfl, here⟩ := exists_step_of_mem given
  obtain ⟨call, there, origin⟩ := givenIn_of_mem here
  refine ⟨before, s, later, call, rfl, ?_, origin⟩
  rw [List.append_cons, callsOf_append]
  exact getElem?_append_of_some _ there

end CardSearch.Service
