import CardSearch.Proofs.Snapshots
import Mathlib.Data.List.Forall2
/-!
Calls do not interfere. Calls are left out of a run with all that happens to them, the others keep
their order and take the numbers that they would have had, and changes of the store stay. The shorter
run is compared with the whole one step by step. Main statement: the calls that are kept are answered
as before, where either the numbers of searches do not matter to them or all searches are kept.
-/
namespace CardSearch.Service

/-! ### Leaving calls out -/

def rank (keep : Nat → Bool) (number : Nat) : Nat := (List.range number).countP keep

/-- How many kept calls asked for a snapshot before the one that asked for this. -/
def snapshotRank (keep : Nat → Bool) (calls : List Call) (snapshot : Nat) : Nat :=
  ((askers calls).take snapshot).countP keep

def Step.thinned (keep : Nat → Bool) (calls : List Call) : Step → Option Step
  | .start call => if keep calls.length then some (.start call) else none
  | .release snapshot =>
    if (askers calls)[snapshot]?.any keep then some (.release (snapshotRank keep calls snapshot))
    else none
  | .breakOff snapshot message =>
    if (askers calls)[snapshot]?.any keep then
      some (.breakOff (snapshotRank keep calls snapshot) message)
    else none
  | .cancel number =>
    if number < calls.length ∧ keep number then some (.cancel (rank keep number)) else none
  | .add entry => some (.add entry)
  | .remove id => some (.remove id)

def thin (keep : Nat → Bool) : (calls : List Call) → List Step → List Step
  | _, [] => []
  | calls, s :: steps => (s.thinned keep calls).toList ++ thin keep (calls ++ callsOf [s]) steps

/-- The answer to a call under the number that it has among the kept calls. -/
def renumbered (keep : Nat → Bool) (given : Nat × Answer) : Option (Nat × Answer) :=
  if keep given.1 then some (rank keep given.1, given.2) else none

section

variable {keep : Nat → Bool}

theorem rank_lt {first second : Nat} (kept : keep first = true) (earlier : first < second) :
    rank keep first < rank keep second := by
  have grows := countP_take_lt (List.getElem?_range earlier) kept earlier
  rwa [List.take_range, List.take_range, Nat.min_self, Nat.min_eq_left earlier.le] at grows

theorem rank_inj {first second : Nat} (kept : keep first = true) (alsoKept : keep second = true) :
    rank keep first = rank keep second ↔ first = second := by
  constructor
  · intro same
    rcases Nat.lt_trichotomy first second with earlier | same' | later
    · have := rank_lt kept earlier
      omega
    · exact same'
    · have := rank_lt alsoKept later
      omega
  · exact congrArg _

theorem snapshotRank_inj {calls : List Call} {first second number other : Nat}
    (asked : (askers calls)[first]? = some number) (kept : keep number = true)
    (alsoAsked : (askers calls)[second]? = some other) (alsoKept : keep other = true) :
    snapshotRank keep calls first = snapshotRank keep calls second ↔ first = second := by
  constructor
  · intro same
    rw [snapshotRank, snapshotRank] at same
    rcases Nat.lt_trichotomy first second with earlier | same' | later
    · have := countP_take_lt asked kept earlier
      omega
    · exact same'
    · have := countP_take_lt alsoAsked alsoKept later
      omega
  · exact congrArg _

theorem lookup_renumbered {number : Nat} (kept : keep number = true) (answers : List (Nat × Answer)) :
    (answers.filterMap (renumbered keep)).lookup (rank keep number) = answers.lookup number := by
  induction answers with
  | nil => rfl
  | cons given answers ih =>
    obtain ⟨other, answer⟩ := given
    cases here : keep other with
    | true =>
      rw [List.filterMap_cons_some (by rw [renumbered, if_pos here]), List.lookup_cons, List.lookup_cons,
        ih]
      have same : (rank keep number == rank keep other) = (number == other) := by
        rw [Bool.eq_iff_iff, beq_iff_eq, beq_iff_eq, rank_inj kept here]
      rw [same]
    | false =>
      have different : number ≠ other := by
        rintro rfl
        simp [kept] at here
      rw [List.filterMap_cons_none (by rw [renumbered, if_neg (by simp [here])]), ih,
        List.lookup_cons, beq_eq_false_iff_ne.mpr different]

end

/-! ### Calls that wait alike -/

/-- Waiting calls that are the same, up to the numbers of searches where these do not count. -/
inductive Alike (settings : Settings) (counts : Prop) : Waiting → Waiting → Prop
  | search {query : Text} {first second : Nat} (same : counts → first = second)
      (loose : ¬ counts → settings.latestOnly = false) :
      Alike settings counts (.search query first) (.search query second)
  | withTag (wanted : Text) : Alike settings counts (.withTag wanted) (.withTag wanted)
  | createdBetween (start stop : Int) :
      Alike settings counts (.createdBetween start stop) (.createdBetween start stop)

variable {settings : Settings} {counts : Prop} {keep : Nat → Bool} {calls : List Call}

theorem Alike.answer_eq {a b : Waiting} (alike : Alike settings counts a b) {first second : Nat}
    (same : counts → first = second) (cards : List Card) :
    a.answer settings first cards = b.answer settings second cards := by
  cases alike with
  | search number loose =>
    by_cases does : counts
    · rw [number does, same does]
    · rw [Waiting.answer, Waiting.answer, answerSearch, answerSearch, loose does]
      rfl
  | withTag wanted => rfl
  | createdBetween start stop => rfl

theorem Alike.fail_eq {a b : Waiting} (alike : Alike settings counts a b) (failure : CallFailure) :
    a.fail failure = b.fail failure := by
  cases alike <;> rfl

def Harmless (settings : Settings) (counts : Prop) (keep : Nat → Bool) (calls : List Call) : Prop :=
  ∀ number raw, calls[number]? = some (.search raw) →
    (counts → keep number = true) ∧ (¬ counts → keep number = true → settings.latestOnly = false)

theorem alike_waiting {call : Call} (harmless : Harmless settings counts keep (calls ++ [call]))
    (kept : keep calls.length = true) {first second : Nat} (same : counts → first = second) :
    Alike settings counts (call.waiting first) (call.waiting second) := by
  cases call with
  | search raw =>
    have loose := (harmless calls.length raw List.getElem?_concat_length).2
    exact .search same fun not => loose not kept
  | withTag raw => exact .withTag _
  | createdBetween start stop => exact .createdBetween start stop

/-! ### The shorter run -/

/-- How a kept call waits in the shorter run. -/
structure Twin (settings : Settings) (counts : Prop) (keep : Nat → Bool) (calls : List Call)
    (task twin : Task) : Prop where
  kept : keep task.number = true
  asked : (askers calls)[task.snapshot]? = some task.number
  number : twin.number = rank keep task.number
  snapshot : twin.snapshot = snapshotRank keep calls task.snapshot
  waiting : Alike settings counts task.waiting twin.waiting

/-- The state of the shorter run. -/
structure Thinned (settings : Settings) (counts : Prop) (keep : Nat → Bool) (calls : List Call)
    (state thinned : State) : Prop where
  configured : state.settings = settings ∧ thinned.settings = settings
  gated : thinned.gated = state.gated
  store : thinned.store = state.store
  generation : counts → thinned.generation = state.generation
  begun : state.calls = calls.length ∧ thinned.calls = rank keep calls.length
  asked : state.snapshots = (askers calls).length ∧ thinned.snapshots = (askers calls).countP keep
  tasks : List.Forall₂ (Twin settings counts keep calls) (state.tasks.filter (keep ·.number))
    thinned.tasks

theorem Twin.append {task twin : Task} (related : Twin settings counts keep calls task twin)
    (more : List Call) : Twin settings counts keep (calls ++ more) task twin := by
  obtain ⟨later, whole⟩ := askers_prefix calls more
  have bound := (List.getElem?_eq_some_iff.mp related.asked).1
  refine { related with asked := askers_append_of_some more related.asked, snapshot := ?_ }
  rw [related.snapshot, snapshotRank, snapshotRank, ← whole, List.take_append_of_le_length bound.le]

theorem thinned_fresh (store : CardStore) (gated : Bool) :
    Thinned settings counts keep [] (.fresh settings store gated) (.fresh settings store gated) :=
  ⟨⟨rfl, rfl⟩, rfl, rfl, fun _ => rfl, ⟨rfl, rfl⟩, ⟨rfl, rfl⟩, .nil⟩

section

variable {state thinned : State} {s : Step} {call : Call}

theorem Twin.snapshot_iff {task twin : Task} (twins : Twin settings counts keep calls task twin)
    (snapshot : Nat) :
    task.snapshot = snapshot ↔ (askers calls)[snapshot]?.any keep = true ∧
      twin.snapshot = snapshotRank keep calls snapshot := by
  rw [twins.snapshot]
  constructor
  · rintro rfl
    rw [twins.asked]
    exact ⟨twins.kept, rfl⟩
  · rintro ⟨alsoKept, same⟩
    cases asked : (askers calls)[snapshot]? with
    | none => simp [asked] at alsoKept
    | some number =>
      rw [asked] at alsoKept
      exact (snapshotRank_inj twins.asked twins.kept asked alsoKept).mp same

theorem Twin.number_iff {task twin : Task} (twins : Twin settings counts keep calls task twin)
    (number : Nat) :
    task.number = number ↔ (number < calls.length ∧ keep number = true) ∧
      twin.number = rank keep number := by
  rw [twins.number]
  constructor
  · rintro rfl
    obtain ⟨call, there, _⟩ := mem_askers.mp (List.mem_of_getElem? twins.asked)
    exact ⟨⟨(List.getElem?_eq_some_iff.mp there).1, twins.kept⟩, rfl⟩
  · rintro ⟨⟨-, kept⟩, same⟩
    exact (rank_inj twins.kept kept).mp same

private theorem ite_and_eq_bind {α β : Type} {first second : Prop} [Decidable first]
    [Decidable second] {item : α} {value : β} {f : α → Option β}
    (under : f item = if second then some value else none) :
    (if first ∧ second then some value else none) = (if first then some item else none).bind f := by
  by_cases holds : first
  · rw [if_pos holds, Option.bind_some, under]
    exact if_congr (and_iff_right holds) rfl rfl
  · rw [if_neg holds, if_neg fun both => holds both.1]
    rfl

/-- A step that begins no call does to a kept call what is left of it does to the call's twin. -/
theorem Thinned.answerIn_eq (related : Thinned settings counts keep calls state thinned)
    {task twin : Task} (twins : Twin settings counts keep calls task twin) (other : s.call? = none) :
    task.answerIn state s = (s.thinned keep calls).bind (twin.answerIn thinned) := by
  cases s with
  | start call => contradiction
  | release snapshot =>
    have same := twins.waiting.answer_eq (fun does => (related.generation does).symm) state.store.cards
    rw [Task.answerIn, Step.thinned, if_congr (twins.snapshot_iff snapshot) rfl rfl]
    apply ite_and_eq_bind
    rw [Task.answerIn, related.configured.1, related.configured.2, related.store, same]
  | breakOff snapshot message =>
    rw [Task.answerIn, Step.thinned, if_congr (twins.snapshot_iff snapshot) rfl rfl]
    apply ite_and_eq_bind
    rw [Task.answerIn, twins.waiting.fail_eq]
  | cancel number =>
    rw [Task.answerIn, Step.thinned, if_congr (twins.number_iff number) rfl rfl]
    apply ite_and_eq_bind
    rw [Task.answerIn, twins.waiting.fail_eq]
  | add entry => rfl
  | remove id => rfl

/-! ### Steps of both runs -/

theorem call?_thinned (s : Step) :
    (s.thinned keep calls).bind Step.call? = if keep calls.length then s.call? else none := by
  cases s <;> rw [Step.thinned] <;> split <;> simp_all [Step.call?]

theorem answersOf_toList {left : Option Step} (other : left.bind Step.call? = none) :
    answersOf state left.toList = state.tasks.filterMap fun task =>
      (left.bind (task.answerIn state)).map (Prod.mk task.number) := by
  cases left with
  | none => simp
  | some s =>
    rw [Option.toList_some, answersOf_cons, answersOf_nil, List.append_nil, (step_settles _ other).1]
    rfl

theorem after_toList_tasks {left : Option Step} (other : left.bind Step.call? = none) :
    (after state left.toList).tasks = state.tasks.filter fun task =>
      (left.bind (task.answerIn state)).isNone := by
  cases left with
  | none => simp
  | some s =>
    rw [Option.toList_some, after_cons, after_nil, (step_settles _ other).2]
    rfl

theorem after_thinned_store (s : Step) :
    (after state (s.thinned keep calls).toList).store = s.storeAfter state.store := by
  cases s with
  | add entry => rw [Step.thinned, Option.toList_some, after_cons, after_nil, step_store]
  | remove id => rw [Step.thinned, Option.toList_some, after_cons, after_nil, step_store]
  | _ => rw [Step.thinned]; split <;> simp [step_store, Step.storeAfter]

theorem thinned_start_of_kept (kept : keep calls.length = true) (call : Call) :
    (Step.start call).thinned keep calls = some (.start call) := by
  rw [Step.thinned, if_pos kept]

theorem thinned_start_of_dropped (dropped : keep calls.length = false) (call : Call) :
    (Step.start call).thinned keep calls = none := by
  rw [Step.thinned, if_neg (by simp [dropped])]

theorem callsOf_thinned (s : Step) :
    callsOf (s.thinned keep calls).toList = if keep calls.length then callsOf [s] else [] := by
  have whole (left : Option Step) : callsOf left.toList = (left.bind Step.call?).toList := by
    cases left with
    | none => rfl
    | some s => exact callsOf_singleton s
  rw [whole, call?_thinned, callsOf_singleton]
  split <;> rfl

theorem after_toList_counts (state : State) (left : Option Step) :
    (after state left.toList).calls = state.calls + (callsOf left.toList).length ∧
      (after state left.toList).generation = state.generation + searchesIn (callsOf left.toList) ∧
      (after state left.toList).snapshots =
        state.snapshots + (callsOf left.toList).countP Call.asks := by
  cases left with
  | none => exact ⟨rfl, rfl, rfl⟩
  | some s => exact step_counts state s

theorem rank_append (s : Step) :
    rank keep (calls ++ callsOf [s]).length =
      rank keep calls.length + (if keep calls.length then callsOf [s] else []).length := by
  rw [callsOf_singleton]
  cases s.call? with
  | none => simp
  | some call =>
    rw [rank, rank, Option.toList_some, List.length_append, List.length_singleton, List.range_succ,
      List.countP_append, List.countP_singleton]
    split <;> rfl

theorem countP_askers_append (s : Step) :
    (askers (calls ++ callsOf [s])).countP keep = (askers calls).countP keep +
      (if keep calls.length then callsOf [s] else []).countP Call.asks := by
  rw [callsOf_singleton]
  cases s.call? with
  | none => simp
  | some call =>
    rw [Option.toList_some, askers_concat, List.countP_append]
    cases asks : call.asks <;> cases kept : keep calls.length <;> simp [asks, kept]

theorem Thinned.generation_next (related : Thinned settings counts keep calls state thinned)
    (harmless : Harmless settings counts keep (calls ++ callsOf [s])) (does : counts) :
    (after thinned (s.thinned keep calls).toList).generation = (step state s).1.generation := by
  rw [(after_toList_counts _ _).2.1, (step_counts state s).2.1, related.generation does, callsOf_thinned,
    callsOf_singleton]
  cases begins : s.call? with
  | none => simp
  | some call =>
    obtain rfl := Step.call?_eq_some_iff.mp begins
    cases call with
    | search raw =>
      rw [if_pos ((harmless calls.length raw List.getElem?_concat_length).1 does)]
    | withTag raw => split <;> rfl
    | createdBetween start stop => split <;> rfl

theorem Thinned.begin_eq (related : Thinned settings counts keep calls state thinned)
    (harmless : Harmless settings counts keep (calls ++ [call])) (kept : keep calls.length = true) :
    call.answerIn thinned = call.answerIn state := by
  have generations (does : counts) : generationAfter state.generation call =
      generationAfter thinned.generation call := by rw [related.generation does]
  rw [Call.answerIn, Call.answerIn, related.gated, related.store, related.configured.1,
    related.configured.2]
  cases asks : call.asks with
  | false =>
    obtain ⟨answer, begun⟩ := call.begin_of_not_asks asks (generationAfter state.generation call)
    rw [call.begin_congr asks _ (generationAfter state.generation call), begun]
  | true =>
    rw [call.begin_of_asks asks, call.begin_of_asks asks]
    dsimp only
    rw [(alike_waiting harmless kept generations).answer_eq generations]

theorem Thinned.twin_next (related : Thinned settings counts keep calls state thinned)
    (harmless : Harmless settings counts keep (calls ++ [call])) (kept : keep calls.length = true)
    (asks : call.asks = true) :
    Twin settings counts keep (calls ++ [call]) (call.task state) (call.task thinned) := by
  obtain ⟨begun, thinnedBegun⟩ := related.begun
  obtain ⟨asked, thinnedAsked⟩ := related.asked
  rw [Call.task, Call.task, begun, thinnedBegun, asked, thinnedAsked]
  constructor
  · exact kept
  · rw [askers_concat, if_pos asks]
    exact List.getElem?_concat_length
  · rfl
  · rw [snapshotRank, askers_concat, List.take_left]
  · exact alike_waiting harmless kept fun does => by rw [related.generation does]

theorem Thinned.tasks_next (related : Thinned settings counts keep calls state thinned)
    (harmless : Harmless settings counts keep (calls ++ callsOf [s])) :
    List.Forall₂ (Twin settings counts keep (calls ++ callsOf [s]))
      ((step state s).1.tasks.filter (keep ·.number))
      (after thinned (s.thinned keep calls).toList).tasks := by
  have old := related.tasks.imp fun _ _ twins => twins.append (callsOf [s])
  cases begins : s.call? with
  | none =>
    have other : (s.thinned keep calls).bind Step.call? = none := by rw [call?_thinned, begins, ite_self]
    have alike := related.tasks.imp fun task twin twins =>
      And.intro (twins.append (callsOf [s])) (related.answerIn_eq twins begins)
    rw [(step_settles _ begins).2, after_toList_tasks other, List.filter_comm]
    refine (List.rel_filter ?_ alike).imp fun _ _ both => both.1
    intro task twin both
    dsimp only
    rw [both.2]
  | some call =>
    obtain rfl := Step.call?_eq_some_iff.mp begins
    rw [callsOf_start] at harmless old ⊢
    rw [step_start_tasks, List.filter_append]
    cases kept : keep calls.length with
    | true =>
      rw [thinned_start_of_kept kept, Option.toList_some, after_cons, after_nil, step_start_tasks,
        related.begin_eq harmless kept]
      refine List.rel_append old ?_
      split
      · rename_i waits
        have asks := (Call.answerIn_eq_none_iff.mp (Option.isNone_iff_eq_none.mp waits)).1
        have own : keep (call.task state).number = true := by rw [Call.task, related.begun.1, kept]
        rw [List.filter_singleton, own]
        exact .cons (related.twin_next harmless kept asks) .nil
      · exact .nil
    | false =>
      have dropped : (if (call.answerIn state).isNone then [call.task state] else []).filter
          (keep ·.number) = [] := by
        split
        · simp [Call.task, related.begun.1, kept]
        · rfl
      rw [thinned_start_of_dropped kept, dropped, List.append_nil]
      exact old

private theorem filterMap_eq_of_forall₂ {α β γ : Type} {related : α → β → Prop} {chosen : α → Bool}
    {items : List α} {others : List β} (pairs : List.Forall₂ related (items.filter chosen) others)
    {f : α → Option γ} {g : β → Option γ} (same : ∀ item other, related item other → f item = g other)
    (dropped : ∀ item, chosen item = false → f item = none) : items.filterMap f = others.filterMap g := by
  have only : items.filterMap f = (items.filter chosen).filterMap f := by
    rw [List.filterMap_filter]
    refine List.filterMap_congr fun item _ => ?_
    split
    · rfl
    · rename_i not
      exact dropped item (by simpa using not)
  rw [only]
  clear only
  generalize items.filter chosen = kept at pairs ⊢
  induction pairs with
  | nil => rfl
  | cons head _ ih => rw [List.filterMap_cons, List.filterMap_cons, same _ _ head, ih]

/-- What is left of a step answers the kept calls among those that the step answers. -/
theorem Thinned.answers_next (related : Thinned settings counts keep calls state thinned)
    (harmless : Harmless settings counts keep (calls ++ callsOf [s])) :
    answersOf thinned (s.thinned keep calls).toList =
      (step state s).2.answers.filterMap (renumbered keep) := by
  cases begins : s.call? with
  | none =>
    have other : (s.thinned keep calls).bind Step.call? = none := by rw [call?_thinned, begins, ite_self]
    rw [answersOf_toList other, (step_settles _ begins).1, List.filterMap_filterMap]
    refine (filterMap_eq_of_forall₂ related.tasks ?_ ?_).symm
    · intro task twin twins
      rw [related.answerIn_eq twins begins, twins.number]
      cases (s.thinned keep calls).bind (twin.answerIn thinned) with
      | none => rfl
      | some answer => exact if_pos twins.kept
    · intro task dropped
      cases task.answerIn state s with
      | none => rfl
      | some answer => exact if_neg (by simp [dropped])
  | some call =>
    obtain rfl := Step.call?_eq_some_iff.mp begins
    rw [step_start_answers, related.begun.1]
    cases kept : keep calls.length with
    | true =>
      rw [thinned_start_of_kept kept, Option.toList_some, answersOf_cons, answersOf_nil, List.append_nil, step_start_answers,
        related.begin_eq harmless kept, related.begun.2]
      cases call.answerIn state with
      | none => rfl
      | some answer => simp [renumbered, kept]
    | false =>
      rw [thinned_start_of_dropped kept]
      cases call.answerIn state with
      | none => rfl
      | some answer => simp [renumbered, kept]

theorem Thinned.next (related : Thinned settings counts keep calls state thinned)
    (harmless : Harmless settings counts keep (calls ++ callsOf [s])) :
    Thinned settings counts keep (calls ++ callsOf [s]) (step state s).1
      (after thinned (s.thinned keep calls).toList) := by
  obtain ⟨kept, gated⟩ := step_keeps state s
  obtain ⟨thinnedKept, thinnedGated⟩ := after_keeps thinned (s.thinned keep calls).toList
  obtain ⟨begun, -, asked⟩ := step_counts state s
  obtain ⟨thinnedBegun, -, thinnedAsked⟩ := after_toList_counts thinned (s.thinned keep calls)
  rw [callsOf_thinned] at thinnedBegun thinnedAsked
  constructor
  · rw [kept, thinnedKept]
    exact related.configured
  · rw [gated, thinnedGated, related.gated]
  · rw [after_thinned_store, step_store, related.store]
  · exact related.generation_next harmless
  · rw [begun, related.begun.1, thinnedBegun, related.begun.2, rank_append, List.length_append]
    exact ⟨rfl, rfl⟩
  · rw [asked, related.asked.1, thinnedAsked, related.asked.2, countP_askers_append, length_askers,
      length_askers, List.countP_append]
    exact ⟨rfl, rfl⟩
  · exact related.tasks_next harmless

end

/-- The shorter run answers the kept calls as the whole one does, in the same order. -/
theorem answersOf_thin {state thinned : State} (steps : List Step)
    (related : Thinned settings counts keep calls state thinned)
    (harmless : Harmless settings counts keep (calls ++ callsOf steps)) :
    answersOf thinned (thin keep calls steps) =
      (answersOf state steps).filterMap (renumbered keep) := by
  induction steps generalizing calls state thinned with
  | nil => rfl
  | cons s steps ih =>
    rw [callsOf_cons, ← List.append_assoc] at harmless
    have here : Harmless settings counts keep (calls ++ callsOf [s]) := fun number raw there =>
      harmless number raw (getElem?_append_of_some _ there)
    rw [thin, answersOf_append, answersOf_cons, List.filterMap_append, related.answers_next here,
      ih (related.next here) harmless]

theorem resultOf_thin {store : CardStore} {gated : Bool} {steps : List Step} {number : Nat}
    (kept : keep number = true) (harmless : Harmless settings counts keep (callsOf steps)) :
    resultOf (.fresh settings store gated) (thin keep [] steps) (rank keep number) =
      resultOf (.fresh settings store gated) steps number := by
  rw [resultOf, resultOf, answersOf_thin steps (thinned_fresh store gated) harmless,
    lookup_renumbered kept]

def searchAt (calls : List Call) (number : Nat) : Bool := calls[number]?.any Call.isSearch

private theorem rank_self (number : Nat) : rank (· == number) number = 0 := by
  rw [rank, List.countP_eq_zero]
  intro other earlier
  have := List.mem_range.mp earlier
  simp only [beq_iff_eq]
  omega

/-- With literal wildcards a call finds what it looks for among the cards of the moment when its
snapshot arrives. A filter, or any call where superseded searches are kept, is answered as if no other
had been made; a search is answered as if no filter had been used. -/
theorem calls_do_not_interfere (settings : Settings) (literal : settings.wildcards = .literal)
    (store : CardStore) (gated : Bool) :
    (∀ before s number, ReadGoesOn (.fresh settings store gated) before s number →
      ∃ call answer, (callsOf (before ++ [s]))[number]? = some call ∧
        (step (after (.fresh settings store gated) before) s).2.answers = [(number, answer)] ∧
        ((answer.result = .ok none ∧ call.isSearch = true ∧ settings.latestOnly = true) ∨
          ∃ outcome, answer.result = .ok (some outcome) ∧ outcome.cleared = false ∧
            call.Finds (after (.fresh settings store gated) before).store.cards outcome)) ∧
    (∀ steps number answer outcome, (number, answer) ∈ answersOf (.fresh settings store gated) steps →
      answer.result = .ok (some outcome) → outcome.cleared = false →
      ∃ before s later call, steps = before ++ s :: later ∧
        ReadGoesOn (.fresh settings store gated) before s number ∧
        (callsOf steps)[number]? = some call ∧
        call.Finds (after (.fresh settings store gated) before).store.cards outcome) ∧
    (∀ steps number call, (callsOf steps)[number]? = some call →
      (call.isSearch = true → settings.latestOnly = false) →
      resultOf (.fresh settings store gated) (thin (· == number) [] steps) 0 =
        resultOf (.fresh settings store gated) steps number) ∧
    (∀ steps number raw, (callsOf steps)[number]? = some (.search raw) →
      resultOf (.fresh settings store gated) (thin (searchAt (callsOf steps)) [] steps)
          (rank (searchAt (callsOf steps)) number) =
        resultOf (.fresh settings store gated) steps number) := by
  refine ⟨?_, ?_, ?_, ?_⟩
  · intro before s number goesOn
    exact found_of_readGoesOn literal goesOn
  · intro steps number answer outcome given found shown
    exact readGoesOn_of_found literal given found shown
  · intro steps number call there apart
    have harmless : Harmless settings False (· == number) (callsOf steps) := by
      intro other raw search
      refine ⟨False.elim, fun _ same => ?_⟩
      obtain rfl := beq_iff_eq.mp same
      rw [there] at search
      cases search
      exact apart rfl
    rw [← rank_self number]
    exact resultOf_thin (beq_self_eq_true number) harmless
  · intro steps number raw search
    have harmless : Harmless settings True (searchAt (callsOf steps)) (callsOf steps) := by
      intro other raw search
      refine ⟨fun _ => ?_, fun not => absurd trivial not⟩
      rw [searchAt, search]
      rfl
    exact resultOf_thin ((harmless number raw search).1 trivial) harmless

/-- A date filter beside a search: left alone it asks for the first snapshot, not for the second. -/
theorem filter_alone_is_answered_alike :
    ({} : Settings).wildcards = .literal ∧
      resultOf (.fresh {} ⟨[]⟩ true) [.start (.createdBetween 0 5), .release 0] 0 =
        resultOf (.fresh {} ⟨[]⟩ true)
          [.start (.search (.text "a")), .start (.createdBetween 0 5), .release 1] 1 := by
  refine ⟨rfl, ?_⟩
  exact (calls_do_not_interfere {} rfl ⟨[]⟩ true).2.2.1
    [.start (.search (.text "a")), .start (.createdBetween 0 5), .release 1] 1
    (.createdBetween 0 5) rfl (by simp [Call.isSearch])

end CardSearch.Service
