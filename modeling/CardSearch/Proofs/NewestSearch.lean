import CardSearch.Proofs.Origin
/-!
The last search wins. Where only the latest search counts, a search whose snapshot arrives after a
newer search began has no outcome. Main statement: these are the only searches without one, the
searches with an outcome are answered in the order of their numbers, and the newest always has one.
-/
namespace CardSearch.Service

def Overtaken (calls : List Call) (number : Nat) : Prop :=
  ∃ later raw, number < later ∧ calls[later]? = some (.search raw)

/-- The number that a search has among the searches, if it is answered with an outcome. -/
def delivery (calls : List Call) (given : Nat × Answer) : Option Nat :=
  match calls[given.1]?, given.2.result with
  | some (.search _), .ok (some _) => some (generationOf calls given.1)
  | _, _ => none

/-- The numbers of the searches with an outcome, in the order in which they are answered. -/
def deliveries (state : State) (steps : List Step) : List Nat :=
  (answersOf state steps).filterMap (delivery (callsOf steps))

/-! ### Numbers of searches -/

theorem generation_of_begun (settings : Settings) (store : CardStore) (gated : Bool)
    (before : List Step) (call : Call) :
    (after (.fresh settings store gated) (before ++ [.start call])).generation =
      generationOf (callsOf (before ++ [.start call])) (callsOf before).length := by
  rw [(after_counts settings store gated _).2.1, callsOf_append, callsOf_start, generationOf_length]

private theorem searchesIn_split (calls : List Call) (number : Nat) :
    searchesIn calls = generationOf calls number + searchesIn (calls.drop (number + 1)) := by
  rw [generationOf, ← searchesIn_append, List.take_append_drop]

theorem generationOf_ne_iff {calls : List Call} {number : Nat} :
    generationOf calls number ≠ searchesIn calls ↔ Overtaken calls number := by
  rw [searchesIn_split calls number, ne_eq, Nat.left_eq_add, ← ne_eq, ← Nat.pos_iff_ne_zero, searchesIn,
    List.countP_pos_iff, Overtaken]
  constructor
  · rintro ⟨call, there, isSearch⟩
    obtain ⟨index, found⟩ := List.mem_iff_getElem?.mp there
    rw [List.getElem?_drop] at found
    cases call with
    | search raw => exact ⟨_, raw, by omega, found⟩
    | withTag raw => contradiction
    | createdBetween start stop => contradiction
  · rintro ⟨later, raw, newer, found⟩
    refine ⟨.search raw, List.mem_iff_getElem?.mpr ⟨later - (number + 1), ?_⟩, rfl⟩
    rw [List.getElem?_drop, ← found]
    congr 1
    omega

theorem generationOf_lt {calls : List Call} {number later : Nat} {raw : Value}
    (newer : number < later) (found : calls[later]? = some (.search raw)) :
    generationOf calls number < generationOf calls later := by
  have reached : searchesIn (calls.take (number + 1)) ≤ searchesIn (calls.take later) :=
    (List.take_sublist_take_left newer).countP_le
  exact Nat.lt_of_le_of_lt reached (countP_take_lt found rfl (Nat.lt_succ_self later))

theorem Overtaken.append {calls : List Call} {number : Nat} (overtaken : Overtaken calls number)
    (more : List Call) : Overtaken (calls ++ more) number := by
  obtain ⟨later, raw, newer, found⟩ := overtaken
  exact ⟨later, raw, newer, getElem?_append_of_some more found⟩

/-! ### Answers to searches -/

theorem answerSearch_none_iff {settings : Settings} (latestOnly : settings.latestOnly = true)
    {latest generation : Nat} {query : Text} {cards : List Card} :
    (answerSearch settings latest query generation cards).result = .ok none ↔ generation ≠ latest := by
  rw [answerSearch, latestOnly]
  by_cases same : generation = latest
  · rw [if_neg (by simp [same])]
    dsimp only
    split <;> simp [same]
  · rw [if_pos (by simp [same])]
    simp [same]

variable {settings : Settings} {store : CardStore} {gated : Bool} {before steps : List Step}
  {s : Step} {number : Nat} {answer : Answer} {raw : Value}

theorem begin_of_empty (generation : Nat) (empty : Search.normalized raw = []) :
    ∃ answer, (Call.search raw).begin generation = .answered answer ∧
      answer.result = .ok (some .clear) := by
  rw [Call.begin, empty]
  exact ⟨_, rfl, rfl⟩

/-- A search that does not fail lacks an outcome exactly if a newer one began before its answer. -/
theorem none_iff_of_given (latestOnly : settings.latestOnly = true) {found : Option Outcome}
    (given : GivenIn (.fresh settings store gated) before s number (.search raw) answer)
    (finished : answer.result = .ok found) :
    found = none ↔ Overtaken (callsOf (before ++ [s])) number := by
  cases given with
  | atOnce begins newest begun =>
    subst begins newest
    cases asks : (Call.search raw).asks with
    | true =>
      rw [Call.begin_of_asks asks] at begun
      contradiction
    | false =>
      have empty : Search.normalized raw = [] := by simpa [Call.asks] using asks
      obtain ⟨other, same, cleared⟩ := begin_of_empty
        (generationOf (callsOf (before ++ [.start (.search raw)])) (callsOf before).length) empty
      rw [same] at begun
      cases begun
      rw [cleared] at finished
      cases finished
      rw [callsOf_append, callsOf_start, ← generationOf_ne_iff, generationOf_length]
      simp
  | read goesOn asks =>
    have lacking : (Except.ok found : Except CallFailure _) = .ok none ↔
        generationOf (callsOf (before ++ [s])) number ≠ searchesIn (callsOf (before ++ [s])) := by
      rw [← finished]
      exact answerSearch_none_iff latestOnly
    rw [← generationOf_ne_iff, ← lacking, Except.ok.injEq]
  | failed fails asks => contradiction
  | cancelled cancels asks => contradiction

theorem result_ne_none (latestOnly : settings.latestOnly = true)
    (given : (number, answer) ∈ answersOf (.fresh settings store gated) steps)
    (search : (callsOf steps)[number]? = some (.search raw))
    (newest : ¬ Overtaken (callsOf steps) number) : answer.result ≠ .ok none := by
  obtain ⟨before, s, later, call, rfl, there, origin⟩ := exists_givenIn given
  cases search.symm.trans there
  intro lacking
  rw [List.append_cons, callsOf_append] at newest
  exact newest (((none_iff_of_given latestOnly origin lacking).mp rfl).append _)

/-! ### The order of the outcomes -/

private theorem delivery_eq_some {calls : List Call} {given : Nat × Answer} {generation : Nat}
    (delivered : delivery calls given = some generation) :
    (∃ raw, calls[given.1]? = some (.search raw)) ∧
      (∃ outcome, given.2.result = .ok (some outcome)) ∧ generation = generationOf calls given.1 := by
  unfold delivery at delivered
  split at delivered
  · rename_i raw outcome search found
    exact ⟨⟨raw, search⟩, ⟨outcome, found⟩, (Option.some.inj delivered).symm⟩
  · contradiction

private theorem delivery_append {calls : List Call} (more : List Call) {given : Nat × Answer}
    (bound : given.1 < calls.length) : delivery (calls ++ more) given = delivery calls given := by
  rw [delivery, delivery, List.getElem?_append_left bound, generationOf_append more bound]

/-- What is delivered later has the greater number, as it was not overtaken then. -/
private theorem delivery_lt {calls : List Call} {early late : Nat × Answer} {first second : Nat}
    (delivered : delivery calls early = some first) (next : delivery calls late = some second)
    (newest : ¬ Overtaken calls late.1) (different : early.1 ≠ late.1) : first < second := by
  obtain ⟨⟨raw, earlySearch⟩, -, rfl⟩ := delivery_eq_some delivered
  obtain ⟨⟨other, lateSearch⟩, -, rfl⟩ := delivery_eq_some next
  have order : early.1 < late.1 := by
    refine Nat.lt_of_le_of_ne (Nat.le_of_not_lt ?_) different
    intro newer
    exact newest ⟨early.1, raw, newer, earlySearch⟩
  exact generationOf_lt order lateSearch

private theorem newest_of_delivery (latestOnly : settings.latestOnly = true) {given : Nat × Answer}
    {generation : Nat} (here : given ∈ (step (after (.fresh settings store gated) before) s).2.answers)
    (delivered : delivery (callsOf (before ++ [s])) given = some generation) :
    ¬ Overtaken (callsOf (before ++ [s])) given.1 := by
  obtain ⟨⟨raw, search⟩, ⟨outcome, found⟩, -⟩ := delivery_eq_some delivered
  obtain ⟨call, there, origin⟩ := givenIn_of_mem here
  rw [search] at there
  cases there
  rw [← none_iff_of_given latestOnly origin found]
  simp

theorem deliveries_increase (latestOnly : settings.latestOnly = true) (steps : List Step) :
    (deliveries (.fresh settings store gated) steps).Pairwise (· < ·) := by
  induction steps using List.reverseRecOn with
  | nil => exact .nil
  | append_singleton steps s ih =>
    have nodup := nodup_answered settings store gated (steps ++ [s])
    have kept : (answersOf (.fresh settings store gated) steps).filterMap
        (delivery (callsOf (steps ++ [s]))) = deliveries (.fresh settings store gated) steps := by
      rw [deliveries, callsOf_append]
      refine List.filterMap_congr fun given there => ?_
      exact delivery_append _ (number_lt_of_mem there)
    rw [answersOf_concat, List.map_append, List.nodup_append] at nodup
    obtain ⟨-, distinct, apart⟩ := nodup
    rw [deliveries, answersOf_concat, List.filterMap_append, kept, List.pairwise_append]
    refine ⟨ih, ?_, ?_⟩
    · rw [List.pairwise_filterMap]
      refine (List.pairwise_map.mp distinct).imp_of_mem ?_
      intro early late _ there different first delivered second next
      exact delivery_lt delivered next (newest_of_delivery latestOnly there next) different
    · intro first earlier second later
      rw [← kept, List.mem_filterMap] at earlier
      obtain ⟨early, old, delivered⟩ := earlier
      obtain ⟨late, new, next⟩ := List.mem_filterMap.mp later
      refine delivery_lt delivered next (newest_of_delivery latestOnly new next) ?_
      exact apart _ (List.mem_map_of_mem old) _ (List.mem_map_of_mem new)

/-- Where only the latest search counts: a search whose snapshot arrives lacks an outcome exactly if
a newer one began meanwhile, an empty query is answered at once, outcomes come in the order of the
numbers that the service gives to searches, and the newest search never lacks one. -/
theorem newest_search_wins (settings : Settings) (latestOnly : settings.latestOnly = true)
    (store : CardStore) (gated : Bool) :
    (∀ before s number raw, ReadGoesOn (.fresh settings store gated) before s number →
      (callsOf (before ++ [s]))[number]? = some (.search raw) →
      ∃ answer, (step (after (.fresh settings store gated) before) s).2.answers = [(number, answer)] ∧
        (answer.result = .ok none ↔ Overtaken (callsOf (before ++ [s])) number)) ∧
    (∀ before raw, Search.normalized raw = [] →
      ∃ answer, (step (after (.fresh settings store gated) before) (.start (.search raw))).2.answers =
          [((callsOf before).length, answer)] ∧
        answer.result = .ok (some .clear)) ∧
    (∀ before call, (after (.fresh settings store gated) (before ++ [.start call])).generation =
      generationOf (callsOf (before ++ [.start call])) (callsOf before).length) ∧
    (∀ steps, (deliveries (.fresh settings store gated) steps).Pairwise (· < ·)) ∧
    (∀ steps number raw answer, (number, answer) ∈ answersOf (.fresh settings store gated) steps →
      (callsOf steps)[number]? = some (.search raw) → ¬ Overtaken (callsOf steps) number →
      answer.result ≠ .ok none) := by
  refine ⟨?_, ?_, generation_of_begun settings store gated, deliveries_increase latestOnly, ?_⟩
  · intro before s number raw goesOn search
    obtain ⟨call, there, asks, answered⟩ := step_of_readGoesOn goesOn
    rw [search] at there
    cases there
    refine ⟨_, answered, ?_⟩
    rw [← generationOf_ne_iff]
    exact answerSearch_none_iff latestOnly
  · intro before raw empty
    obtain ⟨answer, begun, cleared⟩ := begin_of_empty
      (generationAfter (after (.fresh settings store gated) before).generation (.search raw)) empty
    refine ⟨answer, ?_, cleared⟩
    rw [step_start_answers, Call.answerIn, begun, (after_counts settings store gated before).1]
    rfl
  · intro steps number raw answer given search newest
    exact result_ne_none latestOnly given search newest

/-- Two searches wait, and the snapshot of the first arrives. -/
theorem first_of_two_gives_way :
    ({} : Settings).latestOnly = true ∧
      ∃ answer, (step (after (.fresh {} ⟨[]⟩ true)
          [.start (.search (.text "a")), .start (.search (.text "b"))]) (.release 0)).2.answers =
            [(0, answer)] ∧
        answer.result = .ok none := by
  refine ⟨rfl, ?_⟩
  obtain ⟨answer, answered, lacking⟩ := (newest_search_wins {} rfl ⟨[]⟩ true).1
    [.start (.search (.text "a")), .start (.search (.text "b"))] (.release 0) 0 (.text "a")
    (.released rfl rfl rfl) rfl
  exact ⟨answer, answered, lacking.mpr ⟨1, .text "b", by decide, rfl⟩⟩

end CardSearch.Service
