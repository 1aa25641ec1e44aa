import CardSearch.Proofs.CheckedCards
import CardSearch.Proofs.Origin
/-!
What calls find. With literal wildcards a call whose snapshot arrives finds what it asks for among the
cards of that moment. Main statements: so does every such call, a superseded search apart, and every
outcome that is not the signal of a cleared search was found in this way.
-/
namespace CardSearch

def Outcome.Lists (outcome : Outcome) (cards : List Card) (chosen : Card → Prop) : Prop :=
  outcome.cleared = false ∧ outcome.matchingIds.Nodup ∧
    ∀ id, id ∈ outcome.matchingIds ↔ ∃ card ∈ cards, card.id = id ∧ chosen card

namespace Service

def Call.Finds (cards : List Card) (outcome : Outcome) : Call → Prop
  | search raw => (Search.search .literal raw (cards.map .card)).2 = .ok outcome
  | withTag raw => outcome.Lists cards fun card =>
      ∃ tag ∈ card.tags, Text.lower (Text.trim tag.toList) = Search.normalized raw
  | createdBetween start stop => outcome.Lists cards fun card =>
      ∃ time, card.created = some time ∧ start ≤ time ∧ time ≤ stop

/-! ### Filters -/

theorem carries_iff {wanted : Text} {card : Card} :
    carries wanted card = true ↔ ∃ tag ∈ card.tags, Text.lower (Text.trim tag.toList) = wanted := by
  simp [carries]

theorem isCreatedBetween_iff {start stop : Int} {card : Card} :
    isCreatedBetween start stop card = true ↔
      ∃ time, card.created = some time ∧ start ≤ time ∧ time ≤ stop := by
  rw [isCreatedBetween]
  cases card.created <;> simp

theorem lists_filter (label : String) {chosen : Card → Bool} {wanted : Card → Prop}
    (means : ∀ card, chosen card = true ↔ wanted card) (cards : List Card) :
    (⟨false, idsOf (cards.filter chosen), label⟩ : Outcome).Lists cards wanted := by
  refine ⟨rfl, Outcome.nodup_distinct _, fun id => ?_⟩
  rw [idsOf, Outcome.mem_distinct, List.mem_map]
  simp only [List.mem_filter, means]
  constructor
  · rintro ⟨card, ⟨there, fits⟩, same⟩
    exact ⟨card, there, same, fits⟩
  · rintro ⟨card, there, same, fits⟩
    exact ⟨card, ⟨there, fits⟩, same⟩

/-! ### Searches -/

theorem answerSearch_literal {settings : Settings} (literal : settings.wildcards = .literal)
    {raw : Value} (asks : (Call.search raw).asks = true) (latest generation : Nat) (cards : List Card) :
    answerSearch settings latest (Search.normalized raw) generation cards =
      let query := Search.normalized raw
      let ids := Search.idsFound query cards
      if settings.latestOnly && generation != latest then
        ⟨[supersededRecord generation latest, .counted .serviceSearch .superseded],
          [searchSpan query], .ok none⟩
      else
        ⟨[.timed .search, .counted .search (if ids.isEmpty then .empty else .matched),
            .logged (Search.matchedRecord query ids.length),
            matchedRecord query ids.length cards.length],
          [searchSpan query], .ok (some ⟨false, ids, String.ofList query⟩)⟩ := by
  have shown : (Search.normalized raw).isEmpty = false := by simpa [Call.asks] using asks
  have passed : Search.search .literal (.text (String.ofList (Search.normalized raw)))
      (cards.map .card) = Search.run .literal (Search.normalized raw) (cards.map .card) := by
    rw [Search.search, Search.normalized_normalized, shown]
    rfl
  rw [answerSearch, literal]
  dsimp only
  rw [passed, Search.run_cards]
  rfl

theorem search_finds {raw : Value} (asks : (Call.search raw).asks = true) (cards : List Card) :
    (Call.search raw).Finds cards ⟨false, Search.idsFound (Search.normalized raw) cards,
      String.ofList (Search.normalized raw)⟩ := by
  have shown : (Search.normalized raw).isEmpty = false := by simpa [Call.asks] using asks
  rw [Call.Finds, Search.search_cards, shown]
  rfl

/-! ### Calls -/

/-- A call that has its snapshot finds what it looks for, unless it is a search that gives way. -/
theorem answer_finds {settings : Settings} (literal : settings.wildcards = .literal) {call : Call}
    (asks : call.asks = true) (latest generation : Nat) (cards : List Card) :
    let answer := (call.waiting generation).answer settings latest cards
    (answer.result = .ok none ∧ call.isSearch = true ∧ settings.latestOnly = true) ∨
      ∃ outcome, answer.result = .ok (some outcome) ∧ outcome.cleared = false ∧
        call.Finds cards outcome := by
  cases call with
  | search raw =>
    simp only [Call.waiting, Waiting.answer, answerSearch_literal literal asks]
    split
    · rename_i late
      exact .inl ⟨rfl, rfl, (Bool.and_eq_true_iff.mp late).1⟩
    · exact .inr ⟨_, rfl, rfl, search_finds asks cards⟩
  | withTag raw => exact .inr ⟨_, rfl, rfl, lists_filter _ (fun _ => carries_iff) cards⟩
  | createdBetween start stop =>
    exact .inr ⟨_, rfl, rfl, lists_filter _ (fun _ => isCreatedBetween_iff) cards⟩

/-- What is answered at once finds nothing; at most it clears the search. -/
theorem begin_clears {call : Call} {generation : Nat} {answer : Answer} {outcome : Outcome}
    (begun : call.begin generation = .answered answer) (found : answer.result = .ok (some outcome)) :
    outcome = .clear := by
  cases call <;> rw [Call.begin] at begun <;> split at begun <;> cases begun
  · exact (Option.some.inj (Except.ok.inj found)).symm
  · exact (Option.some.inj (Except.ok.inj found)).symm
  · contradiction

variable {settings : Settings} {store : CardStore} {gated : Bool} {before steps : List Step}
  {s : Step} {number : Nat} {answer : Answer} {outcome : Outcome}

theorem found_of_readGoesOn (literal : settings.wildcards = .literal)
    (goesOn : ReadGoesOn (.fresh settings store gated) before s number) :
    ∃ call answer, (callsOf (before ++ [s]))[number]? = some call ∧
      (step (after (.fresh settings store gated) before) s).2.answers = [(number, answer)] ∧
      ((answer.result = .ok none ∧ call.isSearch = true ∧ settings.latestOnly = true) ∨
        ∃ outcome, answer.result = .ok (some outcome) ∧ outcome.cleared = false ∧
          call.Finds (after (.fresh settings store gated) before).store.cards outcome) := by
  obtain ⟨call, there, asks, answered⟩ := step_of_readGoesOn goesOn
  exact ⟨call, _, there, answered, answer_finds literal asks _ _ _⟩

theorem readGoesOn_of_found (literal : settings.wildcards = .literal)
    (given : (number, answer) ∈ answersOf (.fresh settings store gated) steps)
    (found : answer.result = .ok (some outcome)) (shown : outcome.cleared = false) :
    ∃ before s later call, steps = before ++ s :: later ∧
      ReadGoesOn (.fresh settings store gated) before s number ∧
      (callsOf steps)[number]? = some call ∧
      call.Finds (after (.fresh settings store gated) before).store.cards outcome := by
  obtain ⟨before, s, later, call, parts, there, origin⟩ := exists_givenIn given
  cases origin with
  | atOnce begins newest begun =>
    obtain rfl := begin_clears begun found
    contradiction
  | read goesOn asks =>
    refine ⟨before, s, later, call, parts, goesOn, there, ?_⟩
    rcases answer_finds literal asks (searchesIn (callsOf (before ++ [s])))
      (generationOf (callsOf (before ++ [s])) number)
      (after (.fresh settings store gated) before).store.cards with ⟨none, -⟩ | ⟨other, some, -, finds⟩
    · have same := Except.ok.inj (none.symm.trans found)
      contradiction
    · have same := some.symm.trans found
      cases same
      exact finds
  | failed fails asks => cases call <;> contradiction
  | cancelled cancels asks => cases call <;> contradiction

end Service

end CardSearch
