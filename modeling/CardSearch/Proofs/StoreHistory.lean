import CardSearch.Proofs.CheckedCards
import CardSearch.Store.History
/-!
A card store in memory by its history. Main statement: behind any requests it holds the cards that were
brought in and that no later request removed, in the order in which they came; a removal says whether
it met such a card, and a refused card leaves no trace.
-/
namespace CardSearch.CardStore

/-! ### Histories -/

def Request.card? : Request → Option Card
  | .add entry => (cardOf entry).toOption
  | _ => none

def Request.drops (card : Card) : Request → Bool
  | .remove id => card.id.toValue.same id
  | _ => false

/-- The cards that some requests bring in and that no later one of them removes. -/
def survivors (requests : List Request) : List Card :=
  requests.tails.filterMap fun
    | [] => none
    | request :: later => request.card?.filter fun card => !later.any (·.drops card)

theorem survivors_cons (request : Request) (later : List Request) :
    survivors (request :: later) =
      (request.card?.filter fun card => !later.any (·.drops card)).toList ++ survivors later := by
  rw [survivors, List.tails, List.filterMap_cons]
  dsimp only
  cases request.card?.filter fun card => !later.any (·.drops card) <;> rfl

/-! ### Stores -/

variable {store : CardStore} {entries : List Entry}

theorem cards_next (store : CardStore) (request : Request) :
    (store.next request).cards =
      (store.cards.filter fun card => !request.drops card) ++ request.card?.toList := by
  have kept : ∀ cards : List Card, cards.filter (fun _ => !false) = cards := fun _ => List.filter_true _
  cases request with
  | add entry =>
    simp only [next, add, Request.drops, Request.card?, kept]
    cases cardOf entry with
    | ok card => rfl
    | error failure => exact (List.append_nil _).symm
  | remove id => exact (List.append_nil _).symm
  | snapshot =>
    simp only [next, Request.drops, Request.card?, kept]
    exact (List.append_nil _).symm

/-- What a run leaves of a store: the cards that it does not drop, and those that it brings in. -/
theorem cards_after (store : CardStore) (requests : List Request) :
    (store.after requests).cards =
      (store.cards.filter fun card => !requests.any (·.drops card)) ++ survivors requests := by
  induction requests generalizing store with
  | nil =>
    rw [after_nil]
    simp [survivors]
  | cons request later ih =>
    have both : ∀ card : Card, (!later.any (·.drops card) && !request.drops card) =
        !(request :: later).any (·.drops card) := by
      intro card
      rw [List.any_cons, Bool.not_or, Bool.and_comm]
    have one : request.card?.toList.filter (fun card => !later.any (·.drops card)) =
        (request.card?.filter fun card => !later.any (·.drops card)).toList := by
      cases request.card? with
      | none => rfl
      | some card => simp only [Option.toList_some, Option.filter, List.filter]; split <;> simp_all
    rw [after_cons, ih, cards_next, List.filter_append, List.filter_filter, one, survivors_cons,
      List.append_assoc]
    simp only [both]

theorem eq_after_of_ofEntries (built : ofEntries entries = .ok store) :
    store = empty.after (entries.map .add) := by
  have grown : ∀ cards before, cardsOf entries = .ok cards →
      (CardStore.mk before).after (entries.map .add) = ⟨before ++ cards⟩ := by
    clear built
    induction entries with
    | nil =>
      rintro cards before ⟨⟩
      rw [List.map_nil, after_nil, List.append_nil]
    | cons entry entries ih =>
      intro cards before read
      rw [cardsOf] at read
      cases first : cardOf entry with
      | error failure =>
        rw [first] at read
        contradiction
      | ok card =>
        cases rest : cardsOf entries with
        | error failure =>
          rw [first, rest] at read
          contradiction
        | ok cards =>
          rw [first, rest] at read
          cases read
          have added : (CardStore.mk before).next (.add entry) = ⟨before ++ [card]⟩ := by
            rw [next, add, first]
            rfl
          rw [List.map_cons, after_cons, added, ih cards _ rest, List.append_assoc]
          rfl
  rw [ofEntries] at built
  cases read : cardsOf entries with
  | error failure =>
    rw [read] at built
    contradiction
  | ok cards =>
    rw [read] at built
    cases built
    exact (grown cards [] read).symm

theorem cards_eq_survivors (built : ofEntries entries = .ok store) (requests : List Request) :
    (store.after requests).cards = survivors (entries.map .add ++ requests) := by
  rw [eq_after_of_ofEntries built, ← after_append, cards_after]
  rfl

theorem answers_eraseIdx {requests : List Request} {n : Nat} {request : Request}
    (there : requests[n]? = some request)
    (idle : (store.after (requests.take n)).next request = store.after (requests.take n)) :
    store.answers (requests.eraseIdx n) = (store.answers requests).eraseIdx n := by
  obtain ⟨inside, rfl⟩ := List.getElem?_eq_some_iff.mp there
  have parts : requests.take n ++ requests[n] :: requests.drop (n + 1) = requests := by
    rw [List.getElem_cons_drop, List.take_append_drop]
  have before : (store.answers (requests.take n)).length = n := by
    rw [length_answers, List.length_take]
    omega
  have split : store.answers requests = store.answers (requests.take n) ++
      (store.after (requests.take n)).answer requests[n] ::
        (store.after (requests.take n)).answers (requests.drop (n + 1)) := by
    conv_lhs => rw [← parts]
    rw [answers_append, answers, idle]
  rw [List.eraseIdx_eq_take_drop_succ, answers_append, split,
    List.eraseIdx_append_of_length_le before.le, before, Nat.sub_self, List.eraseIdx_cons_zero]

/-! ### All runs -/

/-- The answers of a store follow its history, which begins with the entries that it was built from. A
snapshot holds what the history before it leaves; a removal says whether it met a card of that; a card
is refused for its own sake, and then all else is answered as without it. Ids are the same only if
they are of one kind. -/
theorem answers_follow_history (built : ofEntries entries = .ok store) (requests : List Request)
    (n : Nat) :
    let history := entries.map .add ++ requests.take n
    (requests[n]? = some .snapshot →
        (store.answers requests)[n]? = some (.snapshot (survivors history))) ∧
      (∀ id, requests[n]? = some (.remove id) →
        ∃ found, (store.answers requests)[n]? = some (.removed found) ∧
          (found = true ↔ ∃ card ∈ survivors history, (Request.remove id).drops card = true)) ∧
      (∀ entry, requests[n]? = some (.add entry) →
        (store.answers requests)[n]? = some (.added ((cardOf entry).map fun _ => ()))) ∧
      (∀ entry failure, requests[n]? = some (.add entry) →
        (store.answers requests)[n]? = some (.added (.error failure)) →
        store.answers (requests.eraseIdx n) = (store.answers requests).eraseIdx n) ∧
      ∀ (card : Card) (id : CardId),
        (Request.remove id.toValue).drops card = true ↔ card.id = id := by
  have held := cards_eq_survivors built (requests.take n)
  refine ⟨?_, ?_, ?_, ?_, ?_⟩
  · intro there
    rw [getElem?_answers, there, Option.map_some, answer, held]
  · intro id there
    refine ⟨(store.after (requests.take n)).removes id, ?_, ?_⟩
    · rw [getElem?_answers, there, Option.map_some, answer]
    · rw [removes, held, List.any_eq_true]
      rfl
  · intro entry there
    rw [getElem?_answers, there, Option.map_some, answer, add]
    cases cardOf entry <;> rfl
  · intro entry failure there refused
    refine answers_eraseIdx there ?_
    rw [getElem?_answers, there, Option.map_some, answer] at refused
    rw [next]
    cases added : (store.after (requests.take n)).add entry with
    | ok later =>
      rw [added] at refused
      simp [Except.map] at refused
    | error failure => rfl
  · intro card id
    rw [Request.drops, CardId.same_toValue, beq_iff_eq]

def oneTwice : List Entry := [.raw (.object [("id", .int 1)]), .raw (.object [("id", .bool true)])]

/-- The cards with the id 1 give way to a new one, beside a card with the id "1" and a refused one. -/
def renewed : List Request :=
  [.add (.raw (.object [("id", .text "1")])), .remove (.int 1),
    .add (.raw (.object [("id", .int 1), ("created", .float (.infinite false))])),
    .add (.raw (.object [("id", .int 1), ("text", .text "new")])), .snapshot]

theorem renewed_card_survives :
    ∃ store, ofEntries oneTwice = .ok store ∧
      (store.answers renewed)[4]? = some (.snapshot
        [⟨.text "1", none, none, [], none⟩, ⟨.number 1, some "new", none, [], none⟩]) ∧
      (∃ found, (store.answers renewed)[1]? = some (.removed found) ∧ found = true) ∧
      store.answers (renewed.eraseIdx 2) = (store.answers renewed).eraseIdx 2 := by
  have built : ofEntries oneTwice =
      .ok ⟨[⟨.number 1, none, none, [], none⟩, ⟨.number 1, none, none, [], none⟩]⟩ := rfl
  refine ⟨_, built, (answers_follow_history built renewed 4).1 rfl, ?_, ?_⟩
  · obtain ⟨found, said, met⟩ := (answers_follow_history built renewed 1).2.1 (.int 1) rfl
    refine ⟨found, said, met.mpr ⟨⟨.number 1, none, none, [], none⟩, ?_, rfl⟩⟩
    decide
  · refine (answers_follow_history built renewed 2).2.2.2.1 _ .infiniteTime rfl rfl

end CardSearch.CardStore
