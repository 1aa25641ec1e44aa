import CardSearch.Proofs.StoreFailures
import Mathlib.Data.List.Forall2
/-!
The cards of a document, all or none. Main statement: a document in a file is read as cards exactly if
it holds a list of entries that all describe cards, and then it yields these cards in their order, as
a store in memory does; otherwise the first entry that describes none is blamed, or there is no list.
-/
namespace CardSearch.Store.Document

variable {path : String} {index : Nat} {entries : List Value} {cards : List Card}

def IsCard (entry : Value) : Prop := ∃ card, Card.ofValue entry = .ok card

def Describe (entries : List Value) (cards : List Card) : Prop :=
  List.Forall₂ (fun entry card => Card.ofValue entry = .ok card) entries cards

/-- The error that blames an entry at a position for describing no card. -/
inductive Blames (path : String) (index : Nat) : Value → StoreError → Prop
  | notObject {entry : Value} : (∀ fields, entry ≠ .object fields) →
      Blames path index entry (.notObject index path)
  | invalid {fields : List (String × Value)} {invalid : Invalid} :
      Card.ofFields fields = .error (.invalid invalid) →
      Blames path index (.object fields) (.invalidEntry index path invalid)

theorem cardsFrom_eq_ok_iff : cardsFrom path index entries = .ok cards ↔ Describe entries cards := by
  unfold Describe
  induction entries generalizing index cards with
  | nil => cases cards <;> simp [cardsFrom]
  | cons entry entries ih =>
    have refused : ¬ IsCard entry →
        ¬ List.Forall₂ (fun entry card => Card.ofValue entry = .ok card) (entry :: entries) cards := by
      rintro none (_ | ⟨first, -⟩)
      exact none ⟨_, first⟩
    cases entry with
    | object fields =>
      rw [cardsFrom]
      cases read : Card.ofFields fields with
      | error rejection =>
        have none : ¬ IsCard (.object fields) := by
          rintro ⟨card, first⟩
          rw [Card.ofValue, read] at first
          contradiction
        cases rejection <;> exact ⟨fun same => by contradiction, fun all => absurd all (refused none)⟩
      | ok card =>
        constructor
        · intro all
          cases rest : cardsFrom path (index + 1) entries with
          | error failure =>
            rw [rest] at all
            contradiction
          | ok later =>
            rw [rest] at all
            cases all
            exact .cons read (ih.mp rest)
        · rintro (_ | ⟨first, rest⟩)
          rw [Card.ofValue, read] at first
          cases first
          rw [ih.mpr rest]
          rfl
    | _ =>
      refine ⟨fun same => by contradiction, fun all => absurd all (refused ?_)⟩
      rintro ⟨card, first⟩
      contradiction

/-- The first entry that describes no card is blamed, whatever stands behind it. -/
theorem cardsFrom_blames (path : String) (index : Nat)
    (data : ∀ entry ∈ entries, Json.IsData entry)
    (some : ∃ entry ∈ entries, ¬ IsCard entry) :
    ∃ n entry error, entries[n]? = Option.some entry ∧ ¬ IsCard entry ∧
      (∀ earlier ∈ entries.take n, IsCard earlier) ∧ Blames path (index + n) entry error ∧
      cardsFrom path index entries = .error (.store error) := by
  induction entries generalizing index with
  | nil => simp at some
  | cons entry entries ih =>
    rw [List.forall_mem_cons] at data
    have here {error : StoreError} (none : ¬ IsCard entry) (blamed : Blames path index entry error)
        (fails : cardsFrom path index (entry :: entries) = .error (.store error)) :
        ∃ n bad error, (entry :: entries)[n]? = Option.some bad ∧ ¬ IsCard bad ∧
          (∀ earlier ∈ (entry :: entries).take n, IsCard earlier) ∧ Blames path (index + n) bad error ∧
          cardsFrom path index (entry :: entries) = .error (.store error) :=
      ⟨0, entry, error, rfl, none, by simp, blamed, fails⟩
    cases entry with
    | object fields =>
      cases read : Card.ofFields fields with
      | error rejection =>
        have none : ¬ IsCard (.object fields) := by
          rintro ⟨card, first⟩
          rw [Card.ofValue, read] at first
          contradiction
        cases rejection with
        | invalid invalid => exact here none (.invalid read) (by rw [cardsFrom, read])
        | infiniteTime =>
          exact absurd (Card.ofFields_infiniteTime_iff.mp read) (not_hasInfiniteTime_of_isData data.1)
      | ok card =>
        have first : IsCard (.object fields) := ⟨card, read⟩
        have later : ∃ entry ∈ entries, ¬ IsCard entry := by
          obtain ⟨bad, member, none⟩ := some
          rcases List.mem_cons.mp member with rfl | member
          · exact absurd first none
          · exact ⟨bad, member, none⟩
        obtain ⟨n, bad, error, there, none, before, blamed, fails⟩ := ih (index + 1) data.2 later
        refine ⟨n + 1, bad, error, there, none, ?_, ?_, ?_⟩
        · rw [List.take_succ_cons, List.forall_mem_cons]
          exact ⟨first, before⟩
        · rwa [Nat.add_right_comm] at blamed
        · rw [cardsFrom, read, fails]
          rfl
    | _ => exact here (by rintro ⟨card, first⟩; contradiction) (.notObject (by simp)) rfl

theorem ofEntries_of_describe (described : Describe entries cards) :
    CardStore.ofEntries (entries.map .raw) = .ok ⟨cards⟩ := by
  have read : CardStore.cardsOf (entries.map .raw) = .ok cards := by
    induction described with
    | nil => rfl
    | cons first rest ih =>
      rw [List.map_cons, CardStore.cardsOf, CardStore.cardOf, first, ih]
      rfl
  rw [CardStore.ofEntries, read]
  rfl

/-! ### Files -/

section

variable {bytes : List UInt8} {document : Value}

theorem cardsOfFile_of_parsed (possible : isPossible path = true)
    (parsed : Json.readBytes? .bounded bytes = some document) :
    cardsOfFile path (.ok bytes) = cardsOf path document := by
  rw [cardsOfFile, if_pos possible, cardsOfBytes, parsed]

theorem cardsOf_of_payload {document : Value} (found : payload document = some (.list entries)) :
    cardsOf path document = cardsFrom path 0 entries := by
  rw [cardsOf, found]

theorem cardsOf_of_no_list {document : Value}
    (none : ∀ entries, payload document ≠ some (.list entries)) :
    cardsOf path document = .error (.store (.notList path)) := by
  rw [cardsOf.eq_def]
  split
  · rename_i entries found
    exact absurd found (none entries)
  · rfl

/-- A file that holds a JSON document yields cards exactly if the document has a list of entries that
describe them. With an entry in the list that describes none it fails, and the message blames the first
such entry and says whether it is an object; without a list it fails for that. A store in memory
of the entries holds the same cards. -/
theorem file_is_read_whole (possible : isPossible path = true)
    (parsed : Json.readBytes? .bounded bytes = some document) :
    (∀ cards, cardsOfFile path (.ok bytes) = .ok cards ↔
        ∃ entries, payload document = some (.list entries) ∧ Describe entries cards) ∧
      (∀ entries, payload document = some (.list entries) → (∃ entry ∈ entries, ¬ IsCard entry) →
        ∃ n entry error, entries[n]? = some entry ∧ ¬ IsCard entry ∧
          (∀ earlier ∈ entries.take n, IsCard earlier) ∧ Blames path n entry error ∧
          cardsOfFile path (.ok bytes) = .error (.store error)) ∧
      ((∀ entries, payload document ≠ some (.list entries)) →
        cardsOfFile path (.ok bytes) = .error (.store (.notList path))) ∧
      (∀ entries cards, payload document = some (.list entries) →
        cardsOfFile path (.ok bytes) = .ok cards →
        CardStore.ofEntries (entries.map .raw) = .ok ⟨cards⟩) ∧
      (∀ n, (StoreError.notObject n path).message =
        "Card #" ++ toString n ++ " in " ++ path ++ " is not an object") ∧
      (∀ n invalid, (StoreError.invalidEntry n path invalid).message =
        "Card #" ++ toString n ++ " in " ++ path ++ " is invalid: " ++ invalid.report) ∧
      (StoreError.notList path).message = "Card file must hold a list of cards: " ++ path := by
  rw [cardsOfFile_of_parsed possible parsed]
  have data := Json.isData_of_readBytes? parsed
  refine ⟨?_, ?_, cardsOf_of_no_list, ?_, fun _ => rfl, fun _ _ => rfl, rfl⟩
  · intro cards
    by_cases listed : ∃ entries, payload document = some (.list entries)
    · obtain ⟨entries, found⟩ := listed
      rw [cardsOf_of_payload found, cardsFrom_eq_ok_iff, found]
      simp
    · rw [not_exists] at listed
      rw [cardsOf_of_no_list listed]
      exact ⟨fun same => by contradiction, fun ⟨entries, found, _⟩ => absurd found (listed entries)⟩
  · intro entries found bad
    rw [cardsOf_of_payload found]
    cases isData_of_payload data found with
    | list all =>
      obtain ⟨n, entry, error, there, none, before, blamed, fails⟩ :=
        cardsFrom_blames path 0 all bad
      rw [Nat.zero_add] at blamed
      exact ⟨n, entry, error, there, none, before, blamed, fails⟩
  · intro entries cards found read
    rw [cardsOf_of_payload found, cardsFrom_eq_ok_iff] at read
    exact ofEntries_of_describe read

end

/-- An object with a list of a card, a number and an object without an id. -/
def mixedList : String := "\x7b\"cards\":[\x7b\"id\":1\x7d,7,\x7b\x7d]\x7d"

theorem number_among_cards_is_blamed :
    isPossible "f" = true ∧
      ∃ document, Json.readBytes? .bounded mixedList.toUTF8.data.toList = some document ∧
        cardsOfFile "f" (.ok mixedList.toUTF8.data.toList) = .error (.store (.notObject 1 "f")) := by
  have possible : isPossible "f" = true := by simp [isPossible]
  have read : Json.read? .bounded mixedList.toList =
      some (.object [("cards", .list [.object [("id", .int 1)], .int 7, .object []])]) := by rfl
  have parsed := (Json.readBytes?_toUTF8 .bounded mixedList).trans read
  have number : ¬ IsCard (.int 7) := by
    rintro ⟨card, described⟩
    contradiction
  refine ⟨possible, _, parsed, ?_⟩
  obtain ⟨n, entry, error, there, bad, before, blamed, fails⟩ :=
    (file_is_read_whole possible parsed).2.1 _ rfl ⟨.int 7, by simp, number⟩
  rw [fails]
  -- The card in front of the number and the object behind it are not the first that is none.
  match n with
  | 0 =>
    cases there
    exact absurd ⟨⟨.number 1, none, none, [], none⟩, rfl⟩ bad
  | 1 =>
    cases there
    cases blamed
    rfl
  | n + 2 => exact absurd (before (.int 7) (by simp)) number

end CardSearch.Store.Document
