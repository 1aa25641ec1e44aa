import CardSearch.Proofs.MatchingIds
/-!
Cards that were never checked. Their texts and ids are read in one way where they stand in a corpus
and in another where a card is made of them. Main statement: for data that JSON can write and that
describes cards, both ways give the same search texts and the same search, although unchecked ids are
put together before they are checked.
-/
namespace CardSearch

/-! ### Data that JSON can write -/

namespace Value

mutual

def isJson : Value → Bool
  | null | bool _ | int _ | float _ | text _ => true
  | list items => areJson items
  | object fields => areJsonFields fields
  | _ => false

def areJson : List Value → Bool
  | [] => true
  | item :: items => isJson item && areJson items

def areJsonFields : List (String × Value) → Bool
  | [] => true
  | (_, value) :: fields => isJson value && areJsonFields fields

end

theorem isJson_of_lookup {fields : List (String × Value)} (json : areJsonFields fields = true)
    {name : String} {value : Value} (found : lookup name fields = some value) :
    value.isJson = true := by
  induction fields with
  | nil => contradiction
  | cons field fields ih =>
    obtain ⟨key, first⟩ := field
    rw [areJsonFields, Bool.and_eq_true] at json
    rw [lookup] at found
    split at found
    · rw [← Option.some.inj found]
      exact json.1
    · exact ih json.2 found

end Value

namespace Card

theorem isScalar_of_readId {v : Value} {id : CardId} (json : v.isJson = true)
    (read : readId v = .ok id) : v.isScalar = true := by
  cases v with
  | null => simp [readId, Validation.text, idNumber] at read
  | list items => simp [readId, Validation.text, idNumber] at read
  | object fields => simp [readId, Validation.text, idNumber] at read
  | bool _ | int _ | float _ | text _ => rfl
  | _ => simp [Value.isJson] at json

theorem ofFields_eq_ok_iff {fields : List (String × Value)} {card : Card} :
    ofFields fields = .ok card ↔
      (∃ v, Value.lookup "id" fields = some v ∧ readId v = .ok card.id) ∧
        readCreated (Value.lookup "created" fields) = .ok card.created ∧
        card.text = readText (Value.lookup "text" fields) ∧
        card.backText = readText (backField fields) ∧
        card.tags = readTags (Value.lookup "tags" fields) := by
  constructor
  · intro checked
    unfold ofFields at checked
    cases name : Value.lookup "id" fields with
    | none =>
      rw [name] at checked
      dsimp only at checked
      split at checked <;> simp_all
    | some v =>
      rw [name] at checked
      dsimp only at checked
      split at checked
      · contradiction
      · rename_i id created read time
        rw [← Except.ok.inj checked]
        exact ⟨⟨v, rfl, read⟩, time, rfl, rfl, rfl⟩
      · contradiction
  · obtain ⟨id, text, back, tags, created⟩ := card
    rintro ⟨⟨v, name, read⟩, time, rfl, rfl, rfl⟩
    dsimp only at read time
    unfold ofFields
    rw [name, time]
    dsimp only
    rw [read]

theorem exists_fields_of_ofValue {raw : Value} {card : Card} (checked : ofValue raw = .ok card) :
    ∃ fields, raw = .object fields ∧ ofFields fields = .ok card := by
  cases raw with
  | object fields => exact ⟨fields, rfl, checked⟩
  | _ => simp [ofValue] at checked

end Card

/-! ### Search texts -/

namespace Entry

theorem lowered_readText (value : Option Value) :
    lowered ((Card.readText value).map .text) = lowered value := by
  cases value with
  | none => rfl
  | some value => cases value <;> rfl

theorem backOf_eq (fields : List (String × Value)) : backOf fields = Card.backField fields := by
  unfold backOf Card.backField
  cases Value.lookup "backText" fields <;> rfl

theorem filterMap_text?_textsOf (items : List Value) :
    ((Card.textsOf items).map Value.text).filterMap text? = items.filterMap text? := by
  induction items with
  | nil => rfl
  | cons item items ih =>
    rw [List.filterMap_cons]
    cases item with
    | text s => exact congrArg (s.toList :: ·) ih
    | _ => exact ih

theorem loweredTags_readTags (value : Option Value) :
    loweredTags (some (.tuple ((Card.readTags value).map .text))) = loweredTags value := by
  cases value with
  | none => rfl
  | some value =>
    have joined : ∀ items : List Value,
        loweredTags (some (.tuple ((Card.textsOf items).map .text))) =
          Text.lower (Text.joinWith [' '] (items.filterMap text?)) := by
      intro items
      rw [loweredTags, filterMap_text?_textsOf]
    cases value with
    | list items => exact joined items
    | tuple items => exact joined items
    | set items => exact joined items
    | _ => rfl

theorem searchText_of_ofValue {raw : Value} {card : Card} (checked : Card.ofValue raw = .ok card) :
    (Entry.raw raw).searchText = (Entry.card card).searchText := by
  obtain ⟨fields, rfl, ofFields⟩ := Card.exists_fields_of_ofValue checked
  obtain ⟨-, -, text, back, tags⟩ := Card.ofFields_eq_ok_iff.mp ofFields
  rw [searchText, searchText, text, back, tags, lowered_readText, lowered_readText,
    loweredTags_readTags, backOf_eq]

theorem id?_of_ofValue {raw : Value} {card : Card} (json : raw.isJson = true)
    (checked : Card.ofValue raw = .ok card) :
    ∃ v, (Entry.raw raw).id? = some v ∧ v.isScalar = true ∧ Card.readId v = .ok card.id := by
  obtain ⟨fields, rfl, ofFields⟩ := Card.exists_fields_of_ofValue checked
  obtain ⟨⟨v, name, read⟩, -⟩ := Card.ofFields_eq_ok_iff.mp ofFields
  rw [Value.isJson] at json
  have scalar := Card.isScalar_of_readId (Value.isJson_of_lookup json name) read
  refine ⟨v, ?_, scalar, read⟩
  rw [id?, name]
  cases v with
  | null => contradiction
  | _ => rfl

end Entry

/-! ### Searching -/

namespace Search

/-- Members with the same text, the id of one read from that of the other. -/
def Describes (raw : Value) (card : Card) : Prop :=
  (Entry.raw raw).searchText = (Entry.card card).searchText ∧
    ∃ v, (Entry.raw raw).id? = some v ∧ ReadsAs v card.id

theorem matchingIds_describes (query : Text) {raws : List Value} {cards : List Card}
    (described : List.Forall₂ Describes raws cards) :
    List.Forall₂ ReadsAs (matchingIds query (raws.map .raw))
      ((cards.filter fun card => Query.holdsLiterally query (Entry.card card).searchText).map
        Card.id) := by
  induction described with
  | nil => exact .nil
  | cons first rest ih =>
    obtain ⟨text, v, name, read⟩ := first
    rw [List.map_cons, matchingIds_cons, text, name, List.filter_cons]
    split
    · exact .cons read ih
    · exact ih

theorem describes_of_ofValue {raws : List Value} {cards : List Card}
    (json : ∀ raw ∈ raws, raw.isJson = true)
    (checked : List.Forall₂ (fun raw card => Card.ofValue raw = .ok card) raws cards) :
    List.Forall₂ Describes raws cards := by
  induction checked with
  | nil => exact .nil
  | cons first rest ih =>
    obtain ⟨here, later⟩ := List.forall_mem_cons.mp json
    obtain ⟨v, name, scalar, read⟩ := Entry.id?_of_ofValue here first
    exact .cons ⟨Entry.searchText_of_ofValue first, v, name, scalar, read⟩ (ih later)

theorem scalar_of_describes {raws : List Value} {cards : List Card}
    (described : List.Forall₂ Describes raws cards) :
    ∀ entry ∈ raws.map Entry.raw, ∀ id, entry.id? = some id → id.isScalar = true := by
  induction described with
  | nil => simp
  | cons first rest ih =>
    obtain ⟨-, v, name, read⟩ := first
    rw [List.map_cons, List.forall_mem_cons]
    refine ⟨fun id here => ?_, ih⟩
    rw [name] at here
    rw [← Option.some.inj here]
    exact read.1

theorem run_describes (query : Text) {raws : List Value} {cards : List Card}
    (described : List.Forall₂ Describes raws cards) :
    run .literal query (raws.map .raw) = run .literal query (cards.map .card) := by
  have found : List.Forall₂ ReadsAs (valuesFound query (raws.map .raw)) (idsFound query cards) :=
    Outcome.distinct_readsAs (matchingIds_describes query described)
  have outcome : Outcome.ofMatches (String.ofList query) (valuesFound query (raws.map .raw)) =
      .ok ⟨false, idsFound query cards, String.ofList query⟩ := by
    rw [Outcome.ofMatches, Outcome.readIdSet, Outcome.readIds_readsAs found, Except.map,
      Outcome.distinct_of_nodup (nodup_idsFound query cards)]
  have empty : (valuesFound query (raws.map .raw)).isEmpty = (idsFound query cards).isEmpty := by
    apply Bool.eq_iff_iff.mpr
    rw [List.isEmpty_iff_length_eq_zero, List.isEmpty_iff_length_eq_zero, found.length_eq]
  rw [run_literal query (scalar_of_describes described), run_cards, outcome, empty, found.length_eq]
  rfl

/-- Searching JSON data that describes cards is searching the cards: every member has the search text
of its card, and the same is found, counted and logged. -/
theorem search_unchecked (query : Value) {raws : List Value} {cards : List Card}
    (json : ∀ raw ∈ raws, raw.isJson = true)
    (checked : List.Forall₂ (fun raw card => Card.ofValue raw = .ok card) raws cards) :
    List.Forall₂ (fun raw card => (Entry.raw raw).searchText = (Entry.card card).searchText)
        raws cards ∧
      search .literal query (raws.map .raw) = search .literal query (cards.map .card) ∧
      ∃ outcome, (search .literal query (raws.map .raw)).2 = .ok outcome := by
  have described := describes_of_ofValue json checked
  have same : search .literal query (raws.map .raw) = search .literal query (cards.map .card) := by
    rw [search, search, run_describes (normalized query) described]
  refine ⟨described.imp fun _ _ both => both.1, same, ?_⟩
  rw [same, search_cards]
  exact ⟨_, rfl⟩

/-- The same number as a truth value, as a floating-point number and as a whole number. -/
def oneThreeTimes : List Value :=
  [.object [("id", .bool true), ("text", .text "Mass"), ("backText", .null),
      ("back_text", .text "hidden"), ("tags", .list [.text "unit", .int 3])],
    .object [("id", .float .one), ("back_text", .text "Mass"), ("tags", .text "unit")],
    .object [("id", .int 1), ("text", .int 5), ("tags", .object [])]]

def oneThreeTimesChecked : List Card :=
  [⟨.number 1, some "Mass", none, ["unit"], none⟩,
    ⟨.number 1, none, some "Mass", ["unit"], none⟩,
    ⟨.number 1, none, none, [], none⟩]

theorem search_one_three_times :
    (∀ raw ∈ oneThreeTimes, raw.isJson = true) ∧
      List.Forall₂ (fun raw card => Card.ofValue raw = .ok card) oneThreeTimes
        oneThreeTimesChecked ∧
      search .literal (.text "mass unit") (oneThreeTimes.map .raw) =
        search .literal (.text "mass unit") (oneThreeTimesChecked.map .card) := by
  have json : ∀ raw ∈ oneThreeTimes, raw.isJson = true := by decide
  have checked : List.Forall₂ (fun raw card => Card.ofValue raw = .ok card) oneThreeTimes
      oneThreeTimesChecked := .cons rfl (.cons rfl (.cons rfl .nil))
  exact ⟨json, checked, (search_unchecked (.text "mass unit") json checked).2.1⟩

end Search

end CardSearch
