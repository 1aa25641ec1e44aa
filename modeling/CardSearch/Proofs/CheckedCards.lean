import CardSearch.Proofs.NormalForm
import Mathlib.Data.List.Nodup
/-!
Searching cards, the members of a corpus that were checked. With literal wildcards such a search
never fails. Main statement: its outcome holds the ids of the cards that the query holds of, each
once, and one pass over the cards is timed and counted.
-/
namespace CardSearch

/-! ### Collecting ids -/

namespace Outcome

variable {α : Type} [DecidableEq α]

theorem insertNew_eq (items : List α) (item : α) :
    insertNew (· == ·) items item = if item ∈ items then items else items ++ [item] := by
  simp only [insertNew, List.any_beq, List.contains_iff_mem]

private theorem foldl_insertNew (items others : List α) (nodup : others.Nodup) :
    (items.foldl (insertNew (· == ·)) others).Nodup ∧
      ∀ item, item ∈ items.foldl (insertNew (· == ·)) others ↔ item ∈ others ∨ item ∈ items := by
  induction items generalizing others with
  | nil => simp [nodup]
  | cons first items ih =>
    rw [List.foldl_cons, insertNew_eq]
    split
    · rename_i there
      obtain ⟨unique, member⟩ := ih others nodup
      refine ⟨unique, fun item => ?_⟩
      rw [member, List.mem_cons]
      constructor
      · rintro (old | later)
        · exact .inl old
        · exact .inr (.inr later)
      · rintro (old | rfl | later)
        · exact .inl old
        · exact .inl there
        · exact .inr later
    · rename_i absent
      have fresh : (others ++ [first]).Nodup := by
        rw [← List.concat_eq_append]
        exact List.Nodup.concat absent nodup
      obtain ⟨unique, member⟩ := ih _ fresh
      refine ⟨unique, fun item => ?_⟩
      rw [member, List.mem_append, List.mem_singleton, List.mem_cons, or_assoc]

theorem mem_distinct {items : List α} {item : α} : item ∈ distinct (· == ·) items ↔ item ∈ items := by
  rw [distinct, (foldl_insertNew items [] List.nodup_nil).2]
  simp

theorem nodup_distinct (items : List α) : (distinct (· == ·) items).Nodup :=
  (foldl_insertNew items [] List.nodup_nil).1

theorem distinct_of_nodup {items : List α} (nodup : items.Nodup) : distinct (· == ·) items = items := by
  have behind : ∀ others : List α, (others ++ items).Nodup →
      items.foldl (insertNew (· == ·)) others = others ++ items := by
    clear nodup
    induction items with
    | nil => simp
    | cons first items ih =>
      intro others nodup
      have absent : first ∉ others := by
        intro there
        exact (List.nodup_append.mp nodup).2.2 first there first (List.mem_cons_self ..) rfl
      rw [List.foldl_cons, insertNew_eq, if_neg absent, List.append_cons others first items]
      exact ih _ (by rwa [← List.append_cons])
  exact behind [] nodup

end Outcome

/-! ### Ids as values -/

theorem CardId.changeable?_toValue (id : CardId) : id.toValue.changeable? = none := by
  cases id <;> simp [toValue, Value.changeable?]

theorem CardId.same_toValue (a b : CardId) : a.toValue.same b.toValue = (a == b) := by
  cases a <;> cases b <;> simp [toValue, Value.same, Value.numeric?, Value.Numeric.same, beq_eq_decide]

theorem Card.readId_toValue (id : CardId) : Card.readId id.toValue = .ok id := by
  cases id <;> rfl

namespace Outcome

theorem insertNew_toValue (ids : List CardId) (id : CardId) :
    insertNew Value.same (ids.map CardId.toValue) id.toValue =
      (insertNew (· == ·) ids id).map CardId.toValue := by
  have same : (ids.map CardId.toValue).any (Value.same id.toValue) = ids.any (id == ·) := by
    rw [List.any_map]
    congr 1
    funext other
    exact CardId.same_toValue id other
  rw [insertNew, insertNew, same]
  split
  · rfl
  · rw [List.map_append, List.map_singleton]

theorem readIds_toValue (index : Nat) (ids : List CardId) :
    readIds index (ids.map CardId.toValue) = .ok ids := by
  induction ids generalizing index with
  | nil => rfl
  | cons id ids ih => rw [List.map_cons, readIds, Card.readId_toValue, ih]

theorem ofMatches_toValue (query : String) {ids : List CardId} (nodup : ids.Nodup) :
    ofMatches query (ids.map CardId.toValue) = .ok ⟨false, ids, query⟩ := by
  rw [ofMatches, readIdSet, readIds_toValue, Except.map, distinct_of_nodup nodup]

end Outcome

/-! ### Searching -/

namespace Search

def idsFound (query : Text) (cards : List Card) : List CardId :=
  Outcome.distinct (· == ·)
    ((cards.filter fun card => Query.holdsLiterally query (Entry.card card).searchText).map Card.id)

theorem nodup_idsFound (query : Text) (cards : List Card) : (idsFound query cards).Nodup :=
  Outcome.nodup_distinct _

theorem mem_idsFound {query : Text} {cards : List Card} {id : CardId} :
    id ∈ idsFound query cards ↔
      ∃ card ∈ cards, Query.holdsLiterally query (Entry.card card).searchText = true ∧
        card.id = id := by
  rw [idsFound, Outcome.mem_distinct, List.mem_map]
  simp only [List.mem_filter, and_assoc]

private theorem collect_cards (query : Text) (cards : List Card) (found : List CardId)
    (rejections : List Query.Rejection) :
    (collect .literal query (found.map CardId.toValue) (cards.map Entry.card)).run rejections =
      (.ok ((((cards.filter fun card =>
        Query.holdsLiterally query (Entry.card card).searchText).map Card.id).foldl
          (Outcome.insertNew (· == ·)) found).map CardId.toValue), rejections) := by
  induction cards generalizing found with
  | nil => rfl
  | cons card cards ih =>
    have answer : holds .literal query (Entry.card card).searchText =
        pure (Query.holdsLiterally query (Entry.card card).searchText) := rfl
    have added : addId (found.map CardId.toValue) card.id.toValue =
        .ok ((Outcome.insertNew (· == ·) found card.id).map CardId.toValue) := by
      rw [addId, CardId.changeable?_toValue]
      exact congrArg Except.ok (Outcome.insertNew_toValue found card.id)
    rw [List.map_cons, collect, Entry.id?]
    dsimp only
    rw [answer, pure_bind, List.filter_cons]
    split
    · rw [added, List.map_cons, List.foldl_cons, ← ih]
      rfl
    · exact ih found

theorem run_cards (query : Text) (cards : List Card) :
    run .literal query (cards.map Entry.card) =
      ([.timed .search,
        .counted .search (if (idsFound query cards).isEmpty then .empty else .matched),
        .logged (matchedRecord query (idsFound query cards).length)],
        .ok ⟨false, idsFound query cards, String.ofList query⟩) := by
  have collected := collect_cards query cards [] []
  rw [List.map_nil, ← Outcome.distinct, ← idsFound] at collected
  rw [run, collected]
  dsimp only
  rw [Outcome.ofMatches_toValue _ (nodup_idsFound query cards), List.isEmpty_map, List.length_map]
  rfl

theorem search_cards (raw : Value) (cards : List Card) :
    (search .literal raw (cards.map Entry.card)).2 =
      .ok (if (normalized raw).isEmpty then .clear
        else ⟨false, idsFound (normalized raw) cards, String.ofList (normalized raw)⟩) := by
  rw [search]
  split
  · rfl
  · rw [run_cards]

end Search

end CardSearch
