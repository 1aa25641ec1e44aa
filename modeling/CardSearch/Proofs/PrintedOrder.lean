import CardSearch.Proofs.CommandLineOutcome
import Mathlib.Data.Finset.Dedup
import Std.Data.String.ToInt
/-!
Printed outcomes and the order in which ids are visited. The ids of an outcome are a set, and a set is
visited in any order; they are printed in the order of their texts. A number and the text that writes it
have one text, so that these two stay in the order in which they are visited. Main statement: the sets
of ids for which the printed text depends on that order.
-/
namespace CardSearch

namespace CardId

theorem eq_or_of_shown {a b : CardId} (same : a.shown = b.shown) :
    a = b ∨ ∃ n : Int, a = .number n ∧ b = .text (toString n) ∨
      a = .text (toString n) ∧ b = .number n := by
  cases a with
  | text name =>
    cases b with
    | text other => exact .inl (congrArg text same)
    | number n => exact .inr ⟨n, .inr ⟨congrArg text same, rfl⟩⟩
  | number n =>
    cases b with
    | text name => exact .inr ⟨n, .inl ⟨rfl, congrArg text same.symm⟩⟩
    | number m => exact .inl (congrArg number (Int.repr_injective same))

theorem toValue_injective : Function.Injective toValue := by
  intro a b same
  cases a <;> cases b <;> cases same <;> rfl

end CardId

namespace CommandLine

variable {ids : Finset CardId} {first second order : List CardId}

/-- An order in which a set of ids may be visited. -/
structure Visits (order : List CardId) (ids : Finset CardId) : Prop where
  once : order.Nodup
  all : order.toFinset = ids

def HasTwins (ids : Finset CardId) : Prop :=
  ∃ n : Int, .number n ∈ ids ∧ .text (toString n) ∈ ids

theorem Visits.mem_iff (visits : Visits order ids) {id : CardId} : id ∈ order ↔ id ∈ ids := by
  rw [← visits.all, List.mem_toFinset]

theorem Visits.perm (visits : Visits first ids) (other : Visits second ids) : first.Perm second :=
  (List.perm_ext_iff_of_nodup visits.once other.once).mpr fun _ =>
    visits.mem_iff.trans other.mem_iff.symm

theorem perm_sortedIds (perm : first.Perm second) : (sortedIds first).Perm (sortedIds second) :=
  ((List.mergeSort_perm ..).trans perm).trans (List.mergeSort_perm ..).symm

/-! ### Lines -/

theorem map_shown_sortedIds (perm : first.Perm second) :
    (sortedIds first).map CardId.shown = (sortedIds second).map CardId.shown := by
  have sorted : ∀ ids, ((sortedIds ids).map CardId.shown).Pairwise (· ≤ ·) := fun ids =>
    List.pairwise_map.mpr (pairwise_sortedIds ids)
  exact List.Perm.eq_of_pairwise (fun _ _ _ _ => String.le_antisymm) (sorted first) (sorted second)
    ((perm_sortedIds perm).map _)

theorem lines_eq (cleared : Bool) (query : String) (perm : first.Perm second) :
    outcomeText false ⟨cleared, first, query⟩ = outcomeText false ⟨cleared, second, query⟩ := by
  have lines : ∀ ids : List CardId, outcomeText false ⟨cleared, ids, query⟩ =
      String.join (((sortedIds ids).map CardId.shown).map (· ++ "\n")) := by
    intro ids
    rw [outcomeText, if_neg (by decide), List.map_map]
    rfl
  rw [lines, lines, map_shown_sortedIds perm]

/-! ### Documents -/

theorem sortedIds_eq_of_perm (perm : first.Perm second)
    (apart : ∀ a ∈ first, ∀ b ∈ first, a.shown = b.shown → a = b) :
    sortedIds first = sortedIds second := by
  refine List.Perm.eq_of_pairwise ?_ (pairwise_sortedIds first) (pairwise_sortedIds second)
    (perm_sortedIds perm)
  intro a b left right less greater
  refine apart a (List.mem_mergeSort.mp left) b ?_ (String.le_antisymm less greater)
  exact perm.mem_iff.mpr (List.mem_mergeSort.mp right)

theorem Visits.apart (visits : Visits order ids) (none : ¬ HasTwins ids) :
    ∀ a ∈ order, ∀ b ∈ order, a.shown = b.shown → a = b := by
  intro a here b there same
  rcases CardId.eq_or_of_shown same with equal | ⟨n, ⟨rfl, rfl⟩ | ⟨rfl, rfl⟩⟩
  · exact equal
  · exact absurd ⟨n, visits.mem_iff.mp here, visits.mem_iff.mp there⟩ none
  · exact absurd ⟨n, visits.mem_iff.mp there, visits.mem_iff.mp here⟩ none

theorem sortedIds_eq_of_document {cleared : Bool} {query : String}
    (same : outcomeText true ⟨cleared, first, query⟩ = outcomeText true ⟨cleared, second, query⟩) :
    sortedIds first = sortedIds second := by
  have read : ∀ ids : List CardId, Json.read? .unbounded (outcomeText true ⟨cleared, ids, query⟩).toList =
      some (.object [("cleared", .bool cleared),
        ("matching_ids", .list ((sortedIds ids).map CardId.toValue)), ("query", .text query)]) := by
    intro ids
    rw [outcomeText, if_pos rfl, String.toList_append]
    exact Json.read?_line (readBack_outcome ⟨cleared, ids, query⟩ _)
  have both := (read first).symm.trans (same ▸ read second)
  simp only [Option.some.injEq, Value.object.injEq, List.cons.injEq, Prod.mk.injEq, Value.list.injEq,
    true_and, and_true] at both
  exact List.map_injective_iff.mpr CardId.toValue_injective both

theorem pair_sublist_sortedIds {a b : CardId} (same : a.shown = b.shown)
    (visited : [a, b].Sublist order) : [a, b].Sublist (sortedIds order) := by
  have below : a.shown ≤ b.shown := same ▸ String.le_refl a.shown
  exact List.pair_sublist_mergeSort shown_le_trans shown_le_total (decide_eq_true below) visited

private theorem not_sublist_of_sublist {α : Type} {items : List α} {a b : α} (nodup : items.Nodup)
    (there : [a, b].Sublist items) : ¬ [b, a].Sublist items := by
  induction items with
  | nil => cases there
  | cons item items ih =>
    rw [List.nodup_cons] at nodup
    intro back
    cases there with
    | cons _ later =>
      cases back with
      | cons _ other => exact ih nodup.2 later other
      | cons_cons _ other => exact nodup.1 (later.subset (by simp))
    | cons_cons _ later =>
      cases back with
      | cons _ other => exact nodup.1 (other.subset (by simp))
      | cons_cons _ other => exact nodup.1 (later.subset (by simp))

theorem documents_ne {cleared : Bool} {query : String} {n : Int} (once : first.Nodup)
    (ahead : [.number n, .text (toString n)].Sublist first)
    (behind : [.text (toString n), .number n].Sublist second) :
    outcomeText true ⟨cleared, first, query⟩ ≠ outcomeText true ⟨cleared, second, query⟩ := by
  have same : (CardId.number n).shown = (CardId.text (toString n)).shown := rfl
  intro equal
  have back := pair_sublist_sortedIds same.symm behind
  rw [← sortedIds_eq_of_document equal] at back
  exact not_sublist_of_sublist ((List.mergeSort_perm ..).nodup_iff.mpr once)
    (pair_sublist_sortedIds same ahead) back

theorem visits_behind {a b : CardId} (left : a ∈ ids) (right : b ∈ ids) (different : a ≠ b) :
    Visits (a :: b :: ((ids.erase a).erase b).toList) ids := by
  constructor
  · simp [Finset.nodup_toList, different]
  · ext id
    by_cases first : id = a <;> by_cases second : id = b <;> simp_all

/-- The printed text of an outcome is the same for every order in which its ids may be visited, exactly
if it is no document or its ids hold no number together with the text that writes it. -/
theorem outcomeText_settled_iff (asJson cleared : Bool) (query : String) (ids : Finset CardId) :
    (∀ first second, Visits first ids → Visits second ids →
      outcomeText asJson ⟨cleared, first, query⟩ = outcomeText asJson ⟨cleared, second, query⟩) ↔
    (asJson = true → ¬ HasTwins ids) := by
  constructor
  · rintro settled rfl ⟨n, number, text⟩
    have different : CardId.number n ≠ .text (toString n) := nofun
    -- the two are visited first, once in each order
    have one := visits_behind number text different
    have other := visits_behind text number different.symm
    refine documents_ne (n := n) one.once ?_ ?_ (settled _ _ one other)
    · exact .cons_cons _ (.cons_cons _ (List.nil_sublist _))
    · exact .cons_cons _ (.cons_cons _ (List.nil_sublist _))
  · intro none first second one other
    have perm := one.perm other
    cases asJson with
    | false => exact lines_eq cleared query perm
    | true =>
      rw [outcomeText, outcomeText, sortedIds_eq_of_perm perm (one.apart (none rfl))]

/-- A document of the number 7 and the text that writes it depends on which of them is visited first. -/
theorem seven_twice_unsettled :
    ¬ ∀ first second, Visits first {.number 7, .text "7"} → Visits second {.number 7, .text "7"} →
      outcomeText true ⟨false, first, "a"⟩ = outcomeText true ⟨false, second, "a"⟩ := by
  intro settled
  have one : Visits [.number 7, .text "7"] {.number 7, .text "7"} := ⟨by decide, by decide⟩
  have other : Visits [.text "7", .number 7] {.number 7, .text "7"} := ⟨by decide, by decide⟩
  exact documents_ne (n := 7) one.once (.refl _) (.refl _) (settled _ _ one other)

end CommandLine

end CardSearch
