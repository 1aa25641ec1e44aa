import CardSearch.Proofs.NestingDepth
import CardSearch.Proofs.Segments
/-!
Cutting a query along its mask. At a connective that the mask shows, around the body of a group and at the
ends of a trimmed query, the piece that is cut off is masked by itself as it is within the query: no phrase
opens, closes or grows because its surroundings are gone. Main statement: so one mask serves for all the
pieces of a query.
-/
namespace CardSearch.Query

open Text

variable {query : Text} {connective : Connective} {k : Nat}

theorem parts_of_shown (shown : connective.spelling <+: (mask query).drop k) :
    query = query.take k ++
        (connective.spelling ++ query.drop (k + connective.spelling.length)) ∧
      mask query = mask (query.take k) ++
        (connective.spelling ++ mask (query.drop (k + connective.spelling.length))) := by
  have cut : ∀ {text : Text}, connective.spelling <+: text.drop k →
      text = text.take k ++ (connective.spelling ++ text.drop (k + connective.spelling.length)) := by
    rintro text ⟨rest, whole⟩
    rw [← List.drop_drop, ← whole, List.drop_left, whole, List.take_append_drop]
  refine ⟨cut (spelling_of_shown shown), ?_⟩
  rw [mask_take_of_shown shown, mask_drop_of_shown shown]
  exact cut shown

theorem splitAlong_ne_nil (connective : Connective) (query mask : Text) :
    splitAlong connective query mask ≠ [] := by
  rw [splitAlong]
  split <;> simp

theorem splitAlong_mask_of_find? (found : connective.find? (mask query) = some k) :
    splitAlong connective query (mask query) = query.take k ::
      splitAlong connective (query.drop (k + connective.spelling.length))
        (mask (query.drop (k + connective.spelling.length))) := by
  rw [splitAlong_of_find? found, mask_behind found]

theorem joinWith_splitAlong (connective : Connective) (query : Text) :
    joinWith connective.spelling (splitAlong connective query (mask query)) = query := by
  induction query using connective.cut_induction with
  | whole query unseen =>
    rw [splitAlong_of_find?_eq_none unseen]
    rfl
  | cut query k found ih =>
    rw [splitAlong_mask_of_find? found, joinWith_cons (splitAlong_ne_nil _ _ _), ih]
    exact (parts_of_shown (find?_eq_some_iff.mp found).1).1.symm

theorem map_mask_splitAlong (connective : Connective) (query : Text) :
    (splitAlong connective query (mask query)).map mask =
      splitAlong connective (mask query) (mask query) := by
  induction query using connective.cut_induction with
  | whole query unseen =>
    rw [splitAlong_of_find?_eq_none unseen, splitAlong_of_find?_eq_none unseen]
    rfl
  | cut query k found ih =>
    rw [splitAlong_mask_of_find? found, splitAlong_of_find? found, List.map_cons, mask_before found, ih,
      mask_behind found]

/-- A mask may be cut along with its query. A connective that it shows stands in the query at the same
place, and what is in front of it and behind it is masked by itself; so is the body of every group that the
mask shows, and the query without the blanks around it. The parts between the places of a connective give
the query when they are joined by it, their masks are the parts of the mask and give the mask when they are
joined, and none of them shows the connective. -/
theorem mask_is_local (query : Text) :
    (∀ (connective : Connective) (k : Nat), connective.spelling <+: (mask query).drop k →
      connective.spelling <+: query.drop k ∧
        mask query = mask (query.take k) ++
          (connective.spelling ++ mask (query.drop (k + connective.spelling.length)))) ∧
    (∀ group, findGroup? (mask query) = some group → group.Shown (mask query)) ∧
    (∀ group : Group, group.Shown (mask query) → mask (group.body query) = group.body (mask query)) ∧
    (trimMask query query = trim query ∧ mask (trim query) = trimMask query (mask query)) ∧
    ∀ connective : Connective,
      joinWith connective.spelling (splitAlong connective query (mask query)) = query ∧
      (splitAlong connective query (mask query)).map mask =
        splitAlong connective (mask query) (mask query) ∧
      joinWith connective.spelling ((splitAlong connective query (mask query)).map mask) = mask query ∧
      ∀ part ∈ splitAlong connective query (mask query), ¬ connective.spelling <:+: mask part := by
  refine ⟨fun connective k shown => ⟨spelling_of_shown shown, (parts_of_shown shown).2⟩,
    fun group => shown_of_findGroup?, fun group => mask_body,
    ⟨trimMask_self query, mask_trim query⟩, fun connective =>
      ⟨joinWith_splitAlong connective query, map_mask_splitAlong connective query, ?_, ?_⟩⟩
  · have again := joinWith_splitAlong connective (mask query)
    rwa [mask_mask, ← map_mask_splitAlong] at again
  · intro part member
    exact find?_eq_none_iff.mp (slice_of_mem_splitAlong member).2

/-- The connective inside the phrase does not count, and the parenthesis opens a group. -/
theorem mask_is_local_choice :
    Connective.or.spelling <+: (mask "'a or b' or (c)".toList).drop 8 ∧
      Group.Shown ⟨12, 1⟩ (mask "'a or b' or (c)".toList) ∧
      mask "'a or b' or (c)".toList =
        mask "'a or b'".toList ++ (Connective.or.spelling ++ mask "(c)".toList) ∧
      mask ['c'] = Group.body ⟨12, 1⟩ (mask "'a or b' or (c)".toList) := by
  have shown : Connective.or.spelling <+: (mask "'a or b' or (c)".toList).drop 8 := by decide
  have group : Group.Shown ⟨12, 1⟩ (mask "'a or b' or (c)".toList) :=
    ⟨by decide, by decide, by decide, by decide⟩
  have whole := mask_is_local "'a or b' or (c)".toList
  exact ⟨shown, group, (whole.1 .or 8 shown).2, whole.2.2.1 ⟨12, 1⟩ group⟩

end CardSearch.Query
