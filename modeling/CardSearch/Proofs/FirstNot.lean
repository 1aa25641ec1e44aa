import CardSearch.Proofs.Reduction
/-!
Evaluation as the rules of the language put it: a query is cut at its first `not` only, and what
follows is a query like any other, trimmed, masked and searched for groups, clauses and connectives
afresh. Main statement: the chain of `not`s, which is cut along one mask and evaluated from the
right, gives every query the same value.
-/
namespace CardSearch.Query

open Text

variable (test : (term text : Text) → Bool) (text : Text)

set_option linter.unusedVariables false in
/-- The value of a query that is cut at its first `not`; nothing in front of it counts as true. -/
def valueByFirstNot (query : Text) : Bool :=
  have trimmed : NoLarger (trim query) query := noLarger_of_sublist (trim_sublist query)
  let reduced := Id.run <| reduceGroups (trim query) fun body fewer => pure (valueByFirstNot body)
  have noLarger : NoLarger reduced.text query := reduced.noLarger.trans trimmed
  let shown := mask reduced.text
  have same : shown.length = reduced.text.length := mask_length reduced.text
  if reduced.text = truePlaceholder then true
  else if reduced.text = falsePlaceholder then false
  else
    match Proximity.read? reduced.text shown with
    | some clause => clauseValue test text clause
    | none =>
      if several : Connective.or.find? shown ≠ none then
        (splitAlong .or reduced.text shown).attach.any fun ⟨part, member⟩ => valueByFirstNot part
      else
        match found : Connective.not.find? shown with
        | some k =>
          let before := trim (reduced.text.take k)
          let after := reduced.text.drop (k + Connective.not.spelling.length)
          (before.isEmpty || valueByFirstNot before) && !valueByFirstNot after
        | none => (conjuncts reduced.text shown).all (termValue test text)
termination_by size query
decreasing_by
  · refine Below.of_openings ?_
    unfold NoLarger at trimmed
    omega
  · exact Below.of_piece ⟨sublist_of_mem_splitAlong member,
      length_lt_of_mem_splitAlong same several member⟩ noLarger
  · exact Below.of_piece (.of_cut same found (.inl (trim_sublist _))) noLarger
  · exact Below.of_piece (.of_cut same found (.inr (List.Sublist.refl _))) noLarger

/-- Every query has the value that the rules of the language give it. -/
theorem value_eq_valueByFirstNot (query : Text) :
    value test text query = valueByFirstNot test text query := by
  have trimmed : NoLarger (trim query) query := noLarger_of_sublist (trim_sublist query)
  have reduced : replaceGroups (valueByFirstNot test text) (trim query) =
      replaceGroups (value test text) (trim query) := by
    apply replaceGroups_congr
    intro body fewer
    exact (value_eq_valueByFirstNot body).symm
  have settled := settled_replaceGroups (value test text) (trim query)
  have noLarger := (replaceGroups_noLarger (value test text) (trim query)).trans trimmed
  have pieces : ∀ part, Piece part (replaceGroups (value test text) (trim query)) →
      value test text part = valueByFirstNot test text part := by
    intro part piece
    exact value_eq_valueByFirstNot part
  rw [← value_replaceGroups query, valueByFirstNot]
  rw [← reduced] at settled pieces ⊢
  rw [replaceGroups] at settled pieces ⊢
  generalize Id.run (reduceGroups (trim query) fun body _ =>
    pure (valueByFirstNot test text body)) = whole at settled pieces ⊢
  obtain ⟨whole, _⟩ := whole
  dsimp only at settled pieces ⊢
  by_cases holds : whole = truePlaceholder
  · rw [if_pos holds, settled.value_eq, valueByLevel, if_pos holds]
  by_cases fails : whole = falsePlaceholder
  · rw [if_neg holds, if_pos fails, settled.value_eq, valueByLevel, if_neg holds, if_pos fails]
  rw [if_neg holds, if_neg fails]
  cases read : Proximity.read? whole (mask whole) with
  | some clause => exact settled.value_of_clause read
  | none =>
    dsimp only
    by_cases several : Connective.or.find? (mask whole) ≠ none
    · rw [dif_pos several, settled.value_of_or read several, List.any_subtype (fun _ _ => rfl),
        List.unattach_attach, Bool.eq_iff_iff, List.any_eq_true, List.any_eq_true]
      refine exists_congr fun part => and_congr_right fun member => ?_
      rw [pieces part ⟨sublist_of_mem_splitAlong member,
        length_lt_of_mem_splitAlong (mask_length whole) several member⟩]
    · rw [dif_neg several]
      have single := not_ne_iff.mp several
      split
      · rename_i k found
        have before : Piece (trim (whole.take k)) whole :=
          .of_cut (mask_length whole) found (.inl (trim_sublist _))
        have after : Piece (whole.drop (k + Connective.not.spelling.length)) whole :=
          .of_cut (mask_length whole) found (.inr (List.Sublist.refl _))
        rw [settled.value_of_not read single found, ← value_trim test text (whole.take k),
          pieces _ before, pieces _ after]
        cases empty : trim (whole.take k) with
        | nil => rw [← pieces [] (empty ▸ before), value_nil]; rfl
        | cons c rest => rfl
      · rename_i affirms
        exact settled.value_of_terms read single affirms
termination_by size query
decreasing_by
  · exact Below.of_openings (by unfold NoLarger at trimmed; omega)
  · exact Below.of_piece piece noLarger

end CardSearch.Query
