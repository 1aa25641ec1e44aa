import CardSearch.Query.Basic
/-!
One activation of the evaluator, with the evaluation of the parts of a query left open. What an
activation evaluates in turn are the bodies of the groups, the alternatives of an `or`, and what stands
around a `not`; which of them are reached depends on the placeholders that the groups before them turn
into. Main statement: evaluation is the activation that evaluates its parts by evaluation.
-/
namespace CardSearch.Query

open Text

variable {part query reduct : Text}

section

variable {m : Type → Type} [Monad m]

/-- Evaluates what follows the last `not`, given an evaluation of the parts of a query. -/
def evaluateRemainder (test : (term text : Text) → m Bool) (text : Text) (inner : Text → m Bool) :
    Remainder → m Bool
  | .clause clause => clause.evaluate test text
  | .query rest => inner rest

def level (test : (term text : Text) → m Bool) (text : Text) (inner : Text → m Bool)
    (query : Text) : m Bool :=
  if query = truePlaceholder then pure true
  else if query = falsePlaceholder then pure false
  else
    match Proximity.read? query (mask query) with
    | some clause => clause.evaluate test text
    | none =>
      if Connective.or.find? (mask query) ≠ none then
        anyTrue (splitAlong .or query (mask query)) fun part _ => inner part
      else if Connective.not.find? (mask query) ≠ none then
        let rest := evaluateRemainder test text inner (notChain query (mask query)).remainder
        match (notChain query (mask query)).heads with
        | [] => rest
        | first :: heads => do
          let later ← chainValue heads rest fun head _ => inner head
          let before ← if first = [] then pure true else inner first
          return before && !later
      else allTrue (conjuncts query (mask query)) fun term _ => evaluateTerm test text term

def activation (test : (term text : Text) → m Bool) (text : Text) (inner : Text → m Bool)
    (query : Text) : m Bool := do
  let reduced ← reduceGroups (trim query) fun body _ => inner body
  level test text inner reduced.text

theorem evaluate_eq_activation (test : (term text : Text) → m Bool) (text query : Text) :
    evaluate test text query = activation test text (evaluate test text) query := by
  rw [evaluate, activation]
  congr 1
  funext reduced
  unfold level
  dsimp only
  split
  · rfl
  split
  · rfl
  cases Proximity.read? reduced.text (mask reduced.text) with
  | some clause => rfl
  | none =>
    dsimp only
    split
    · rfl
    split
    · split
      all_goals
        rename_i cut
        rw [cut]
        split
        all_goals
          rename_i last
          rw [last]
          rfl
    · rfl

end

/-! ### Parts -/

/-- The body of a group that is evaluated while the groups of a query are replaced. -/
inductive IsGroupBody : (part query : Text) → Prop
  | next {query : Text} {group : Group} (found : findGroup? (mask query) = some group) :
    IsGroupBody (group.body query) query
  | later {part query : Text} {group : Group} (found : findGroup? (mask query) = some group)
    (truth : Bool) (inside : IsGroupBody part (group.replace query (placeholder truth))) :
    IsGroupBody part query

/-- What is left of a query once each of its groups is replaced by a placeholder. -/
inductive IsReduct : (reduct query : Text) → Prop
  | trimmed {query : Text} (groupless : findGroup? (mask query) = none) : IsReduct (trim query) query
  | replaced {reduct query : Text} {group : Group} (found : findGroup? (mask query) = some group)
    (truth : Bool) (later : IsReduct reduct (group.replace query (placeholder truth))) :
    IsReduct reduct query

/-- A part that the evaluation of a query without groups evaluates. -/
inductive IsBranch (part query : Text) : Prop
  | alternative (several : Connective.or.find? (mask query) ≠ none)
    (member : part ∈ splitAlong .or query (mask query))
  | head (single : Connective.or.find? (mask query) = none)
    (member : part ∈ (notChain query (mask query)).heads)
  | rest (single : Connective.or.find? (mask query) = none)
    (denies : Connective.not.find? (mask query) ≠ none)
    (last : (notChain query (mask query)).remainder = .query part)

/-- A part that the evaluation of a query evaluates. -/
inductive IsPart (part query : Text) : Prop
  | body (inside : IsGroupBody part (trim query))
  | branch {reduct : Text} (reduces : IsReduct reduct (trim query)) (inside : IsBranch part reduct)

/-- A term that the evaluation of a query without groups tests, on the text or on its words. -/
inductive IsTested (term query : Text) : Prop
  | ofClause {clause : Proximity} (read : Proximity.read? query (mask query) = some clause)
    (side : term = clause.first ∨ term = clause.second)
  | ofRemainder {clause : Proximity}
    (last : (notChain query (mask query)).remainder = .clause clause)
    (side : term = clause.first ∨ term = clause.second)
  | ofConjunction (member : term ∈ conjuncts query (mask query))

theorem IsGroupBody.openings_lt (inside : IsGroupBody part query) :
    openings part < openings query := by
  induction inside with
  | next found => exact openings_body_lt found
  | later found truth inside ih => exact Nat.lt_trans ih (openings_replace_lt truth found)

theorem IsGroupBody.shows (inside : IsGroupBody part query) : findGroup? (mask query) ≠ none := by
  cases inside with
  | next found => simp [found]
  | later found => simp [found]

theorem IsReduct.noLarger (reduces : IsReduct reduct query) : NoLarger reduct query := by
  induction reduces with
  | trimmed groupless => exact noLarger_of_sublist (trim_sublist _)
  | replaced found truth later ih => exact ih.trans (.inl (openings_replace_lt truth found))

theorem IsReduct.eq_trim (reduces : IsReduct reduct query) (groupless : findGroup? (mask query) = none) :
    reduct = trim query := by
  cases reduces with
  | trimmed => rfl
  | replaced found => simp [groupless] at found

theorem IsBranch.piece (inside : IsBranch part query) : Piece part query := by
  have length := mask_length query
  cases inside with
  | alternative several member =>
    exact ⟨sublist_of_mem_splitAlong member, length_lt_of_mem_splitAlong length several member⟩
  | head single member => exact piece_of_mem_heads length member
  | rest single denies last => exact piece_of_remainder length denies last

theorem IsPart.below (inside : IsPart part query) : Below part query := by
  have trimmed : NoLarger (trim query) query := noLarger_of_sublist (trim_sublist query)
  cases inside with
  | body inside =>
    have fewer := inside.openings_lt
    exact .of_openings (by unfold NoLarger at trimmed; omega)
  | branch reduces inside => exact .of_piece inside.piece (reduces.noLarger.trans trimmed)

end CardSearch.Query
