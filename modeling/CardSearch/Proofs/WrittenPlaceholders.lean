import CardSearch.Proofs.Layer
import CardSearch.Proofs.LetterCase
import CardSearch.Proofs.Rules
import Mathlib.Logic.Relation
/-!
Queries in which a placeholder is typed. The values of groups are put into a query as words with capitals,
and queries are in lower case before any group is replaced. Main statement: a query without groups is
evaluated as if no word were true or false by itself, for nothing that is evaluated on the way is a
placeholder, whatever is typed.
-/
namespace CardSearch.Query

open Text

variable {query part reduct : Text}

def unmarked {m : Type → Type} [Monad m] : Rules m := ⟨fun _ => none, pure true⟩

/-- Whether a query holds of a text where no word is true or false by itself, both in lower case. -/
def holdsUnmarked (mode : WildcardMode) (query text : Text) : TermM Bool :=
  match mode with
  | .literal =>
    return Id.run (evaluateBy unmarked (fun term text => pure (matchesLiterally term text)) (lower text)
      (lower query))
  | .pattern => evaluateBy unmarked matchesPattern (lower text) (lower query)

/-- A query in lower case without an opening parenthesis. -/
structure Ungrouped (query : Text) : Prop where
  opens : '(' ∉ query
  lowered : ∀ c ∈ query, IsLowered c

theorem Ungrouped.of_subset (ungrouped : Ungrouped query) (inside : part ⊆ query) : Ungrouped part :=
  ⟨fun there => ungrouped.opens (inside there), fun c there => ungrouped.lowered c (inside there)⟩

theorem ungrouped_lower (opens : '(' ∉ query) : Ungrouped (lower query) where
  opens there := opens (mem_of_mem_lower (by decide) (by decide) there).1
  lowered _ := isLowered_of_mem_lower

theorem Ungrouped.ne_placeholder (ungrouped : Ungrouped query) (truth : Bool) :
    query ≠ placeholder truth := by
  rintro rfl
  have capital : 'E' ∈ placeholder truth := by cases truth <;> decide
  exact absurd (ungrouped.lowered 'E' capital) (by decide)

theorem Ungrouped.truth?_eq_none (ungrouped : Ungrouped query) : placeholderTruth? query = none := by
  have notTrue : query ≠ truePlaceholder := ungrouped.ne_placeholder true
  have notFalse : query ≠ falsePlaceholder := ungrouped.ne_placeholder false
  rw [placeholderTruth?, if_neg notTrue, if_neg notFalse]

theorem Ungrouped.openings_eq (ungrouped : Ungrouped query) : openings query = 0 :=
  List.count_eq_zero.mpr ungrouped.opens

theorem Ungrouped.of_reduct (ungrouped : Ungrouped query) (reduces : IsReduct reduct query) :
    Ungrouped reduct := by
  cases reduces with
  | trimmed => exact ungrouped.of_subset (trim_sublist _).subset
  | replaced found =>
    have fewer := openings_body_lt found
    rw [ungrouped.openings_eq] at fewer
    contradiction

theorem Ungrouped.of_trim (ungrouped : Ungrouped query) : Ungrouped (trim query) :=
  ungrouped.of_subset (trim_sublist query).subset

theorem Ungrouped.of_part (ungrouped : Ungrouped query) (inside : IsPart part query) : Ungrouped part := by
  cases inside with
  | body inside =>
    -- Without an opening parenthesis there is no group whose body is evaluated.
    have fewer := inside.openings_lt
    rw [ungrouped.of_trim.openings_eq] at fewer
    contradiction
  | branch reduces inside => exact (ungrouped.of_trim.of_reduct reduces).of_subset inside.piece.1.subset

theorem Ungrouped.of_term {term : Text} (ungrouped : Ungrouped query)
    (member : term ∈ conjuncts query (mask query)) : Ungrouped term :=
  ungrouped.of_subset (subset_of_mem_conjuncts member)

theorem Ungrouped.evaluate_eq {m : Type → Type} [Monad m] [LawfulMonad m] (ungrouped : Ungrouped query)
    (test : (term text : Text) → m Bool) (text : Text) :
    evaluateBy unmarked test text query = evaluate test text query := by
  apply evaluateBy_eq_evaluate Ungrouped (fun _ _ => Ungrouped.of_part) _ query ungrouped
  intro query reduct ungrouped reduces
  have settled := ungrouped.of_trim.of_reduct reduces
  exact ⟨settled.truth?_eq_none.symm, fun term member => (settled.of_term member).truth?_eq_none.symm⟩

/-- Nobody can type a placeholder. A query without an opening parenthesis is evaluated, in any letter case
and in either mode, as if no word were true or false by itself; no part of it that is evaluated, no such
part once it is trimmed, and no term of one is a placeholder. -/
theorem placeholders_are_not_typed {query : Text} (opens : '(' ∉ query) (mode : WildcardMode)
    (text : Text) :
    holds mode query text = holdsUnmarked mode query text ∧
    ∀ part, Relation.ReflTransGen (fun whole part => IsPart part whole) (lower query) part →
      ∀ truth, part ≠ placeholder truth ∧
        ∀ reduct, IsReduct reduct (trim part) → reduct ≠ placeholder truth ∧
          ∀ term ∈ conjuncts reduct (mask reduct), term ≠ placeholder truth := by
  have ungrouped := ungrouped_lower opens
  refine ⟨?_, fun part reached truth => ?_⟩
  · cases mode with
    | literal => rw [holdsUnmarked, ungrouped.evaluate_eq]; rfl
    | pattern => rw [holdsUnmarked, ungrouped.evaluate_eq]; rfl
  · have inside : Ungrouped part := by
      induction reached with
      | refl => exact ungrouped
      | tail _ step ih => exact ih.of_part step
    refine ⟨inside.ne_placeholder truth, fun reduct reduces => ?_⟩
    have settled := inside.of_trim.of_reduct reduces
    refine ⟨settled.ne_placeholder truth, fun term member => ?_⟩
    exact (settled.of_term member).ne_placeholder truth

/-- Typed placeholders on both sides of a `not`. -/
theorem placeholders_are_not_typed_twice :
    '(' ∉ "__TRUE__ not __False__".toList ∧
      holds .pattern "__TRUE__ not __False__".toList "a __true__".toList =
        holdsUnmarked .pattern "__TRUE__ not __False__".toList "a __true__".toList ∧
      lower "__TRUE__ not __False__".toList ≠ placeholder true := by
  have opens : '(' ∉ "__TRUE__ not __False__".toList := by decide
  have typed := placeholders_are_not_typed opens .pattern "a __true__".toList
  exact ⟨opens, typed.1, (typed.2 _ .refl true).1⟩

/-- A typed placeholder is a word to look for. -/
example : holdsLiterally "__TRUE__".toList "a".toList = false := by cbv

end CardSearch.Query
