import CardSearch.Proofs.Activation
/-!
Evaluation takes the same steps in every monad: which terms it tests, and in which order, depends
only on the answers. So two evaluations are related in every way that their tests are, as long as
works in a row are related when each of them is. The same holds of a single activation, for the terms
that it tests and the parts that it evaluates.
-/
namespace CardSearch.Query

/-- A relation between the works of two monads that is kept by works in a row. -/
structure Correspondence (m n : Type → Type) [Monad m] [Monad n] where
  Related : {α : Type} → m α → n α → Prop
  pure : ∀ {α : Type} (a : α), Related (pure a) (pure a)
  bind : ∀ {α β : Type} {x : m α} {y : n α} {f : α → m β} {g : α → n β}, Related x y →
    (∀ a, Related (f a) (g a)) → Related (x >>= f) (y >>= g)

namespace Correspondence

variable {m n : Type → Type} [Monad m] [Monad n] (link : Correspondence m n)

theorem untilDecided {α : Type} {parts : List α} {decisive : Bool}
    {f : (part : α) → part ∈ parts → m Bool} {g : (part : α) → part ∈ parts → n Bool}
    (same : ∀ part member, link.Related (f part member) (g part member)) :
    link.Related (Query.untilDecided decisive parts f) (Query.untilDecided decisive parts g) := by
  induction parts with
  | nil => exact link.pure (!decisive)
  | cons part parts ih =>
    refine link.bind (same _ _) fun here => ?_
    cases here == decisive with
    | true => exact link.pure decisive
    | false => exact ih fun other member => same other _

theorem chainValue {heads : List Text} {x : m Bool} {y : n Bool}
    {f : (head : Text) → head ∈ heads → m Bool} {g : (head : Text) → head ∈ heads → n Bool}
    (rest : link.Related x y) (same : ∀ head member, link.Related (f head member) (g head member)) :
    link.Related (Query.chainValue heads x f) (Query.chainValue heads y g) := by
  induction heads with
  | nil => exact rest
  | cons head heads ih =>
    refine link.bind (ih fun other member => same other _) fun later => ?_
    refine link.bind (same _ _) fun here => ?_
    exact link.pure _

theorem positionsFrom {f : Text → m Bool} {g : Text → n Bool}
    (same : ∀ word, link.Related (f word) (g word)) (index : Nat) (words : List Text) :
    link.Related (Query.positionsFrom f index words) (Query.positionsFrom g index words) := by
  induction words generalizing index with
  | nil => exact link.pure []
  | cons word words ih =>
    refine link.bind (same word) fun passes => ?_
    refine link.bind (ih (index + 1)) fun later => ?_
    exact link.pure _

section

variable {f : (term text : Text) → m Bool} {g : (term text : Text) → n Bool}

theorem clause {clause : Proximity}
    (first : ∀ word, link.Related (f clause.first word) (g clause.first word))
    (second : ∀ word, link.Related (f clause.second word) (g clause.second word)) (text : Text) :
    link.Related (clause.evaluate f text) (clause.evaluate g text) := by
  refine link.bind (link.positionsFrom first _ _) fun first => ?_
  refine link.bind (link.positionsFrom second _ _) fun second => ?_
  exact link.pure _

theorem evaluateTerm {text term : Text} (same : link.Related (f term text) (g term text)) :
    link.Related (Query.evaluateTerm f text term) (Query.evaluateTerm g text term) := by
  rw [Query.evaluateTerm, Query.evaluateTerm]
  split
  · exact link.pure true
  split
  · exact link.pure false
  split
  · exact link.pure _
  split
  · exact link.pure _
  · exact same

end

theorem reduceGroups {query : Text} {f : (body : Text) → openings body < openings query → m Bool}
    {g : (body : Text) → openings body < openings query → n Bool}
    (same : ∀ body fewer, IsGroupBody body query → link.Related (f body fewer) (g body fewer)) :
    link.Related (Query.reduceGroups query f) (Query.reduceGroups query g) := by
  induction more : openings query using Nat.strongRecOn generalizing query with
  | _ count ih =>
    rw [Query.reduceGroups, Query.reduceGroups]
    split
    · exact link.pure _
    · rename_i group found
      refine link.bind (same _ _ (.next found)) fun truth => ?_
      refine link.bind (ih _ (more ▸ openings_replace_lt truth found) ?_ rfl) fun reduced => ?_
      · exact fun body smaller inside => same body _ (.later found truth inside)
      · exact link.pure _

theorem level {f : (term text : Text) → m Bool} {g : (term text : Text) → n Bool}
    {x : Text → m Bool} {y : Text → n Bool} {query : Text}
    (terms : ∀ term, IsTested term query → ∀ text, link.Related (f term text) (g term text))
    (parts : ∀ part, IsBranch part query → link.Related (x part) (y part)) (text : Text) :
    link.Related (Query.level f text x query) (Query.level g text y query) := by
  have remainder : ∀ clause, (notChain query (mask query)).remainder = .clause clause →
      link.Related (clause.evaluate f text) (clause.evaluate g text) := fun clause last =>
    link.clause (terms _ (.ofRemainder last (.inl rfl))) (terms _ (.ofRemainder last (.inr rfl))) text
  unfold Query.level
  dsimp only
  split
  · exact link.pure true
  split
  · exact link.pure false
  split
  · rename_i clause read
    exact link.clause (terms _ (.ofClause read (.inl rfl))) (terms _ (.ofClause read (.inr rfl))) text
  split
  · rename_i several
    exact link.untilDecided fun part member => parts part (.alternative several member)
  rename_i several
  have single := Decidable.not_not.mp several
  split
  · rename_i denies
    have rest : link.Related (evaluateRemainder f text x (notChain query (mask query)).remainder)
        (evaluateRemainder g text y (notChain query (mask query)).remainder) := by
      cases last : (notChain query (mask query)).remainder with
      | clause clause => exact remainder clause last
      | query rest => exact parts rest (.rest single denies last)
    split
    · exact rest
    · rename_i first heads cut
      have head : ∀ head ∈ first :: heads, link.Related (x head) (y head) := by
        intro head member
        exact parts head (.head single (cut ▸ member))
      refine link.bind (link.chainValue rest fun other member => head other (.tail _ member)) ?_
      intro later
      split
      · exact link.bind (link.pure true) fun before => link.pure _
      · exact link.bind (head first (.head _)) fun before => link.pure _
  · exact link.untilDecided fun term member => link.evaluateTerm (terms term (.ofConjunction member) text)

/-- Evaluations are related if their tests are. -/
theorem evaluate {f : (term text : Text) → m Bool} {g : (term text : Text) → n Bool}
    (same : ∀ term text, link.Related (f term text) (g term text)) (text query : Text) :
    link.Related (Query.evaluate f text query) (Query.evaluate g text query) := by
  have trimmed : NoLarger (Text.trim query) query := noLarger_of_sublist (Text.trim_sublist query)
  rw [evaluate_eq_activation f, evaluate_eq_activation g]
  refine link.bind (link.reduceGroups fun body fewer _ => evaluate same text body) fun reduced => ?_
  have noLarger : NoLarger reduced.text query := reduced.noLarger.trans trimmed
  exact link.level (fun term _ => same term) (fun part inside => evaluate same text part) text
termination_by size query
decreasing_by
  · exact Below.of_openings (by unfold NoLarger at trimmed; omega)
  · exact Below.of_piece inside.piece noLarger

end Correspondence

end CardSearch.Query
