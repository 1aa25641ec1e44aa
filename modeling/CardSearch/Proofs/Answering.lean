import CardSearch.Proofs.Reduction
import CardSearch.Proofs.Uniform
/-!
Activations that follow an evaluation with tests that always answer. Where the terms that an activation
tests and the parts that it evaluates are answered as in that evaluation, so is the whole query; what
else is done for the terms and parts is done for the query, and nothing is asked of terms and parts
that the query does not have.
-/
namespace CardSearch.Query

open Text

variable {m : Type → Type} [Monad m]

/-- A relation to work that only answers. Of works in a row the later one has to be related only where
the earlier one gives its answer. -/
structure Following (m : Type → Type) [Monad m] where
  Related : {α : Type} → m α → Id α → Prop
  pure : ∀ {α : Type} (a : α), Related (pure a) (pure a)
  bind : ∀ {α β : Type} {x : m α} {y : Id α} {f : α → m β} {g : α → Id β}, Related x y →
    Related (f (Id.run y)) (g (Id.run y)) → Related (x >>= f) (y >>= g)

def Following.toCorrespondence (link : Following m) : Correspondence m Id where
  Related := link.Related
  pure := link.pure
  bind first next := link.bind first (next _)

theorem isReduct_replaceGroups (worth : Text → Bool) (query : Text) :
    IsReduct (replaceGroups worth query) query := by
  induction query using group_induction with
  | groupless query unseen =>
    rw [replaceGroups_of_none unseen]
    exact .trimmed unseen
  | grouped query group found ih =>
    rw [replaceGroups_of_some found]
    exact .replaced found _ (ih _)

variable {f : (term text : Text) → m Bool} {inner : Text → m Bool}
  {test : (term text : Text) → Bool} {text query : Text}

/-- An activation follows the evaluation if its tests and the evaluation of its parts do. -/
theorem activation_follows (link : Following m)
    (terms : ∀ term reduct, IsReduct reduct (trim query) → IsTested term reduct →
      ∀ word, link.Related (f term word) (pure (test term word)))
    (parts : ∀ part, IsPart part query → link.Related (inner part) (pure (value test text part))) :
    link.Related (activation f text inner query) (pure (value test text query)) := by
  have whole : (pure (value test text query) : Id Bool) =
      activation (fun term word => pure (test term word)) text
        (fun part => pure (value test text part)) query :=
    evaluate_eq_activation (fun term word => pure (test term word)) text query
  have reduces := isReduct_replaceGroups (value test text) (trim query)
  rw [whole]
  refine link.bind
    (link.toCorrespondence.reduceGroups fun body _ inside => parts body (.body inside)) ?_
  exact link.toCorrespondence.level (fun term tested => terms term _ reduces tested)
    (fun part inside => parts part (.branch reduces inside)) text

/-- Work that gives an answer, and does nothing else, is related to the answer. -/
def answering (m : Type → Type) [Monad m] [LawfulMonad m] : Following m where
  Related work answer := work = pure (Id.run answer)
  pure _ := rfl
  bind {_ _ x y f g} first next := by
    rw [first, pure_bind]
    exact next

def identical (m : Type → Type) [Monad m] : Correspondence m m where
  Related x y := x = y
  pure _ := rfl
  bind first next := congr (congrArg bind first) (funext next)

/-- An activation gives the value of its query if its tests and the evaluation of its parts do. -/
theorem activation_eq_pure [LawfulMonad m]
    (terms : ∀ term reduct, IsReduct reduct (trim query) → IsTested term reduct →
      ∀ word, f term word = pure (test term word))
    (parts : ∀ part, IsPart part query → inner part = pure (value test text part)) :
    activation f text inner query = pure (value test text query) :=
  activation_follows (answering m) terms parts

end CardSearch.Query
