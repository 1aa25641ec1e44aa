import CardSearch.Proofs.NestingDepth
import CardSearch.Proofs.Uniform
/-!
Evaluation with two of its rules left open: which texts are true or false by themselves, and what is
evaluated where nothing stands in front of the first `not`. Where the open rules agree with those of the
language on all that is reached, a query is evaluated as before, and so is everything that is done for it.
Main statement: something stands in front of every `not` that counts, so the second rule never matters.
-/
namespace CardSearch

theorem Text.trim_ne_nil {c : Char} {text : Text} (member : c ∈ text) (solid : isBlank c = false) :
    trim text ≠ [] := by
  intro none
  obtain ⟨front, back, blankFront, blankBack, -, whole⟩ := trim_parts text
  rw [whole, none, List.nil_append, List.mem_append] at member
  have blank : isBlank c = true := member.elim (blankFront c) (blankBack c)
  rw [solid] at blank
  contradiction

namespace Query

open Text

variable {query part reduct : Text}

/-! ### What stands in front of a `not` -/

theorem IsReduct.tight (reduces : IsReduct reduct query) : Tight reduct := by
  induction reduces with
  | trimmed groupless => exact tight_trim _
  | replaced found truth later ih => exact ih

theorem head_ne_nil_of_tight (tight : Tight query) {k : Nat}
    (found : Connective.not.find? (mask query) = some k) : trim (query.take k) ≠ [] := by
  obtain ⟨rest, whole⟩ := spelling_of_shown (find?_eq_some_iff.mp found).1
  cases query with
  | nil => simp [Connective.spelling] at whole
  | cons c query =>
    cases k with
    | zero =>
      -- The query would begin with the space in front of `not`.
      have blank : isBlank c = true := by
        obtain ⟨rfl, -⟩ := List.cons.inj whole
        decide
      rw [tight.1 c rfl] at blank
      contradiction
    | succ k =>
      rw [List.take_succ_cons]
      exact trim_ne_nil List.mem_cons_self (tight.1 c rfl)

theorem heads_ne_nil {mask : Text} (tight : Tight query) (same : mask = Query.mask query) :
    ∀ head ∈ (notChain query mask).heads, head ≠ [] := by
  fun_induction notChain query mask with
  | case1 query mask unseen => simp
  | case2 query mask k found width head rest shown clause read =>
    intro piece member
    obtain rfl := List.mem_singleton.mp member
    exact head_ne_nil_of_tight tight (same ▸ found)
  | case3 query mask k found width head rest shown unread chain ih =>
    subst same
    rw [List.forall_mem_cons]
    exact ⟨head_ne_nil_of_tight tight found, ih (tight_trim rest) (trimMask_behind found)⟩

theorem exists_heads (denies : Connective.not.find? (mask query) ≠ none) :
    ∃ first heads, (notChain query (mask query)).heads = first :: heads := by
  rw [notChain]
  split
  · contradiction
  · dsimp only
    split
    · exact ⟨_, _, rfl⟩
    · exact ⟨_, _, rfl⟩

/-! ### Open rules -/

def placeholderTruth? (text : Text) : Option Bool :=
  if text = truePlaceholder then some true
  else if text = falsePlaceholder then some false
  else none

/-- Two rules of evaluation. -/
structure Rules (m : Type → Type) where
  truth? : Text → Option Bool
  /-- What is evaluated for an empty text in front of the first `not`. -/
  emptyHead : m Bool

section

variable {m : Type → Type} [Monad m]

/-- A term on a text, with the rule which terms are true or false by themselves. -/
def evaluateTermBy (truth? : Text → Option Bool) (test : (term text : Text) → m Bool)
    (text term : Text) : m Bool :=
  match truth? term with
  | some truth => pure truth
  | none =>
    if term.head? = some '"' && term.getLast? = some '"' then
      pure (Text.occurs (unquoted term) text)
    else if term.head? = some '\'' && term.getLast? = some '\'' then
      pure (Text.occurs (unquoted term) text)
    else test term text

set_option linter.unusedVariables false in
def evaluateBy (rules : Rules m) (test : (term text : Text) → m Bool) (text query : Text) : m Bool := do
  have trimmed : NoLarger (trim query) query := noLarger_of_sublist (trim_sublist query)
  let reduced ← reduceGroups (trim query) fun body fewer => evaluateBy rules test text body
  have noLarger : NoLarger reduced.text query := reduced.noLarger.trans trimmed
  let shown := mask reduced.text
  have same : shown.length = reduced.text.length := mask_length reduced.text
  match rules.truth? reduced.text with
  | some truth => pure truth
  | none =>
    match Proximity.read? reduced.text shown with
    | some clause => clause.evaluate test text
    | none =>
      if several : Connective.or.find? shown ≠ none then
        anyTrue (splitAlong .or reduced.text shown) fun part member => evaluateBy rules test text part
      else if denies : Connective.not.find? shown ≠ none then
        let rest : m Bool :=
          match last : (notChain reduced.text shown).remainder with
          | .clause clause => clause.evaluate test text
          | .query rest => evaluateBy rules test text rest
        match cut : (notChain reduced.text shown).heads with
        | [] => rest
        | first :: heads => do
          let later ← chainValue heads rest fun head member => evaluateBy rules test text head
          let before ← if first = [] then rules.emptyHead else evaluateBy rules test text first
          return before && !later
      else
        allTrue (conjuncts reduced.text shown) fun term _ => evaluateTermBy rules.truth? test text term
termination_by size query
decreasing_by
  · exact Below.of_openings (by unfold NoLarger at trimmed; omega)
  · exact Below.of_piece ⟨sublist_of_mem_splitAlong member,
      length_lt_of_mem_splitAlong same several member⟩ noLarger
  · exact Below.of_piece (piece_of_remainder same denies last) noLarger
  · exact Below.of_piece (piece_of_mem_heads same (by rw [cut]; exact .tail _ member)) noLarger
  · exact Below.of_piece (piece_of_mem_heads same (by rw [cut]; exact .head _)) noLarger

/-- Evaluates a query without groups by these rules, given an evaluation of its parts. -/
def levelBy (rules : Rules m) (test : (term text : Text) → m Bool) (text : Text)
    (inner : Text → m Bool) (query : Text) : m Bool :=
  match rules.truth? query with
  | some truth => pure truth
  | none =>
    match Proximity.read? query (mask query) with
    | some clause => clause.evaluate test text
    | none =>
      if Connective.or.find? (mask query) ≠ none then
        anyTrue (splitAlong .or query (mask query)) fun part _ => inner part
      else if Connective.not.find? (mask query) ≠ none then
        let rest := evaluateRemainder test text inner (notChain query (mask query)).remainder
        match (notChain query (mask query)).heads with
        | [] => rest
        | first :: heads => do
          let later ← chainValue heads rest fun head _ => inner head
          let before ← if first = [] then rules.emptyHead else inner first
          return before && !later
      else
        allTrue (conjuncts query (mask query)) fun term _ => evaluateTermBy rules.truth? test text term

variable {rules : Rules m} {test : (term text : Text) → m Bool} {inner : Text → m Bool} {text : Text}

theorem evaluateBy_eq (rules : Rules m) (test : (term text : Text) → m Bool) (text query : Text) :
    evaluateBy rules test text query =
      reduceGroups (trim query) (fun body _ => evaluateBy rules test text body) >>= fun reduced =>
        levelBy rules test text (evaluateBy rules test text) reduced.text := by
  rw [evaluateBy]
  congr 1
  funext reduced
  unfold levelBy
  dsimp only
  split
  · rfl
  split
  · rfl
  split
  · rfl
  split
  · split
    all_goals
      rename_i cut
      rw [cut]
      split
      all_goals
        rename_i last
        rw [last]
        rfl
  · rfl

/-! ### Rules that agree with those of the language -/

theorem evaluateTermBy_eq {truth? : Text → Option Bool} {term : Text}
    (agrees : truth? term = placeholderTruth? term) :
    evaluateTermBy truth? test text term = evaluateTerm test text term := by
  rw [evaluateTermBy, agrees, placeholderTruth?, evaluateTerm]
  split_ifs <;> rfl

/-- A query without groups is evaluated alike by rules that agree on it and on its terms. It is tight, so
something stands in front of each of its `not`s. -/
theorem levelBy_eq (tight : Tight query) (whole : rules.truth? query = placeholderTruth? query)
    (terms : ∀ term ∈ conjuncts query (mask query), rules.truth? term = placeholderTruth? term) :
    levelBy rules test text inner query = level test text inner query := by
  unfold levelBy level
  rw [whole, placeholderTruth?]
  by_cases holds : query = truePlaceholder
  · rw [if_pos holds, if_pos holds]
  by_cases fails : query = falsePlaceholder
  · rw [if_neg holds, if_pos fails, if_neg holds, if_pos fails]
  rw [if_neg holds, if_neg fails, if_neg holds, if_neg fails]
  dsimp only
  cases Proximity.read? query (mask query) with
  | some clause => rfl
  | none =>
    dsimp only
    split
    · rfl
    split
    · rename_i denies
      obtain ⟨first, heads, cut⟩ := exists_heads denies
      have filled : first ≠ [] := heads_ne_nil tight rfl first (cut ▸ List.mem_cons_self)
      rw [cut]
      dsimp only
      simp only [if_neg filled]
    · exact (identical m).untilDecided fun term member => evaluateTermBy_eq (terms term member)

/-- Of what follows the replacing of groups, only what is done for reducts matters. -/
theorem reduceGroups_bind_congr [LawfulMonad m] {α : Type}
    {value : (body : Text) → openings body < openings query → m Bool} {f g : Reduced query → m α}
    (same : ∀ reduced, IsReduct reduced.text query → f reduced = g reduced) :
    (reduceGroups query value >>= f) = reduceGroups query value >>= g := by
  induction more : openings query using Nat.strong_induction_on generalizing query with
  | _ n ih =>
    rw [reduceGroups]
    split
    · rename_i groupless
      rw [pure_bind, pure_bind]
      exact same _ (.trimmed groupless)
    · rename_i group found
      rw [bind_assoc, bind_assoc]
      congr 1
      funext truth
      dsimp only
      rw [bind_assoc, bind_assoc]
      refine ih _ (more ▸ openings_replace_lt truth found) (fun reduced inside => ?_) rfl
      rw [pure_bind, pure_bind]
      exact same _ (.replaced found truth inside)

/-- A query is evaluated alike by rules that agree on everything that is reached. -/
theorem evaluateBy_eq_evaluate [LawfulMonad m] (reached : Text → Prop)
    (parts : ∀ query part, reached query → IsPart part query → reached part)
    (agrees : ∀ query reduct, reached query → IsReduct reduct (trim query) →
      rules.truth? reduct = placeholderTruth? reduct ∧
        ∀ term ∈ conjuncts reduct (mask reduct), rules.truth? term = placeholderTruth? term)
    (query : Text) (here : reached query) :
    evaluateBy rules test text query = evaluate test text query := by
  have inner : ∀ part, IsPart part query → evaluateBy rules test text part = evaluate test text part :=
    fun part inside => evaluateBy_eq_evaluate reached parts agrees part (parts query part here inside)
  have groups : reduceGroups (trim query) (fun body _ => evaluateBy rules test text body) =
      reduceGroups (trim query) fun body _ => evaluate test text body :=
    (identical m).reduceGroups fun body _ inside => inner body (.body inside)
  rw [evaluateBy_eq, groups, evaluate_eq_activation, activation]
  refine reduceGroups_bind_congr fun reduced reduces => ?_
  obtain ⟨whole, terms⟩ := agrees query reduced.text here reduces
  rw [levelBy_eq reduces.tight whole terms]
  exact (identical m).level (fun _ _ _ => rfl) (fun part inside => inner part (.branch reduces inside)) text
termination_by size query
decreasing_by exact inside.below

end

/-! ### Empty heads -/

/-- Something stands in front of every `not` that counts. A query is cut at its `not`s once its groups are
replaced and it is trimmed; if there are any, there is a text in front of the first, and none of the texts
in front of them is empty. So whatever is evaluated for an empty text in front of the first `not`, every
query is evaluated as before: no query is worth only what is denied in it. -/
theorem heads_are_filled {m : Type → Type} [Monad m] [LawfulMonad m]
    (test : (term text : Text) → m Bool) (text query : Text) :
    (∀ reduct, IsReduct reduct (trim query) → Connective.not.find? (mask reduct) ≠ none →
      ∃ first heads, (notChain reduct (mask reduct)).heads = first :: heads ∧
        ∀ head ∈ first :: heads, head ≠ []) ∧
    ∀ emptyHead : m Bool,
      evaluateBy ⟨placeholderTruth?, emptyHead⟩ test text query = evaluate test text query := by
  refine ⟨fun reduct reduces denies => ?_, fun emptyHead => ?_⟩
  · obtain ⟨first, heads, cut⟩ := exists_heads denies
    exact ⟨first, heads, cut, cut ▸ heads_ne_nil reduces.tight rfl⟩
  · exact evaluateBy_eq_evaluate (fun _ => True) (fun _ _ _ _ => trivial)
      (fun _ _ _ _ => ⟨rfl, fun _ _ => rfl⟩) query trivial

/-- The space between two `not`s belongs to the first, so the second is a word; an evaluation that would
fail at an empty text does not fail here. -/
theorem heads_are_filled_doubled :
    LawfulMonad Option ∧
      IsReduct "b not  not a".toList (trim "b not  not a".toList) ∧
      Connective.not.find? (mask "b not  not a".toList) ≠ none ∧
      (∃ first heads,
        (notChain "b not  not a".toList (mask "b not  not a".toList)).heads = first :: heads ∧
          ∀ head ∈ first :: heads, head ≠ []) ∧
      evaluateBy ⟨placeholderTruth?, none⟩ (fun term text => some (matchesLiterally term text))
          "b".toList "b not  not a".toList =
        evaluate (fun term text => some (matchesLiterally term text)) "b".toList "b not  not a".toList := by
  have tight : trim (trim "b not  not a".toList) = "b not  not a".toList := by decide
  have trimmed : IsReduct (trim (trim "b not  not a".toList)) (trim "b not  not a".toList) :=
    .trimmed (by decide)
  have reduces : IsReduct "b not  not a".toList (trim "b not  not a".toList) := by
    rwa [tight] at trimmed
  have denies : Connective.not.find? (mask "b not  not a".toList) ≠ none := by decide
  have filled := heads_are_filled (fun term text => some (matchesLiterally term text)) "b".toList
    "b not  not a".toList
  exact ⟨inferInstance, reduces, denies, filled.1 _ reduces denies, filled.2 none⟩

end Query

end CardSearch
