import CardSearch.Proofs.Activation
import CardSearch.Proofs.Masking
/-!
Evaluation where the test of a term always answers, level by level. One equation says what a query
is worth once its groups are replaced; from it come the equations for a query that is cut at an
`or` or at its first `not`, in which the parts are queries again.
-/
namespace CardSearch.Query

open Text

variable (test : (term text : Text) → Bool) (text : Text)

def value (query : Text) : Bool :=
  Id.run (evaluate (fun term text => pure (test term text)) text query)

def clauseValue (clause : Proximity) : Bool :=
  Id.run (clause.evaluate (fun term text => pure (test term text)) text)

def termValue (term : Text) : Bool :=
  Id.run (evaluateTerm (fun term text => pure (test term text)) text term)

def remainderValue : Remainder → Bool
  | .clause clause => clauseValue test text clause
  | .query query => value test text query

def NotChain.value (chain : NotChain) : Bool :=
  chain.heads.foldr (fun head later => Query.value test text head && !later)
    (remainderValue test text chain.remainder)

/-- The query with its groups replaced one by one, given what their bodies are worth. -/
def replaceGroups (worth : Text → Bool) (query : Text) : Text :=
  (Id.run (reduceGroups query fun body _ => pure (worth body))).text

def valueByLevel (query : Text) : Bool :=
  if query = truePlaceholder then true
  else if query = falsePlaceholder then false
  else
    match Proximity.read? query (mask query) with
    | some clause => clauseValue test text clause
    | none =>
      if Connective.or.find? (mask query) ≠ none then
        (splitAlong .or query (mask query)).any (value test text)
      else if Connective.not.find? (mask query) ≠ none then
        (notChain query (mask query)).value test text
      else (conjuncts query (mask query)).all (termValue test text)

/-! ### Groups -/

section

variable {worth : Text → Bool} {query : Text}

theorem reduceGroups_of_none {m : Type → Type} [Monad m] {query : Text}
    (unseen : findGroup? (mask query) = none)
    (value : (body : Text) → openings body < openings query → m Bool) :
    reduceGroups query value = pure ⟨trim query, noLarger_of_sublist (trim_sublist query)⟩ := by
  rw [reduceGroups]
  split
  · rfl
  · rename_i group found
    rw [unseen] at found
    contradiction

theorem replaceGroups_of_none (unseen : findGroup? (mask query) = none) :
    replaceGroups worth query = trim query := by
  rw [replaceGroups, reduceGroups_of_none unseen]
  rfl

theorem replaceGroups_of_some {group : Group} (found : findGroup? (mask query) = some group) :
    replaceGroups worth query =
      replaceGroups worth (group.replace query (placeholder (worth (group.body query)))) := by
  rw [replaceGroups, reduceGroups]
  split
  · rename_i unseen
    rw [unseen] at found
    contradiction
  · rename_i other same
    cases found.symm.trans same
    rfl

theorem replaceGroups_noLarger (worth : Text → Bool) (query : Text) :
    NoLarger (replaceGroups worth query) query :=
  (Id.run (reduceGroups query fun body _ => pure (worth body))).noLarger

/-- Induction along the groups of a query: a property passes to the query from what is left when its
first group is replaced by either placeholder. -/
@[elab_as_elim] theorem group_induction {motive : Text → Prop}
    (groupless : ∀ query, findGroup? (mask query) = none → motive query)
    (grouped : ∀ query group, findGroup? (mask query) = some group →
      (∀ truth, motive (group.replace query (placeholder truth))) → motive query) (query : Text) :
    motive query := by
  induction more : openings query using Nat.strong_induction_on generalizing query with
  | _ n ih =>
    cases found : findGroup? (mask query) with
    | none => exact groupless query found
    | some group =>
      exact grouped query group found fun truth => ih _ (more ▸ openings_replace_lt truth found) _ rfl

theorem replaceGroups_congr {worth other : Text → Bool} {query : Text}
    (same : ∀ body, openings body < openings query → worth body = other body) :
    replaceGroups worth query = replaceGroups other query := by
  induction query using group_induction with
  | groupless query unseen => rw [replaceGroups_of_none unseen, replaceGroups_of_none unseen]
  | grouped query group found ih =>
    rw [replaceGroups_of_some found, replaceGroups_of_some found, same _ (openings_body_lt found)]
    exact ih _ fun body inside => same body (Nat.lt_trans inside (openings_replace_lt _ found))

end

/-! ### The equation of a level -/

private theorem untilDecided_run {α : Type} (decisive : Bool) (f : α → Bool) (parts : List α) :
    Id.run (untilDecided decisive parts fun part _ => pure (f part)) =
      if decisive then parts.any f else parts.all f := by
  induction parts with
  | nil => cases decisive <;> rfl
  | cons part parts ih =>
    rw [untilDecided]
    cases decisive <;> cases here : f part <;> simp_all

private theorem chainValue_run (f : Text → Bool) (rest : Bool) (heads : List Text) :
    Id.run (chainValue heads (pure rest) fun head _ => pure (f head)) =
      heads.foldr (fun head later => f head && !later) rest := by
  induction heads with
  | nil => rfl
  | cons head heads ih =>
    rw [List.foldr_cons, ← ih]
    rfl

theorem value_nil : value test text [] = true := by
  have empty : (Id.run (reduceGroups (m := Id) (trim []) fun body _ =>
      evaluate (fun term text => pure (test term text)) text body)).text = [] :=
    replaceGroups_of_none rfl
  rw [value, evaluate]
  simp only [Id.run_bind]
  generalize (Id.run (reduceGroups (m := Id) (trim []) fun body _ =>
    evaluate (fun term text => pure (test term text)) text body)).text = reduced at empty ⊢
  subst reduced
  rfl

private theorem head_value (first : Text) (later : Id Bool) :
    Id.run (later >>= fun later =>
      if first = [] then pure true >>= fun before => pure (before && !later)
      else evaluate (fun term text => pure (test term text)) text first >>= fun before =>
        pure (before && !later)) =
      (value test text first && !Id.run later) := by
  by_cases empty : first = []
  · subst first
    rw [value_nil]
    rfl
  · simp only [if_neg empty]
    rfl

private theorem remainder_run (remainder : Remainder) :
    Id.run (evaluateRemainder (fun term text => pure (test term text)) text
      (evaluate (fun term text => pure (test term text)) text) remainder) =
      remainderValue test text remainder := by
  cases remainder <;> rfl

/-- The value of a query is the value of its level once its groups are replaced. -/
theorem value_eq (query : Text) :
    value test text query =
      valueByLevel test text (replaceGroups (value test text) (trim query)) := by
  have same : replaceGroups (value test text) (trim query) =
      (Id.run (reduceGroups (m := Id) (trim query) fun body _ =>
        evaluate (fun term text => pure (test term text)) text body)).text := rfl
  rw [value, evaluate_eq_activation, activation, same, Id.run_bind]
  generalize (Id.run (reduceGroups (m := Id) (trim query) fun body _ =>
    evaluate (fun term text => pure (test term text)) text body)).text = reduced
  rw [level, valueByLevel]
  split
  · rfl
  split
  · rfl
  cases Proximity.read? reduced (mask reduced) with
  | some clause => rfl
  | none =>
    dsimp only
    split
    · exact untilDecided_run true _ _
    split
    · rw [NotChain.value, ← remainder_run]
      cases (notChain reduced (mask reduced)).heads with
      | nil => rfl
      | cons first heads =>
        rw [List.foldr_cons, ← chainValue_run]
        exact head_value test text first _
    · exact untilDecided_run false _ _

theorem holdsLiterally_eq_value (query : Text) :
    holdsLiterally query text = value matchesLiterally (lower text) (lower query) := rfl

theorem value_trim (query : Text) : value test text (trim query) = value test text query := by
  rw [value_eq, value_eq, trim_trim]

/-! ### Settled queries -/

/-- Nothing is left to trim or to replace. -/
structure Settled (query : Text) : Prop where
  tight : Tight query
  groupless : findGroup? (mask query) = none

private theorem bodyLength?_append {mask : Text} {n : Nat} (found : bodyLength? mask = some n)
    (later : Text) : bodyLength? (mask ++ later) = some n := by
  induction mask generalizing n with
  | nil => cases found
  | cons c rest ih =>
    simp only [bodyLength?, List.cons_append] at found ⊢
    split
    · simp_all
    · rename_i closes
      rw [if_neg closes] at found
      split
      · simp_all
      · rename_i opens
        rw [if_neg opens] at found
        obtain ⟨k, inner, rfl⟩ := Option.map_eq_some_iff.mp found
        rw [ih inner]
        rfl

private theorem findGroup?_of_cons {c : Char} {mask : Text} (unseen : findGroup? (c :: mask) = none) :
    findGroup? mask = none := by
  rw [findGroup?] at unseen
  split at unseen
  · split at unseen
    · contradiction
    · simpa using unseen
  · simpa using unseen

private theorem findGroup?_of_append {mask later : Text}
    (unseen : findGroup? (mask ++ later) = none) : findGroup? mask = none := by
  induction mask with
  | nil => rfl
  | cons c mask ih =>
    have rest := ih (findGroup?_of_cons unseen)
    rw [findGroup?, rest]
    split
    · rename_i opens
      split
      · rename_i n closed
        rw [List.cons_append, findGroup?, bodyLength?_append closed] at unseen
        simp [opens] at unseen
      · rfl
    · rfl

theorem findGroup?_of_inside {part whole : Text} (inside : part <:+: whole)
    (unseen : findGroup? whole = none) : findGroup? part = none := by
  obtain ⟨before, later, rfl⟩ := inside
  rw [List.append_assoc] at unseen
  induction before with
  | nil => exact findGroup?_of_append unseen
  | cons c before ih => exact ih (findGroup?_of_cons unseen)

theorem Connective.find?_of_inside {connective : Connective} {part whole : Text}
    (inside : part <:+: whole) (unseen : connective.find? whole = none) :
    connective.find? part = none :=
  find?_eq_none_iff.mpr fun there => find?_eq_none_iff.mp unseen (there.trans inside)

theorem settled_replaceGroups (worth : Text → Bool) (query : Text) :
    Settled (replaceGroups worth query) := by
  induction query using group_induction with
  | groupless query unseen =>
    rw [replaceGroups_of_none unseen]
    exact ⟨tight_trim query, findGroup?_of_inside (mask_trim_inside query) unseen⟩
  | grouped query group found ih =>
    rw [replaceGroups_of_some found]
    exact ih _

section

variable {query : Text} {test text}

theorem Settled.value_eq (settled : Settled query) :
    value test text query = valueByLevel test text query := by
  rw [Query.value_eq, settled.tight.trim_eq, replaceGroups_of_none settled.groupless,
    settled.tight.trim_eq]

theorem value_replaceGroups (query : Text) :
    value test text (replaceGroups (value test text) (trim query)) = value test text query := by
  rw [(settled_replaceGroups _ _).value_eq, Query.value_eq test text query]

theorem Settled.value_of_clause (settled : Settled query) {clause : Proximity}
    (read : Proximity.read? query (mask query) = some clause) :
    value test text query = clauseValue test text clause := by
  have holds : query ≠ truePlaceholder := by rintro rfl; contradiction
  have fails : query ≠ falsePlaceholder := by rintro rfl; contradiction
  rw [settled.value_eq, valueByLevel, if_neg holds, if_neg fails, read]

theorem Settled.value_of_or (settled : Settled query)
    (unread : Proximity.read? query (mask query) = none)
    (several : Connective.or.find? (mask query) ≠ none) :
    value test text query = (splitAlong .or query (mask query)).any (value test text) := by
  have holds : query ≠ truePlaceholder := by rintro rfl; contradiction
  have fails : query ≠ falsePlaceholder := by rintro rfl; contradiction
  rw [settled.value_eq, valueByLevel, if_neg holds, if_neg fails, unread]
  exact if_pos several

private theorem Settled.value_of_chain (settled : Settled query)
    (unread : Proximity.read? query (mask query) = none)
    (single : Connective.or.find? (mask query) = none) :
    (notChain query (mask query)).value test text = value test text query := by
  cases found : Connective.not.find? (mask query) with
  | none =>
    rw [notChain]
    split
    · rfl
    · rename_i k other
      rw [found] at other
      contradiction
  | some k =>
    have holds : query ≠ truePlaceholder := by rintro rfl; contradiction
    have fails : query ≠ falsePlaceholder := by rintro rfl; contradiction
    rw [settled.value_eq, valueByLevel, if_neg holds, if_neg fails, unread]
    dsimp only
    rw [if_neg (by simp [single]), if_pos (by simp [found])]

theorem Settled.value_of_terms (settled : Settled query)
    (unread : Proximity.read? query (mask query) = none)
    (single : Connective.or.find? (mask query) = none)
    (affirms : Connective.not.find? (mask query) = none) :
    value test text query = (conjuncts query (mask query)).all (termValue test text) := by
  by_cases holds : query = truePlaceholder
  · subst query
    rw [settled.value_eq, valueByLevel, if_pos rfl]
    rfl
  by_cases fails : query = falsePlaceholder
  · subst query
    rw [settled.value_eq, valueByLevel, if_neg holds, if_pos rfl]
    rfl
  rw [settled.value_eq, valueByLevel, if_neg holds, if_neg fails, unread]
  dsimp only
  rw [if_neg (by simp [single]), if_neg (by simp [affirms])]

/-- A query is cut at its first `not`, although its chain of `not`s is evaluated from the right and
along one mask. -/
theorem Settled.value_of_not (settled : Settled query)
    (unread : Proximity.read? query (mask query) = none)
    (single : Connective.or.find? (mask query) = none) {k : Nat}
    (found : Connective.not.find? (mask query) = some k) :
    value test text query =
      (value test text (query.take k) &&
        !value test text (query.drop (k + Connective.not.spelling.length))) := by
  have inside : mask (trim (query.drop (k + Connective.not.spelling.length))) <:+: mask query := by
    refine (mask_trim_inside _).trans ?_
    rw [mask_behind found]
    exact (List.drop_suffix _ _).isInfix
  have after : Settled (trim (query.drop (k + Connective.not.spelling.length))) :=
    ⟨tight_trim _, findGroup?_of_inside inside settled.groupless⟩
  rw [← settled.value_of_chain unread single, notChain]
  split
  · rename_i none
    rw [found] at none
    contradiction
  · rename_i other same
    cases found.symm.trans same
    dsimp only
    rw [trimMask_behind found, ← value_trim test text (query.take k),
      ← value_trim test text (query.drop _)]
    cases read : Proximity.read? _ (mask (trim (query.drop _))) with
    | some clause =>
      rw [after.value_of_clause read]
      rfl
    | none =>
      rw [← after.value_of_chain read (Connective.find?_of_inside inside single)]
      rfl

end

end CardSearch.Query
