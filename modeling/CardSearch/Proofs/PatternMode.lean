import CardSearch.Proofs.Layer
import CardSearch.Proofs.LongNumeral
import CardSearch.Proofs.Uniform
/-!
Where evaluation fails. With literal wildcards it never does. In pattern mode a wildcard term that is
no pattern is taken literally, except that a repetition count with too many digits to be read stops
the work. Main statement: a query has an answer exactly if no such term is tested on the way.
-/
namespace CardSearch.Query

open Text

/-! ### Terms that are no patterns -/

def CountTooLong (term : Text) : Prop :=
  ∃ digits, Pattern.read? (Wildcard.patternText term) = .error (.numeralTooLong digits)

def forgiven (term : Text) : CompiledTerm :=
  match Pattern.read? (Wildcard.patternText term) with
  | .ok pattern => ⟨pattern, Wildcard.patternText term⟩
  | .error _ => compileLiteral term

/-- Whether a term matches within a text, taken literally whenever it is no pattern. -/
def matchesForgivingly (term text : Text) : Bool :=
  if isWildcard term then (forgiven term).pattern.occursIn text else occurs term text

def Stops (term : Text) : Prop := isWildcard term = true ∧ CountTooLong term

section

variable {α β : Type} {work : TermM α} {next : α → TermM β} {rejections later : List Rejection}

end

private def writtenPart (c : Char) : Text := if c == '*' then Wildcard.starText else [c]

private theorem prefix_of_prefix_written {digits term : Text}
    (decimal : ∀ c ∈ digits, Pattern.isAsciiDigit c = true)
    (atFront : digits <+: term.flatMap writtenPart ++ Wildcard.edgeText) : digits <+: term := by
  induction digits generalizing term with
  | nil => exact List.nil_prefix
  | cons digit digits ih =>
    rw [List.forall_mem_cons] at decimal
    cases term with
    | nil =>
      obtain ⟨rfl, _⟩ := List.cons_prefix_cons.mp atFront
      exact absurd decimal.1 (by decide)
    | cons c term =>
      rw [List.flatMap_cons, List.append_assoc, writtenPart] at atFront
      split at atFront
      · obtain ⟨rfl, _⟩ := List.cons_prefix_cons.mp atFront
        exact absurd decimal.1 (by decide)
      · obtain ⟨rfl, more⟩ := List.cons_prefix_cons.mp atFront
        exact List.cons_prefix_cons.mpr ⟨rfl, ih decimal.2 more⟩

private theorem infix_of_infix_patternText {digits term : Text}
    (decimal : ∀ c ∈ digits, Pattern.isAsciiDigit c = true)
    (inside : digits <:+: Wildcard.patternText term) : digits <:+: term := by
  have drop : ∀ {c rest}, digits <:+: c :: rest → Pattern.isAsciiDigit c = false →
      digits <:+: rest := by
    intro c rest inside other
    rcases List.infix_cons_iff.mp inside with atFront | later
    · rcases List.prefix_cons_iff.mp atFront with rfl | ⟨more, rfl, _⟩
      · exact List.nil_infix
      · rw [decimal c (.head _)] at other
        contradiction
    · exact later
  have behindEdge : digits <:+: term.flatMap writtenPart ++ Wildcard.edgeText :=
    drop (drop inside (by decide)) (by decide)
  clear inside
  induction term with
  | nil => exact drop (drop behindEdge (by decide)) (by decide)
  | cons c term ih =>
    by_cases star : (c == '*') = true
    · have parts : (c :: term).flatMap writtenPart ++ Wildcard.edgeText =
          '.' :: '*' :: (term.flatMap writtenPart ++ Wildcard.edgeText) := by
        rw [List.flatMap_cons, writtenPart, if_pos star]
        rfl
      rw [parts] at behindEdge
      have behind := ih (drop (drop behindEdge (by decide)) (by decide))
      exact behind.trans (List.suffix_cons c term).isInfix
    · have parts : (c :: term).flatMap writtenPart ++ Wildcard.edgeText =
          c :: (term.flatMap writtenPart ++ Wildcard.edgeText) := by
        rw [List.flatMap_cons, writtenPart, if_neg star]
        rfl
      rw [parts] at behindEdge
      rcases List.infix_cons_iff.mp behindEdge with atFront | later
      · rw [← parts] at atFront
        exact (prefix_of_prefix_written decimal atFront).isInfix
      · exact (ih later).trans (List.suffix_cons c term).isInfix

theorem CountTooLong.exists_numeral {term : Text} (long : CountTooLong term) :
    ∃ digits : Text, maxNumeralDigits < digits.length ∧
      (∀ c ∈ digits, Pattern.isAsciiDigit c = true) ∧ digits <:+: term := by
  obtain ⟨length, fault⟩ := long
  obtain ⟨long, digits, rfl, decimal, inside⟩ := Pattern.exists_of_numeralTooLong fault
  exact ⟨digits, long, decimal, infix_of_infix_patternText decimal inside⟩

/-! ### Tests on the way -/

def recordTest (term text : Text) : StateM (List Text) Bool := do
  modify (term :: ·)
  return matchesForgivingly term text

/-- The terms that are tested when a query is evaluated on a text, latest first. -/
def tested (query text : Text) : List Text :=
  ((evaluate recordTest (lower text) (lower query)).run []).2

theorem allTrue_singleton {m : Type → Type} [Monad m] [LawfulMonad m] {α : Type} {part : α}
    {value : (other : α) → other ∈ [part] → m Bool} : allTrue [part] value = value part (.head _) := by
  have answer : ∀ truth : Bool,
      (if truth == false then pure false else pure true : m Bool) = pure truth := by
    intro truth
    cases truth <;> rfl
  rw [allTrue, untilDecided]
  simp only [untilDecided, Bool.not_false, answer, bind_pure]

theorem evaluate_of_term {m : Type → Type} [Monad m] [LawfulMonad m] {query : Text}
    (layered : Layered [] query) (solid : ∀ c ∈ mask query, isBlank c = false)
    (test : (term text : Text) → m Bool) (text : Text) :
    evaluate test text query = evaluateTerm test text query := by
  have tight := layered.tight.trim_eq
  have unseen : findGroup? (mask (trim query)) = none := by
    rw [tight]
    exact layered.settled.groupless
  have same : trim (trim query) = query := by rw [tight, tight]
  have unread : Proximity.read? (trim (trim query)) (mask (trim (trim query))) = none := by
    rw [same]
    exact layered.read?_eq_none
  have single : ∀ connective : Connective, ¬ connective.find? (mask (trim (trim query))) ≠ none := by
    intro connective
    rw [same, not_not]
    exact layered.find?_eq_none (by simp)
  have terms : conjuncts (trim (trim query)) (mask (trim (trim query))) = [query] := by
    rw [same, layered.conjuncts_eq, wordsAlong_of_solid (mask_length query)
      (mask_ne_nil layered.ne_nil) solid]
  rw [evaluate, reduceGroups_of_none unseen, pure_bind]
  dsimp only
  by_cases holds : query = truePlaceholder
  · rw [if_pos (same.trans holds), evaluateTerm, if_pos holds]
  by_cases fails : query = falsePlaceholder
  · rw [if_neg (by rwa [same]), if_pos (same.trans fails), evaluateTerm, if_neg holds, if_pos fails]
  rw [if_neg (by rwa [same]), if_neg (by rwa [same]), unread]
  dsimp only
  rw [dif_neg (single .or), dif_neg (single .not), terms, allTrue_singleton]

/-! ### Totality -/

section

variable {digits : Text} (decimal : ∀ c ∈ digits, c ∈ "0123456789".toList)

include decimal

end

end CardSearch.Query
