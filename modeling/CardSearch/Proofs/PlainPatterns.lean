import CardSearch.Proofs.Answering
import CardSearch.Proofs.Layer
import CardSearch.Proofs.WildcardReading
/-!
Queries in which the two modes of wildcards have nothing to tell apart. A text is unmarked if no character
of it but the star means anything in a pattern. An unmarked query shows no group, so all parts and terms
that its evaluation reaches are made of its own characters, and the pattern of each term is read as its
literal pattern. Main statement: both modes do the same for every unmarked query on every text.
-/
namespace CardSearch.Query

open Text

variable {part query reduct term : Text}

/-- Nothing in the text but stars means anything in a pattern. -/
def Unmarked (text : Text) : Prop := ∀ c ∈ text, c ∉ Wildcard.marks

instance (text : Text) : Decidable (Unmarked text) := by
  unfold Unmarked
  infer_instance

theorem Unmarked.of_subset (unmarked : Unmarked query) (inside : part ⊆ query) : Unmarked part :=
  fun c member => unmarked c (inside member)

theorem Unmarked.lower (unmarked : Unmarked query) : Unmarked (lower query) := by
  have codes : ∀ c ∈ Wildcard.marks, 0x21 ≤ c.toNat ∧ c.toNat ≤ 0x5a ∨
      0x5b ≤ c.toNat ∧ c.toNat ≤ 0x60 ∨ 0x7b ≤ c.toNat ∧ c.toNat ≤ 0x7e := by decide
  intro c member mark
  rcases codes c mark with ⟨above, below⟩ | bracket
  · exact unmarked c (mem_of_mem_lower above below member).1 mark
  · exact unmarked c (mem_of_mem_lower_of_bracket bracket member) mark

theorem Unmarked.groupless (unmarked : Unmarked query) : findGroup? (mask query) = none := by
  refine findGroup?_of_not_mem fun opens => ?_
  obtain ⟨place, shown⟩ := List.mem_iff_getElem?.mp opens
  have there := mask_keeps shown (by decide)
  exact unmarked '(' (List.mem_of_getElem? there) (by decide)

/-! ### Terms of a query -/

theorem subset_of_notChain_clause {mask : Text} (same : mask.length = query.length)
    {clause : Proximity} (last : (notChain query mask).remainder = .clause clause) :
    clause.first ⊆ query ∧ clause.second ⊆ query := by
  fun_induction notChain query mask with
  | case1 => contradiction
  | case2 query mask k found width head rest shown clause' read =>
    cases last
    have length : shown.length = (trim rest).length := trimMask_length (by simp [rest, same])
    obtain ⟨first, second⟩ := Proximity.infix_of_read? length read
    have inside := (trim_inside rest).trans (List.drop_suffix _ _).isInfix
    exact ⟨(first.trans inside).subset, (second.trans inside).subset⟩
  | case3 query mask k found width head rest shown unread chain ih =>
    have length : shown.length = (trim rest).length := trimMask_length (by simp [rest, same])
    have inside := ((trim_inside rest).trans (List.drop_suffix _ _).isInfix).subset
    obtain ⟨first, second⟩ := ih length last
    exact ⟨List.Subset.trans first inside, List.Subset.trans second inside⟩

theorem IsTested.subset (tested : IsTested term query) : term ⊆ query := by
  have length := mask_length query
  cases tested with
  | ofClause read side =>
    obtain ⟨first, second⟩ := Proximity.infix_of_read? length read
    rcases side with rfl | rfl
    · exact first.subset
    · exact second.subset
  | ofRemainder last side =>
    obtain ⟨first, second⟩ := subset_of_notChain_clause length last
    rcases side with rfl | rfl
    · exact first
    · exact second
  | ofConjunction member => exact subset_of_mem_conjuncts member

/-! ### Both modes -/

theorem matchesPattern_of_unmarked (unmarked : Unmarked term) (word : Text) :
    matchesPattern term word = pure (matchesLiterally term word) := by
  have read := Wildcard.read?_patternText unmarked
  rw [matchesPattern, matchesLiterally]
  split
  · rw [compilePattern, read]
    rfl
  · rfl

theorem evaluate_of_unmarked {query : Text} (unmarked : Unmarked query) (text : Text) :
    evaluate matchesPattern text query = pure (value matchesLiterally text query) := by
  have trimmed : Unmarked (trim query) := unmarked.of_subset (trim_sublist query).subset
  -- no group is replaced, so that nothing but the query's own characters is evaluated
  have reduced : ∀ reduct, IsReduct reduct (trim query) → Unmarked reduct := by
    intro reduct reduces
    rw [reduces.eq_trim trimmed.groupless]
    exact trimmed.of_subset (trim_sublist _).subset
  rw [evaluate_eq_activation]
  refine activation_eq_pure (fun term reduct reduces tested word => ?_) fun part inside => ?_
  · exact matchesPattern_of_unmarked ((reduced reduct reduces).of_subset tested.subset) word
  · have smaller : Below part query := inside.below
    have partUnmarked : Unmarked part := by
      cases inside with
      | body inside => exact absurd trimmed.groupless inside.shows
      | branch reduces inside =>
        exact (reduced _ reduces).of_subset inside.piece.1.subset
    exact evaluate_of_unmarked partUnmarked text
termination_by size query
decreasing_by exact smaller

/-- The two modes agree where there is nothing to escape: for a query without marks pattern mode neither
fails nor takes a term literally for want of a pattern, and it finds what literal mode finds. -/
theorem holds_pattern_eq_literal (unmarked : Unmarked query) (text : Text) :
    holds .pattern query text = holds .literal query text :=
  evaluate_of_unmarked unmarked.lower (Text.lower text)

/-- Stars, phrases, connectives, a clause and characters that literal mode escapes. -/
theorem holds_pattern_eq_literal_mixed :
    Unmarked "'a b' or *#x-* not ba*& near/2 ~*".toList ∧
      holds .pattern "'a b' or *#x-* not ba*& near/2 ~*".toList "Bar& #x-y ~".toList =
        holds .literal "'a b' or *#x-* not ba*& near/2 ~*".toList "Bar& #x-y ~".toList := by
  have unmarked : Unmarked "'a b' or *#x-* not ba*& near/2 ~*".toList := by decide
  exact ⟨unmarked, holds_pattern_eq_literal unmarked _⟩

end CardSearch.Query
