import CardSearch.Proofs.AndNot
import CardSearch.Proofs.GroupTruth
/-!
A group with a word behind it in front of an `and`. A query with an `and` is cut at its `and`s only, so
the placeholder that the group leaves and the word make up one term, and that term is looked for as it
stands. It has capitals, which no text in lower case has. Main statement: such a query never holds, so
its group counts only where the whole is false anyway.
-/
namespace CardSearch.Query

open Text

variable {test : (term text : Text) → Bool} {text body word last : Text}

theorem value_group_in_front (filled : body ≠ []) (opens : '(' ∉ body) (closes : ')' ∉ body)
    (quoteless : ∀ c ∈ body, isQuote c = false) {later : Text}
    (tight : Tight (grouped body ++ later))
    (tightReplaced : Tight (placeholder (value test text body) ++ later)) :
    value test text (grouped body ++ later) =
      value test text (placeholder (value test text body) ++ later) := by
  have parts : grouped body ++ later = [] ++ '(' :: (body ++ ')' :: later) := by simp [grouped]
  have shown : mask ([] ++ '(' :: (body ++ ')' :: later)) =
      [] ++ '(' :: (body ++ ')' :: maskFrom (.outside (some ')')) later) := by
    rw [List.nil_append, mask, maskFrom_outside_cons (by decide), maskFrom_body quoteless]
    rfl
  have found : findGroup? (mask ([] ++ '(' :: (body ++ ')' :: later))) =
      some ⟨([] : Text).length, body.length⟩ := by
    rw [shown, findGroup?_append List.not_mem_nil filled opens closes]
  rw [value_eq, value_eq, tight.trim_eq, tightReplaced.trim_eq, parts, replaceGroups_of_some found,
    Group.body_of_parts, Group.replace_of_parts, List.nil_append]

/-! ### The term that the placeholder is part of -/

def leaking (truth : Bool) (word : Text) : Text := placeholder truth ++ (spaces 0 ++ word)

theorem layered_leaking (truth : Bool) (bare : Bare word) : Layered [] (leaking truth word) :=
  (layered_placeholder truth).join_spaces 0 bare.layered.2

theorem termValue_leaking (truth : Bool) (bare : Bare word) (lowered : ∀ c ∈ text, IsLowered c) :
    termValue matchesLiterally text (leaking truth word) = false := by
  have space : ' ' ∈ leaking truth word := by simp [leaking, spaces]
  have capital : 'E' ∈ leaking truth word := by
    refine List.mem_append_left _ ?_
    cases truth <;> decide
  have looked : termValue matchesLiterally text (leaking truth word) =
      occurs (leaking truth word) text := by
    refine termValue_of_literal ?_ ?_ ?_ ?_
    · intro same
      exact absurd (same ▸ space) (by decide)
    · intro same
      exact absurd (same ▸ space) (by decide)
    · intro c head
      cases truth <;> cases head <;> rfl
    · have starless : '*' ∉ placeholder truth ++ spaces 0 := by cases truth <;> decide
      rw [leaking, ← List.append_assoc, List.mem_append, not_or]
      exact ⟨starless, bare.spare '*' (by decide)⟩
  rw [looked, Bool.eq_false_iff, ne_eq, occurs_iff]
  intro there
  exact absurd (lowered 'E' (there.subset capital)) (by decide)

theorem value_leaking (truth : Bool) (bare : Bare word) (bareLast : Bare last)
    (lowered : ∀ c ∈ text, IsLowered c) :
    value matchesLiterally text (leaking truth word ++ (Connective.and.spelling ++ last)) = false := by
  have first := layered_leaking truth bare
  have whole : Layered [.and] (leaking truth word ++ (Connective.and.spelling ++ last)) :=
    (first.mono (by decide)).join_connective (by decide) (bareLast.layered.2.mono (by decide))
  rw [value_terms whole, first.conjuncts_join, List.all_cons, termValue_leaking truth bare lowered,
    Bool.false_and]

/-! ### Typed queries -/

def besideWord (body : Text) (word last : PlainWord) : Text :=
  grouped body ++ (spaces 0 ++ (word.text ++ (Connective.and.spelling ++ last.text)))

theorem lower_besideWord (body : Text) (word last : PlainWord) :
    lower (besideWord body word last) = grouped (lower body) ++
      (spaces 0 ++ (lower word.text ++ (Connective.and.spelling ++ lower last.text))) := by
  have parts : ∀ body word : Text, grouped body ++ (spaces 0 ++ word) =
      [] ++ '(' :: (body ++ ')' :: ([] ++ ' ' :: word)) := by
    intro body word
    simp [grouped, spaces]
  rw [besideWord, parts, lower_append (by decide), lower_append (by decide),
    lower_append (by decide), lower_join, parts]
  rfl

/-- A group with a word behind it in front of an `and` makes the query false, whatever the group and
the words are worth. -/
theorem holdsLiterally_besideWord (filled : body ≠ [])
    (spare : ∀ c ∈ ['(', ')', '"', '\''], c ∉ body) (word last : PlainWord) (text : Text) :
    holdsLiterally (besideWord body word last) text = false := by
  have absent : ∀ c ∈ ['(', ')', '"', '\''], c ∉ lower body := by
    have range : ∀ c ∈ ['(', ')', '"', '\''], 0x21 ≤ c.toNat ∧ c.toNat ≤ 0x5a := by decide
    intro c mark there
    obtain ⟨above, below⟩ := range c mark
    exact spare c mark (mem_of_mem_lower above below there).1
  have quoteless : ∀ c ∈ lower body, isQuote c = false := by
    intro c there
    rw [Bool.eq_false_iff, ne_eq, isQuote_iff]
    rintro (rfl | rfl)
    · exact absent _ (by decide) there
    · exact absent _ (by decide) there
  have later : Tight (lower word.text ++ (Connective.and.spelling ++ lower last.text)) :=
    word.bare.layered.2.tight.append last.bare.layered.2.tight word.bare.ne_nil last.bare.ne_nil _
  have there : lower word.text ++ (Connective.and.spelling ++ lower last.text) ≠ [] := by
    simp [word.bare.ne_nil]
  have leaked := value_leaking (value matchesLiterally (lower text) (lower body)) word.bare last.bare
    fun c (there : c ∈ lower text) => isLowered_of_mem_lower there
  rw [leaking, List.append_assoc, List.append_assoc] at leaked
  rw [holdsLiterally_eq_value, lower_besideWord,
    value_group_in_front (lower_ne_nil filled) (absent _ (by decide)) (absent _ (by decide)) quoteless
      ((tight_enclosed (by decide) (by decide) _).append later (by simp) there _)
      ((layered_placeholder _).tight.append later (layered_placeholder _).ne_nil there _)]
  exact leaked

/-- A group with a word behind it in front of an `and` makes the query false. So the query is worth
what its group and its words are worth together exactly if these do not all hold. -/
theorem group_beside_word_lawful_iff {body : Text} (filled : body ≠ [])
    (spare : ∀ c ∈ ['(', ')', '"', '\''], c ∉ body) (word last : PlainWord) (text : Text) :
    holdsLiterally (besideWord body word last) text = false ∧
      (holdsLiterally (besideWord body word last) text =
          (holdsLiterally body text && occurs (lower word.text) (lower text) &&
            occurs (lower last.text) (lower text)) ↔
        ¬ (holdsLiterally body text = true ∧ lower word.text <:+: lower text ∧
          lower last.text <:+: lower text)) := by
  have never := holdsLiterally_besideWord filled spare word last text
  refine ⟨never, ?_⟩
  rw [never, ← occurs_iff, ← occurs_iff]
  cases holdsLiterally body text <;> cases occurs (lower word.text) (lower text) <;>
    cases occurs (lower last.text) (lower text) <;> simp

private theorem exists_plainWord {c : Char} (member : c ∈ ['a', 'b', 'c', 'x']) :
    ∃ word : PlainWord, word.text = [c] := by
  refine ⟨⟨[c], by simp, ?_, ?_, ?_⟩, rfl⟩
  · revert c
    decide
  · revert c
    decide
  · intro connective
    revert c
    cases connective <;> decide

private theorem holdsLiterally_of_letter {c : Char} (member : c ∈ ['a', 'b', 'c', 'x']) (text : Text) :
    holdsLiterally [c] text = occurs (lower [c]) (lower text) := by
  obtain ⟨word, spells⟩ := exists_plainWord member
  have single := holdsLiterally_typed [] word text
  rw [typed, spells] at single
  exact single.trans (Bool.true_and _)

/-- The group of `(x) b and c` is false of `a b c`, and there the query says what it should. -/
theorem group_beside_word_lawful : ∃ word last : PlainWord, word.text = ['b'] ∧ last.text = ['c'] ∧
    holdsLiterally (besideWord ['x'] word last) "a b c".toList =
      (holdsLiterally ['x'] "a b c".toList && occurs (lower word.text) (lower "a b c".toList) &&
        occurs (lower last.text) (lower "a b c".toList)) := by
  obtain ⟨b, spellsB⟩ := exists_plainWord (c := 'b') (by decide)
  obtain ⟨c, spellsC⟩ := exists_plainWord (c := 'c') (by decide)
  refine ⟨b, c, spellsB, spellsC, ?_⟩
  refine (group_beside_word_lawful_iff (by decide) (by decide) b c _).2.mpr ?_
  rintro ⟨groupHolds, -, -⟩
  rw [holdsLiterally_of_letter (by decide)] at groupHolds
  exact absurd groupHolds (by decide)

/-- `(a) b and c` does not hold of `a b c`, although `a` holds of it and `b` and `c` occur in it. -/
theorem group_beside_word_unlawful :
    lower "a b c".toList = "a b c".toList ∧
      holdsLiterally "(a) b and c".toList "a b c".toList ≠
        (holdsLiterally "a".toList "a b c".toList && occurs "b".toList "a b c".toList &&
          occurs "c".toList "a b c".toList) := by
  obtain ⟨b, spellsB⟩ := exists_plainWord (c := 'b') (by decide)
  obtain ⟨c, spellsC⟩ := exists_plainWord (c := 'c') (by decide)
  have never : holdsLiterally (besideWord ['a'] b c) "a b c".toList = false :=
    holdsLiterally_besideWord (by decide) (by decide) b c _
  have typed : besideWord ['a'] b c = "(a) b and c".toList := by
    rw [besideWord, spellsB, spellsC]
    rfl
  rw [← typed, never, show "a".toList = ['a'] from rfl, holdsLiterally_of_letter (by decide)]
  decide

end CardSearch.Query
