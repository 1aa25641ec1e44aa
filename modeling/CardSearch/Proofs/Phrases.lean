import CardSearch.Proofs.Meaning
import CardSearch.Proofs.PatternMode
import Mathlib.Data.List.Infix
/-!
Queries that are one quoted phrase. Quotes do not change how the letters between them are lowered, and
no phrase crosses the end of a line. Main statement: the mask hides the content of a phrase exactly if
the phrase stands on one line, and then nothing in it is read as anything but text.
-/
namespace CardSearch

/-! ### Lowering between quotes -/

theorem Text.newline_mem_lower_iff {text : Text} : '\n' ∈ lower text ↔ '\n' ∈ text := by
  constructor
  · exact mem_of_mem_lower_of_isBlank (by decide)
  · intro there
    obtain ⟨before, later, rfl⟩ := List.append_of_mem there
    rw [lower_append (by decide)]
    exact List.mem_append_right _ (List.mem_cons_self ..)

namespace Query

open Text

variable {quote : Char} {content : Text}

theorem lower_quotedWith (isQuoted : isQuote quote = true) (content : Text) :
    lower (quotedWith quote content) = quotedWith quote (lower content) := by
  have lowered : IsLowered quote ∧ isCased quote = false := by
    obtain rfl | rfl := isQuote_iff.mp isQuoted
    · decide
    · decide
  rw [quotedWith, lower_cons lowered.1 lowered.2, lower_concat lowered.1 lowered.2, quotedWith]

theorem not_mem_lower_of_isQuote (isQuoted : isQuote quote = true) (unquoted : quote ∉ content) :
    quote ∉ lower content := by
  intro there
  obtain rfl | rfl := isQuote_iff.mp isQuoted
  · exact unquoted (mem_of_mem_lower (by decide) (by decide) there).1
  · exact unquoted (mem_of_mem_lower (by decide) (by decide) there).1

/-! ### The ends of lines -/

theorem newline_not_mem_phrase {text : Text} {n : Nat} (found : phraseLength? quote text = some n) :
    '\n' ∉ text.take n := by
  obtain ⟨content, later, rfl, rfl, -, line, -⟩ := parts_of_phraseLength? found
  rwa [List.take_left]

def MaskScan.beyond : MaskScan → Text → Text
  | .outside _, text => text
  | .inside left, text => text.drop left

theorem newline_mem_maskFrom (scan : MaskScan) {text : Text} (there : '\n' ∈ scan.beyond text) :
    '\n' ∈ maskFrom scan text := by
  fun_induction maskFrom scan text with
  | case1 scan => cases scan <;> simp [MaskScan.beyond] at there
  | case2 c rest ih => exact List.mem_cons.mpr ((List.mem_cons.mp there).imp_right ih)
  | case3 left c rest ih => exact List.mem_cons_of_mem _ (ih there)
  | case4 before c rest opens length found ih =>
    refine List.mem_cons.mpr ((List.mem_cons.mp there).imp_right fun later => ih ?_)
    rw [← List.take_append_drop length rest] at later
    exact (List.mem_append.mp later).resolve_left (newline_not_mem_phrase found)
  | case5 before c rest opens unclosed ih =>
    exact List.mem_cons.mpr ((List.mem_cons.mp there).imp_right ih)
  | case6 before c rest plain ih =>
    exact List.mem_cons.mpr ((List.mem_cons.mp there).imp_right ih)

/-- The mask hides what stands between two quotes exactly if it stands on one line. -/
theorem mask_quotedWith_iff (isQuoted : isQuote quote = true) (some : content ≠ [])
    (unquoted : quote ∉ content) :
    mask (quotedWith quote content) = quotedWith quote (List.replicate content.length blankMark) ↔
      '\n' ∉ content := by
  constructor
  · intro hidden there
    have member : '\n' ∈ quotedWith quote content :=
      List.mem_cons_of_mem _ (List.mem_append_left _ there)
    have shown : '\n' ∈ mask (quotedWith quote content) :=
      newline_mem_maskFrom (.outside none) member
    have other : '\n' ≠ quote := by
      rintro rfl
      contradiction
    rw [hidden] at shown
    simp [quotedWith, other, blankMark] at shown
  · exact mask_quotedWith isQuoted some unquoted

/-! ### Queries of one phrase -/

/-- A query that is one quoted phrase on one line holds of the texts in which its content occurs. -/
theorem holds_phrase (isQuoted : quote = '"' ∨ quote = '\'') (some : content ≠ [])
    (unquoted : quote ∉ content) (line : '\n' ∉ content) (mode : WildcardMode) (text : Text) :
    holds mode (quotedWith quote content) text = pure (decide (lower content <:+: lower text)) := by
  have isQuoted' : isQuote quote = true := isQuote_iff.mpr isQuoted
  let phrase : Phrase := {
    quote
    content := lower content
    isQuoted
    ne_nil := lower_ne_nil some
    lowered := lower_lower content
    unquoted := not_mem_lower_of_isQuote isQuoted' unquoted
    line := fun there => line (newline_mem_lower_iff.mp there) }
  have occurrence : occurs (lower content) (lower text) = decide (lower content <:+: lower text) := by
    rw [Bool.eq_iff_iff, occurs_iff, decide_eq_true_iff]
  have answer : ∀ {m : Type → Type} [Monad m] [LawfulMonad m] (test : (term text : Text) → m Bool),
      evaluate test (lower text) (lower (quotedWith quote content)) =
        pure (decide (lower content <:+: lower text)) := by
    intro m _ _ test
    rw [lower_quotedWith isQuoted', ← occurrence,
      evaluate_of_term phrase.layered phrase.shown_solid test, phrase.evaluateTerm_eq]
  cases mode with
  | literal => rw [holds, holdsLiterally, answer]; rfl
  | pattern => exact answer matchesPattern

/-- A query that is one quoted phrase holds of the texts in which its content occurs, whatever the
content looks like. This takes that the mask hides the content, which it does on one line. -/
theorem holds_quotedWith (isQuoted : quote = '"' ∨ quote = '\'') (some : content ≠ [])
    (unquoted : quote ∉ content) :
    (mask (lower (quotedWith quote content)) =
        quotedWith quote (List.replicate (lower content).length blankMark) ↔ '\n' ∉ content) ∧
      ('\n' ∉ content → ∀ (mode : WildcardMode) (text : Text),
        holds mode (quotedWith quote content) text =
          pure (decide (lower content <:+: lower text))) := by
  have isQuoted' : isQuote quote = true := isQuote_iff.mpr isQuoted
  have unquoted' : quote ∉ lower content := not_mem_lower_of_isQuote isQuoted' unquoted
  rw [lower_quotedWith isQuoted', mask_quotedWith_iff isQuoted' (lower_ne_nil some) unquoted',
    newline_mem_lower_iff]
  exact ⟨Iff.rfl, holds_phrase isQuoted some unquoted⟩

/-- A phrase that looks like a choice with a group in it. -/
theorem holds_quoted_choice :
    ('"' = '"' ∨ '"' = '\'') ∧ "a or (b)".toList ≠ [] ∧ '"' ∉ "a or (b)".toList ∧
      '\n' ∉ "a or (b)".toList ∧
      holds .pattern (quotedWith '"' "a or (b)".toList) "A or (b) or c".toList = pure true := by
  have some : "a or (b)".toList ≠ [] := by decide
  have unquoted : '"' ∉ "a or (b)".toList := by decide
  have line : '\n' ∉ "a or (b)".toList := by decide
  refine ⟨.inl rfl, some, unquoted, line, ?_⟩
  rw [(holds_quotedWith (.inl rfl) some unquoted).2 line]
  exact congrArg pure (by decide)

/-- A phrase of two lines is cut at the end of the first one. -/
theorem holdsLiterally_two_lines :
    ['a', '\n', 'b'] ≠ [] ∧ '"' ∉ ['a', '\n', 'b'] ∧
      ¬ (holdsLiterally (quotedWith '"' ['a', '\n', 'b']) ['a', '\n', 'b'] = true ↔
        lower ['a', '\n', 'b'] <:+: lower ['a', '\n', 'b']) := by
  have lowered : lower ['a', '\n', 'b'] = ['a', '\n', 'b'] := by decide
  have settled : Settled (quotedWith '"' ['a', '\n', 'b']) :=
    ⟨tight_enclosed (by decide) (by decide) ['a', '\n', 'b'], rfl⟩
  have cut : value matchesLiterally ['a', '\n', 'b'] (quotedWith '"' ['a', '\n', 'b']) = false :=
    (settled.value_of_terms rfl rfl rfl).trans rfl
  refine ⟨by decide, by decide, ?_⟩
  rw [holdsLiterally_eq_value, lower_quotedWith rfl, lowered, cut]
  simp

end Query

end CardSearch
