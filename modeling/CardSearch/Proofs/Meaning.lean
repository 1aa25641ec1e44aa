import CardSearch.Proofs.Grammar
import CardSearch.Proofs.Grouping
/-!
The evaluator implements the grammar. Replacing the groups of a spelling leads to the reduced text
of its form, which is cut at the connectives of the form's category. Main statement: the spelling of
a body holds of a text exactly where the body holds of it.
-/
namespace CardSearch.Query

open Text

def Category.connectives : Category → List Connective
  | .atom | .row => []
  | .joint | .conjunction => [.and]
  | .chain => [.and, .not]
  | .choice | .body => [.and, .not, .or]

variable {test : (term text : Text) → Bool} {text : Text}

theorem plain_written (first : Word) (distance : Numeral) (second : Word) :
    mask (Proximity.written first.text distance.digits second.text) =
      Proximity.written first.text distance.digits second.text ∧
    Plain (Proximity.written first.text distance.digits second.text) := by
  have parts : Proximity.written first.text distance.digits second.text =
      first.text ++ (spaces 0 ++ ((['n', 'e', 'a', 'r', '/'] ++ distance.digits) ++
        (spaces 0 ++ second.text))) := by
    simp [Proximity.written, spaces]
  have digit : ∀ {c : Char}, c ∈ distance.digits → isDigit c = false → False := by
    intro c member other
    rw [distance.decimal c member] at other
    contradiction
  obtain ⟨shown, marker⟩ : mask (['n', 'e', 'a', 'r', '/'] ++ distance.digits) =
      ['n', 'e', 'a', 'r', '/'] ++ distance.digits ∧
      Plain (['n', 'e', 'a', 'r', '/'] ++ distance.digits) := by
    apply plain_of_solid
    · simp
    · intro c member
      rcases List.mem_append.mp member with letter | decimal
      · exact (show ∀ c ∈ ['n', 'e', 'a', 'r', '/'], isBlank c = false by decide) c letter
      · exact isBlank_of_isDigit (distance.decimal c decimal)
    · simpa using fun member => digit member (by decide)
    · simpa using fun member => digit member (by decide)
    · intro c head
      cases head
      rfl
  have separator := separator_spaces 0
  rw [parts]
  constructor
  · rw [separator.mask_join first.plain.closed, separator.mask_join marker.closed, first.mask_eq,
      shown, second.mask_eq]
  · exact first.plain.join separator (marker.join separator second.plain)

namespace Form

variable {category : Category}

theorem layered_reduced (form : Form category) (inner : category ≠ .body) :
    Layered category.connectives (form.reduced test text) := by
  induction form with
  | word term => exact term.layered
  | phrase quoted => exact quoted.layered
  | group body => exact layered_placeholder _
  | lone atom ih => exact ih (by decide)
  | beside atom more row first later =>
    exact (first (by decide)).join_spaces more (later (by decide))
  | last atom ih => exact (ih (by decide)).mono (by decide)
  | and atom joint first later =>
    exact ((first (by decide)).mono (by decide)).join_connective (by decide) (later (by decide))
  | spaced row ih => exact (ih (by decide)).mono (by decide)
  | joined joint ih => exact ih (by decide)
  | affirmed conjunction ih => exact (ih (by decide)).mono (by decide)
  | not conjunction chain first later =>
    exact ((first (by decide)).mono (by decide)).join_connective (by decide) (later (by decide))
  | single chain ih => exact (ih (by decide)).mono (by decide)
  | or chain choice first later =>
    exact ((first (by decide)).mono (by decide)).join_connective (by decide) (later (by decide))
  | whole choice => exact absurd rfl inner
  | near first distance second => exact absurd rfl inner

theorem plain_reduced (form : Form category) : Plain (form.reduced test text) := by
  by_cases inner : category = .body
  · subst category
    cases form with
    | whole choice => exact (choice.layered_reduced (by decide)).toPlain
    | near first distance second => exact (plain_written first distance second).2
  · exact (form.layered_reduced inner).toPlain

theorem reduces_spelling (form : Form category) :
    Reduces (value test text) form.spelling (form.reduced test text) := by
  induction form with
  | word term => exact .refl _
  | phrase quoted => exact .refl _
  | group body ih => exact .group body.plain_reduced ih
  | lone atom ih => exact ih
  | beside atom more row first later =>
    exact .join (separator_spaces more) atom.plain_reduced first later
  | last atom ih => exact ih
  | and atom joint first later =>
    exact .join Connective.and.separator atom.plain_reduced first later
  | spaced row ih => exact ih
  | joined joint ih => exact ih
  | affirmed conjunction ih => exact ih
  | not conjunction chain first later =>
    exact .join Connective.not.separator conjunction.plain_reduced first later
  | single chain ih => exact ih
  | or chain choice first later =>
    exact .join Connective.or.separator chain.plain_reduced first later
  | whole choice ih => exact ih
  | near first distance second => exact .refl _

theorem tight_spelling (form : Form category) : form.spelling ≠ [] ∧ Tight form.spelling := by
  have join : ∀ {a b : Text} (between : Text), a ≠ [] ∧ Tight a → b ≠ [] ∧ Tight b →
      a ++ (between ++ b) ≠ [] ∧ Tight (a ++ (between ++ b)) := by
    intro a b between first later
    exact ⟨by simp [first.1], first.2.append later.2 first.1 later.1 between⟩
  induction form with
  | word term => exact ⟨term.ne_nil, term.plain.tight⟩
  | phrase quoted => exact ⟨quoted.plain.ne_nil, quoted.tight⟩
  | group body => exact ⟨by simp [spelling], tight_enclosed (by decide) (by decide) body.spelling⟩
  | lone atom ih => exact ih
  | beside atom more row first later => exact join _ first later
  | last atom ih => exact ih
  | and atom joint first later => exact join _ first later
  | spaced row ih => exact ih
  | joined joint ih => exact ih
  | affirmed conjunction ih => exact ih
  | not conjunction chain first later => exact join _ first later
  | single chain ih => exact ih
  | or chain choice first later => exact join _ first later
  | whole choice ih => exact ih
  | near first distance second =>
    have plain := (plain_written first distance second).2
    exact ⟨plain.ne_nil, plain.tight⟩

theorem lowered_spelling (form : Form category) : ∀ c ∈ form.spelling, IsLowered c := by
  have connective : ∀ (connective : Connective), ∀ c ∈ connective.spelling, IsLowered c := by
    intro connective
    cases connective <;> decide
  induction form with
  | word term => exact term.lowered_chars
  | phrase quoted => exact quoted.spelling_lowered
  | group body ih =>
    simp only [spelling, List.forall_mem_cons, List.forall_mem_append]
    exact ⟨by decide, ih, by decide⟩
  | lone atom ih => exact ih
  | beside atom more row first later =>
    simp only [spelling, List.forall_mem_append]
    refine ⟨first, ?_, later⟩
    intro c member
    rw [(List.mem_replicate.mp member).2]
    decide
  | last atom ih => exact ih
  | and atom joint first later =>
    simp only [spelling, List.forall_mem_append]
    exact ⟨first, connective .and, later⟩
  | spaced row ih => exact ih
  | joined joint ih => exact ih
  | affirmed conjunction ih => exact ih
  | not conjunction chain first later =>
    simp only [spelling, List.forall_mem_append]
    exact ⟨first, connective .not, later⟩
  | single chain ih => exact ih
  | or chain choice first later =>
    simp only [spelling, List.forall_mem_append]
    exact ⟨first, connective .or, later⟩
  | whole choice ih => exact ih
  | near first distance second =>
    simp only [spelling, Proximity.written, List.forall_mem_append, List.forall_mem_cons]
    refine ⟨first.lowered_chars, by decide, ⟨by decide, by decide, by decide, by decide, by decide,
      by simp⟩, ?_, by decide, second.lowered_chars⟩
    intro c member
    exact isLowered_of_isDigit (distance.decimal c member)

theorem value_spelling (form : Form category) :
    value test text form.spelling = value test text (form.reduced test text) :=
  form.reduces_spelling.value_eq form.plain_reduced form.tight_spelling.2

end Form

/-! ### What is left is cut along the grammar -/

theorem termValue_placeholder (truth : Bool) : termValue test text (placeholder truth) = truth := by
  cases truth <;> rfl

theorem Word.termValue_eq (word : Word) : termValue test text word.text = test word.text text := by
  have head : ∀ quote, isQuote quote = true → word.text.head? ≠ some quote := by
    intro quote isQuoted same
    rw [word.head_unquoted quote same] at isQuoted
    contradiction
  have notTrue : word.text ≠ truePlaceholder := word.ne_placeholder true
  have notFalse : word.text ≠ falsePlaceholder := word.ne_placeholder false
  rw [termValue, evaluateTerm, if_neg notTrue, if_neg notFalse]
  simp [head '"' rfl, head '\'' rfl]

/-- A phrase is tested in every monad alike: only where its content occurs counts. -/
theorem Phrase.evaluateTerm_eq {m : Type → Type} [Monad m] (phrase : Phrase)
    (test : (term text : Text) → m Bool) (text : Text) :
    evaluateTerm test text (quotedWith phrase.quote phrase.content) =
      pure (occurs phrase.content text) := by
  have content : Query.unquoted (quotedWith phrase.quote phrase.content) = phrase.content := by
    simp [Query.unquoted, quotedWith]
  have last : (quotedWith phrase.quote phrase.content).getLast? = some phrase.quote := by
    rw [quotedWith, ← List.cons_append, List.getLast?_concat]
  have quoted : ∀ rest, quotedWith phrase.quote phrase.content ≠ '_' :: rest := by
    intro rest same
    have head := (List.cons.inj same).1
    rcases phrase.isQuoted with quote | quote <;> rw [quote] at head <;> contradiction
  have notTrue : quotedWith phrase.quote phrase.content ≠ truePlaceholder := quoted _
  have notFalse : quotedWith phrase.quote phrase.content ≠ falsePlaceholder := quoted _
  rw [evaluateTerm, if_neg notTrue, if_neg notFalse, content, last]
  rcases phrase.isQuoted with quote | quote <;> simp [quotedWith, quote]

theorem Phrase.termValue_iff (phrase : Phrase) :
    termValue test text (quotedWith phrase.quote phrase.content) = true ↔
      phrase.content <:+: text := by
  rw [termValue, phrase.evaluateTerm_eq, ← occurs_iff]
  rfl

/-- How a part of a query is evaluated that a form of the category spells. -/
def Category.evaluated (test : (term text : Text) → Bool) (text : Text) : Category → Text → Bool
  | .atom, part => termValue test text part
  | .row, part => (wordsAlong part (mask part)).all (termValue test text)
  | .joint, part => ((splitAlong .and part (mask part)).map trim).all (termValue test text)
  | .conjunction, part | .chain, part | .choice, part | .body, part => value test text part

namespace Form

theorem wordsAlong_atom (atom : Form .atom) :
    wordsAlong (atom.reduced test text) (mask (atom.reduced test text)) =
      [atom.reduced test text] := by
  have solid : ∀ c ∈ mask (atom.reduced test text), isBlank c = false := by
    cases atom with
    | word term =>
      rw [reduced, term.mask_eq]
      exact term.solid
    | phrase quoted => exact quoted.shown_solid
    | group body =>
      rw [reduced, mask_placeholder]
      cases value test text (body.reduced test text) <;> decide
  exact wordsAlong_of_solid (mask_length _) (mask_ne_nil atom.plain_reduced.ne_nil) solid

theorem layered_atom (atom : Form .atom) : Layered [] (atom.reduced test text) :=
  atom.layered_reduced (by decide)

theorem value_joint (joint : Form .joint) : value test text (joint.reduced test text) =
    Category.joint.evaluated test text (joint.reduced test text) := by
  have layered : Layered [.and] (joint.reduced test text) := joint.layered_reduced (by decide)
  rw [value_terms layered, Category.evaluated]
  cases joint with
  | last atom =>
    rw [reduced, atom.layered_atom.conjuncts_eq, atom.wordsAlong_atom,
      splitAlong_of_find?_eq_none (atom.layered_atom.find?_eq_none (by decide)), List.map_singleton,
      atom.layered_atom.tight.trim_eq]
  | and atom joint =>
    rw [reduced, atom.layered_atom.conjuncts_join, atom.layered_atom.splitAlong_join (by decide),
      List.map_cons, atom.layered_atom.tight.trim_eq]

theorem evaluated_reduced (form : Form category) :
    category.evaluated test text (form.reduced test text) = true ↔ form.Holds test text := by
  induction form with
  | word term => rw [Category.evaluated, reduced, term.termValue_eq, Holds]
  | phrase quoted => rw [Category.evaluated, reduced, quoted.termValue_iff, Holds]
  | group body ih => rw [Category.evaluated, reduced, termValue_placeholder, Holds, ← ih]; rfl
  | lone atom ih =>
    rw [Category.evaluated, reduced, atom.wordsAlong_atom, Holds, ← ih, List.all_cons, List.all_nil,
      Bool.and_true]
    rfl
  | beside atom more row first later =>
    rw [Category.evaluated, reduced, atom.layered_atom.closed.wordsAlong_join, atom.wordsAlong_atom,
      Holds, ← first, ← later, List.singleton_append, List.all_cons, Bool.and_eq_true]
    rfl
  | last atom ih =>
    rw [Category.evaluated, reduced,
      splitAlong_of_find?_eq_none (atom.layered_atom.find?_eq_none (by decide)), Holds, ← ih,
      List.map_singleton, atom.layered_atom.tight.trim_eq, List.all_cons, List.all_nil,
      Bool.and_true]
    rfl
  | and atom joint first later =>
    rw [Category.evaluated, reduced, atom.layered_atom.splitAlong_join (by decide), Holds, ← first,
      ← later, List.map_cons, atom.layered_atom.tight.trim_eq, List.all_cons, Bool.and_eq_true]
    rfl
  | spaced row ih =>
    have layered : Layered [] (row.reduced test text) := row.layered_reduced (by decide)
    rw [Category.evaluated, reduced, value_terms (layered.mono (by decide)), layered.conjuncts_eq,
      Holds, ← ih]
    rfl
  | joined joint ih => rw [Category.evaluated, reduced, joint.value_joint, Holds, ← ih]
  | affirmed conjunction ih => exact ih
  | not conjunction chain first later =>
    rw [Category.evaluated, reduced, value_not (conjunction.layered_reduced (by decide))
      (chain.layered_reduced (by decide)), Holds, ← first, ← later, Bool.and_eq_true]
    simp [Category.evaluated]
  | single chain ih => exact ih
  | or chain choice first later =>
    rw [Category.evaluated, reduced, value_or (chain.layered_reduced (by decide))
      (choice.layered_reduced (by decide)), Holds, ← first, ← later, Bool.or_eq_true]
    rfl
  | whole choice ih => exact ih
  | near first distance second =>
    obtain ⟨shown, plain⟩ := plain_written first distance second
    have line (word : Word) : Proximity.Run (· ≠ '\n') word.text := by
      refine ⟨word.ne_nil, ?_⟩
      rintro c member rfl
      exact absurd (word.solid _ member) (by decide)
    have single : words first.text = [first.text] := words_of_solid first.ne_nil first.solid
    have read := Proximity.read?_written (tight_of_solid first.solid) (tight_of_solid second.solid)
      (line first) (line second) ⟨distance.ne_nil, distance.decimal⟩ distance.short (by simp [single])
    rw [Category.evaluated, reduced, plain.settled.value_of_clause (by rw [shown]; exact read),
      clauseValue_eq_true_iff, Holds]
    simp only [Int.ofNat_le]

end Form

/-- A query that the grammar forms holds of exactly the texts that its form holds of, both in lower
case. -/
theorem holdsLiterally_spelling (body : Form .body) (text : Text) :
    holdsLiterally body.spelling text = true ↔ body.Holds matchesLiterally (lower text) := by
  have lowered : lower body.spelling = body.spelling :=
    lower_eq_self_iff.mpr body.lowered_spelling
  rw [holdsLiterally_eq_value, lowered, body.value_spelling]
  exact body.evaluated_reduced

end CardSearch.Query
