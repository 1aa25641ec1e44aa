import CardSearch.Proofs.Grouping
/-!
What `and not` says. A query is cut at ` not `, so an `and` in front of it stays behind at the end of
the part that the `not` is taken from. There it is no connective any more: behind a single word it
is a word to look for, and behind several it belongs to the last of them. Main statement: where this
makes a difference.
-/
namespace CardSearch.Query

open Text

/-! ### Bare words -/

/-- The characters that a bare word does not hold: those with a meaning of their own in a query,
and the capitals of the placeholders. -/
def meaningful : Text := ['"', '\'', '(', ')', '*', '/', 'T', 'F']

/-- A word that is only looked for. -/
structure Bare (word : Text) : Prop where
  ne_nil : word ≠ []
  solid : ∀ c ∈ word, isBlank c = false
  spare : ∀ c ∈ meaningful, c ∉ word
  free : ∀ connective : Connective, word ≠ connective.keyword

/-- A word as it is typed: without blanks, quotes, parentheses, stars and slashes, and no
connective in lower case. -/
structure PlainWord where
  text : Text
  ne_nil : text ≠ []
  solid : ∀ c ∈ text, isBlank c = false
  spare : ∀ c ∈ ['"', '\'', '(', ')', '*', '/'], c ∉ text
  free : ∀ connective : Connective, lower text ≠ connective.keyword

theorem PlainWord.bare (word : PlainWord) : Bare (lower word.text) where
  ne_nil := lower_ne_nil word.ne_nil
  solid := by
    intro c member
    by_contra blank
    have typed := mem_of_mem_lower_of_isBlank (Bool.not_eq_false _ ▸ blank) member
    exact blank (word.solid c typed)
  spare := by
    have range : ∀ c ∈ meaningful, 0x21 ≤ c.toNat ∧ c.toNat ≤ 0x5a ∧
        (IsLowered c → c ∈ ['"', '\'', '(', ')', '*', '/']) := by
      decide
    intro c mark member
    obtain ⟨above, below, typed⟩ := range c mark
    obtain ⟨inside, lowered⟩ := mem_of_mem_lower above below member
    exact word.spare c (typed lowered) inside
  free := word.free

variable {test : (term text : Text) → Bool} {text word a b : Text}

theorem termValue_of_literal {term : Text} (notTrue : term ≠ truePlaceholder)
    (notFalse : term ≠ falsePlaceholder) (unquoted : ∀ c, term.head? = some c → isQuote c = false)
    (starless : '*' ∉ term) : termValue matchesLiterally text term = occurs term text := by
  have head : ∀ quote, isQuote quote = true → term.head? ≠ some quote := by
    intro quote isQuoted same
    rw [unquoted quote same] at isQuoted
    contradiction
  have star : isWildcard term = false := by
    rwa [isWildcard, List.contains_eq_mem, decide_eq_false_iff_not]
  rw [termValue, evaluateTerm, if_neg notTrue, if_neg notFalse]
  simp [head '"' (by decide), head '\'' (by decide), matchesLiterally, star]

theorem termValue_of_spare {term : Text} (spare : ∀ c ∈ meaningful, c ∉ term) :
    termValue matchesLiterally text term = occurs term text := by
  refine termValue_of_literal ?_ ?_ ?_ (spare '*' (by decide))
  · rintro rfl
    exact spare 'T' (by decide) (by decide)
  · rintro rfl
    exact spare 'F' (by decide) (by decide)
  · intro c head
    have member := List.mem_of_mem_head? head
    rw [Bool.eq_false_iff, ne_eq, isQuote_iff]
    rintro (rfl | rfl)
    · exact spare _ (by decide) member
    · exact spare _ (by decide) member

namespace Bare

theorem layered (bare : Bare word) : mask word = word ∧ Layered [] word := by
  have first : ∀ c, word.head? = some c → isQuote c = false := by
    intro c head
    have member := List.mem_of_mem_head? head
    rw [Bool.eq_false_iff, ne_eq, isQuote_iff]
    rintro (rfl | rfl)
    · exact bare.spare _ (by decide) member
    · exact bare.spare _ (by decide) member
  obtain ⟨shown, plain⟩ := plain_of_solid bare.ne_nil bare.solid (bare.spare _ (by decide))
    (bare.spare _ (by decide)) first
  refine ⟨shown, layered_of_solid plain ?_ ?_ ?_⟩ <;> rw [shown]
  · exact bare.solid
  · exact fun marker => bare.spare _ (by decide) (Proximity.slash_mem_of_isMarker marker)
  · exact bare.free

end Bare

/-! ### Words joined by `and` -/

def conjoined : (words : List Text) → (last : Text) → Text
  | [], last => last
  | word :: words, last => word ++ (Connective.and.spelling ++ conjoined words last)

def dangling (word : Text) : Text := word ++ ' ' :: Connective.and.keyword

/-- What becomes of a further `and` behind joined words: a word by itself behind a single word, or
else a part of the last word. -/
def leftover (words : List Text) (last : Text) : Text :=
  if words = [] then Connective.and.keyword else dangling last

variable {words : List Text} {last : Text}

theorem layered_conjoined (bare : ∀ word ∈ words, Bare word) (layered : Layered [.and] last) :
    Layered [.and] (conjoined words last) := by
  induction words with
  | nil => exact layered
  | cons word words ih =>
    rw [List.forall_mem_cons] at bare
    exact (bare.1.layered.2.mono (by decide)).join_connective (by decide) (ih bare.2)

private theorem splitAlong_conjoined (bare : ∀ word ∈ words, Bare word) (tight : Tight last)
    (single : Connective.and.find? (mask last) = none) :
    (splitAlong .and (conjoined words last) (mask (conjoined words last))).map trim =
      words ++ [last] := by
  induction words with
  | nil =>
    rw [conjoined, splitAlong_of_find?_eq_none single, List.map_singleton, tight.trim_eq]
    rfl
  | cons word words ih =>
    rw [List.forall_mem_cons] at bare
    have layered := bare.1.layered.2
    rw [conjoined, layered.splitAlong_join (by decide), List.map_cons, layered.tight.trim_eq,
      ih bare.2]
    rfl

private theorem all_termValue (bare : ∀ word ∈ words, Bare word) :
    words.all (termValue matchesLiterally text) = words.all (occurs · text) := by
  induction words with
  | nil => rfl
  | cons word words ih =>
    rw [List.forall_mem_cons] at bare
    rw [List.all_cons, List.all_cons, termValue_of_spare bare.1.spare, ih bare.2]

private theorem value_conjoined_cons (bare : Bare word) (bares : ∀ word ∈ words, Bare word)
    (layered : Layered [.and] last) (single : Connective.and.find? (mask last) = none) :
    value matchesLiterally text (conjoined (word :: words) last) =
      ((word :: words).all (occurs · text) && termValue matchesLiterally text last) := by
  have all : ∀ other ∈ word :: words, Bare other := List.forall_mem_cons.mpr ⟨bare, bares⟩
  have one : [last].all (termValue matchesLiterally text) = termValue matchesLiterally text last := by
    simp
  rw [value_terms (layered_conjoined all layered), conjoined, bare.layered.2.conjuncts_join,
    splitAlong_conjoined bares layered.tight single, ← List.cons_append, List.all_append,
    all_termValue all, one]

theorem value_conjoined (bares : ∀ word ∈ words, Bare word) (bare : Bare last) :
    value matchesLiterally text (conjoined words last) =
      (words.all (occurs · text) && occurs last text) := by
  obtain ⟨shown, layered⟩ := bare.layered
  cases words with
  | nil =>
    rw [conjoined, value_terms (layered.mono (by decide)), layered.conjuncts_eq, shown,
      wordsAlong_of_solid rfl bare.ne_nil bare.solid, List.all_cons, List.all_nil, Bool.and_true,
      termValue_of_spare bare.spare]
    rfl
  | cons word words =>
    rw [List.forall_mem_cons] at bares
    rw [value_conjoined_cons bares.1 bares.2 (layered.mono (by decide))
      (layered.find?_eq_none (by decide)), termValue_of_spare bare.spare]

/-! ### A further `and` -/

theorem Connective.keyword_spare (connective : Connective) :
    ∀ c ∈ meaningful, c ∉ connective.keyword := by
  cases connective <;> decide

private theorem dangling_parts (bare : Bare word) :
    mask (dangling word) = dangling word ∧ Layered [.and] (dangling word) ∧
      Connective.and.find? (mask (dangling word)) = none := by
  obtain ⟨shown, layered⟩ := bare.layered
  have spaced : dangling word = word ++ (spaces 0 ++ Connective.and.keyword) := rfl
  have keyword : Layered [.and] Connective.and.keyword := by
    obtain ⟨shown, plain⟩ : mask Connective.and.keyword = Connective.and.keyword ∧
        Plain Connective.and.keyword := by
      have first : ∀ c, Connective.and.keyword.head? = some c → isQuote c = false := by
        intro c head
        cases head
        rfl
      exact plain_of_solid (by decide) (by decide) (by decide) (by decide) first
    refine ⟨plain, ?_, ?_⟩
    · rw [shown, words_of_solid (by decide) (by decide)]
      simpa using not_isMarker_keyword .and
    · intro connective absent
      rw [shown, words_of_solid (by decide) (by decide), List.mem_singleton]
      cases connective with
      | and => exact absurd (by decide) absent
      | or | not => decide
  have whole : mask (dangling word) = dangling word := by
    rw [spaced, (separator_spaces 0).mask_join layered.closed, shown]
    rfl
  refine ⟨whole, ?_, ?_⟩
  · exact (layered.mono (by decide)).join_spaces 0 keyword
  · rw [whole]
    apply Connective.find?_of_last
    rw [words_of_solid bare.ne_nil bare.solid, List.mem_singleton]
    exact (bare.free .and).symm

private theorem dangling_spare (bare : Bare word) : ∀ c ∈ meaningful, c ∉ dangling word := by
  intro c mark member
  rcases List.mem_append.mp member with inside | behind
  · exact bare.spare c mark inside
  · rcases List.mem_cons.mp behind with rfl | keyword
    · exact absurd mark (by decide)
    · exact Connective.and.keyword_spare c mark keyword

/-- Behind joined words a further `and` has to occur itself, by itself or behind the last word. -/
theorem value_dangling (bares : ∀ word ∈ words, Bare word) (bare : Bare last) :
    value matchesLiterally text (conjoined words (dangling last)) =
      (value matchesLiterally text (conjoined words last) && occurs (leftover words last) text) := by
  obtain ⟨shown, layered, single⟩ := dangling_parts bare
  rw [value_conjoined bares bare, leftover]
  cases words with
  | nil =>
    have terms : conjuncts (dangling last) (mask (dangling last)) =
        [last, Connective.and.keyword] := by
      have cut : Text.words (dangling last) = Text.words last ++ Text.words Connective.and.keyword :=
        words_append last (by decide)
      rw [words_of_solid bare.ne_nil bare.solid, words_of_solid Connective.and.keyword_ne_nil
        Connective.and.keyword_solid] at cut
      rw [conjuncts, single, shown]
      exact cut
    rw [conjoined, value_terms layered, terms, if_pos rfl, List.all_cons, List.all_cons, List.all_nil,
      Bool.and_true, termValue_of_spare bare.spare, termValue_of_spare Connective.and.keyword_spare]
    rfl
  | cons word words =>
    rw [List.forall_mem_cons] at bares
    have within : occurs (dangling last) text = true → occurs last text = true := by
      rw [occurs_iff, occurs_iff]
      exact (List.prefix_append _ _).isInfix.trans
    rw [value_conjoined_cons bares.1 bares.2 layered single,
      termValue_of_spare (dangling_spare bare), if_neg (by simp), Bool.and_assoc]
    cases found : occurs (dangling last) text with
    | false => simp
    | true => simp [within found]

/-! ### Typed queries -/

theorem Connective.lower_keyword (connective : Connective) :
    lower connective.keyword = connective.keyword := by
  cases connective <;> decide

theorem lower_join (connective : Connective) (a b : Text) :
    lower (a ++ (connective.spelling ++ b)) = lower a ++ (connective.spelling ++ lower b) := by
  have space : IsNeutral ' ' := by decide
  rw [connective.spelling_eq, List.cons_append, List.append_assoc, List.singleton_append,
    lower_append space, lower_append space, connective.lower_keyword]
  simp

theorem lower_conjoined (words : List Text) (last : Text) :
    lower (conjoined words last) = conjoined (words.map lower) (lower last) := by
  induction words with
  | nil => rfl
  | cons word words ih => rw [conjoined, lower_join, ih, List.map_cons, conjoined]

theorem lower_dangling (word : Text) : lower (dangling word) = dangling (lower word) := by
  rw [dangling, lower_append (by decide), Connective.lower_keyword, dangling]

theorem lower_leftover (words : List Text) (last : Text) :
    lower (leftover words last) = leftover (words.map lower) (lower last) := by
  cases words with
  | nil => exact Connective.and.lower_keyword
  | cons word words => simp [leftover, lower_dangling]

def typed (words : List PlainWord) (last : PlainWord) : Text :=
  conjoined (words.map PlainWord.text) last.text

def butNot (first later : Text) : Text := first ++ (Connective.not.spelling ++ later)

def andNot (first later : Text) : Text := butNot (first ++ ' ' :: Connective.and.keyword) later

def either (first later : Text) : Text := first ++ (Connective.or.spelling ++ later)

def grouped (body : Text) : Text := '(' :: (body ++ [')'])

private theorem bare_typed (words : List PlainWord) :
    ∀ word ∈ (words.map PlainWord.text).map lower, Bare word := by
  intro word member
  simp only [List.mem_map] at member
  obtain ⟨_, ⟨plain, _, rfl⟩, rfl⟩ := member
  exact plain.bare

private theorem layered_typed (words : List PlainWord) (last : PlainWord) :
    Layered [.and] (lower (typed words last)) := by
  rw [typed, lower_conjoined]
  exact layered_conjoined (bare_typed words) (last.bare.layered.2.mono (by decide))

private theorem lower_typed_dangling (words : List PlainWord) (last : PlainWord) :
    lower (typed words last ++ ' ' :: Connective.and.keyword) =
      conjoined ((words.map PlainWord.text).map lower) (dangling (lower last.text)) := by
  have moved : ∀ words last, conjoined words last ++ ' ' :: Connective.and.keyword =
      conjoined words (dangling last) := by
    intro words last
    induction words with
    | nil => rfl
    | cons word words ih => rw [conjoined, conjoined, ← ih, List.append_assoc, List.append_assoc]
  rw [typed, moved, lower_conjoined, lower_dangling]

private theorem layered_dangling (words : List PlainWord) (last : PlainWord) :
    Layered [.and] (lower (typed words last ++ ' ' :: Connective.and.keyword)) := by
  rw [lower_typed_dangling]
  exact layered_conjoined (bare_typed words) (dangling_parts last.bare).2.1

private theorem holdsLiterally_butNot (first : Layered [.and] (lower a))
    (later : Layered [.and, .not] (lower b)) (text : Text) :
    holdsLiterally (butNot a b) text = (holdsLiterally a text && !holdsLiterally b text) := by
  rw [holdsLiterally_eq_value, butNot, lower_join, value_not first later]
  rfl

private theorem holdsLiterally_either (first : Layered [.and, .not] (lower a))
    (later : Layered [.and, .not, .or] (lower b)) (text : Text) :
    holdsLiterally (either a b) text = (holdsLiterally a text || holdsLiterally b text) := by
  rw [holdsLiterally_eq_value, either, lower_join, value_or first later]
  rfl

private theorem holdsLiterally_either_grouped (first : Layered [.and, .not] (lower a))
    (body : Plain (lower b)) (text : Text) :
    holdsLiterally (either a (grouped b)) text = (holdsLiterally a text || holdsLiterally b text) := by
  have parts : lower (grouped b) = grouped (lower b) := by
    have opens : lower ('(' :: (b ++ [')'])) = '(' :: lower (b ++ [')']) :=
      lower_append (by decide) [] _
    rw [grouped, opens, lower_append (by decide)]
    rfl
  have reduces : Reduces (value matchesLiterally (lower text))
      (lower a ++ (Connective.or.spelling ++ grouped (lower b)))
      (lower a ++ (Connective.or.spelling ++
        placeholder (value matchesLiterally (lower text) (lower b)))) :=
    .join Connective.or.separator first.toPlain (.refl _) (.group body (.refl _))
  have truth := layered_placeholder (value matchesLiterally (lower text) (lower b))
  have tight : Tight (grouped (lower b)) := tight_enclosed (by decide) (by decide) (lower b)
  rw [holdsLiterally_eq_value, either, lower_join, parts,
    reduces.value_eq (first.toPlain.join Connective.or.separator truth.toPlain)
      (first.tight.append tight first.ne_nil (by simp [grouped]) _),
    value_or first (truth.mono (by decide)), value_placeholder]
  rfl

theorem holdsLiterally_typed (words : List PlainWord) (last : PlainWord) (text : Text) :
    holdsLiterally (typed words last) text =
      (((words.map PlainWord.text).map lower).all (occurs · (lower text)) &&
        occurs (lower last.text) (lower text)) := by
  rw [holdsLiterally_eq_value, typed, lower_conjoined, value_conjoined (bare_typed words) last.bare]

theorem holdsLiterally_andNot (words others : List PlainWord) (last final : PlainWord)
    (text : Text) :
    holdsLiterally (andNot (typed words last) (typed others final)) text =
      (holdsLiterally (typed words last) text &&
        occurs (lower (leftover (words.map PlainWord.text) last.text)) (lower text) &&
          !holdsLiterally (typed others final) text) := by
  rw [andNot, holdsLiterally_butNot (layered_dangling words last)
    ((layered_typed others final).mono (by decide)), holdsLiterally_eq_value, lower_typed_dangling,
    value_dangling (bare_typed words) last.bare, lower_leftover]
  rw [← lower_conjoined, ← typed, ← holdsLiterally_eq_value]

theorem holdsLiterally_either_butNot (a b c : PlainWord) (text : Text) :
    holdsLiterally (either a.text (butNot b.text c.text)) text =
      (holdsLiterally a.text text || (holdsLiterally b.text text && !holdsLiterally c.text text)) := by
  have later : Layered [.and, .not] (lower (butNot b.text c.text)) := by
    rw [butNot, lower_join]
    exact (b.bare.layered.2.mono (by decide)).join_connective (by decide)
      (c.bare.layered.2.mono (by decide))
  rw [holdsLiterally_either (a.bare.layered.2.mono (by decide)) (later.mono (by decide)),
    holdsLiterally_butNot (b.bare.layered.2.mono (by decide)) (c.bare.layered.2.mono (by decide))]

theorem holdsLiterally_either_andNot (a b c : PlainWord) (text : Text) :
    holdsLiterally (either a.text (grouped (andNot b.text c.text))) text =
      (holdsLiterally a.text text || (holdsLiterally b.text text &&
        occurs (lower Connective.and.keyword) (lower text) && !holdsLiterally c.text text)) := by
  have body : Layered [.and, .not] (lower (andNot b.text c.text)) := by
    rw [andNot, butNot, lower_join]
    exact ((layered_dangling [] b).mono (by decide)).join_connective (by decide)
      (c.bare.layered.2.mono (by decide))
  rw [holdsLiterally_either_grouped (a.bare.layered.2.mono (by decide)) body.toPlain]
  exact congrArg (holdsLiterally a.text text || ·) (holdsLiterally_andNot [] [] b c text)

/-- Where `and not` says what `and` and `not` say, and where a `not` behind an `or` says what
`and not` says in a group there: wherever the further `and` happens to occur if the answer depends
on it. -/
theorem andNot_lawful_iff (words others : List PlainWord) (last final a b c : PlainWord)
    (text : Text) :
    (holdsLiterally (andNot (typed words last) (typed others final)) text =
          (holdsLiterally (typed words last) text && !holdsLiterally (typed others final) text) ↔
        (holdsLiterally (typed words last) text = true →
          holdsLiterally (typed others final) text = false →
            lower (leftover (words.map PlainWord.text) last.text) <:+: lower text)) ∧
      (holdsLiterally (either a.text (butNot b.text c.text)) text =
          holdsLiterally (either a.text (grouped (andNot b.text c.text))) text ↔
        (holdsLiterally a.text text = false → holdsLiterally b.text text = true →
          holdsLiterally c.text text = false → lower Connective.and.keyword <:+: lower text)) := by
  constructor
  · rw [holdsLiterally_andNot, ← occurs_iff]
    cases holdsLiterally (typed words last) text <;>
      cases holdsLiterally (typed others final) text <;> simp
  · rw [holdsLiterally_either_butNot, holdsLiterally_either_andNot, ← occurs_iff]
    cases holdsLiterally a.text text <;> cases holdsLiterally b.text text <;>
      cases holdsLiterally c.text text <;> simp

/-- Where only `a` occurs, `a and not b` does not hold, and where only `b` occurs, `a or b not c`
holds but `a or (b and not c)` does not. -/
theorem andNot_unlawful :
    holdsLiterally "a and not b".toList "a".toList ≠
        (holdsLiterally "a".toList "a".toList && !holdsLiterally "b".toList "a".toList) ∧
      holdsLiterally "a or b not c".toList "b".toList ≠
        holdsLiterally "a or (b and not c)".toList "b".toList := by
  have letter : ∀ c ∈ ['a', 'b', 'c'], ∃ word : PlainWord, word.text = [c] := by
    intro c member
    refine ⟨⟨[c], by simp, ?_, ?_, ?_⟩, rfl⟩
    · revert c
      decide
    · revert c
      decide
    · intro connective
      revert c
      cases connective <;> decide
  obtain ⟨a, spellsA⟩ := letter 'a' (by decide)
  obtain ⟨b, spellsB⟩ := letter 'b' (by decide)
  obtain ⟨c, spellsC⟩ := letter 'c' (by decide)
  have holds : ∀ (word : PlainWord) (c : Char), word.text = [c] → ∀ text,
      holdsLiterally [c] text = occurs (lower [c]) (lower text) := by
    intro word c spells text
    have single := holdsLiterally_typed [] word text
    rw [typed, spells] at single
    exact single.trans (Bool.true_and _)
  have conjunction := holdsLiterally_andNot [] [] a b ['a']
  have outer := holdsLiterally_either_butNot a b c ['b']
  have inner := holdsLiterally_either_andNot a b c ['b']
  simp only [typed, conjoined, List.map_nil, spellsA, spellsB, spellsC, holds a 'a' spellsA,
    holds b 'b' spellsB, holds c 'c' spellsC] at conjunction outer inner
  constructor
  · rw [show "a and not b".toList = andNot ['a'] ['b'] from rfl, show "a".toList = ['a'] from rfl,
      show "b".toList = ['b'] from rfl, conjunction, holds a 'a' spellsA, holds b 'b' spellsB]
    decide
  · rw [show "a or b not c".toList = either ['a'] (butNot ['b'] ['c']) from rfl,
      show "a or (b and not c)".toList = either ['a'] (grouped (andNot ['b'] ['c'])) from rfl,
      show "b".toList = ['b'] from rfl, outer, inner]
    decide

end CardSearch.Query
