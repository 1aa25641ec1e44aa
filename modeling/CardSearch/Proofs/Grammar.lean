import CardSearch.Proofs.ClauseReading
import CardSearch.Proofs.Layer
import CardSearch.Proofs.Nearness
/-!
The grammar of queries and what its queries say of a text. The evaluator knows no grammar; it cuts
the text of a query. Queries that the grammar forms are trees here, their spelling is the text that
is cut, and their meaning is read off the tree.
-/
namespace CardSearch.Query

open Text

/-! ### Words, phrases and numerals -/

/-- A word of a query: in lower case, without blanks and parentheses, no quote in front, and
neither a connective nor the marker of a clause. -/
structure Word where
  text : Text
  ne_nil : text ≠ []
  lowered : Text.lower text = text
  solid : ∀ c ∈ text, isBlank c = false
  opens : '(' ∉ text
  closes : ')' ∉ text
  unquoted : ∀ c, text.head? = some c → c ≠ '"' ∧ c ≠ '\''
  free : ∀ connective : Connective, text ≠ connective.keyword
  markerless : ∀ digits, digits ≠ [] → (∀ c ∈ digits, isDigit c = true) →
    text ≠ ['n', 'e', 'a', 'r', '/'] ++ digits ∧ text ≠ ['n', '/'] ++ digits

/-- A phrase of a query: a content in lower case and on one line, between quotes that it does not
hold. -/
structure Phrase where
  quote : Char
  content : Text
  isQuoted : quote = '"' ∨ quote = '\''
  ne_nil : content ≠ []
  lowered : Text.lower content = content
  unquoted : quote ∉ content
  line : '\n' ∉ content

/-- A distance, as it is written: digits, not too many to be read. -/
structure Numeral where
  digits : Text
  ne_nil : digits ≠ []
  decimal : ∀ c ∈ digits, isDigit c = true
  short : digits.length ≤ maxNumeralDigits

/-! ### Forms -/

/-- The sorts of forms, from the atoms of a conjunction to a whole query or body of a group. -/
inductive Category where
  | atom
  | row
  | joint
  | conjunction
  | chain
  | choice
  | body
deriving Repr, DecidableEq

/-- The queries that the grammar forms, and their parts. Atoms stand in a row, with one or more
spaces between them, or are joined by `and`; conjunctions are chained by `not` and chains joined by
`or`. A clause is a body by itself. -/
inductive Form : Category → Type where
  | word (word : Word) : Form .atom
  | phrase (phrase : Phrase) : Form .atom
  | group (body : Form .body) : Form .atom
  | lone (atom : Form .atom) : Form .row
  | beside (atom : Form .atom) (more : Nat) (row : Form .row) : Form .row
  | last (atom : Form .atom) : Form .joint
  | and (atom : Form .atom) (joint : Form .joint) : Form .joint
  | spaced (row : Form .row) : Form .conjunction
  | joined (joint : Form .joint) : Form .conjunction
  | affirmed (conjunction : Form .conjunction) : Form .chain
  | not (conjunction : Form .conjunction) (chain : Form .chain) : Form .chain
  | single (chain : Form .chain) : Form .choice
  | or (chain : Form .chain) (choice : Form .choice) : Form .choice
  | whole (choice : Form .choice) : Form .body
  | near (first : Word) (distance : Numeral) (second : Word) : Form .body

namespace Form

def spelling : {category : Category} → Form category → Text
  | _, .word term => term.text
  | _, .phrase quoted => quotedWith quoted.quote quoted.content
  | _, .group body => '(' :: (body.spelling ++ [')'])
  | _, .lone atom => atom.spelling
  | _, .beside atom more row => atom.spelling ++ (spaces more ++ row.spelling)
  | _, .last atom => atom.spelling
  | _, .and atom joint => atom.spelling ++ (Connective.and.spelling ++ joint.spelling)
  | _, .spaced row => row.spelling
  | _, .joined joint => joint.spelling
  | _, .affirmed conjunction => conjunction.spelling
  | _, .not conjunction chain =>
    conjunction.spelling ++ (Connective.not.spelling ++ chain.spelling)
  | _, .single chain => chain.spelling
  | _, .or chain choice => chain.spelling ++ (Connective.or.spelling ++ choice.spelling)
  | _, .whole choice => choice.spelling
  | _, .near first distance second => Proximity.written first.text distance.digits second.text

def Holds (test : (term text : Text) → Bool) (text : Text) :
    {category : Category} → Form category → Prop
  | _, .word term => test term.text text = true
  | _, .phrase quoted => quoted.content <:+: text
  | _, .group body => body.Holds test text
  | _, .lone atom => atom.Holds test text
  | _, .beside atom _ row => atom.Holds test text ∧ row.Holds test text
  | _, .last atom => atom.Holds test text
  | _, .and atom joint => atom.Holds test text ∧ joint.Holds test text
  | _, .spaced row => row.Holds test text
  | _, .joined joint => joint.Holds test text
  | _, .affirmed conjunction => conjunction.Holds test text
  | _, .not conjunction chain => conjunction.Holds test text ∧ ¬ chain.Holds test text
  | _, .single chain => chain.Holds test text
  | _, .or chain choice => chain.Holds test text ∨ choice.Holds test text
  | _, .whole choice => choice.Holds test text
  | _, .near first distance second =>
    ∃ (i j : Nat) (u v : Text), (words text)[i]? = some u ∧ (words text)[j]? = some v ∧
      test first.text u = true ∧ test second.text v = true ∧
        ((j : Int) - i).natAbs ≤ Proximity.distanceOf distance.digits

def reduced (test : (term text : Text) → Bool) (text : Text) :
    {category : Category} → Form category → Text
  | _, .word term => term.text
  | _, .phrase quoted => quotedWith quoted.quote quoted.content
  | _, .group body => placeholder (value test text (body.reduced test text))
  | _, .lone atom => atom.reduced test text
  | _, .beside atom more row => atom.reduced test text ++ (spaces more ++ row.reduced test text)
  | _, .last atom => atom.reduced test text
  | _, .and atom joint =>
    atom.reduced test text ++ (Connective.and.spelling ++ joint.reduced test text)
  | _, .spaced row => row.reduced test text
  | _, .joined joint => joint.reduced test text
  | _, .affirmed conjunction => conjunction.reduced test text
  | _, .not conjunction chain =>
    conjunction.reduced test text ++ (Connective.not.spelling ++ chain.reduced test text)
  | _, .single chain => chain.reduced test text
  | _, .or chain choice =>
    chain.reduced test text ++ (Connective.or.spelling ++ choice.reduced test text)
  | _, .whole choice => choice.reduced test text
  | _, .near first distance second => Proximity.written first.text distance.digits second.text

end Form

/-! ### Atoms are layered over nothing -/

namespace Word

variable (word : Word)

theorem lowered_chars : ∀ c ∈ word.text, IsLowered c := lower_eq_self_iff.mp word.lowered

theorem head_unquoted (c : Char) (head : word.text.head? = some c) : isQuote c = false := by
  rw [Bool.eq_false_iff, ne_eq, isQuote_iff, not_or]
  exact word.unquoted c head

theorem not_isMarker : ¬ IsMarker word.text := by
  have spelled : ∀ {letters written digits : Text}, List.Forall₂ Proximity.Spells letters written →
      word.text = written ++ digits → word.text = letters ++ digits := by
    intro letters written digits spells whole
    have same : ∀ c ∈ written, lowerCode c.toNat = c.toNat := by
      intro c member
      exact lowerCode_of_isLowered (word.lowered_chars c (by simp [whole, member]))
    suffices written = letters by rw [whole, this]
    clear whole
    induction spells with
    | nil => rfl
    | @cons letter c letters written first _ ih =>
      rw [List.forall_mem_cons] at same
      rw [Proximity.Spells, same.1, Char.toNat_inj] at first
      rw [first, ih same.2]
  rintro ⟨digits, dropped, some, decimal⟩
  rw [Proximity.dropMarker, Option.or_eq_some_iff] at dropped
  rcases dropped with long | ⟨_, short⟩
  · obtain ⟨written, spells, whole⟩ := Proximity.dropLetters_eq_some_iff.mp long
    exact (word.markerless digits some decimal).1 (spelled spells whole)
  · obtain ⟨written, spells, whole⟩ := Proximity.dropLetters_eq_some_iff.mp short
    exact (word.markerless digits some decimal).2 (spelled spells whole)

theorem mask_eq : mask word.text = word.text :=
  (plain_of_solid word.ne_nil word.solid word.opens word.closes word.head_unquoted).1

theorem plain : Plain word.text :=
  (plain_of_solid word.ne_nil word.solid word.opens word.closes word.head_unquoted).2

theorem layered : Layered [] word.text := by
  apply layered_of_solid word.plain <;> rw [word.mask_eq]
  · exact word.solid
  · exact word.not_isMarker
  · exact word.free

theorem ne_placeholder (truth : Bool) : word.text ≠ placeholder truth := by
  intro same
  have lowered := word.lowered
  rw [same] at lowered
  revert lowered
  cases truth <;> decide

end Word

namespace Phrase

variable (phrase : Phrase)

theorem spelling_lowered : ∀ c ∈ quotedWith phrase.quote phrase.content, IsLowered c := by
  have quote : IsLowered phrase.quote := by
    rcases phrase.isQuoted with same | same <;> rw [same] <;> decide
  intro c member
  simp only [quotedWith, List.mem_cons, List.mem_append, List.not_mem_nil, or_false] at member
  rcases member with rfl | member | rfl
  · exact quote
  · exact lower_eq_self_iff.mp phrase.lowered c member
  · exact quote

theorem tight : Tight (quotedWith phrase.quote phrase.content) := by
  have solid : isBlank phrase.quote = false := by
    rcases phrase.isQuoted with same | same <;> rw [same] <;> decide
  exact tight_enclosed solid solid phrase.content

theorem mask_eq : mask (quotedWith phrase.quote phrase.content) =
    quotedWith phrase.quote (List.replicate phrase.content.length blankMark) :=
  mask_quotedWith (isQuote_iff.mpr phrase.isQuoted) phrase.ne_nil phrase.unquoted phrase.line

theorem shown {c : Char} (member : c ∈ mask (quotedWith phrase.quote phrase.content)) :
    isQuote c = true ∨ c = blankMark := by
  rw [mask_eq] at member
  simp only [quotedWith, List.mem_cons, List.mem_append, List.mem_replicate, List.not_mem_nil,
    or_false] at member
  rcases member with rfl | ⟨_, rfl⟩ | rfl
  · exact .inl (isQuote_iff.mpr phrase.isQuoted)
  · exact .inr rfl
  · exact .inl (isQuote_iff.mpr phrase.isQuoted)

theorem shown_solid : ∀ c ∈ mask (quotedWith phrase.quote phrase.content), isBlank c = false := by
  intro c member
  rcases phrase.shown member with quote | rfl
  · rcases isQuote_iff.mp quote with rfl | rfl <;> decide
  · decide

theorem plain : Plain (quotedWith phrase.quote phrase.content) where
  ne_nil := by simp [quotedWith]
  tight := phrase.tight
  closed := closed_quotedWith (isQuote_iff.mpr phrase.isQuoted) phrase.ne_nil phrase.unquoted
    phrase.line
  opens := by
    intro member
    rcases phrase.shown member with quote | same <;> contradiction
  closes := by
    intro member
    rcases phrase.shown member with quote | same <;> contradiction

theorem layered : Layered [] (quotedWith phrase.quote phrase.content) := by
  apply layered_of_solid phrase.plain phrase.shown_solid
  · rw [mask_eq]
    exact not_isMarker_of_isQuote (isQuote_iff.mpr phrase.isQuoted) _
  · intro connective same
    rw [mask_eq] at same
    have head := congrArg List.head? same
    rcases phrase.isQuoted with quote | quote <;>
      cases connective <;> simp [quotedWith, Connective.keyword, quote] at head

end Phrase

end CardSearch.Query
