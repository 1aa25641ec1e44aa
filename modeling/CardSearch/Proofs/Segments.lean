import CardSearch.Proofs.Assembly
import Mathlib.Data.List.Forall2
/-!
What the mask of a query hides. A query is read from the left: where a phrase may stand the shortest one
is taken, and every other character stands alone. The mask replaces the content of the phrases that are
read and nothing else. In the blanked query the same phrases are read again, for the blank mark is no
quote, no blank and no parenthesis. Main statement: a mask is as long as its query and is its own mask, and
no clause is looked for along a mask of another length.
-/
namespace CardSearch.Query

open Text

/-- What is read of a query in one step. -/
inductive Segment where
  | letter (c : Char)
  | phrase (quote : Char) (content : Text)
deriving Repr, DecidableEq

namespace Segment

def text : Segment → Text
  | .letter c => [c]
  | .phrase quote content => quotedWith quote content

def blanked : Segment → Segment
  | .letter c => .letter c
  | .phrase quote content => .phrase quote (List.replicate content.length blankMark)

def joined (segments : List Segment) : Text := segments.flatMap text

end Segment

open Segment (joined)

/-- The text behind `before` begins with a phrase: a quote that may open one, at least one character and
no end of a line, and the same quote where a term may end. -/
structure Begins (before : Option Char) (query : Text) (quote : Char) (content later : Text) : Prop where
  whole : query = quote :: (content ++ quote :: later)
  isQuoted : isQuote quote = true
  opens : opensAfter before = true
  filled : content ≠ []
  line : '\n' ∉ content
  follows : Follows later

/-- The segments of a text behind `before` as it is read from the left: the shortest phrase that the text
begins with, or a single character if it begins with none, and what is read behind it. -/
inductive Reads : (before : Option Char) → List Segment → Prop
  | done {before : Option Char} : Reads before []
  | letter {before : Option Char} {c : Char} {segments : List Segment}
    (single : ∀ quote content later, ¬ Begins before (c :: joined segments) quote content later)
    (behind : Reads (some c) segments) : Reads before (.letter c :: segments)
  | phrase {before : Option Char} {quote : Char} {content : Text} {segments : List Segment}
    (begins : Begins before (quote :: (content ++ quote :: joined segments)) quote content
      (joined segments))
    (shortest : ∀ other later,
      Begins before (quote :: (content ++ quote :: joined segments)) quote other later →
        content.length ≤ other.length)
    (behind : Reads (some quote) segments) : Reads before (.phrase quote content :: segments)

variable {quote c : Char} {before : Option Char} {content later text query shown : Text}
  {segments : List Segment}

@[simp] theorem joined_letter : joined (.letter c :: segments) = c :: joined segments := rfl

@[simp] theorem joined_phrase :
    joined (.phrase quote content :: segments) = quote :: (content ++ quote :: joined segments) := by
  simp [joined, Segment.text, quotedWith]

@[simp] theorem blanked_blanked (segment : Segment) : segment.blanked.blanked = segment.blanked := by
  cases segment with
  | letter c => rfl
  | phrase quote content => simp [Segment.blanked]

/-! ### Reading and masking -/

theorem phraseLength?_of_shortest
    (begins : Begins before (quote :: (content ++ quote :: later)) quote content later)
    (shortest : ∀ other rest, Begins before (quote :: (content ++ quote :: later)) quote other rest →
      content.length ≤ other.length) :
    phraseLength? quote (content ++ quote :: later) = some content.length := by
  obtain ⟨n, short, found⟩ := phraseLength?_le begins.filled begins.line begins.follows
  obtain ⟨other, rest, whole, length, filled, line, follows⟩ := parts_of_phraseLength? found
  have long := shortest other rest ⟨by rw [whole], begins.isQuoted, begins.opens, filled, line, follows⟩
  rw [found, Nat.le_antisymm short (length ▸ long)]

theorem Begins.exists_shortest (begins : Begins before query quote content later) :
    ∃ least rest, Begins before query quote least rest ∧
      ∀ other later, Begins before query quote other later → least.length ≤ other.length := by
  obtain ⟨rfl, isQuoted, opens, filled, line, follows⟩ := begins
  obtain ⟨n, -, found⟩ := phraseLength?_le filled line follows
  obtain ⟨least, rest, whole, length, filled, line, follows⟩ := parts_of_phraseLength? found
  refine ⟨least, rest, ⟨by rw [whole], isQuoted, opens, filled, line, follows⟩, ?_⟩
  intro other later longer
  obtain ⟨k, short, again⟩ := phraseLength?_le longer.filled longer.line longer.follows
  rw [← (List.cons.inj longer.whole).2, found] at again
  rw [length, Option.some.inj again]
  exact short

theorem exists_reads (before : Option Char) (text : Text) :
    ∃ segments, Reads before segments ∧ joined segments = text := by
  induction size : text.length using Nat.strong_induction_on generalizing before text with
  | _ n ih =>
    cases text with
    | nil => exact ⟨[], .done, rfl⟩
    | cons c text =>
      by_cases begun : ∃ quote content later, Begins before (c :: text) quote content later
      · obtain ⟨quote, content, later, begins⟩ := begun
        obtain ⟨least, rest, begins, shortest⟩ := begins.exists_shortest
        have whole := begins.whole
        rw [whole] at size begins shortest ⊢
        have fewer : rest.length < n := by
          simp only [List.length_cons, List.length_append] at size
          omega
        obtain ⟨segments, reads, rfl⟩ := ih rest.length fewer (some quote) rest rfl
        exact ⟨.phrase quote least :: segments, .phrase begins shortest reads, joined_phrase⟩
      · rw [List.length_cons] at size
        obtain ⟨segments, reads, rfl⟩ := ih text.length (by omega) (some c) text rfl
        refine ⟨.letter c :: segments, .letter ?_ reads, rfl⟩
        exact fun quote content later begins => begun ⟨quote, content, later, begins⟩

theorem Reads.unique {others : List Segment} (reads : Reads before segments) (again : Reads before others)
    (same : joined others = joined segments) : others = segments := by
  induction reads generalizing others with
  | done =>
    cases again with
    | done => rfl
    | letter | phrase => nomatch same
  | @letter before c segments single behind ih =>
    cases again with
    | done => nomatch same
    | letter other again =>
      obtain ⟨rfl, rests⟩ := List.cons.inj same
      rw [ih again rests]
    | phrase begins =>
      -- No single character is read where a phrase begins.
      rw [joined_phrase] at same
      exact absurd (same ▸ begins) (single _ _ _)
  | @phrase before quote content segments begins shortest behind ih =>
    cases again with
    | done => nomatch same
    | letter single =>
      rw [joined_letter, joined_phrase] at same
      exact absurd (same ▸ begins) (single _ _ _)
    | @phrase _ _ other others begins' shortest' again =>
      rw [joined_phrase, joined_phrase] at same
      obtain ⟨rfl, -⟩ := List.cons.inj same
      rw [same] at begins' shortest'
      have length := Nat.le_antisymm (shortest _ _ begins') (shortest' _ _ begins)
      obtain ⟨rfl, rests⟩ := List.append_inj (List.cons.inj same).2 length.symm
      rw [ih again (List.cons.inj rests).2]

theorem Reads.maskFrom_eq (reads : Reads before segments) :
    maskFrom (.outside before) (joined segments) = joined (segments.map Segment.blanked) := by
  induction reads with
  | done => rfl
  | @letter before c segments single behind ih =>
    have kept : maskFrom (.outside before) (c :: joined segments) =
        c :: maskFrom (.outside (some c)) (joined segments) := by
      rw [maskFrom]
      split
      · rename_i opens
        obtain ⟨isQuoted, opens⟩ := Bool.and_eq_true_iff.mp opens
        split
        · rename_i n found
          obtain ⟨content, later, whole, -, filled, line, follows⟩ := parts_of_phraseLength? found
          exact absurd ⟨by rw [whole], isQuoted, opens, filled, line, follows⟩ (single c content later)
        · rfl
      · rfl
    rw [joined_letter, kept, ih]
    rfl
  | @phrase before quote content segments begins shortest behind ih =>
    rw [joined_phrase, maskFrom, begins.isQuoted, begins.opens, Bool.and_self, if_pos rfl,
      phraseLength?_of_shortest begins shortest]
    dsimp only
    rw [maskFrom_inside_append, ih, List.map_cons, Segment.blanked, joined_phrase]

/-! ### Hiding -/

/-- The second text holds the characters of the first at their places, but some of them hidden; an end of
a line is never hidden. -/
def Hides (query shown : Text) : Prop :=
  List.Forall₂ (fun c d => d = c ∨ d = blankMark ∧ c ≠ '\n') query shown

theorem Hides.append {other rest : Text} (first : Hides query shown) (second : Hides other rest) :
    Hides (query ++ other) (shown ++ rest) :=
  List.rel_append first second

theorem hides_replicate (line : '\n' ∉ content) :
    Hides content (List.replicate content.length blankMark) := by
  induction content with
  | nil => exact .nil
  | cons c content ih =>
    rw [List.mem_cons, not_or] at line
    exact .cons (.inr ⟨rfl, Ne.symm line.1⟩) (ih line.2)

theorem Reads.hides (reads : Reads before segments) :
    Hides (joined segments) (joined (segments.map Segment.blanked)) := by
  induction reads with
  | done => exact .nil
  | letter single behind ih => exact .cons (.inl rfl) ih
  | phrase begins shortest behind ih =>
    rw [joined_phrase, List.map_cons, Segment.blanked, joined_phrase]
    exact .cons (.inl rfl) ((hides_replicate begins.line).append (.cons (.inl rfl) ih))

theorem Hides.getElem? {i : Nat} (hides : Hides query shown) (there : query[i]? = some c) :
    shown[i]? = some c ∨ shown[i]? = some blankMark ∧ c ≠ '\n' := by
  induction hides generalizing i with
  | nil => contradiction
  | cons same hides ih =>
    cases i with
    | zero =>
      obtain rfl := Option.some.inj there
      obtain rfl | ⟨rfl, other⟩ := same
      · exact .inl rfl
      · exact .inr ⟨rfl, other⟩
    | succ i => exact ih there

theorem Hides.newline (hides : Hides query shown) (there : '\n' ∈ query) : '\n' ∈ shown := by
  induction hides with
  | nil => contradiction
  | @cons c d query shown same hides ih =>
    obtain rfl | later := List.mem_cons.mp there
    · obtain rfl | ⟨-, other⟩ := same
      · exact List.mem_cons_self
      · contradiction
    · exact List.mem_cons_of_mem _ (ih later)

theorem Hides.follows (hides : Hides query shown) (follows : Follows shown) : Follows query := by
  cases hides with
  | nil => exact follows_nil
  | @cons c d query shown same hides =>
    have ends := follows d rfl
    obtain rfl | ⟨hidden, -⟩ := same
    · exact follows_cons ends
    · exact absurd hidden (endsTerm_ne_blankMark ends)

theorem Hides.of_cons {rest : Text} (visible : c ≠ blankMark) (hides : Hides query (c :: rest)) :
    ∃ later, query = c :: later ∧ Hides later rest := by
  obtain ⟨d, later, same, behind, rfl⟩ := List.forall₂_cons_right_iff.mp hides
  obtain rfl | ⟨hidden, -⟩ := same
  · exact ⟨later, rfl, behind⟩
  · exact absurd hidden visible

theorem Begins.of_hides (begins : Begins before shown quote content later) (hides : Hides query shown) :
    ∃ other rest, Begins before query quote other rest ∧ other.length = content.length := by
  obtain ⟨rfl, isQuoted, opens, filled, line, follows⟩ := begins
  have visible : quote ≠ blankMark := by
    rintro rfl
    contradiction
  obtain ⟨behind, rfl, inner⟩ := hides.of_cons visible
  have inside : Hides (behind.take content.length) content :=
    List.forall₂_take_append _ _ _ inner
  have beyond : Hides (behind.drop content.length) (quote :: later) :=
    List.forall₂_drop_append _ _ _ inner
  obtain ⟨rest, cut, last⟩ := beyond.of_cons visible
  have length : (behind.take content.length).length = content.length := inside.length_eq
  refine ⟨behind.take content.length, rest, ?_, length⟩
  exact {
    whole := by rw [← cut, List.take_append_drop]
    isQuoted
    opens
    filled := List.ne_nil_of_length_pos (by rw [length]; exact List.length_pos_iff.mpr filled)
    line := fun there => line (inside.newline there)
    follows := last.follows follows }

/-! ### Reading the mask -/

theorem follows_blanked (follows : Follows (joined segments)) :
    Follows (joined (segments.map Segment.blanked)) := by
  cases segments with
  | nil => exact follows_nil
  | cons segment segments =>
    cases segment with
    | letter c => exact follows_cons (follows c rfl)
    | phrase quote content =>
      rw [joined_phrase] at follows
      rw [List.map_cons, Segment.blanked, joined_phrase]
      exact follows_cons (follows quote rfl)

theorem Reads.blanked (reads : Reads before segments) : Reads before (segments.map Segment.blanked) := by
  induction reads with
  | done => exact .done
  | @letter before c segments single behind ih =>
    refine .letter ?_ ih
    intro quote content later begins
    obtain ⟨other, rest, begins, -⟩ := begins.of_hides (.cons (.inl rfl) behind.hides)
    exact single quote other rest begins
  | @phrase before quote content segments begins shortest behind ih =>
    rw [List.map_cons, Segment.blanked]
    refine .phrase ?_ ?_ ih
    · exact {
        whole := rfl
        isQuoted := begins.isQuoted
        opens := begins.opens
        filled := by simpa using begins.filled
        line := by simp [blankMark]
        follows := follows_blanked begins.follows }
    · -- A shorter phrase of the mask would stand in the text too.
      intro other later shorter
      have hides := (Reads.phrase begins shortest behind).hides
      rw [List.map_cons, Segment.blanked, joined_phrase, joined_phrase] at hides
      obtain ⟨found, rest, begins, length⟩ := shorter.of_hides hides
      rw [List.length_replicate, ← length]
      exact shortest found rest begins

theorem Reads.mask_eq (reads : Reads none segments) :
    mask (joined segments) = joined (segments.map Segment.blanked) :=
  reads.maskFrom_eq

theorem mask_mask (query : Text) : mask (mask query) = mask query := by
  obtain ⟨segments, reads, rfl⟩ := exists_reads none query
  rw [reads.mask_eq, reads.blanked.mask_eq, List.map_map]
  congr 2
  funext segment
  exact blanked_blanked segment

/-! ### Masks of clauses -/

/-- Reads a clause, but fails where the mask has another length than the query. -/
def Proximity.readAlong? (query mask : Text) : Option (Option Proximity) :=
  if mask.length = query.length then some (read? query mask) else none

/-- Cuts a query at the `not`s of its mask, but fails where a clause is looked for along a mask of another
length than what it is read from. -/
def notChainAlong? (query mask : Text) : Option NotChain :=
  match _found : Connective.not.find? mask with
  | none => some ⟨[], .query query⟩
  | some k => do
    let width := k + Connective.not.spelling.length
    let head := trim (query.take k)
    let rest := query.drop width
    let shown := trimMask rest (mask.drop width)
    match ← Proximity.readAlong? (trim rest) shown with
    | some clause => return ⟨[head], .clause clause⟩
    | none =>
      let chain ← notChainAlong? (trim rest) shown
      return { chain with heads := head :: chain.heads }
termination_by mask.length
decreasing_by
  have := Connective.find?_bound _found
  have := Connective.not.spelling_length_pos
  simp only [trimMask, List.length_take, List.length_drop]
  omega

theorem readAlong?_eq {mask : Text} (same : mask.length = query.length) :
    Proximity.readAlong? query mask = some (Proximity.read? query mask) :=
  if_pos same

theorem notChainAlong?_eq {mask : Text} (same : mask.length = query.length) :
    notChainAlong? query mask = some (notChain query mask) := by
  fun_induction notChain query mask with
  | case1 query mask unseen =>
    rw [notChainAlong?]
    split
    · rfl
    · simp_all
  | case2 query mask k found width head rest shown clause read =>
    have behind : shown.length = (trim rest).length :=
      trimMask_length (by simp only [rest, List.length_drop]; omega)
    rw [notChainAlong?]
    split
    · simp_all
    · rename_i j other
      obtain rfl : k = j := Option.some.inj (found.symm.trans other)
      dsimp only
      rw [readAlong?_eq behind, read]
      rfl
  | case3 query mask k found width head rest shown unread chain ih =>
    have behind : shown.length = (trim rest).length :=
      trimMask_length (by simp only [rest, List.length_drop]; omega)
    rw [notChainAlong?]
    split
    · simp_all
    · rename_i j other
      obtain rfl : k = j := Option.some.inj (found.symm.trans other)
      dsimp only
      rw [readAlong?_eq behind, unread, ih behind]
      rfl

/-! ### Masks -/

/-- A mask is as long as its query and holds at each place the character of the query or the blank mark,
which never stands for the end of a line. The query is read in one way as single characters and phrases,
and the mask is what these are with the content of the phrases blanked out, so the quotes around them are
kept and so is all that is outside of them. A mask is its own mask. No clause is looked for along a mask of
another length, neither for a query as a whole nor behind one of its `not`s. -/
theorem mask_blanks_phrases (query : Text) :
    (mask query).length = query.length ∧
    (∀ (i : Nat) (c : Char), query[i]? = some c →
      (mask query)[i]? = some c ∨ (mask query)[i]? = some blankMark ∧ c ≠ '\n') ∧
    (∃ segments, Reads none segments ∧ joined segments = query ∧
      (∀ others, Reads none others → joined others = query → others = segments) ∧
      mask query = joined (segments.map Segment.blanked)) ∧
    mask (mask query) = mask query ∧
    Proximity.readAlong? query (mask query) = some (Proximity.read? query (mask query)) ∧
    notChainAlong? query (mask query) = some (notChain query (mask query)) := by
  have same := mask_length query
  refine ⟨same, ?_, ?_, mask_mask query, readAlong?_eq same, notChainAlong?_eq same⟩
  all_goals obtain ⟨segments, reads, rfl⟩ := exists_reads none query
  · intro i c there
    rw [reads.mask_eq]
    exact reads.hides.getElem? there
  · exact ⟨segments, reads, rfl, fun others again => reads.unique again, reads.mask_eq⟩

/-- A quote of the other kind is hidden in a phrase and opens none behind it. -/
example : mask "'a\"' \"b".toList = "'__' \"b".toList := by decide

end CardSearch.Query
