import CardSearch.Proofs.Marker
import CardSearch.Proofs.Reduction
/-!
Queries that are put together from parts. Where every part closes the phrases it opens and ends
where a term may end, the mask of the whole is the masks of the parts in a row, and a connective
between two parts is the first that the mask shows if the part in front does not hold its keyword
as a word. The value of the whole then follows from the values of the parts.
-/
namespace CardSearch.Query

open Text

variable {a b between front later part : Text} {c : Char}

/-! ### Masks of parts -/

def Follows (later : Text) : Prop := ∀ c, later.head? = some c → endsTerm c = true

/-- A term may start behind `front`, and `front` is masked in the same way whatever follows. -/
def Opening (front : Text) : Prop := ∀ later, mask (front ++ later) = mask front ++ mask later

def Closed (part : Text) : Prop :=
  ∀ later, Follows later → mask (part ++ later) = mask part ++ mask later

/-- No quote of `part` stands where a phrase may open if `part` stands behind `before`. -/
def Unquoted : (before : Option Char) → (part : Text) → Prop
  | _, [] => True
  | before, c :: rest => (isQuote c && opensAfter before) = false ∧ Unquoted (some c) rest

theorem maskFrom_of_unquoted {before : Option Char} (unquoted : Unquoted before part)
    (later : Text) : maskFrom (.outside before) (part ++ later) =
      part ++ maskFrom (.outside (part.getLast?.or before)) later := by
  induction part generalizing before with
  | nil => rfl
  | cons c rest ih =>
    obtain ⟨shut, unquoted⟩ := unquoted
    have last : (c :: rest).getLast?.or before = rest.getLast?.or (some c) := by
      cases rest with
      | nil => rfl
      | cons d rest => rw [List.getLast?_cons_cons]; simp [List.getLast?_cons]
    rw [last, List.cons_append, maskFrom, shut]
    simp only [Bool.false_eq_true, if_false, ih unquoted, List.cons_append]

theorem maskFrom_of_follows (before : Option Char) (follows : Follows later) :
    maskFrom (.outside before) later = mask later := by
  cases later with
  | nil => rfl
  | cons c later =>
    have plain := isQuote_of_endsTerm (follows c rfl)
    rw [mask, maskFrom_outside_cons plain, maskFrom_outside_cons plain]

theorem unquoted_of_quoteless {before : Option Char} (quoteless : ∀ c ∈ part, isQuote c = false) :
    Unquoted before part := by
  induction part generalizing before with
  | nil => trivial
  | cons c rest ih =>
    rw [List.forall_mem_cons] at quoteless
    exact ⟨by simp [quoteless.1], ih quoteless.2⟩

/-- A stretch without blanks and opening parentheses opens no phrase behind its first character. -/
theorem unquoted_of_solid {before : Option Char}
    (first : ∀ c, part.head? = some c → (isQuote c && opensAfter before) = false)
    (solid : ∀ c ∈ part, isBlank c = false ∧ c ≠ '(') : Unquoted before part := by
  induction part generalizing before with
  | nil => trivial
  | cons c rest ih =>
    rw [List.forall_mem_cons] at solid
    refine ⟨first c rfl, ih ?_ solid.2⟩
    intro d _
    simp [opensAfter, solid.1.1, solid.1.2]

theorem mask_of_unquoted (unquoted : Unquoted none part) : mask part = part := by
  have whole := maskFrom_of_unquoted unquoted []
  rwa [List.append_nil, maskFrom, List.append_nil] at whole

theorem closed_of_unquoted (unquoted : Unquoted none part) : Closed part := by
  intro later follows
  rw [mask_of_unquoted unquoted, mask, maskFrom_of_unquoted unquoted, maskFrom_of_follows _ follows]

theorem opening_of_unquoted (unquoted : Unquoted none (front ++ [c]))
    (opens : opensAfter (some c) = true) : Opening (front ++ [c]) := by
  intro later
  have same : opensAfter ((front ++ [c]).getLast?.or none) = opensAfter none := by
    simp [opens, opensAfter.eq_1]
  rw [mask_of_unquoted unquoted, mask, maskFrom_of_unquoted unquoted,
    maskFrom_outside_congr same]
  rfl

theorem follows_cons (ends : endsTerm c = true) : Follows (c :: later) := by
  intro d head
  cases head
  exact ends

theorem follows_nil : Follows [] := by
  intro d head
  cases head

theorem opening_nil : Opening [] := fun _ => rfl

theorem Opening.append (first : Opening a) (last : Opening b) : Opening (a ++ b) := by
  intro later
  rw [List.append_assoc, first, last, first, List.append_assoc]

theorem Follows.append (follows : Follows b) (some : b ≠ []) (later : Text) :
    Follows (b ++ later) := by
  intro c head
  rw [List.head?_append_of_ne_nil _ some] at head
  exact follows c head

theorem Closed.opening (closed : Closed a) (follows : Follows b) (some : b ≠ [])
    (opening : Opening b) : Opening (a ++ b) := by
  intro later
  rw [List.append_assoc, closed _ (follows.append some later), opening, closed _ follows,
    List.append_assoc]

/-- What may stand between two terms: a text between two spaces, or only a space. -/
structure Separator (between : Text) : Prop where
  first : ∃ rest, between = ' ' :: rest
  last : ∃ front, between = front ++ [' ']
  quoteless : ∀ c ∈ between, isQuote c = false
  opens : '(' ∉ between
  closes : ')' ∉ between

namespace Separator

theorem ne_nil (separator : Separator between) : between ≠ [] := by
  obtain ⟨rest, rfl⟩ := separator.first
  simp

theorem follows (separator : Separator between) : Follows between := by
  obtain ⟨rest, rfl⟩ := separator.first
  exact follows_cons (by decide)

theorem mask_eq (separator : Separator between) : mask between = between :=
  mask_of_unquoted (unquoted_of_quoteless separator.quoteless)

theorem opening (separator : Separator between) : Opening between := by
  have unquoted : Unquoted none between := unquoted_of_quoteless separator.quoteless
  obtain ⟨front, rfl⟩ := separator.last
  exact opening_of_unquoted unquoted (by decide)

theorem mask_join (separator : Separator between) (first : Closed a) :
    mask (a ++ (between ++ b)) = mask a ++ (between ++ mask b) := by
  rw [first _ (separator.follows.append separator.ne_nil b), separator.opening, separator.mask_eq]

theorem closed_join (separator : Separator between) (first : Closed a) (last : Closed b) :
    Closed (a ++ (between ++ b)) := by
  intro later follows
  rw [separator.mask_join first, List.append_assoc, List.append_assoc, separator.mask_join first,
    last _ follows, List.append_assoc, List.append_assoc]

theorem words_join (separator : Separator between) (a b : Text) :
    words (a ++ (between ++ b)) = words a ++ (words between ++ words b) := by
  obtain ⟨rest, first⟩ := separator.first
  obtain ⟨front, rfl⟩ := separator.last
  cases front with
  | nil =>
    rw [List.nil_append, List.singleton_append, words_append a (by decide),
      words_cons_blank (by decide), words_nil, List.nil_append]
  | cons c front =>
    obtain rfl : c = ' ' := (List.cons.inj first).1
    rw [List.cons_append, words_cons_blank (by decide), List.cons_append, List.append_assoc,
      List.singleton_append, words_append a (by decide), words_append front (by decide),
      words_append front (by decide), words_nil, List.append_nil]

end Separator

def spaces (more : Nat) : Text := List.replicate (more + 1) ' '

theorem separator_spaces (more : Nat) : Separator (spaces more) where
  first := ⟨_, List.replicate_succ⟩
  last := ⟨_, List.replicate_succ'⟩
  quoteless := by
    intro c member
    rw [(List.mem_replicate.mp member).2]
    rfl
  opens := fun member => absurd (List.mem_replicate.mp member).2 (by decide)
  closes := fun member => absurd (List.mem_replicate.mp member).2 (by decide)

def quotedWith (quote : Char) (content : Text) : Text := quote :: (content ++ [quote])

section

variable {quote : Char} {content text : Text}

theorem closesWith_iff :
    closesWith quote text = true ↔ ∃ later, text = quote :: later ∧ Follows later := by
  match text with
  | [] => simp [closesWith]
  | [c] => simp [closesWith, follows_nil]
  | c :: d :: later =>
    simp only [closesWith, Bool.and_eq_true, beq_iff_eq]
    constructor
    · rintro ⟨rfl, ends⟩
      exact ⟨d :: later, rfl, follows_cons ends⟩
    · rintro ⟨rest, whole, follows⟩
      cases whole
      exact ⟨rfl, follows d rfl⟩

theorem parts_of_phraseLength? {n : Nat} (found : phraseLength? quote text = some n) :
    ∃ content later, text = content ++ quote :: later ∧ content.length = n ∧ content ≠ [] ∧
      '\n' ∉ content ∧ Follows later := by
  induction text generalizing n with
  | nil => contradiction
  | cons c text ih =>
    rw [phraseLength?] at found
    split at found
    · contradiction
    · rename_i line
      have notLine : '\n' ≠ c := by
        rintro rfl
        contradiction
      split at found
      · rename_i closes
        obtain ⟨later, rfl, follows⟩ := closesWith_iff.mp closes
        exact ⟨[c], later, rfl, Option.some.inj found, by simp, by simpa using notLine, follows⟩
      · obtain ⟨k, inner, rfl⟩ := Option.map_eq_some_iff.mp found
        obtain ⟨content, later, rfl, length, -, line, follows⟩ := ih inner
        refine ⟨c :: content, later, rfl, by rw [List.length_cons, length], by simp, ?_, follows⟩
        simpa [notLine] using line

theorem phraseLength?_le (filled : content ≠ []) (line : '\n' ∉ content) (follows : Follows later) :
    ∃ n ≤ content.length, phraseLength? quote (content ++ quote :: later) = some n := by
  induction content with
  | nil => contradiction
  | cons c content ih =>
    rw [List.mem_cons, not_or] at line
    have notLine : (c == '\n') = false := beq_eq_false_iff_ne.mpr (Ne.symm line.1)
    rw [List.cons_append, phraseLength?, notLine]
    by_cases closes : closesWith quote (content ++ quote :: later) = true
    · exact ⟨1, by simp, by simp [closes]⟩
    · cases content with
      | nil => exact absurd (closesWith_iff.mpr ⟨later, rfl, follows⟩) closes
      | cons d content =>
        obtain ⟨n, short, found⟩ := ih (by simp) line.2
        refine ⟨n + 1, by simpa using short, ?_⟩
        simp only [Bool.false_eq_true, if_false, if_neg closes, found, Option.map_some]

private theorem phraseLength?_content (some : content ≠ [])
    (unquoted : quote ∉ content) (line : '\n' ∉ content) (follows : Follows later) :
    phraseLength? quote (content ++ quote :: later) = Option.some content.length := by
  obtain ⟨n, short, found⟩ := phraseLength?_le some line follows
  obtain less | rfl := Nat.lt_or_eq_of_le short
  · have closing := phraseLength?_closes found
    rw [List.getElem?_append_left less] at closing
    exact absurd (List.mem_of_getElem? closing) unquoted
  · exact found

theorem maskFrom_inside_append (content : Text) {quote : Char} (later : Text) :
    maskFrom (.inside content.length) (content ++ quote :: later) =
      List.replicate content.length blankMark ++ quote ::
        maskFrom (.outside (some quote)) later := by
  induction content with
  | nil => rfl
  | cons c content ih =>
    rw [List.length_cons, List.cons_append, maskFrom, ih, List.replicate_succ, List.cons_append]

private theorem mask_quotedWith_append (isQuoted : isQuote quote = true) (some : content ≠ [])
    (unquoted : quote ∉ content) (line : '\n' ∉ content) (follows : Follows later) :
    mask (quotedWith quote content ++ later) =
      quotedWith quote (List.replicate content.length blankMark) ++ mask later := by
  have found := phraseLength?_content some unquoted line follows
  rw [quotedWith, List.cons_append, List.append_assoc, List.singleton_append, mask, maskFrom,
    isQuoted, opensAfter.eq_1, Bool.and_self, if_pos rfl, found]
  simp only [maskFrom_inside_append, maskFrom_of_follows _ follows, quotedWith, List.cons_append,
    List.append_assoc, List.nil_append]

theorem mask_quotedWith (isQuoted : isQuote quote = true) (some : content ≠ [])
    (unquoted : quote ∉ content) (line : '\n' ∉ content) :
    mask (quotedWith quote content) =
      quotedWith quote (List.replicate content.length blankMark) := by
  have whole := mask_quotedWith_append isQuoted some unquoted line follows_nil
  simpa [mask, maskFrom] using whole

theorem closed_quotedWith (isQuoted : isQuote quote = true) (some : content ≠ [])
    (unquoted : quote ∉ content) (line : '\n' ∉ content) : Closed (quotedWith quote content) := by
  intro later follows
  rw [mask_quotedWith_append isQuoted some unquoted line follows,
    mask_quotedWith isQuoted some unquoted line]

end

/-! ### Connectives between parts -/

section

variable {connective : Connective}

def Connective.keyword : Connective → Text
  | .or => ['o', 'r']
  | .not => ['n', 'o', 't']
  | .and => ['a', 'n', 'd']

theorem Connective.spelling_eq (connective : Connective) :
    connective.spelling = ' ' :: (connective.keyword ++ [' ']) := by
  cases connective <;> rfl

theorem Connective.keyword_ne_nil (connective : Connective) : connective.keyword ≠ [] := by
  cases connective <;> decide

theorem Connective.keyword_solid (connective : Connective) :
    ∀ c ∈ connective.keyword, isBlank c = false := by
  cases connective <;> decide

theorem Connective.separator (connective : Connective) : Separator connective.spelling where
  first := ⟨_, connective.spelling_eq⟩
  last := ⟨' ' :: connective.keyword, connective.spelling_eq⟩
  quoteless := by cases connective <;> decide
  opens := by cases connective <;> decide
  closes := by cases connective <;> decide

theorem Connective.keyword_mem_words {text : Text} (there : connective.spelling <:+: text) :
    connective.keyword ∈ words text := by
  obtain ⟨before, later, rfl⟩ := there
  rw [connective.spelling_eq, List.append_assoc, List.cons_append, List.append_assoc]
  exact mem_words_between (by decide) (by decide) connective.keyword_ne_nil connective.keyword_solid

theorem Connective.find?_eq_none (absent : connective.keyword ∉ words part) :
    connective.find? part = none :=
  find?_eq_none_iff.mpr fun there => absent (Connective.keyword_mem_words there)

/-- Behind a part without the keyword among its words, a connective is the first. -/
theorem Connective.find?_append (absent : connective.keyword ∉ words part) (later : Text) :
    connective.find? (part ++ (connective.spelling ++ later)) = some part.length := by
  refine find?_eq_some_iff.mpr ⟨?_, by simp, ?_⟩
  · rw [List.drop_left]
    exact List.prefix_append _ _
  · rintro j before ⟨rest, same⟩
    rw [List.drop_append_of_le_length (Nat.le_of_lt before), connective.spelling_eq] at same
    have parts : part = part.take j ++ part.drop j := (List.take_append_drop j part).symm
    cases cut : part.drop j with
    | nil =>
      have short := List.drop_eq_nil_iff.mp cut
      omega
    | cons c tail =>
      rw [cut] at same parts
      simp only [List.cons_append, List.append_assoc, List.cons.injEq, List.nil_append] at same
      obtain ⟨rfl, same⟩ := same
      -- the keyword found earlier is a word of the part, whether or not it ends the part
      have word : tail = connective.keyword ∨ ∃ more, tail = connective.keyword ++ ' ' :: more := by
        rcases List.append_eq_append_iff.mp same with ⟨more, whole, rest⟩ | ⟨more, whole, rest⟩
        · cases more with
          | nil => exact .inl (by simpa using whole)
          | cons d more =>
            obtain rfl : ' ' = d := (List.cons.inj rest).1
            exact .inr ⟨more, whole⟩
        · cases more with
          | nil => exact .inl (by simpa using whole.symm)
          | cons d more =>
            obtain rfl : ' ' = d := (List.cons.inj rest).1
            have solid := connective.keyword_solid ' ' (by simp [whole])
            contradiction
      apply absent
      rw [parts, words_append _ (by decide)]
      rcases word with rfl | ⟨more, rfl⟩
      · simp [words_of_solid connective.keyword_ne_nil connective.keyword_solid]
      · rw [words_append _ (by decide),
          words_of_solid connective.keyword_ne_nil connective.keyword_solid]
        simp

theorem Connective.find?_of_last (absent : connective.keyword ∉ words part) :
    connective.find? (part ++ ' ' :: connective.keyword) = none := by
  cases found : connective.find? (part ++ ' ' :: connective.keyword) with
  | none => rfl
  | some k =>
    have longer : part ++ (connective.spelling ++ []) = part ++ ' ' :: connective.keyword ++ [' '] := by
      simp [connective.spelling_eq]
    have first := (find?_eq_some_iff.mp (Connective.find?_append absent [])).2.2
    have bound := Connective.find?_bound found
    have short : k < part.length := by
      simp only [connective.spelling_eq, List.length_append, List.length_cons, List.length_nil] at bound
      omega
    refine absurd ?_ (first k short)
    rw [longer, List.drop_append_of_le_length (by omega), drop_of_find? found, List.append_assoc]
    exact List.prefix_append _ _

end

end CardSearch.Query
