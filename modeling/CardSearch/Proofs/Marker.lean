import CardSearch.Proofs.LetterCase
import CardSearch.Proofs.Occurrence
import CardSearch.Query.Proximity
import Mathlib.Data.List.Forall2
/-!
The markers of proximity clauses. A text that begins with a marker is divided into blanks, the keyword, a
slash, digits, blanks and what belongs to a second term, and only the last cut, between the blanks and the
second term, is free. A clause needs a marker among the words of its mask, so a mask without one is no
clause.
-/
namespace CardSearch.Query

open Text

def IsMarker (word : Text) : Prop :=
  ∃ digits, Proximity.dropMarker word = some digits ∧ digits ≠ [] ∧ ∀ c ∈ digits, isDigit c = true

namespace Proximity

/-! ### Keywords -/

variable {text : Text} {c : Char}

def Spells (letter c : Char) : Prop := lowerCode c.toNat = letter.toNat

theorem dropLetters_eq_some_iff {letters rest : Text} :
    dropLetters letters text = some rest ↔
      ∃ written, List.Forall₂ Spells letters written ∧ text = written ++ rest := by
  induction letters generalizing text with
  | nil => simp [dropLetters]
  | cons letter letters ih =>
    cases text with
    | nil => simp [dropLetters, List.forall₂_cons_left_iff]
    | cons c text =>
      rw [dropLetters]
      by_cases same : lowerCode c.toNat = letter.toNat
      · rw [if_pos (by simpa using same), ih]
        constructor
        · rintro ⟨written, spelled, rfl⟩
          exact ⟨c :: written, .cons same spelled, rfl⟩
        · rintro ⟨written, spelled, whole⟩
          cases spelled with
          | cons _ spelled =>
            cases whole
            exact ⟨_, spelled, rfl⟩
      · rw [if_neg (by simpa using same)]
        simp only [reduceCtorEq, false_iff, not_exists, not_and]
        rintro written spelled whole
        cases spelled with
        | cons first _ =>
          cases whole
          exact same first

def EitherCase (letter c : Char) : Prop := c = letter ∨ c = letter.toUpper

def IsKeyword (word : Text) : Prop :=
  ∃ plain ∈ [['n', 'e', 'a', 'r'], ['n']], List.Forall₂ EitherCase plain word

theorem spells_iff {letter : Char} (plain : letter ∈ ['n', 'e', 'a', 'r']) :
    Spells letter c ↔ EitherCase letter c := by
  have capitals : ∀ letter ∈ ['n', 'e', 'a', 'r'],
      capitalsOf letter.toNat = [letter.toUpper.toNat] := by decide
  have lowered : ∀ letter ∈ ['n', 'e', 'a', 'r'], lowerCode letter.toNat = letter.toNat ∧
      lowerCode letter.toUpper.toNat = letter.toNat := by decide
  constructor
  · intro spelled
    have either := eq_or_mem_capitalsOf c.toNat
    rw [show lowerCode c.toNat = letter.toNat from spelled, capitals letter plain, List.mem_singleton,
      Char.toNat_inj, Char.toNat_inj] at either
    exact either
  · rintro (rfl | rfl)
    · exact (lowered _ plain).1
    · exact (lowered _ plain).2

theorem spells_slash_iff : Spells '/' c ↔ c = '/' := by
  constructor
  · intro spelled
    have code : lowerCode c.toNat = ('/').toNat := spelled
    have same := eq_of_lowerCode (by rw [code]; decide) (by rw [code]; decide)
    exact Char.toNat_inj.mp (same.symm.trans code)
  · rintro rfl
    exact lowerCode_of_isLowered (by decide)

theorem spells_append_slash {letters written : Text}
    (plain : ∀ letter ∈ letters, letter ∈ ['n', 'e', 'a', 'r']) :
    List.Forall₂ Spells (letters ++ ['/']) written ↔
      ∃ keyword, List.Forall₂ EitherCase letters keyword ∧ written = keyword ++ ['/'] := by
  induction letters generalizing written with
  | nil => simp [List.forall₂_cons_left_iff, spells_slash_iff]
  | cons letter letters ih =>
    rw [List.forall_mem_cons] at plain
    rw [List.cons_append, List.forall₂_cons_left_iff]
    constructor
    · rintro ⟨c, later, first, spelled, rfl⟩
      obtain ⟨keyword, alike, rfl⟩ := (ih plain.2).mp spelled
      exact ⟨c :: keyword, .cons ((spells_iff plain.1).mp first) alike, rfl⟩
    · rintro ⟨keyword, alike, rfl⟩
      cases alike with
      | cons first alike =>
        exact ⟨_, _, (spells_iff plain.1).mpr first, (ih plain.2).mpr ⟨_, alike, rfl⟩, rfl⟩

theorem dropLetters_slash {letters rest : Text}
    (plain : ∀ letter ∈ letters, letter ∈ ['n', 'e', 'a', 'r']) :
    dropLetters (letters ++ ['/']) text = some rest ↔
      ∃ keyword, List.Forall₂ EitherCase letters keyword ∧ text = keyword ++ '/' :: rest := by
  rw [dropLetters_eq_some_iff]
  simp only [spells_append_slash plain]
  constructor
  · rintro ⟨_, ⟨keyword, alike, rfl⟩, rfl⟩
    exact ⟨keyword, alike, by simp⟩
  · rintro ⟨keyword, alike, rfl⟩
    exact ⟨_, ⟨keyword, alike, rfl⟩, by simp⟩

theorem dropMarker_eq_some_iff {rest : Text} :
    dropMarker text = some rest ↔ ∃ keyword, IsKeyword keyword ∧ text = keyword ++ '/' :: rest := by
  have long := @dropLetters_slash text ['n', 'e', 'a', 'r'] rest (by decide)
  have short := @dropLetters_slash text ['n'] rest (by decide)
  rw [dropMarker, Option.or_eq_some_iff]
  constructor
  · rintro (near | ⟨-, brief⟩)
    · obtain ⟨keyword, alike, whole⟩ := long.mp near
      exact ⟨keyword, ⟨_, by simp, alike⟩, whole⟩
    · obtain ⟨keyword, alike, whole⟩ := short.mp brief
      exact ⟨keyword, ⟨_, by simp, alike⟩, whole⟩
  · rintro ⟨keyword, ⟨plain, member, alike⟩, whole⟩
    rw [List.mem_cons, List.mem_singleton] at member
    rcases member with rfl | rfl
    · exact .inl (long.mpr ⟨keyword, alike, whole⟩)
    · refine .inr ⟨?_, short.mpr ⟨keyword, alike, whole⟩⟩
      rw [Option.eq_none_iff_forall_ne_some]
      intro other near
      obtain ⟨longer, spelled, again⟩ :=
        (@dropLetters_slash text ['n', 'e', 'a', 'r'] other (by decide)).mp near
      -- the second character would be a slash and a letter
      cases alike with
      | cons _ none =>
        cases none
        cases spelled with
        | cons _ spelled =>
          cases spelled with
          | cons second _ =>
            rw [whole] at again
            simp only [List.cons_append, List.nil_append, List.cons.injEq] at again
            rw [← again.2.1] at second
            rcases second with same | same <;> exact absurd same (by decide)

theorem IsKeyword.ne_nil {word : Text} (keyword : IsKeyword word) : word ≠ [] := by
  obtain ⟨plain, member, alike⟩ := keyword
  rw [List.mem_cons, List.mem_singleton] at member
  rcases member with rfl | rfl
  all_goals
    cases alike
    simp

theorem IsKeyword.forall_mem {word : Text} {kind : Char → Prop} (keyword : IsKeyword word)
    (letters : ∀ letter ∈ ['n', 'e', 'a', 'r'], kind letter ∧ kind letter.toUpper) :
    ∀ c ∈ word, kind c := by
  obtain ⟨plain, member, alike⟩ := keyword
  have among : ∀ plain ∈ [['n', 'e', 'a', 'r'], ['n']], plain ⊆ ['n', 'e', 'a', 'r'] := by decide
  have known := among plain member
  clear member
  induction alike with
  | nil => simp
  | cons first _ ih =>
    rw [List.cons_subset] at known
    rw [List.forall_mem_cons]
    refine ⟨?_, ih known.2⟩
    rcases first with rfl | rfl
    · exact (letters _ known.1).1
    · exact (letters _ known.1).2

theorem IsKeyword.solid {word : Text} (keyword : IsKeyword word) : ∀ c ∈ word, isBlank c = false :=
  keyword.forall_mem (by decide)

theorem slash_mem_of_isMarker {word : Text} (marker : IsMarker word) : '/' ∈ word := by
  obtain ⟨digits, dropped, -⟩ := marker
  obtain ⟨keyword, -, rfl⟩ := dropMarker_eq_some_iff.mp dropped
  simp

/-! ### Dividing a text at a marker -/

def Run (kind : Char → Prop) (text : Text) : Prop := text ≠ [] ∧ ∀ c ∈ text, kind c

instance (kind : Char → Prop) [DecidablePred kind] (text : Text) : Decidable (Run kind text) := by
  unfold Run
  infer_instance

/-- A text divided into a marker and what belongs to a second term. -/
structure Marked (text : Text) where
  before : Text
  keyword : Text
  digits : Text
  behind : Text
  second : Text
  isBefore : Run (isBlank · = true) before
  isKeyword : IsKeyword keyword
  isDigits : Run (isDigit · = true) digits
  isBehind : Run (isBlank · = true) behind
  isSecond : Run (· ≠ '\n') second
  whole : text = before ++ (keyword ++ '/' :: (digits ++ (behind ++ second)))

theorem take_drop_run {p : Char → Bool} {run later : Text} (all : ∀ c ∈ run, p c = true)
    (stop : ∀ c, later.head? = some c → p c = false) :
    (run ++ later).takeWhile p = run ∧ (run ++ later).dropWhile p = later := by
  rw [List.takeWhile_append_of_pos all, List.dropWhile_append_of_pos all]
  cases later with
  | nil => simp
  | cons c later => simp [stop c rfl]

/-! ### Reading a marker -/

private theorem drop_takeWhile (p : Char → Bool) (text : Text) :
    text.drop (text.takeWhile p).length = text.dropWhile p := by
  conv_lhs => rw [← List.takeWhile_append_dropWhile (p := p) (l := text)]
  rw [List.drop_left' (by rw [List.takeWhile_append_dropWhile])]

theorem marker?_of_dropMarker {text numeral : Text}
    (moved : (text.dropWhile isBlank).length ≠ text.length)
    (dropped : dropMarker (text.dropWhile isBlank) = some numeral) :
    marker? text =
      if numeral.takeWhile isDigit = [] then none
      else
        (gapBefore ((numeral.dropWhile isDigit).takeWhile isBlank)
          ((numeral.dropWhile isDigit).dropWhile isBlank)).bind fun inside =>
            if inside = 0 then none
            else some ⟨numeral.takeWhile isDigit,
              text.length - (numeral.dropWhile isDigit).length + inside⟩ := by
  simp only [marker?, drop_takeWhile, moved, dropped, List.isEmpty_iff, if_false, Option.bind_eq_bind,
    Option.bind_some]
  rfl

theorem isDigit_of_isBlank (blank : isBlank c = true) : isDigit c = false := by
  by_contra digit
  rw [isBlank_of_isDigit (by simpa using digit)] at blank
  contradiction

/-- Everything in a division but the cut between the blanks and the second term is read off the text. -/
theorem Marked.reads (parts : Marked text) :
    text.dropWhile isBlank ≠ text ∧ ∃ numeral, dropMarker (text.dropWhile isBlank) = some numeral ∧
      numeral.takeWhile isDigit = parts.digits ∧
      numeral.dropWhile isDigit = parts.behind ++ parts.second := by
  obtain ⟨before, keyword, digits, behind, second, isBefore, isKeyword, isDigits, isBehind, -, rfl⟩ := parts
  have solid : ∀ c, (keyword ++ '/' :: (digits ++ (behind ++ second))).head? = some c →
      isBlank c = false := by
    intro c head
    rw [List.head?_append_of_ne_nil _ isKeyword.ne_nil] at head
    exact isKeyword.solid c (List.mem_of_mem_head? (by simp [head]))
  have stop : ∀ c, (behind ++ second).head? = some c → isDigit c = false := by
    intro c head
    rw [List.head?_append_of_ne_nil _ isBehind.1] at head
    exact isDigit_of_isBlank (isBehind.2 c (List.mem_of_mem_head? (by simp [head])))
  rw [(take_drop_run isBefore.2 solid).2]
  refine ⟨fun same => isBefore.1 (by simpa using same), digits ++ (behind ++ second),
    dropMarker_eq_some_iff.mpr ⟨keyword, isKeyword, rfl⟩, ?_⟩
  exact take_drop_run isDigits.2 stop

theorem Marked.agree {other : Text} (a : Marked text) (b : Marked other) (same : text = other) :
    a.digits = b.digits ∧ a.behind ++ a.second = b.behind ++ b.second := by
  subst same
  obtain ⟨-, numeral, dropped, digits, gap⟩ := a.reads
  obtain ⟨-, other, again, digits', gap'⟩ := b.reads
  obtain rfl : numeral = other := Option.some.inj (dropped.symm.trans again)
  exact ⟨digits.symm.trans digits', gap.symm.trans gap'⟩

theorem runs_of_gapBefore {gap : Text} {inside : Nat}
    (found : gapBefore (gap.takeWhile isBlank) (gap.dropWhile isBlank) = some inside)
    (positive : inside ≠ 0) :
    Run (isBlank · = true) (gap.take inside) ∧ Run (· ≠ '\n') (gap.drop inside) := by
  have whole : gap.takeWhile isBlank ++ gap.dropWhile isBlank = gap := List.takeWhile_append_dropWhile
  have blank : ∀ c ∈ gap.takeWhile isBlank, isBlank c = true := fun c member =>
    List.mem_takeWhile_imp member
  generalize gap.takeWhile isBlank = blanks at found whole blank
  generalize gap.dropWhile isBlank = tail at found whole
  subst whole
  rw [gapBefore] at found
  split at found
  · rename_i empty
    rw [List.isEmpty_iff] at empty
    subst tail
    split at found
    · rename_i last next more reversed
      split at found
      · contradiction
      · rename_i line
        -- the second term is the last of the blanks
        have parts : blanks = (next :: more).reverse ++ [last] := by
          rw [← List.reverse_reverse blanks, reversed, List.reverse_cons]
        have size : inside = (next :: more).reverse.length := by
          rw [← Option.some.inj found, parts]
          simp
        rw [List.append_nil, size, parts, List.take_left, List.drop_left]
        refine ⟨⟨by simp, fun c member => blank c (parts ▸ List.mem_append_left _ member)⟩, by simp, ?_⟩
        intro c member
        rw [List.mem_singleton.mp member]
        simpa using line
    · contradiction
  · rename_i some
    split at found
    · contradiction
    · rename_i line
      obtain rfl := Option.some.inj found
      rw [List.take_left, List.drop_left]
      refine ⟨⟨fun none => positive (by simp [none]), blank⟩, by simpa using some, ?_⟩
      rintro c member rfl
      exact line (List.contains_iff_mem.mpr member)

theorem exists_gapBefore {behind second : Text} (isBehind : Run (isBlank · = true) behind)
    (isSecond : Run (· ≠ '\n') second) :
    ∃ inside, gapBefore ((behind ++ second).takeWhile isBlank) ((behind ++ second).dropWhile isBlank) =
      some inside ∧ behind.length ≤ inside := by
  rw [List.takeWhile_append_of_pos isBehind.2, List.dropWhile_append_of_pos isBehind.2]
  have whole : second.takeWhile isBlank ++ second.dropWhile isBlank = second :=
    List.takeWhile_append_dropWhile
  cases tail : second.dropWhile isBlank with
  | nil =>
    rw [tail, List.append_nil] at whole
    rw [whole]
    obtain ⟨front, last, rfl⟩ := (List.eq_nil_or_concat' second).resolve_left isSecond.1
    obtain ⟨start, next, rfl⟩ := (List.eq_nil_or_concat' behind).resolve_left isBehind.1
    have line : (last == '\n') = false := by simpa using isSecond.2 last (by simp)
    refine ⟨((start ++ [next]) ++ (front ++ [last])).length - 1, ?_, by simp⟩
    have reversed : ((start ++ [next]) ++ (front ++ [last])).reverse =
        last :: (front.reverse ++ next :: start.reverse) := by simp
    rw [gapBefore, reversed]
    cases front.reverse with
    | nil => simp [line]
    | cons d more => simp [line]
  | cons d later =>
    have line : '\n' ∉ d :: later := by
      intro member
      rw [← tail] at member
      exact isSecond.2 _ ((List.dropWhile_sublist _).mem member) rfl
    refine ⟨_, by rw [gapBefore, if_neg (by simp), if_neg (by simpa using line)], ?_⟩
    simp

theorem exists_marked {marker : Marker} (found : marker? text = some marker) :
    ∃ parts : Marked text, marker = ⟨parts.digits, text.length - parts.second.length⟩ := by
  by_cases unmoved : (text.dropWhile isBlank).length = text.length
  · simp [marker?, unmoved] at found
  cases dropped : dropMarker (text.dropWhile isBlank) with
  | none => simp [marker?, unmoved, dropped] at found
  | some numeral =>
    rw [marker?_of_dropMarker unmoved dropped] at found
    split at found
    · contradiction
    rename_i some
    obtain ⟨inside, gap, found⟩ := Option.bind_eq_some_iff.mp found
    split at found
    · contradiction
    rename_i positive
    obtain ⟨keyword, isKeyword, spelled⟩ := dropMarker_eq_some_iff.mp dropped
    obtain ⟨isBehind, isSecond⟩ := runs_of_gapBefore gap positive
    have front : text.takeWhile isBlank ++ text.dropWhile isBlank = text :=
      List.takeWhile_append_dropWhile
    have digits : numeral.takeWhile isDigit ++ numeral.dropWhile isDigit = numeral :=
      List.takeWhile_append_dropWhile
    refine ⟨⟨text.takeWhile isBlank, keyword, numeral.takeWhile isDigit,
      (numeral.dropWhile isDigit).take inside, (numeral.dropWhile isDigit).drop inside, ⟨?_, ?_⟩,
      isKeyword, ⟨some, fun c member => List.mem_takeWhile_imp member⟩, isBehind, isSecond, ?_⟩, ?_⟩
    · intro none
      rw [none, List.nil_append] at front
      exact unmoved (congrArg List.length front)
    · exact fun c member => List.mem_takeWhile_imp member
    · rw [List.take_append_drop, digits, ← spelled, front]
    · have total := congrArg List.length (front.symm.trans (congrArg _ spelled))
      have inner := congrArg List.length digits
      have short : inside ≤ (numeral.dropWhile isDigit).length := by
        by_contra long
        rw [List.drop_eq_nil_of_le (by omega)] at isSecond
        exact isSecond.1 rfl
      simp only [List.length_append, List.length_cons] at total inner
      rw [← Option.some.inj found, List.length_drop]
      congr 1
      omega

theorem marker?_of_marked (parts : Marked text) :
    ∃ longest : Marked text, marker? text = some ⟨longest.digits, text.length - longest.second.length⟩ ∧
      parts.behind.length ≤ longest.behind.length := by
  obtain ⟨moved, numeral, dropped, digits, gap⟩ := parts.reads
  have shorter : (text.dropWhile isBlank).length ≠ text.length := fun same =>
    moved ((List.dropWhile_sublist _).eq_of_length same)
  obtain ⟨inside, found, long⟩ := exists_gapBefore parts.isBehind parts.isSecond
  have filled := List.length_pos_iff.mpr parts.isBehind.1
  have read : marker? text = some ⟨parts.digits,
      text.length - (parts.behind ++ parts.second).length + inside⟩ := by
    rw [marker?_of_dropMarker shorter dropped, digits, if_neg parts.isDigits.1, gap, found,
      Option.bind_some, if_neg (by omega)]
  obtain ⟨longest, same⟩ := exists_marked read
  refine ⟨longest, by rw [read, same], ?_⟩
  have width := congrArg Marker.width same
  have gaps := congrArg List.length (parts.agree longest rfl).2
  have total := congrArg List.length parts.whole
  have total' := congrArg List.length longest.whole
  simp only [List.length_append, List.length_cons] at width gaps total total'
  omega

/-! ### A clause has a marker -/

theorem marker?_eq_some {text : Text} {marker : Marker} (found : marker? text = some marker) :
    ∃ b front word c later, isBlank b = true ∧ (∀ d ∈ front, isBlank d = true) ∧
      isBlank c = true ∧ word ≠ [] ∧ (∀ d ∈ word, isBlank d = false) ∧ IsMarker word ∧
      text = b :: (front ++ (word ++ c :: later)) := by
  obtain ⟨⟨before, keyword, digits, behind, second, isBefore, isKeyword, isDigits, isBehind, -, rfl⟩, -⟩ :=
    exists_marked found
  obtain ⟨b, front, rfl⟩ := List.exists_cons_of_ne_nil isBefore.1
  obtain ⟨c, gap, rfl⟩ := List.exists_cons_of_ne_nil isBehind.1
  have blanks := List.forall_mem_cons.mp isBefore.2
  refine ⟨b, front, keyword ++ '/' :: digits, c, gap ++ second, blanks.1, blanks.2,
    isBehind.2 c List.mem_cons_self, by simp, ?_,
    ⟨digits, dropMarker_eq_some_iff.mpr ⟨keyword, isKeyword, rfl⟩, isDigits⟩, by simp⟩
  intro d member
  rw [List.mem_append, List.mem_cons] at member
  rcases member with letter | rfl | digit
  · exact isKeyword.solid d letter
  · decide
  · exact isBlank_of_isDigit (isDigits.2 d digit)

theorem findMarker?_eq_some {offset start : Nat} {text : Text} {marker : Marker}
    (found : findMarker? offset text = some (start, marker)) :
    ∃ before rest, text = before ++ rest ∧ offset + before.length = start ∧
      marker? rest = some marker := by
  induction text generalizing offset with
  | nil => contradiction
  | cons c rest ih =>
    rw [findMarker?] at found
    split at found
    · contradiction
    · split at found
      · rename_i here
        cases found
        exact ⟨[c], rest, rfl, rfl, here⟩
      · obtain ⟨before, later, rfl, rfl, here⟩ := ih found
        refine ⟨c :: before, later, rfl, ?_, here⟩
        rw [List.length_cons]
        omega

theorem read?_eq_none {query mask : Text} (markerless : ∀ word ∈ words mask, ¬ IsMarker word) :
    read? query mask = none := by
  cases found : findMarker? 0 mask with
  | none => simp [read?, found]
  | some found' =>
    obtain ⟨start, marker⟩ := found'
    obtain ⟨before, rest, rfl, -, here⟩ := findMarker?_eq_some found
    obtain ⟨b, front, word, c, later, blank, blanks, next, some, solid, isMarker, rfl⟩ :=
      marker?_eq_some here
    refine absurd isMarker (markerless word ?_)
    rw [words_append _ blank, words_blanks_append blanks, words_append _ next,
      words_of_solid some solid]
    simp

def around (query : Text) (start : Nat) (marker : Marker) : Option Proximity :=
  if marker.digits.length > Text.maxNumeralDigits then none
  else (Text.numeral? marker.digits).map fun distance =>
    ⟨trim (query.take start), trim (query.drop (start + marker.width)), distance⟩

theorem read?_eq {query mask : Text} (same : mask.length = query.length) :
    read? query mask =
      if mask.contains '/' then
        (findMarker? 0 mask).bind fun found => around query found.1 found.2
      else none := by
  cases slash : mask.contains '/' with
  | true =>
    simp only [read?, same, ne_eq, not_true_eq_false, decide_false, slash, Bool.not_true,
      Bool.or_self, Bool.false_eq_true, if_false, if_true, Option.bind_eq_bind]
    congr 1
    funext found
    unfold around
    split
    · rfl
    · cases Text.numeral? found.2.digits <;> rfl
  | false =>
    simp only [read?, slash, Bool.not_false, Bool.or_true, if_true, Bool.false_eq_true, if_false]
    rfl

theorem infix_of_read? {query mask : Text} {clause : Proximity} (same : mask.length = query.length)
    (read : read? query mask = some clause) : clause.first <:+: query ∧ clause.second <:+: query := by
  rw [read?_eq same] at read
  split at read
  · obtain ⟨found, -, made⟩ := Option.bind_eq_some_iff.mp read
    unfold around at made
    split at made
    · contradiction
    · obtain ⟨distance, -, rfl⟩ := Option.map_eq_some_iff.mp made
      constructor
      · exact (trim_inside _).trans (List.take_prefix _ _).isInfix
      · exact (trim_inside _).trans (List.drop_suffix _ _).isInfix
  · contradiction

/-! ### Looking for a marker -/

theorem marker?_of_solid {c : Char} {text : Text} (solid : isBlank c = false) :
    marker? (c :: text) = none := by
  have kept : (c :: text).dropWhile isBlank = c :: text :=
    List.dropWhile_cons_of_neg (by simp [solid])
  simp [marker?, kept]

theorem findMarker?_offset (offset : Nat) (text : Text) :
    findMarker? offset text =
      (findMarker? 0 text).map fun found => (offset + found.1, found.2) := by
  induction text generalizing offset with
  | nil => rfl
  | cons c text ih =>
    rw [findMarker?, findMarker?]
    split
    · rfl
    · cases marker? text with
      | some marker => rfl
      | none =>
        dsimp only
        rw [ih (offset + 1), ih (0 + 1), Option.map_map]
        congr 1
        funext found
        simp only [Function.comp_apply, Prod.mk.injEq, and_true]
        omega

theorem findMarker?_skip {front : Text} (nonempty : front ≠ []) (line : ∀ d ∈ front, d ≠ '\n')
    (solid : ∀ d ∈ front.tail, isBlank d = false) (rest : Text) :
    findMarker? 0 (front ++ rest) =
      match marker? rest with
      | some marker => some (front.length, marker)
      | none => findMarker? front.length rest := by
  induction front with
  | nil => contradiction
  | cons d front ih =>
    obtain ⟨here, lines⟩ := List.forall_mem_cons.mp line
    have inside : (d == '\n') = false := beq_eq_false_iff_ne.mpr here
    rw [List.cons_append, findMarker?, inside]
    cases front with
    | nil => rfl
    | cons e front =>
      obtain ⟨first, others⟩ := List.forall_mem_cons.mp solid
      rw [List.cons_append, marker?_of_solid first, ← List.cons_append, findMarker?_offset,
        ih (by simp) lines others]
      cases marker? rest with
      | some marker => simp [Nat.add_comm]
      | none =>
        rw [findMarker?_offset (e :: front).length, findMarker?_offset (d :: e :: front).length]
        simp only [Bool.false_eq_true, if_false, Option.map_map]
        congr 1
        funext found
        simp only [Function.comp_apply, List.length_cons, Prod.mk.injEq, and_true]
        omega

/-! ### Numerals -/

def distanceOf (digits : Text) : Nat :=
  digits.foldl (fun number c => 10 * number + (digitValue? c).getD 0) 0

theorem numeral?_of_isDigit {digits : Text} (all : ∀ c ∈ digits, isDigit c = true) :
    numeral? digits = some (distanceOf digits) := by
  have from' : ∀ number, digits.foldl
      (fun number c => number.bind fun n => (digitValue? c).map (10 * n + ·)) (some number) =
      some (digits.foldl (fun number c => 10 * number + (digitValue? c).getD 0) number) := by
    induction digits with
    | nil => intro number; rfl
    | cons c digits ih =>
      intro number
      rw [List.forall_mem_cons] at all
      obtain ⟨value, here⟩ := Option.isSome_iff_exists.mp all.1
      simp only [List.foldl_cons, Option.bind_some, here, Option.map_some, Option.getD_some]
      exact ih all.2 _
  exact from' 0

theorem digitValue?_of_ascii (ascii : c.isDigit = true) : digitValue? c = some (c.toNat - '0'.toNat) := by
  have range : 48 ≤ c.toNat ∧ c.toNat ≤ 57 := by
    simpa [Char.isDigit, UInt32.le_iff_toNat_le] using ascii
  have parts : digitZeros = 0x30 :: digitZeros.tail := rfl
  have within : digitZeros.find? (fun first => first ≤ c.toNat && c.toNat < first + 10) = some 0x30 := by
    rw [parts, List.find?_cons_of_pos (by simp; omega)]
  rw [digitValue?, within]
  rfl

theorem isDigit_toDigits (n : Nat) : Run (isDigit · = true) (Nat.toDigits 10 n) := by
  refine ⟨Nat.toDigits_ne_nil, fun c member => ?_⟩
  have ascii : c.isDigit = true := Nat.isDigit_of_mem_toDigits (by decide) (by decide) member
  show (digitValue? c).isSome = true
  rw [digitValue?_of_ascii ascii]
  rfl

theorem distanceOf_toDigits (n : Nat) : distanceOf (Nat.toDigits 10 n) = n := by
  have same : distanceOf (Nat.toDigits 10 n) = Nat.ofDigitChars 10 (Nat.toDigits 10 n) 0 := by
    rw [distanceOf, Nat.ofDigitChars_eq_foldl]
    refine List.foldl_ext _ _ _ fun number c member => ?_
    rw [digitValue?_of_ascii (Nat.isDigit_of_mem_toDigits (by decide) (by decide) member)]
    rfl
  rw [same, Nat.ofDigitChars_ten_toDigits]

end Proximity

end CardSearch.Query
