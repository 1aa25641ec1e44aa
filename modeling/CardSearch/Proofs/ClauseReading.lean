import CardSearch.Proofs.Marker
/-!
Which queries are read as a clause, and as which. A mask is divided into the parts of a clause as its
grammar says: a first term in one line, a marker, and a second term in one line. Main statement: a query
is a clause exactly if its mask can be divided so, and it is read along the division with the shortest
first term and then the most blanks in front of the second; in particular a clause that is written out
is read back.
-/
namespace CardSearch.Query.Proximity

open Text

variable {text mask query : Text} {c : Char}

/-- A mask divided into the parts of a clause. -/
structure ClauseParts (mask : Text) where
  first : Text
  rest : Text
  marked : Marked rest
  isFirst : Run (· ≠ '\n') first
  whole : mask = first ++ rest

/-- No other division has a shorter first term, or as short a one and more blanks in front of the second
term. -/
def ClauseParts.Preferred (parts : ClauseParts mask) : Prop :=
  ∀ other : ClauseParts mask, parts.first.length < other.first.length ∨
    parts.first.length = other.first.length ∧
      other.marked.behind.length ≤ parts.marked.behind.length

/-! ### The first marker -/

theorem marker?_nil : marker? [] = none := rfl

theorem findMarker?_cons (c : Char) (text : Text) :
    findMarker? 0 (c :: text) =
      if c == '\n' then none
      else (marker? text).elim
        ((findMarker? 0 text).map fun found => (1 + found.1, found.2)) fun marker => some (1, marker) := by
  rw [findMarker?]
  split
  · rfl
  · cases marker? text with
    | some marker => rfl
    | none => exact findMarker?_offset 1 text

theorem marker?_of_findMarker?_eq_none (unfound : findMarker? 0 text = none) {k : Nat} (some : 0 < k)
    (line : '\n' ∉ text.take k) : marker? (text.drop k) = none := by
  induction text generalizing k with
  | nil => rw [List.drop_nil, marker?_nil]
  | cons c text ih =>
    obtain ⟨k, rfl⟩ := Nat.exists_eq_succ_of_ne_zero (Nat.ne_zero_of_lt some)
    rw [List.take_succ_cons, List.mem_cons, not_or] at line
    rw [findMarker?_cons, if_neg (by simpa using Ne.symm line.1)] at unfound
    rw [List.drop_succ_cons]
    cases here : marker? text with
    | some marker => simp [here] at unfound
    | none =>
      rw [here, Option.elim_none, Option.map_eq_none_iff] at unfound
      cases k with
      | zero => exact here
      | succ k => exact ih unfound (Nat.succ_pos k) line.2

theorem first_of_findMarker? {start : Nat} {marker : Marker}
    (found : findMarker? 0 text = some (start, marker)) :
    0 < start ∧ '\n' ∉ text.take start ∧ marker? (text.drop start) = some marker ∧
      ∀ k, 0 < k → k < start → marker? (text.drop k) = none := by
  induction text generalizing start with
  | nil => contradiction
  | cons c text ih =>
    rw [findMarker?_cons] at found
    split at found
    · contradiction
    rename_i line
    have inside : '\n' ≠ c := fun same => line (beq_iff_eq.mpr same.symm)
    cases here : marker? text with
    | some other =>
      rw [here] at found
      cases found
      refine ⟨Nat.one_pos, by simpa using inside, here, ?_⟩
      intro k positive below
      omega
    | none =>
      rw [here, Option.elim_none] at found
      obtain ⟨⟨later, _⟩, inner, same⟩ := Option.map_eq_some_iff.mp found
      cases same
      obtain ⟨positive, lines, marked, first⟩ := ih inner
      rw [Nat.add_comm, List.take_succ_cons, List.drop_succ_cons]
      refine ⟨Nat.succ_pos later, by simp [inside, lines], marked, ?_⟩
      intro k some below
      obtain ⟨k, rfl⟩ := Nat.exists_eq_succ_of_ne_zero (Nat.ne_zero_of_lt some)
      rw [List.drop_succ_cons]
      cases k with
      | zero => exact here
      | succ k => exact first _ (Nat.succ_pos k) (by omega)

/-! ### The preferred division -/

theorem ClauseParts.Preferred.agree {a b : ClauseParts mask} (first : a.Preferred) (second : b.Preferred) :
    a.first.length = b.first.length ∧ a.marked.digits = b.marked.digits ∧
      a.marked.second.length = b.marked.second.length := by
  have same : a.first.length = b.first.length := by
    rcases first b with _ | ⟨_, _⟩ <;> rcases second a with _ | ⟨_, _⟩ <;> omega
  have behind : a.marked.behind.length = b.marked.behind.length := by
    rcases first b with _ | ⟨_, _⟩ <;> rcases second a with _ | ⟨_, _⟩ <;> omega
  obtain ⟨-, rests⟩ := List.append_inj (a.whole.symm.trans b.whole) same
  obtain ⟨digits, gap⟩ := a.marked.agree b.marked rests
  have gaps := congrArg List.length gap
  simp only [List.length_append] at gaps
  exact ⟨same, digits, by omega⟩

theorem exists_preferred {start : Nat} {marker : Marker}
    (found : findMarker? 0 mask = some (start, marker)) :
    ∃ parts : ClauseParts mask, parts.Preferred ∧ parts.first.length = start ∧
      marker = ⟨parts.marked.digits, mask.length - start - parts.marked.second.length⟩ := by
  obtain ⟨positive, line, here, first⟩ := first_of_findMarker? found
  obtain ⟨marked, same⟩ := exists_marked here
  have inside : start < mask.length := by
    by_contra beyond
    rw [List.drop_eq_nil_of_le (by omega), marker?_nil] at here
    contradiction
  have length : (mask.take start).length = start := List.length_take_of_le inside.le
  have isFirst : Run (· ≠ '\n') (mask.take start) := by
    refine ⟨List.ne_nil_of_length_pos (by omega), ?_⟩
    rintro c member rfl
    exact line member
  refine ⟨⟨mask.take start, mask.drop start, marked, isFirst, (List.take_append_drop _ _).symm⟩, ?_,
    length, by rw [same, List.length_drop]⟩
  rintro ⟨front, rest, other, isFront, whole⟩
  dsimp only
  have front_pos := List.length_pos_iff.mpr isFront.1
  have behind : mask.drop front.length = rest := by rw [whole, List.drop_left]
  obtain ⟨longest, read, long⟩ := marker?_of_marked other
  rcases Nat.lt_trichotomy front.length start with before | equal | after
  · have none := first front.length front_pos before
    rw [behind, read] at none
    contradiction
  · refine .inr ⟨by omega, ?_⟩
    subst equal behind
    rw [read, same] at here
    have width := congrArg Marker.width (Option.some.inj here)
    have gaps := congrArg List.length (marked.agree longest rfl).2
    have total := congrArg List.length marked.whole
    have total' := congrArg List.length longest.whole
    simp only [List.length_append, List.length_cons] at width gaps total total'
    omega
  · exact .inl (by omega)

theorem exists_findMarker? (parts : ClauseParts mask) :
    ∃ start marker, findMarker? 0 mask = some (start, marker) := by
  cases found : findMarker? 0 mask with
  | some pair => exact ⟨pair.1, pair.2, rfl⟩
  | none =>
    obtain ⟨first, rest, marked, isFirst, rfl⟩ := parts
    have line : '\n' ∉ (first ++ rest).take first.length := by
      rw [List.take_left]
      exact fun member => isFirst.2 _ member rfl
    have unread := marker?_of_findMarker?_eq_none found (List.length_pos_iff.mpr isFirst.1) line
    obtain ⟨longest, read, -⟩ := marker?_of_marked marked
    rw [List.drop_left, read] at unread
    contradiction

theorem slash_mem (parts : ClauseParts mask) : '/' ∈ mask := by
  obtain ⟨first, rest, marked, -, rfl⟩ := parts
  rw [marked.whole]
  simp

theorem read?_of_preferred (same : mask.length = query.length) {parts : ClauseParts mask}
    (preferred : parts.Preferred) :
    read? query mask =
      if maxNumeralDigits < parts.marked.digits.length then none
      else some ⟨trim (query.take parts.first.length),
        trim (query.drop (mask.length - parts.marked.second.length)),
        distanceOf parts.marked.digits⟩ := by
  obtain ⟨start, marker, found⟩ := exists_findMarker? parts
  obtain ⟨other, preferred', rfl, rfl⟩ := exists_preferred found
  obtain ⟨start, digits, second⟩ := preferred'.agree preferred
  have size : parts.first.length + parts.rest.length = mask.length := by
    rw [← List.length_append, ← parts.whole]
  have inside : parts.marked.second.length ≤ parts.rest.length := by
    have total := congrArg List.length parts.marked.whole
    simp only [List.length_append, List.length_cons] at total
    omega
  have cut : parts.first.length + (mask.length - parts.first.length - parts.marked.second.length) =
      mask.length - parts.marked.second.length := by omega
  rw [read?_eq same, if_pos (List.contains_iff_mem.mpr (slash_mem parts)), found, Option.bind_some,
    around, start, digits, second, numeral?_of_isDigit parts.marked.isDigits.2, cut]
  rfl

/-! ### Clauses that are written out -/

variable {first second digits : Text}

def written (first digits second : Text) : Text :=
  first ++ ' ' :: (['n', 'e', 'a', 'r', '/'] ++ (digits ++ ' ' :: second))

def writtenParts (isFirst : Run (· ≠ '\n') first) (isDigits : Run (isDigit · = true) digits)
    (isSecond : Run (· ≠ '\n') second) : ClauseParts (written first digits second) where
  first := first
  rest := ' ' :: (['n', 'e', 'a', 'r', '/'] ++ (digits ++ ' ' :: second))
  marked :=
    { before := [' ']
      keyword := ['n', 'e', 'a', 'r']
      digits := digits
      behind := [' ']
      second := second
      isBefore := by decide
      isKeyword := ⟨_, List.mem_cons_self, List.forall₂_same.mpr fun _ _ => .inl rfl⟩
      isDigits := isDigits
      isBehind := by decide
      isSecond := isSecond
      whole := by simp }
  isFirst := isFirst
  whole := rfl

/-- A division of a written clause inside its first term needs a marker among the words behind the first
of the term. -/
theorem exists_marker_of_shorter (tight : Tight first) (other : ClauseParts (written first digits second))
    (shorter : other.first.length < first.length) :
    ∃ word ∈ (words first).tail, IsMarker word := by
  obtain ⟨longest, read, -⟩ := marker?_of_marked other.marked
  obtain ⟨b, front, word, c, later, blank, blanks, next, some, solid, isMarker, rest⟩ :=
    marker?_eq_some read
  refine ⟨word, ?_, isMarker⟩
  -- the division cuts the first term in two, and the marker begins with its second part
  obtain ⟨start, middle, cut, size⟩ : ∃ start middle, first = start ++ middle ∧
      start.length = other.first.length :=
    ⟨_, _, (List.take_append_drop _ _).symm, List.length_take_of_le shorter.le⟩
  subst cut
  have whole : start ++ (middle ++ ' ' :: (['n', 'e', 'a', 'r', '/'] ++ (digits ++ ' ' :: second))) =
      other.first ++ other.rest := by
    rw [← List.append_assoc]
    exact other.whole
  obtain ⟨-, behind⟩ := List.append_inj whole size
  have startSome : words start ≠ [] := by
    cases start with
    | nil => exact absurd size.symm (List.length_pos_iff.mpr other.isFirst.1).ne'
    | cons d start => exact words_ne_nil ⟨d, by simp, tight.1 d rfl⟩
  have middleSome : words middle ≠ [] := by
    obtain ⟨front, last, rfl⟩ := (List.eq_nil_or_concat' middle).resolve_left (by
      rintro rfl
      simp [size] at shorter)
    exact words_ne_nil ⟨last, by simp, tight.2 last (by simp)⟩
  have found : words middle ++ words (['n', 'e', 'a', 'r', '/'] ++ (digits ++ ' ' :: second)) =
      word :: words later := by
    have space : isBlank ' ' = true := by decide
    rw [← words_append middle space, behind, rest, words_cons_blank blank,
      words_blanks_append blanks, words_append _ next, words_of_solid some solid]
    rfl
  have member : word ∈ words middle := by
    obtain ⟨w, ws, parts⟩ := List.exists_cons_of_ne_nil middleSome
    rw [parts, List.cons_append, List.cons.injEq] at found
    rw [parts, found.1]
    exact List.mem_cons_self
  have cut : words (start ++ middle) = words start ++ words middle := by
    cases middle with
    | nil => simp
    | cons d middle =>
      rw [rest, List.cons_append, List.cons.injEq] at behind
      have blank' : isBlank d = true := by rw [behind.1, blank]
      rw [words_append _ blank', words_cons_blank blank']
  rw [cut, List.tail_append_of_ne_nil startSome]
  exact List.mem_append_right _ member

theorem written_preferred (tight : Tight first) (tight' : Tight second) (isFirst : Run (· ≠ '\n') first)
    (isDigits : Run (isDigit · = true) digits) (isSecond : Run (· ≠ '\n') second)
    (markerless : ∀ word ∈ (words first).tail, ¬ IsMarker word) :
    (writtenParts isFirst isDigits isSecond).Preferred := by
  intro other
  rcases Nat.lt_trichotomy first.length other.first.length with shorter | same | longer
  · exact .inl shorter
  · refine .inr ⟨same, ?_⟩
    have whole := (writtenParts isFirst isDigits isSecond).whole.symm.trans other.whole
    obtain ⟨-, rests⟩ := List.append_inj whole same
    obtain ⟨-, gap⟩ := (writtenParts isFirst isDigits isSecond).marked.agree other.marked rests
    have gap : ' ' :: second = other.marked.behind ++ other.marked.second := gap
    have blanks := other.marked.isBehind.2
    show other.marked.behind.length ≤ 1
    -- a second blank would be the first character of the second term
    match other.marked.behind, gap, blanks with
    | [], _, _ => simp
    | [_], _, _ => simp
    | b :: d :: more, gap, blanks =>
      simp only [List.cons_append, List.cons.injEq] at gap
      have solid := tight'.1 d (by rw [gap.2]; rfl)
      rw [blanks d (by simp)] at solid
      contradiction
  · obtain ⟨word, member, marker⟩ := exists_marker_of_shorter tight other longer
    exact absurd marker (markerless word member)

/-- A clause that is written out is read back if its terms are tight and no word of the first term but
its first is a marker. -/
theorem read?_written (tight : Tight first) (tight' : Tight second) (isFirst : Run (· ≠ '\n') first)
    (isSecond : Run (· ≠ '\n') second) (isDigits : Run (isDigit · = true) digits)
    (short : digits.length ≤ maxNumeralDigits) (markerless : ∀ word ∈ (words first).tail, ¬ IsMarker word) :
    read? (written first digits second) (written first digits second) =
      some ⟨first, second, distanceOf digits⟩ := by
  have preferred := written_preferred tight tight' isFirst isDigits isSecond markerless
  have read : read? (written first digits second) (written first digits second) =
      if maxNumeralDigits < digits.length then none
      else some ⟨trim ((written first digits second).take first.length),
        trim ((written first digits second).drop ((written first digits second).length - second.length)),
        distanceOf digits⟩ := read?_of_preferred rfl preferred
  have before : (written first digits second).take first.length = first := List.take_left
  have behind : (written first digits second).drop
      ((written first digits second).length - second.length) = second := by
    have parts : written first digits second =
        (first ++ ' ' :: (['n', 'e', 'a', 'r', '/'] ++ (digits ++ [' ']))) ++ second := by
      simp [written]
    rw [parts, List.length_append, Nat.add_sub_cancel, List.drop_left]
  rw [read, if_neg (by omega), before, behind, tight.trim_eq, tight'.trim_eq]

/-! ### Reading -/

theorem read?_of_isEmpty (same : mask.length = query.length) (none : IsEmpty (ClauseParts mask)) :
    read? query mask = Option.none := by
  cases found : findMarker? 0 mask with
  | none => simp [read?_eq same, found]
  | some pair =>
    obtain ⟨parts, -⟩ := exists_preferred found
    exact none.elim parts

/-- A query is read as a clause exactly if its mask can be divided into the parts of one. It is read along
the division with the shortest first term and then the most blanks in front of the second term, unless
the digits of that division are too many. In particular a clause that is written out is read back if its
terms are tight and no word of the first term but its first is a marker; its distance may be any number
whose decimal digits are not too many. -/
theorem read?_along_preferred :
    (∀ query mask : Text, mask.length = query.length →
      (IsEmpty (ClauseParts mask) → read? query mask = none) ∧
      (Nonempty (ClauseParts mask) → ∃ parts : ClauseParts mask, parts.Preferred) ∧
      ∀ parts : ClauseParts mask, parts.Preferred → read? query mask =
        if maxNumeralDigits < parts.marked.digits.length then none
        else some ⟨trim (query.take parts.first.length),
          trim (query.drop (mask.length - parts.marked.second.length)),
          distanceOf parts.marked.digits⟩) ∧
    (∀ first digits second : Text, Tight first → Tight second → Run (· ≠ '\n') first →
      Run (· ≠ '\n') second → Run (isDigit · = true) digits → digits.length ≤ maxNumeralDigits →
      (∀ word ∈ (words first).tail, ¬ IsMarker word) →
      read? (written first digits second) (written first digits second) =
        some ⟨first, second, distanceOf digits⟩) ∧
    ∀ n : Nat, Run (isDigit · = true) (Nat.toDigits 10 n) ∧ distanceOf (Nat.toDigits 10 n) = n := by
  refine ⟨fun query mask same => ⟨read?_of_isEmpty same, ?_, fun parts preferred =>
    read?_of_preferred same preferred⟩, ?_, fun n => ⟨isDigit_toDigits n, distanceOf_toDigits n⟩⟩
  · rintro ⟨parts⟩
    obtain ⟨start, marker, found⟩ := exists_findMarker? parts
    obtain ⟨preferred, holds, -⟩ := exists_preferred found
    exact ⟨preferred, holds⟩
  · intro first digits second tight tight' isFirst isSecond isDigits short markerless
    exact read?_written tight tight' isFirst isSecond isDigits short markerless

/-- The second term of a clause may hold markers, and a text of blanks is no clause. -/
theorem read?_along_preferred_words :
    read? (written ['o', ' ', 'f'] ['1', '2'] ['a', ' ', 'n', '/', '3', ' ', 'b'])
        (written ['o', ' ', 'f'] ['1', '2'] ['a', ' ', 'n', '/', '3', ' ', 'b']) =
      some ⟨['o', ' ', 'f'], ['a', ' ', 'n', '/', '3', ' ', 'b'], 12⟩ ∧ read? [' '] [' '] = none := by
  have first : Tight ['o', ' ', 'f'] := tight_enclosed (by decide) (by decide) [' ']
  have second : Tight ['a', ' ', 'n', '/', '3', ' ', 'b'] :=
    tight_enclosed (by decide) (by decide) [' ', 'n', '/', '3', ' ']
  have markerless : ∀ word ∈ (words ['o', ' ', 'f']).tail, ¬ IsMarker word := by
    have slashless : ∀ word ∈ (words ['o', ' ', 'f']).tail, '/' ∉ word := by decide
    exact fun word member marker => slashless word member (slash_mem_of_isMarker marker)
  have unmarked : IsEmpty (ClauseParts [' ']) := ⟨fun parts => absurd (slash_mem parts) (by decide)⟩
  exact ⟨read?_along_preferred.2.1 _ ['1', '2'] _ first second (by decide) (by decide) (by decide)
    (by decide) markerless,
    (read?_along_preferred.1 [' '] [' '] rfl).1 unmarked⟩

end CardSearch.Query.Proximity
