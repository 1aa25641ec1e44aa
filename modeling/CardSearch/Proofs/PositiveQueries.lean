import CardSearch.Proofs.Growth
import CardSearch.Proofs.StandInClause
/-!
Queries without stars and without `not`, evaluated before and after some of their groups have turned
true. Each level of the evaluation is one query with stand-ins that is filled in twice, so the parts of
both runs correspond. Main statement: a query without stars and without `not` that holds of a text holds
of every longer text around it, although groups in it may turn true.
-/
namespace CardSearch.Query

open Text

variable {c : Char} {s text other front back : Text}

/-- A text in lower case in a longer one, in which its words keep their distances. -/
structure Grows (text other : Text) : Prop where
  lowered : ∀ c ∈ text, IsLowered c
  inside : text <:+: other
  places : WordsInside text other

/-! ### Terms with stand-ins -/

def groupMarks : Text := ['T', 'F', 'G']

/-- A query in lower case, with stand-ins for groups, that has neither a star nor a `not`. -/
structure Positive (query : Text) : Prop where
  letters : ∀ c ∈ query, IsLowered c ∨ c ∈ groupMarks
  starless : '*' ∉ query
  affirms : ¬ Connective.not.spelling <:+: query

theorem Positive.of_part {part : Text} (positive : Positive s) (inside : part <:+: s) :
    Positive part where
  letters c member := positive.letters c (inside.subset member)
  starless member := positive.starless (inside.subset member)
  affirms there := positive.affirms (there.trans inside)

theorem filled_of_lowered (lowered : ∀ c ∈ s, IsLowered c) (later : Bool) : filled later s = s := by
  have capital : ∀ c ∈ standIns, ¬ IsLowered c := by decide
  exact filled_of_plain fun c member standIn => capital c standIn (lowered c member)

theorem capital_mem_filled {mark : Char} (isMark : mark ∈ groupMarks) (member : mark ∈ s)
    (later : Bool) : 'E' ∈ filled later s := by
  have inside : 'E' ∈ fill later mark := by
    simp only [groupMarks, List.mem_cons, List.not_mem_nil, or_false] at isMark
    obtain rfl | rfl | rfl := isMark <;> cases later <;> decide
  exact List.mem_flatMap.mpr ⟨mark, member, inside⟩

theorem lowered_of_part (letters : ∀ c ∈ s, IsLowered c ∨ c ∈ groupMarks) {piece : Text}
    {later : Bool} (keeps : 'E' ∈ filled later s → 'E' ∈ piece) (lowered : ∀ c ∈ text, IsLowered c)
    (inside : piece <:+: text) : ∀ c ∈ s, IsLowered c := by
  intro c member
  obtain small | isMark := letters c member
  · exact small
  · have capital := lowered 'E' (inside.subset (keeps (capital_mem_filled isMark member later)))
    exact absurd capital (by decide)

theorem starless_filled (starless : '*' ∉ s) (later : Bool) : '*' ∉ filled later s := by
  rwa [mem_filled_iff (by decide)]

theorem exists_placeholder {mark : Char} (isMark : mark ∈ groupMarks) (later : Bool) :
    ∃ truth, fill later mark = placeholder truth := by
  revert mark
  cases later <;> decide

theorem eq_mark_of_filled (letters : ∀ c ∈ s, IsLowered c ∨ c ∈ groupMarks) {later truth : Bool}
    (same : filled later s = placeholder truth) :
    ∃ mark ∈ groupMarks, s = [mark] ∧ fill later mark = placeholder truth := by
  -- Placeholders have capital letters, a query in lower case has none, so one stand-in is there. It
  -- fills the placeholder, and nothing is left for what stands around it.
  have capital : 'E' ∈ placeholder truth := by cases truth <;> decide
  have marked : ∃ mark ∈ s, mark ∈ groupMarks := by
    by_contra unmarked
    have lowered : ∀ c ∈ s, IsLowered c := fun c member =>
      (letters c member).resolve_right fun isMark => unmarked ⟨c, member, isMark⟩
    rw [← same, filled_of_lowered lowered] at capital
    exact absurd (lowered 'E' capital) (by decide)
  obtain ⟨mark, member, isMark⟩ := marked
  obtain ⟨front, back, rfl⟩ := List.append_of_mem member
  obtain ⟨inner, filling⟩ := exists_placeholder isMark later
  rw [filled_append, filled_cons, filling] at same
  have single : ∀ a b, placeholder a <:+: placeholder b → a = b := by decide
  obtain rfl : inner = truth := single inner truth ⟨_, _, by rw [← same, List.append_assoc]⟩
  have length := congrArg List.length same
  rw [List.length_append, List.length_append] at length
  have first : filled later front = [] := List.length_eq_zero_iff.mp (by omega)
  have last : filled later back = [] := List.length_eq_zero_iff.mp (by omega)
  rw [filled_eq_nil_iff] at first last
  exact ⟨mark, isMark, by rw [first, last]; rfl, filling⟩

theorem fill_grows {mark : Char} (isMark : mark ∈ groupMarks)
    (before : fill false mark = truePlaceholder) : fill true mark = truePlaceholder := by
  revert mark
  decide

/-- A term that holds of a text still holds once groups have turned true and the text has grown. -/
theorem termValue_filled (grows : Grows text other)
    (letters : ∀ c ∈ s, IsLowered c ∨ c ∈ groupMarks) (starless : '*' ∉ s)
    (holds : termValue matchesLiterally text (filled false s) = true) :
    termValue matchesLiterally other (filled true s) = true := by
  by_cases isPlaceholder : ∃ truth, filled false s = placeholder truth
  · obtain ⟨truth, same⟩ := isPlaceholder
    rw [same, termValue_placeholder] at holds
    subst holds
    obtain ⟨mark, isMark, rfl, filledMark⟩ := eq_mark_of_filled letters same
    have after : filled true [mark] = placeholder true := by
      rw [filled_cons, filled_nil, List.append_nil]
      exact fill_grows isMark filledMark
    rw [after, termValue_placeholder]
  · -- A text in lower case holds no placeholder, so the term has none and is the same in both runs.
    push Not at isPlaceholder
    obtain ⟨piece, keeps, value⟩ := exists_piece (starless_filled starless false) isPlaceholder
    rw [value] at holds
    have plain := lowered_of_part letters (fun member => keeps 'E' member (by decide))
      grows.lowered (occurs_iff.mp holds)
    rw [filled_of_lowered plain, ← filled_of_lowered plain false, value]
    exact occurs_grows grows.inside holds

theorem clauseValue_filled (grows : Grows text other) {clause : Proximity}
    (first : Positive clause.first) (second : Positive clause.second)
    (holds : clauseValue matchesLiterally text (clause.filledIn false) = true) :
    clauseValue matchesLiterally other (clause.filledIn true) = true := by
  have plain : ∀ {term word : Text}, Positive term → word ∈ words text →
      matchesLiterally (filled false term) word = true → ∀ c ∈ term, IsLowered c := by
    intro term word positive member passes
    rw [matchesLiterally_of_starless (starless_filled positive.starless false)] at passes
    exact lowered_of_part positive.letters id
      (fun c there => grows.lowered c (subset_of_mem_wordsAlong member there)) (occurs_iff.mp passes)
  obtain ⟨i, j, u, v, here, there, passes, passes', -⟩ := clauseValue_eq_true_iff.mp holds
  have firstPlain := plain first (List.mem_of_getElem? here) passes
  have secondPlain := plain second (List.mem_of_getElem? there) passes'
  have same : clause.filledIn true = clause.filledIn false := by
    rw [Proximity.filledIn, Proximity.filledIn, filled_of_lowered firstPlain, filled_of_lowered firstPlain,
      filled_of_lowered secondPlain, filled_of_lowered secondPlain]
  rw [same]
  exact clauseValue_grows (starless_filled first.starless false) (starless_filled second.starless false)
    grows.places holds

/-! ### Groups -/

theorem prefix_before (front : Text) {piece : Text} (absent : c ∉ piece)
    (starts : piece <+: front ++ c :: back) : piece <+: front := by
  by_cases short : piece.length ≤ front.length
  · exact List.prefix_of_prefix_length_le starts (List.prefix_append _ _) short
  · have more : front ++ [c] <+: piece := by
      refine List.prefix_of_prefix_length_le ⟨back, by simp⟩ starts ?_
      rw [List.length_append, List.length_singleton]
      omega
    exact absurd (more.subset (by simp)) absent

theorem infix_around {piece : Text} (absent : c ∉ piece) (there : piece <:+: front ++ c :: back) :
    piece <:+: front ∨ piece <:+: back := by
  induction front with
  | nil =>
    obtain starts | later := List.infix_cons_iff.mp there
    · exact .inl (prefix_before [] absent starts).isInfix
    · exact .inr later
  | cons d front ih =>
    obtain starts | later := List.infix_cons_iff.mp there
    · exact .inl (prefix_before (d :: front) absent starts).isInfix
    · obtain inFront | inBack := ih later
      · exact .inl (inFront.trans (List.suffix_cons d front).isInfix)
      · exact .inr inBack

theorem Positive.replaced {body : Text} (positive : Positive (front ++ '(' :: (body ++ ')' :: back)))
    {mark : Char} (isMark : mark ∈ groupMarks) : Positive (front ++ mark :: back) := by
  have before : Positive front := positive.of_part (List.prefix_append _ _).isInfix
  have behind : Positive back := positive.of_part ⟨front ++ '(' :: (body ++ [')']), [], by simp⟩
  have spare : mark ≠ '*' ∧ mark ∉ Connective.not.spelling := by
    revert mark
    decide
  constructor
  · intro c member
    obtain inFront | rfl | inBack : c ∈ front ∨ c = mark ∨ c ∈ back := by simpa using member
    · exact before.letters c inFront
    · exact .inr isMark
    · exact behind.letters c inBack
  · simp [before.starless, behind.starless, Ne.symm spare.1]
  · intro there
    obtain inFront | inBack := infix_around spare.2 there
    · exact before.affirms inFront
    · exact behind.affirms inBack

theorem exists_mark (truth : Bool → Bool) (grows : truth false = true → truth true = true) :
    ∃ mark ∈ groupMarks, ∀ later, fill later mark = placeholder (truth later) := by
  have marks : ∀ before after : Bool, (before = true → after = true) → ∃ mark ∈ groupMarks,
      fill false mark = placeholder before ∧ fill true mark = placeholder after := by
    intro before after grows
    cases before with
    | true =>
      obtain rfl : after = true := grows rfl
      exact ⟨'T', by decide, rfl, rfl⟩
    | false =>
      cases after with
      | true => exact ⟨'G', by decide, rfl, rfl⟩
      | false => exact ⟨'F', by decide, rfl, rfl⟩
  obtain ⟨mark, isMark, before, after⟩ := marks _ _ grows
  refine ⟨mark, isMark, fun later => ?_⟩
  cases later with
  | false => exact before
  | true => exact after

/-- Replacing groups before and after some of them have turned true leads to one query with
stand-ins. -/
theorem exists_reduced (worth : Bool → Text → Bool) (positive : Positive s)
    (grows : ∀ body, openings body < openings s → Positive body →
      worth false (filled false body) = true → worth true (filled true body) = true) :
    ∃ reduced, Positive reduced ∧ NoLarger reduced s ∧
      ∀ later, replaceGroups (worth later) (filled later s) = filled later reduced := by
  -- The body of the next group opens fewer groups, so what it is worth only turns true, and one of
  -- the stand-ins takes the place of the group in both runs.
  induction more : openings s using Nat.strong_induction_on generalizing s with
  | _ n ih =>
    by_cases unseen : findGroup? (shade s) = none
    · refine ⟨trim s, positive.of_part (trim_inside s), noLarger_of_sublist (trim_sublist s),
        fun later => ?_⟩
      rw [replaceGroups_of_none (groupless_filled unseen later), trim_filled]
    · obtain ⟨front, body, back, rfl, found⟩ := exists_group unseen
      have inner : Positive body := positive.of_part ⟨front ++ ['('], ')' :: back, by simp⟩
      have fewerInside : openings body < openings (front ++ '(' :: (body ++ ')' :: back)) := by
        simp only [openings, List.count_append, List.count_cons_self]
        omega
      obtain ⟨mark, isMark, filling⟩ := exists_mark (fun later => worth later (filled later body))
        (grows body fewerInside inner)
      have fewer : openings (front ++ mark :: back) <
          openings (front ++ '(' :: (body ++ ')' :: back)) := by
        have other : mark ≠ '(' := by
          rintro rfl
          contradiction
        have behind : openings back ≤ openings (body ++ ')' :: back) :=
          (List.suffix_append_of_suffix (List.suffix_cons _ _)).sublist.count_le '('
        simp only [openings, List.count_append, List.count_cons_self, List.count_cons_of_ne other]
          at behind ⊢
        omega
      obtain ⟨reduced, positive', noLarger, same⟩ := ih _ (more ▸ fewer) (positive.replaced isMark)
        (fun body few => grows body (few.trans fewer)) rfl
      refine ⟨reduced, positive', noLarger.trans (.inl fewer), fun later => ?_⟩
      have whole : filled later (front ++ '(' :: (body ++ ')' :: back)) =
          filled later front ++ '(' :: (filled later body ++ ')' :: filled later back) := by
        have opening : fill later '(' = ['('] := fill_of_plain (by decide)
        have closing : fill later ')' = [')'] := fill_of_plain (by decide)
        simp [opening, closing]
      have next : filled later (front ++ mark :: back) =
          filled later front ++ (placeholder (worth later (filled later body)) ++ filled later back) := by
        rw [filled_append, filled_cons, filling]
      rw [replaceGroups_of_some (found later), whole, Group.body_of_parts, Group.replace_of_parts,
        ← next, same]

/-! ### Queries -/

section

variable {test : (term text : Text) → Bool} {later : Bool} (settled : Settled (filled later s))

include settled

theorem value_filled_of_clause {clause : Proximity}
    (found : Proximity.read? s (shade s) = some clause) :
    value test text (filled later s) = clauseValue test text (clause.filledIn later) := by
  apply settled.value_of_clause
  rw [mask_filled, Proximity.read?_filled (veils_shade s), found]
  rfl

theorem value_filled_of_or (unread : Proximity.read? s (shade s) = none)
    (several : Connective.or.find? (shade s) ≠ none) :
    value test text (filled later s) =
      (splitAlong .or s (shade s)).any fun part => value test text (filled later part) := by
  have unread' : Proximity.read? (filled later s) (mask (filled later s)) = none := by
    rw [mask_filled, Proximity.read?_filled (veils_shade s), unread]
    rfl
  have several' : Connective.or.find? (mask (filled later s)) ≠ none := by
    rwa [mask_filled, Connective.find?_filled, ne_eq, Option.map_eq_none_iff]
  rw [settled.value_of_or unread' several', mask_filled, splitAlong_filled (veils_shade s),
    List.any_map]
  rfl

theorem value_filled_of_terms (unread : Proximity.read? s (shade s) = none)
    (single : Connective.or.find? (shade s) = none)
    (affirms : Connective.not.find? (shade s) = none) :
    value test text (filled later s) =
      (conjuncts s (shade s)).all fun term => termValue test text (filled later term) := by
  have unread' : Proximity.read? (filled later s) (mask (filled later s)) = none := by
    rw [mask_filled, Proximity.read?_filled (veils_shade s), unread]
    rfl
  have absent {connective : Connective} (unseen : connective.find? (shade s) = none) :
      connective.find? (mask (filled later s)) = none := by
    rwa [mask_filled, Connective.find?_filled, Option.map_eq_none_iff]
  rw [settled.value_of_terms unread' (absent single) (absent affirms), mask_filled,
    conjuncts_filled (veils_shade s), List.all_map]
  rfl

end

/-- A query without groups that holds of a text holds of a longer one once groups have turned true,
if this is so of its parts. -/
theorem level_grows (grows : Grows text other) (positive : Positive s)
    (settled : ∀ later, Settled (filled later s))
    (parts : ∀ part, Piece part s → Positive part →
      value matchesLiterally text (filled false part) = true →
        value matchesLiterally other (filled true part) = true)
    (holds : value matchesLiterally text (filled false s) = true) :
    value matchesLiterally other (filled true s) = true := by
  have same : (shade s).length = s.length := (veils_shade s).length_eq
  cases unread : Proximity.read? s (shade s) with
  | some clause =>
    rw [value_filled_of_clause (settled false) unread] at holds
    rw [value_filled_of_clause (settled true) unread]
    obtain ⟨first, second⟩ := Proximity.infix_of_read? same unread
    exact clauseValue_filled grows (positive.of_part first) (positive.of_part second) holds
  | none =>
    by_cases several : Connective.or.find? (shade s) ≠ none
    · rw [value_filled_of_or (settled false) unread several, List.any_eq_true] at holds
      rw [value_filled_of_or (settled true) unread several, List.any_eq_true]
      obtain ⟨part, member, before⟩ := holds
      have piece : Piece part s :=
        ⟨sublist_of_mem_splitAlong member, length_lt_of_mem_splitAlong same several member⟩
      have inner : Positive part := positive.of_part (infix_of_mem_splitAlong member)
      exact ⟨part, member, parts part piece inner before⟩
    · have single := not_ne_iff.mp several
      have affirms : Connective.not.find? (shade s) = none := find?_eq_none_iff.mpr fun there =>
        positive.affirms ((veils_shade s).of_part Connective.not.spare_spelling there)
      rw [value_filled_of_terms (settled false) unread single affirms, List.all_eq_true] at holds
      rw [value_filled_of_terms (settled true) unread single affirms, List.all_eq_true]
      intro term member
      have inside := subset_of_mem_conjuncts member
      exact termValue_filled grows (fun c there => positive.letters c (inside there))
        (fun there => positive.starless (inside there)) (holds term member)

theorem value_grows (grows : Grows text other) (s : Text) (positive : Positive s)
    (holds : value matchesLiterally text (filled false s) = true) :
    value matchesLiterally other (filled true s) = true := by
  have trimmed : NoLarger (trim s) s := noLarger_of_sublist (trim_sublist s)
  obtain ⟨reduced, positive', noLarger, same⟩ :=
    exists_reduced (fun later => value matchesLiterally (if later then other else text))
      (positive.of_part (trim_inside s))
      (fun body fewer inner before => value_grows grows body inner before)
  have before : value matchesLiterally text (filled false reduced) =
      value matchesLiterally text (filled false s) := by
    rw [← value_replaceGroups (filled false s), trim_filled]
    exact congrArg _ (same false).symm
  have after : value matchesLiterally other (filled true reduced) =
      value matchesLiterally other (filled true s) := by
    rw [← value_replaceGroups (filled true s), trim_filled]
    exact congrArg _ (same true).symm
  have settled (later : Bool) : Settled (filled later reduced) := by
    rw [← same]
    exact settled_replaceGroups _ _
  rw [← after]
  exact level_grows grows positive' settled
    (fun part piece inner before => value_grows grows part inner before) (before.trans holds)
termination_by size s
decreasing_by
  · exact Below.of_openings (by unfold NoLarger at trimmed; omega)
  · exact Below.of_piece piece (noLarger.trans trimmed)

/-- A query without stars and without ` not ` that holds of a text in lower case holds of every
longer text around it in lower case. -/
theorem holdsLiterally_grows {query before text after : Text} (starless : '*' ∉ lower query)
    (affirms : ¬ Connective.not.spelling <:+: lower query) (lowered : lower text = text)
    (loweredAround : lower (before ++ text ++ after) = before ++ text ++ after)
    (holds : holdsLiterally query text = true) :
    holdsLiterally query (before ++ text ++ after) = true := by
  have letters : ∀ c ∈ lower query, IsLowered c := fun c member => isLowered_of_mem_lower member
  have positive : Positive (lower query) :=
    ⟨fun c member => .inl (letters c member), starless, affirms⟩
  have grows : Grows text (before ++ text ++ after) := by
    refine ⟨lower_eq_self_iff.mp lowered, List.infix_append before text after, ?_⟩
    exact (wordsInside_front before text).trans (wordsInside_back (before ++ text) after)
  have kept (later : Bool) : filled later (lower query) = lower query := filled_of_lowered letters later
  have result := value_grows grows (lower query) positive
  rw [kept, kept] at result
  rw [holdsLiterally_eq_value, lowered] at holds
  rw [holdsLiterally_eq_value, loweredAround]
  exact result holds

/-- The words of a clause become longer, and the group behind it turns true. -/
theorem holdsLiterally_longer_words :
    '*' ∉ lower "(a near/1 b) or (c)".toList ∧
      ¬ Connective.not.spelling <:+: lower "(a near/1 b) or (c)".toList ∧
      lower "a b".toList = "a b".toList ∧
      lower ("x".toList ++ "a b".toList ++ "y c".toList) =
        "x".toList ++ "a b".toList ++ "y c".toList ∧
      holdsLiterally "(a near/1 b) or (c)".toList "a b".toList = true ∧
      holdsLiterally "(a near/1 b) or (c)".toList
        ("x".toList ++ "a b".toList ++ "y c".toList) = true := by
  have query : lower "(a near/1 b) or (c)".toList = "(a near/1 b) or (c)".toList :=
    lower_eq_self_iff.mpr (by decide)
  have starless : '*' ∉ lower "(a near/1 b) or (c)".toList := by
    rw [query]
    decide
  have affirms : ¬ Connective.not.spelling <:+: lower "(a near/1 b) or (c)".toList := by
    rw [query, ← find?_eq_none_iff]
    rfl
  have lowered : lower "a b".toList = "a b".toList := lower_eq_self_iff.mpr (by decide)
  have loweredAround : lower ("x".toList ++ "a b".toList ++ "y c".toList) =
      "x".toList ++ "a b".toList ++ "y c".toList := lower_eq_self_iff.mpr (by decide)
  have letter : ∀ c ∈ ['a', 'b', 'c'], ∃ word : Word, word.text = [c] := by
    intro c member
    have plain : ∀ c ∈ ['a', 'b', 'c'], IsLowered c ∧ isBlank c = false ∧ c ≠ '(' ∧ c ≠ ')' ∧
        c ≠ '"' ∧ c ≠ '\'' := by decide
    obtain ⟨lowered, solid, opens, closes, quotes⟩ := plain c member
    let word : Word := {
      text := [c]
      ne_nil := List.cons_ne_nil c []
      lowered := lower_eq_self_iff.mpr (by simpa using lowered)
      solid := by simpa using solid
      opens := by simpa using opens.symm
      closes := by simpa using closes.symm
      unquoted := by simpa using quotes
      free := fun connective => by cases connective <;> simp [Connective.keyword]
      markerless := fun digits some decimal => by simp }
    exact ⟨word, rfl⟩
  obtain ⟨a, isA⟩ := letter 'a' (by decide)
  obtain ⟨b, isB⟩ := letter 'b' (by decide)
  obtain ⟨c, isC⟩ := letter 'c' (by decide)
  let distance : Numeral := ⟨['1'], by decide, by decide, by decide⟩
  let grouped (body : Form .body) : Form .chain := .affirmed (.spaced (.lone (.group body)))
  let choice : Form .body := .whole (.or (grouped (.near a distance b))
    (.single (grouped (.whole (.single (.affirmed (.spaced (.lone (.word c)))))))))
  have spelled : choice.spelling = "(a near/1 b) or (c)".toList := by
    simp only [choice, grouped, Form.spelling, isA, isB, isC]
    rfl
  have holds : holdsLiterally "(a near/1 b) or (c)".toList "a b".toList = true := by
    rw [holdsLiterally_eq_value, query, lowered, ← spelled, choice.value_spelling]
    refine choice.evaluated_reduced.mpr (.inl ⟨0, 1, ['a'], ['b'], rfl, rfl, ?_, ?_, by decide⟩)
    · rw [isA]
      rfl
    · rw [isB]
      rfl
  exact ⟨starless, affirms, lowered, loweredAround, holds,
    holdsLiterally_grows starless affirms lowered loweredAround holds⟩

end CardSearch.Query
