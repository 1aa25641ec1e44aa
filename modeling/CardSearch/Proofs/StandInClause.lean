import CardSearch.Proofs.StandInParts
/-!
Proximity clauses with stand-ins. The marker of a clause holds blanks, letters, a slash and digits, none
of which a placeholder can start with, so a text has the same marker after filling in, and the clause
read around it is the same with its terms filled in.
-/
namespace CardSearch.Query

open Text

namespace Proximity

variable {later : Bool} {c : Char} {s m : Text}

/-! ### Markers -/

theorem marker_letters : ∀ letter ∈ ['n', 'e', 'a', 'r', '/'], ∀ c ∈ blankMark :: standIns,
    lowerCode c.toNat ≠ letter.toNat := by decide

theorem dropLetters_filled {letters : Text} (known : ∀ letter ∈ letters, letter ∈ ['n', 'e', 'a', 'r', '/']) :
    dropLetters letters (filled later m) = (dropLetters letters m).map (filled later) := by
  induction letters generalizing m with
  | nil => cases m <;> rfl
  | cons letter letters ih =>
    obtain ⟨here, others⟩ := List.forall_mem_cons.mp known
    cases m with
    | nil => rfl
    | cons c m =>
      by_cases standIn : c ∈ standIns
      · obtain ⟨run, same, -⟩ := fill_of_standIn later standIn
        have first := marker_letters letter here blankMark (List.mem_cons_self ..)
        have other := marker_letters letter here c (List.mem_cons_of_mem _ standIn)
        rw [filled_cons, same, List.cons_append, dropLetters, if_neg (by simpa using first),
          dropLetters, if_neg (by simpa using other)]
        rfl
      · rw [filled_cons, fill_of_plain standIn, List.singleton_append, dropLetters, dropLetters]
        split
        · exact ih others
        · rfl

theorem dropMarker_filled : dropMarker (filled later m) = (dropMarker m).map (filled later) := by
  rw [dropMarker, dropMarker, dropLetters_filled (by decide), dropLetters_filled (by decide)]
  cases dropLetters ['n', 'e', 'a', 'r', '/'] m <;> rfl

theorem gapBefore_filled (blanks tail : Text) :
    gapBefore blanks (filled later tail) = gapBefore blanks tail := by
  have empty : (filled later tail).isEmpty = tail.isEmpty := by
    rw [Bool.eq_iff_iff, List.isEmpty_iff, List.isEmpty_iff, filled_eq_nil_iff]
  rw [gapBefore, gapBefore, empty, contains_filled (by decide)]

theorem dropWhile_length_eq_iff {p : Char → Bool} {text : Text} :
    (text.dropWhile p).length = text.length ↔ text.head?.any p = false := by
  cases text with
  | nil => simp
  | cons c text =>
    by_cases passes : p c = true
    · have shorter := (List.dropWhile_sublist p (l := text)).length_le
      simp only [List.dropWhile_cons_of_pos passes, List.head?_cons, Option.any_some, passes,
        Bool.true_eq_false, iff_false, List.length_cons]
      omega
    · simp [passes]

theorem keyword_plain {keyword : Text} (isKeyword : IsKeyword keyword) : ∀ c ∈ keyword, c ∉ standIns :=
  isKeyword.forall_mem (by decide)

theorem isDigit_inert : ∀ d ∈ inert, isDigit d = false := by decide

theorem digits_parts {text numeral : Text}
    (dropped : dropMarker (text.dropWhile isBlank) = some numeral) :
    ∃ front, text = front ++ numeral.dropWhile isDigit ∧ ∀ c ∈ front, c ∉ standIns := by
  obtain ⟨keyword, isKeyword, whole⟩ := dropMarker_eq_some_iff.mp dropped
  refine ⟨text.takeWhile isBlank ++ (keyword ++ '/' :: numeral.takeWhile isDigit), ?_, ?_⟩
  · rw [List.append_assoc, List.append_assoc, List.cons_append, List.takeWhile_append_dropWhile, ← whole,
      List.takeWhile_append_dropWhile]
  · intro c member
    simp only [List.mem_append, List.mem_cons] at member
    rcases member with blank | letter | rfl | digit
    · exact plain_of_passes isBlank_inert (List.mem_takeWhile_imp blank)
    · exact keyword_plain isKeyword c letter
    · decide
    · exact plain_of_passes isDigit_inert (List.mem_takeWhile_imp digit)

theorem marker?_parts {text : Text} {marker : Marker} (found : marker? text = some marker) :
    ∃ consumed rest, text = consumed ++ rest ∧ consumed.length = marker.width ∧
      ∀ c ∈ consumed, c ∉ standIns := by
  obtain ⟨⟨before, keyword, digits, behind, second, isBefore, isKeyword, isDigits, isBehind, -, rfl⟩, rfl⟩ :=
    exists_marked found
  refine ⟨before ++ (keyword ++ '/' :: (digits ++ behind)), second, by simp, ?_, ?_⟩
  · simp only [List.length_append, List.length_cons]
    omega
  · intro c member
    simp only [List.mem_append, List.mem_cons] at member
    rcases member with blank | letter | rfl | digit | blank
    · exact plain_of_passes isBlank_inert (isBefore.2 c blank)
    · exact keyword_plain isKeyword c letter
    · decide
    · exact plain_of_passes isDigit_inert (isDigits.2 c digit)
    · exact plain_of_passes isBlank_inert (isBehind.2 c blank)

theorem marker?_filled : marker? (filled later m) = marker? m := by
  have moved : ((filled later m).dropWhile isBlank).length = (filled later m).length ↔
      (m.dropWhile isBlank).length = m.length := by
    rw [dropWhile_length_eq_iff, dropWhile_length_eq_iff, head_filled isBlank_inert]
  have keyword : dropMarker ((filled later m).dropWhile isBlank) =
      (dropMarker (m.dropWhile isBlank)).map (filled later) := by
    rw [dropWhile_filled isBlank_inert, dropMarker_filled]
  by_cases unmoved : (m.dropWhile isBlank).length = m.length
  · simp [marker?, unmoved, moved.mpr unmoved]
  cases dropped : dropMarker (m.dropWhile isBlank) with
  | none =>
    rw [dropped] at keyword
    simp [marker?, unmoved, moved, dropped, keyword]
  | some numeral =>
    rw [dropped, Option.map_some] at keyword
    obtain ⟨front, whole, plain⟩ := digits_parts dropped
    have width : (filled later m).length - (filled later (numeral.dropWhile isDigit)).length =
        m.length - (numeral.dropWhile isDigit).length := by
      conv_lhs => rw [whole]
      conv_rhs => rw [whole]
      rw [filled_append, List.length_append, List.length_append, filled_of_plain plain]
      omega
    rw [marker?_of_dropMarker (mt moved.mp unmoved) keyword, marker?_of_dropMarker unmoved dropped,
      takeWhile_filled isDigit_inert, dropWhile_filled isDigit_inert, takeWhile_filled isBlank_inert,
      dropWhile_filled isBlank_inert, gapBefore_filled, width]

/-! ### Clauses -/

theorem findMarker?_filled :
    findMarker? 0 (filled later m) =
      (findMarker? 0 m).map fun found => (placeIn later m found.1, found.2) := by
  induction m with
  | nil => rfl
  | cons c m ih =>
    by_cases newline : c = '\n'
    · subst newline
      rw [filled_cons, fill_of_plain (by decide)]
      rfl
    have line : ∀ d ∈ fill later c, d ≠ '\n' := fun d member same =>
      not_mem_fill (by decide) (Ne.symm newline) (same ▸ member)
    have solid : ∀ d ∈ (fill later c).tail, isBlank d = false := by
      by_cases standIn : c ∈ standIns
      · obtain ⟨run, -, all⟩ := fill_of_standIn later standIn
        exact fun d member => isBlank_inert d (all d (List.mem_of_mem_tail member))
      · simp [fill_of_plain standIn]
    have shifted : findMarker? (fill later c).length (filled later m) =
        (findMarker? 1 m).map fun found => (placeIn later (c :: m) found.1, found.2) := by
      rw [findMarker?_offset, ih, findMarker?_offset 1, Option.map_map, Option.map_map]
      congr 1
      funext found
      simp only [Function.comp_apply, Nat.add_comm 1, placeIn_cons]
    have inside : (c == '\n') = false := beq_eq_false_iff_ne.mpr newline
    rw [filled_cons, findMarker?_skip (fill_ne_nil later c) line solid, marker?_filled, shifted,
      findMarker?, inside]
    cases marker? m with
    | some marker => simp [placeIn]
    | none => rfl

def filledIn (later : Bool) (clause : Proximity) : Proximity :=
  ⟨filled later clause.first, filled later clause.second, clause.distance⟩

theorem read?_filled (veils : Veils m s) :
    read? (filled later s) (filled later m) = (read? s m).map (filledIn later) := by
  have same : (filled later m).length = (filled later s).length := by
    have whole : placeIn later m m.length = placeIn later s m.length := veils.placeIn_eq m.length
    rwa [placeIn, placeIn, List.take_length, veils.length_eq, List.take_length] at whole
  rw [read?_eq same, read?_eq veils.length_eq, contains_filled (by decide), findMarker?_filled]
  split
  · cases found : findMarker? 0 m with
    | none => rfl
    | some pair =>
      obtain ⟨start, marker⟩ := pair
      obtain ⟨before, rest, cut, place, there⟩ := findMarker?_eq_some found
      obtain ⟨consumed, behind, whole, length, plain⟩ := marker?_parts there
      rw [Nat.zero_add] at place
      have inside : start + marker.width ≤ m.length := by
        rw [cut, whole, List.length_append, List.length_append]
        omega
      have consumedPlain : ∀ c ∈ (m.drop start).take marker.width, c ∉ standIns := by
        rwa [cut, ← place, List.drop_left, whole, ← length, List.take_left]
      have after : placeIn later m start + marker.width = placeIn later s (start + marker.width) := by
        rw [← placeIn_add consumedPlain inside, veils.placeIn_eq]
      simp only [Option.map_some, Option.bind_some, around]
      rw [after, veils.placeIn_eq, take_placeIn, drop_placeIn, trim_filled, trim_filled]
      split
      · rfl
      · cases Text.numeral? marker.digits <;> rfl
  · rfl

end Proximity

end CardSearch.Query
