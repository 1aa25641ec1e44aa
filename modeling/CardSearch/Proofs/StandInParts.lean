import CardSearch.Proofs.StandIn
/-!
The parts of a query with stand-ins. Its mask hides some letters and shows the others, so the places
that count are the same in both, and they are where they would be after filling in. The parts between
connectives, the words and the group that is replaced next are those of the text with the stand-ins,
filled in.
-/
namespace CardSearch.Query

open Text

variable {later : Bool} {c : Char} {s m : Text} {connective : Connective}

/-! ### Texts and their masks -/

def Veils (m s : Text) : Prop := List.Forall₂ (fun d c => d = c ∨ d = veil c) m s

theorem veil_mem_inert (c : Char) : veil c ∈ inert := by
  unfold veil
  split
  · decide
  · split
    · decide
    · split <;> decide

theorem veils_shade (s : Text) : Veils (shade s) s := by
  have zipped : ∀ (s shown : Text), shown.length = s.length → Veils (List.zipWith hide s shown) s := by
    intro s
    induction s with
    | nil => exact fun _ _ => .nil
    | cons c s ih =>
      intro shown same
      cases shown with
      | nil => contradiction
      | cons d shown =>
        refine .cons ?_ (ih shown (by simpa using same))
        unfold hide
        split
        · exact .inr rfl
        · exact .inl rfl
  exact zipped s _ (mask_length s)

namespace Veils

theorem placeIn_eq (veils : Veils m s) (place : Nat) : placeIn later m place = placeIn later s place := by
  induction veils generalizing place with
  | nil => rfl
  | cons letter rest ih =>
    cases place with
    | zero => rfl
    | succ place =>
      rw [placeIn_cons, placeIn_cons, ih]
      obtain rfl | rfl := letter
      · rfl
      · rw [fill_veil, blanked, List.length_replicate]

theorem length_eq (veils : Veils m s) : m.length = s.length := List.Forall₂.length_eq veils

theorem drop (veils : Veils m s) (place : Nat) : Veils (m.drop place) (s.drop place) :=
  List.forall₂_drop place veils

theorem of_start {piece : Text} (spare : ∀ d ∈ piece, d ∉ inert) (veils : Veils m s)
    (starts : piece <+: m) : piece <+: s := by
  induction veils generalizing piece with
  | nil => exact starts
  | cons letter rest ih =>
    cases piece with
    | nil => exact List.nil_prefix
    | cons d piece =>
      obtain ⟨fresh, others⟩ := List.forall_mem_cons.mp spare
      obtain ⟨same, starts'⟩ := List.cons_prefix_cons.mp starts
      obtain shown | hidden := letter
      · exact List.cons_prefix_cons.mpr ⟨same.trans shown, ih others starts'⟩
      · rw [same, hidden] at fresh
        exact absurd (veil_mem_inert _) fresh

theorem of_part {piece : Text} (spare : ∀ d ∈ piece, d ∉ inert) (veils : Veils m s)
    (there : piece <:+: m) : piece <:+: s := by
  obtain ⟨front, back, rfl⟩ := there
  rw [List.append_assoc] at veils
  have behind := veils.drop front.length
  rw [List.drop_left] at behind
  exact (of_start spare behind (List.prefix_append _ _)).isInfix.trans (List.drop_suffix _ _).isInfix

end Veils

/-! ### Parts between connectives -/

theorem Connective.spare_spelling (connective : Connective) : ∀ d ∈ connective.spelling, d ∉ inert := by
  cases connective <;> decide

theorem Connective.spelling_ne_nil (connective : Connective) : connective.spelling ≠ [] := by
  cases connective <;> decide

theorem Connective.find?_filled (connective : Connective) (m : Text) :
    connective.find? (filled later m) = (connective.find? m).map (placeIn later m) :=
  Query.find?_filled connective.spare_spelling connective.spelling_ne_nil

theorem plain_of_spare {piece : Text} (spare : ∀ d ∈ piece, d ∉ inert) : ∀ d ∈ piece, d ∉ standIns :=
  fun d member standIn => spare d member (inert_of_standIn standIn)

theorem splitAlong_filled (veils : Veils m s) :
    splitAlong connective (filled later s) (filled later m) =
      (splitAlong connective s m).map (filled later) := by
  fun_induction splitAlong connective s m with
  | case1 s m unseen =>
    have unseen' : connective.find? (filled later m) = none := by
      rw [Connective.find?_filled, unseen]
      rfl
    rw [splitAlong_of_find?_eq_none unseen']
    rfl
  | case2 s m k found width ih =>
    have starts : connective.spelling <+: m.drop k := by
      rw [Text.drop_of_find? found]
      exact List.prefix_append _ _
    have starts' := (veils.drop k).of_start connective.spare_spelling starts
    have plain : ∀ c ∈ (s.drop k).take connective.spelling.length, c ∉ standIns := by
      rw [← List.prefix_iff_eq_take.mp starts']
      exact plain_of_spare connective.spare_spelling
    have inside : k + connective.spelling.length ≤ s.length := by
      rw [← veils.length_eq]
      exact Connective.find?_bound found
    have found' : connective.find? (filled later m) = some (placeIn later s k) := by
      rw [Connective.find?_filled, found, ← veils.placeIn_eq]
      rfl
    rw [splitAlong_of_find? found', ← placeIn_add plain inside, take_placeIn, drop_placeIn,
      ← veils.placeIn_eq, drop_placeIn, ih (veils.drop _), List.map_cons]

/-! ### Words -/

theorem headSolid_filled (later : Bool) (m : Text) :
    ((filled later m).head?.any fun e => !isBlank e) = m.head?.any fun e => !isBlank e := by
  have same := head_filled isBlank_inert later m
  cases m with
  | nil => rfl
  | cons c m =>
    cases first : filled later (c :: m) with
    | nil =>
      rw [filled_eq_nil_iff] at first
      contradiction
    | cons d rest =>
      rw [first] at same
      have alike : isBlank d = isBlank c := by simpa using same
      simp [alike]

theorem wordsAlong_filled (veils : Veils m s) :
    wordsAlong (filled later s) (filled later m) = (wordsAlong s m).map (filled later) := by
  induction veils with
  | nil => rfl
  | cons letter rest ih =>
    rename_i d c m s
    by_cases blank : isBlank d = true
    · have plain : d ∉ standIns := plain_of_passes isBlank_inert blank
      have same : d = c := by
        obtain rfl | rfl := letter
        · rfl
        · rw [isBlank_inert _ (veil_mem_inert c)] at blank
          contradiction
      subst same
      rw [filled_cons, filled_cons, fill_of_plain plain, List.singleton_append, List.singleton_append,
        wordsAlong_blank blank, wordsAlong_blank blank, ih]
    · have solid : isBlank d = false := by simpa using blank
      have shownSolid := fill_fails isBlank_inert later solid
      have same : (fill later d).length = (fill later c).length := by
        obtain rfl | rfl := letter
        · rfl
        · rw [fill_veil, blanked, List.length_replicate]
      have next := headSolid_filled later m
      rw [filled_cons, filled_cons, wordsAlong_run same (fill_ne_nil later c) shownSolid,
        wordsAlong_solid solid, ih, next]
      cases m.head?.any fun e => !isBlank e with
      | false => simp [joinFront]
      | true => cases wordsAlong s m <;> simp [joinFront]

theorem conjuncts_filled (veils : Veils m s) :
    conjuncts (filled later s) (filled later m) = (conjuncts s m).map (filled later) := by
  have seen : (Connective.and.find? (filled later m)).isSome = (Connective.and.find? m).isSome := by
    rw [Connective.find?_filled, Option.isSome_map]
  rw [conjuncts, conjuncts, seen]
  split
  · rw [splitAlong_filled veils, List.map_map, List.map_map]
    congr 1
    funext part
    exact trim_filled part
  · exact wordsAlong_filled veils

/-! ### Groups -/

theorem bodyLength?_skip {front : Text} (opens : '(' ∉ front) (closes : ')' ∉ front) (rest : Text) :
    bodyLength? (front ++ rest) = (bodyLength? rest).map (front.length + ·) := by
  induction front with
  | nil => simp
  | cons d front ih =>
    rw [List.mem_cons, not_or] at opens closes
    have notClosing : (d == ')') = false := beq_eq_false_iff_ne.mpr (Ne.symm closes.1)
    have notOpening : (d == '(') = false := beq_eq_false_iff_ne.mpr (Ne.symm opens.1)
    rw [List.cons_append, bodyLength?, notClosing, notOpening, ih opens.2 closes.2]
    simp only [Bool.false_eq_true, if_false, Option.map_map]
    congr 1
    funext n
    simp only [Function.comp_apply, List.length_cons]
    omega

theorem not_mem_fill {d : Char} (spare : d ∉ inert) (other : d ≠ c) : d ∉ fill later c := by
  intro member
  by_cases standIn : c ∈ standIns
  · obtain ⟨run, -, all⟩ := fill_of_standIn later standIn
    exact spare (all d member)
  · rw [fill_of_plain standIn, List.mem_singleton] at member
    exact other member

theorem bodyLength?_filled : bodyLength? (filled later m) = (bodyLength? m).map (placeIn later m) := by
  induction m with
  | nil => rfl
  | cons c m ih =>
    by_cases closing : c = ')'
    · subst closing
      rw [filled_cons, fill_of_plain (by decide)]
      rfl
    by_cases opening : c = '('
    · subst opening
      rw [filled_cons, fill_of_plain (by decide)]
      rfl
    have notClosing : (c == ')') = false := beq_eq_false_iff_ne.mpr closing
    have notOpening : (c == '(') = false := beq_eq_false_iff_ne.mpr opening
    rw [filled_cons, bodyLength?_skip (not_mem_fill (by decide) (Ne.symm opening))
      (not_mem_fill (by decide) (Ne.symm closing)), ih, bodyLength?, notClosing, notOpening]
    cases bodyLength? m with
    | none => rfl
    | some n => simp [placeIn_cons]

theorem findGroup?_skip {front : Text} (opens : '(' ∉ front) (rest : Text) :
    findGroup? (front ++ rest) =
      (findGroup? rest).map fun group => { group with start := front.length + group.start } := by
  induction front with
  | nil => simp
  | cons d front ih =>
    rw [List.mem_cons, not_or] at opens
    have other : (d == '(') = false := beq_eq_false_iff_ne.mpr (Ne.symm opens.1)
    rw [List.cons_append, findGroup?, other, ih opens.2]
    simp only [Bool.false_eq_true, if_false, Option.map_map]
    congr 1
    funext group
    simp only [Function.comp_apply, List.length_cons, Group.mk.injEq, and_true]
    omega

def Group.filledIn (later : Bool) (mask : Text) (group : Group) : Group :=
  ⟨placeIn later mask group.start, placeIn later (mask.drop (group.start + 1)) group.length⟩

theorem findGroup?_filled : findGroup? (filled later m) = (findGroup? m).map (Group.filledIn later m) := by
  induction m with
  | nil => rfl
  | cons c m ih =>
    have shifted : (findGroup? (filled later m)).map (fun group =>
        { group with start := (fill later c).length + group.start }) =
          ((findGroup? m).map fun group => { group with start := group.start + 1 }).map
            (Group.filledIn later (c :: m)) := by
      rw [ih, Option.map_map, Option.map_map]
      congr 1
      funext group
      simp [Group.filledIn, placeIn_cons]
    by_cases opening : c = '('
    · subst opening
      have single : fill later '(' = ['('] := fill_of_plain (by decide)
      have shifted' : (findGroup? (filled later m)).map (fun group =>
          { group with start := group.start + 1 }) =
            ((findGroup? m).map fun group => { group with start := group.start + 1 }).map
              (Group.filledIn later ('(' :: m)) := by
        rw [← shifted, single]
        congr 1
        funext group
        simp [Nat.add_comm]
      rw [filled_cons, single, List.singleton_append, findGroup?, bodyLength?_filled, shifted',
        findGroup?]
      cases body : bodyLength? m with
      | none => rfl
      | some n =>
        cases n with
        | zero => rfl
        | succ n =>
          obtain ⟨k, more⟩ : ∃ k, placeIn later m (n + 1) = k + 1 := by
            apply Nat.exists_eq_succ_of_ne_zero
            cases m with
            | nil => contradiction
            | cons d m =>
              rw [placeIn_cons]
              have some := List.length_pos_iff.mpr (fill_ne_nil later d)
              omega
          simp only [beq_self_eq_true, if_true, Option.map_some, more]
          exact congrArg (fun length => some (Group.mk 0 length)) more.symm
    · have other : (c == '(') = false := beq_eq_false_iff_ne.mpr opening
      rw [filled_cons, findGroup?_skip (not_mem_fill (by decide) (Ne.symm opening)), shifted,
        findGroup?, other]
      rfl

theorem Veils.of_cons (veils : Veils m s) (shown : c ∉ inert) {front back : Text}
    (whole : m = front ++ c :: back) :
    ∃ front' back', s = front' ++ c :: back' ∧ front'.length = front.length ∧ Veils back back' := by
  subst whole
  have behind := veils.drop front.length
  rw [List.drop_left] at behind
  cases rest : s.drop front.length with
  | nil =>
    rw [rest] at behind
    cases behind
  | cons d back' =>
    rw [rest] at behind
    obtain ⟨letter, later⟩ := List.forall₂_cons.mp behind
    have same : c = d := by
      obtain shownLetter | hidden := letter
      · exact shownLetter
      · rw [hidden] at shown
        exact absurd (veil_mem_inert d) shown
    refine ⟨s.take front.length, back', ?_, ?_, later⟩
    · rw [same, ← rest, List.take_append_drop]
    · rw [List.length_take, ← veils.length_eq, List.length_append]
      omega

theorem exists_group (found : findGroup? (shade s) ≠ none) :
    ∃ front body back, s = front ++ '(' :: (body ++ ')' :: back) ∧
      ∀ later, findGroup? (mask (filled later s)) =
        some ⟨(filled later front).length, (filled later body).length⟩ := by
  obtain ⟨group, found⟩ := Option.ne_none_iff_exists'.mp found
  obtain ⟨frontMask, bodyMask, backMask, whole, start, length⟩ := parts_of_findGroup? found
  obtain ⟨front, rest, same, frontLength, veils⟩ := (veils_shade s).of_cons (by decide) whole
  obtain ⟨body, back, inner, bodyLength, -⟩ := veils.of_cons (by decide) rfl
  refine ⟨front, body, back, by rw [same, inner], fun later => ?_⟩
  have place : placeIn later s group.start = (filled later front).length := by
    rw [placeIn, same, ← start, ← frontLength, List.take_left]
  have width : placeIn later (s.drop (group.start + 1)) group.length = (filled later body).length := by
    have behind : s.drop (group.start + 1) = rest := by
      rw [same, ← start, ← frontLength, List.drop_append]
      simp
    rw [behind, placeIn, inner, ← length, ← bodyLength, List.take_left]
  rw [mask_filled, findGroup?_filled, found, Option.map_some, Group.filledIn,
    (veils_shade s).placeIn_eq, ((veils_shade s).drop _).placeIn_eq, place, width]

theorem groupless_filled (unseen : findGroup? (shade s) = none) (later : Bool) :
    findGroup? (mask (filled later s)) = none := by
  rw [mask_filled, findGroup?_filled, unseen]
  rfl

end CardSearch.Query
