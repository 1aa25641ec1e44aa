import CardSearch.Proofs.Answering
import CardSearch.Proofs.GroupTruth
/-!
How deep evaluations stand inside one another. The body of a group that is replaced shows no group, the
alternatives of an `or` show no `or`, and what stands around a `not` shows no `not`, for each of them is
masked by itself as it was within the whole. So every step from a query to a part of it uses up one kind of
syntax. Main statement: four activations inside one another are enough for every query.
-/
namespace CardSearch.Query

open Text

variable {part query reduct : Text} {c : Char}

/-- Evaluates a query with at most `depth` activations inside one another; it fails where one more
would start. -/
def evaluateWithin (test : (term text : Text) → Bool) (text : Text) :
    (depth : Nat) → (query : Text) → Option Bool
  | 0, _ => none
  | depth + 1, query =>
    activation (fun term word => some (test term word)) text (evaluateWithin test text depth) query

/-! ### Bodies of groups -/

/-- A mask shows a group: a body of at least one character between two parentheses, and no parenthesis
in it. -/
structure Group.Shown (group : Group) (mask : Text) : Prop where
  opens : mask[group.start]? = some '('
  closes : mask[group.start + 1 + group.length]? = some ')'
  filled : 0 < group.length
  innermost : ∀ c ∈ group.body mask, c ≠ '(' ∧ c ≠ ')'

theorem innermost_of_bodyLength? {mask : Text} {n : Nat} (found : bodyLength? mask = some n) :
    ∀ c ∈ mask.take n, c ≠ '(' ∧ c ≠ ')' := by
  induction mask generalizing n with
  | nil => simp
  | cons d mask ih =>
    rw [bodyLength?] at found
    split at found
    · cases found
      simp
    · rename_i closes
      split at found
      · contradiction
      · rename_i opens
        obtain ⟨k, inner, rfl⟩ := Option.map_eq_some_iff.mp found
        rw [List.take_succ_cons, List.forall_mem_cons]
        exact ⟨⟨by simpa using opens, by simpa using closes⟩, ih inner⟩

theorem shown_of_findGroup? {mask : Text} {group : Group} (found : findGroup? mask = some group) :
    group.Shown mask := by
  induction mask generalizing group with
  | nil => contradiction
  | cons d mask ih =>
    have deeper : ∀ outer, (findGroup? mask).map (fun inner =>
        { inner with start := inner.start + 1 }) = some outer → outer.Shown (d :: mask) := by
      intro outer shifted
      obtain ⟨inner, innerFound, rfl⟩ := Option.map_eq_some_iff.mp shifted
      obtain ⟨opens, closes, filled, innermost⟩ := ih innerFound
      refine ⟨opens, ?_, filled, innermost⟩
      rw [show inner.start + 1 + 1 + inner.length = inner.start + 1 + inner.length + 1 by omega]
      exact closes
    rw [findGroup?] at found
    split at found
    · rename_i opens
      split at found
      · rename_i n closed
        cases found
        obtain ⟨later, whole, length⟩ := parts_of_bodyLength? closed
        refine ⟨by simpa using opens, ?_, Nat.succ_pos n, innermost_of_bodyLength? closed⟩
        rw [show 0 + 1 + (n + 1) = n + 1 + 1 by omega, List.getElem?_cons_succ, whole,
          List.getElem?_append_right length.le, length, Nat.sub_self]
        rfl
      · exact deeper _ found
    · exact deeper _ found

theorem mask_body {group : Group} (shown : group.Shown (mask query)) :
    mask (group.body query) = group.body (mask query) := by
  have behind := mask_drop (by decide) (by decide) (by decide) shown.opens
  have closes : (mask (query.drop (group.start + 1)))[group.length]? = some ')' := by
    rw [behind, List.getElem?_drop]
    exact shown.closes
  rw [Group.body, mask_take (by decide) closes, behind]
  rfl

theorem IsGroupBody.groupless (inside : IsGroupBody part query) : findGroup? (mask part) = none := by
  induction inside with
  | next found =>
    have shown := shown_of_findGroup? found
    rw [mask_body shown]
    exact findGroup?_of_not_mem fun there => (shown.innermost _ there).1 rfl
  | later found truth inside ih => exact ih

/-! ### Parts between connectives -/

theorem Connective.find?_take {connective : Connective} {mask : Text} {k : Nat}
    (found : connective.find? mask = some k) : connective.find? (mask.take k) = none := by
  obtain ⟨-, -, first⟩ := find?_eq_some_iff.mp found
  have positive := connective.spelling_length_pos
  refine find?_eq_none_iff.mpr fun ⟨before, later, whole⟩ => ?_
  have size := congrArg List.length whole
  simp only [List.length_append, List.length_take] at size
  have parts : mask = before ++ (connective.spelling ++ (later ++ mask.drop k)) := by
    rw [← List.append_assoc, ← List.append_assoc, whole, List.take_append_drop]
  refine first before.length (by omega) ?_
  rw [parts, List.drop_left]
  exact List.prefix_append _ _

theorem slice_of_mem_splitAlong {connective : Connective}
    (member : part ∈ splitAlong connective query (mask query)) :
    mask part <:+: mask query ∧ connective.find? (mask part) = none := by
  induction query using connective.cut_induction with
  | whole query unseen =>
    rw [splitAlong_of_find?_eq_none unseen] at member
    obtain rfl := List.mem_singleton.mp member
    exact ⟨List.infix_refl _, unseen⟩
  | cut query k found ih =>
    rw [splitAlong_of_find? found, ← mask_behind found] at member
    obtain rfl | later := List.mem_cons.mp member
    · rw [mask_before found]
      exact ⟨(List.take_prefix _ _).isInfix, Connective.find?_take found⟩
    · obtain ⟨inside, unseen⟩ := ih later
      rw [mask_behind found] at inside
      exact ⟨inside.trans (List.drop_suffix _ _).isInfix, unseen⟩

private theorem notChain_slices {mask : Text} (same : mask = Query.mask query) :
    (∀ head ∈ (notChain query mask).heads, Query.mask head <:+: mask ∧
      Connective.not.find? (Query.mask head) = none) ∧
    ∀ rest, (notChain query mask).remainder = .query rest →
      Query.mask rest <:+: mask ∧ Connective.not.find? (Query.mask rest) = none := by
  -- the head of one step, which a clause or further steps may follow
  have cut : ∀ {query k}, Connective.not.find? (Query.mask query) = some k →
      Query.mask (trim (query.take k)) <:+: Query.mask query ∧
        Connective.not.find? (Query.mask (trim (query.take k))) = none := by
    intro query k found
    have inside := mask_trim_inside (query.take k)
    rw [mask_before found] at inside
    exact ⟨inside.trans (List.take_prefix _ _).isInfix,
      Connective.find?_of_inside inside (Connective.find?_take found)⟩
  fun_induction notChain query mask with
  | case1 query mask unseen =>
    subst same
    refine ⟨by simp, fun rest last => ?_⟩
    cases last
    exact ⟨List.infix_refl _, unseen⟩
  | case2 query mask k found width head rest shown clause read =>
    subst same
    refine ⟨fun piece member => ?_, by simp⟩
    obtain rfl := List.mem_singleton.mp member
    exact cut found
  | case3 query mask k found width head rest shown unread chain ih =>
    subst same
    have behind : shown = Query.mask (trim rest) := trimMask_behind found
    have inner := ih behind
    have deeper : shown <:+: Query.mask query := by
      have inside := mask_trim_inside rest
      rw [← behind, mask_behind found] at inside
      exact inside.trans (List.drop_suffix _ _).isInfix
    refine ⟨fun piece member => ?_, fun piece last => ?_⟩
    · obtain rfl | later := List.mem_cons.mp member
      · exact cut found
      · exact ⟨(inner.1 piece later).1.trans deeper, (inner.1 piece later).2⟩
    · exact ⟨(inner.2 piece last).1.trans deeper, (inner.2 piece last).2⟩

theorem slice_of_mem_heads {head : Text} (member : head ∈ (notChain query (mask query)).heads) :
    mask head <:+: mask query ∧ Connective.not.find? (mask head) = none :=
  (notChain_slices rfl).1 head member

theorem slice_of_remainder {rest : Text} (last : (notChain query (mask query)).remainder = .query rest) :
    mask rest <:+: mask query ∧ Connective.not.find? (mask rest) = none :=
  (notChain_slices rfl).2 rest last

theorem notChain_of_find?_eq_none {mask : Text} (unseen : Connective.not.find? mask = none) :
    notChain query mask = ⟨[], .query query⟩ := by
  rw [notChain]
  split
  · rfl
  · simp_all

/-! ### Depth -/

/-- A query whose kinds of syntax are few enough for its evaluation to stay within a depth. -/
structure Fits (depth : Nat) (query : Text) : Prop where
  positive : 0 < depth
  groupless : depth < 4 → findGroup? (mask query) = none
  single : depth < 3 → Connective.or.find? (mask query) = none
  affirms : depth < 2 → Connective.not.find? (mask query) = none

theorem fits_four (query : Text) : Fits 4 query :=
  ⟨by decide, by simp, by simp, by simp⟩

theorem IsReduct.groupless (reduces : IsReduct reduct query) : findGroup? (mask reduct) = none := by
  induction reduces with
  | trimmed unseen => exact findGroup?_of_inside (mask_trim_inside _) unseen
  | replaced found truth later ih => exact ih

theorem IsBranch.fits {depth : Nat} (groupless : findGroup? (mask query) = none)
    (fits : Fits (depth + 1) query) (inside : IsBranch part query) : Fits depth part := by
  have none (slice : mask part <:+: mask query) : findGroup? (mask part) = none :=
    findGroup?_of_inside slice groupless
  cases inside with
  | alternative several member =>
    obtain ⟨slice, unseen⟩ := slice_of_mem_splitAlong member
    have high : ¬ depth + 1 < 3 := fun low => several (fits.single low)
    exact ⟨by omega, fun _ => none slice, fun _ => unseen, by omega⟩
  | head single member =>
    obtain ⟨slice, unseen⟩ := slice_of_mem_heads member
    have high : ¬ depth + 1 < 2 := by
      intro low
      rw [notChain_of_find?_eq_none (fits.affirms low)] at member
      contradiction
    exact ⟨by omega, fun _ => none slice, fun _ => Connective.find?_of_inside slice single,
      fun _ => unseen⟩
  | rest single denies last =>
    obtain ⟨slice, unseen⟩ := slice_of_remainder last
    have high : ¬ depth + 1 < 2 := fun low => denies (fits.affirms low)
    exact ⟨by omega, fun _ => none slice, fun _ => Connective.find?_of_inside slice single,
      fun _ => unseen⟩

theorem IsPart.fits {depth : Nat} (fits : Fits (depth + 1) query) (inside : IsPart part query) :
    Fits depth part := by
  have trimmed : mask (trim query) <:+: mask query := mask_trim_inside query
  cases inside with
  | body inside =>
    have high : ¬ depth + 1 < 4 := fun low =>
      inside.shows (findGroup?_of_inside trimmed (fits.groupless low))
    exact ⟨by omega, fun _ => inside.groupless, by omega, by omega⟩
  | @branch reduct reduces inside =>
    refine inside.fits reduces.groupless ⟨fits.positive, fun _ => reduces.groupless, ?_, ?_⟩
    all_goals
      intro low
      have unseen := findGroup?_of_inside trimmed (fits.groupless (by omega))
      have slice : mask reduct <:+: mask query := by
        rw [reduces.eq_trim unseen]
        exact (mask_trim_inside _).trans trimmed
    · exact Connective.find?_of_inside slice (fits.single low)
    · exact Connective.find?_of_inside slice (fits.affirms low)

theorem evaluateWithin_of_fits (test : (term text : Text) → Bool) (text : Text) {depth : Nat}
    (fits : Fits depth query) :
    evaluateWithin test text depth query = some (value test text query) := by
  induction depth generalizing query with
  | zero => exact absurd fits.positive (Nat.lt_irrefl 0)
  | succ depth ih =>
    exact activation_eq_pure (fun _ _ _ _ _ => rfl) fun part inside => ih (inside.fits fits)

/-- Four activations inside one another are enough for every query: an evaluator that fails where a
fifth would start never fails, and gives the same value. -/
theorem evaluateWithin_four (test : (term text : Text) → Bool) (text query : Text) :
    evaluateWithin test text 4 query = some (value test text query) :=
  evaluateWithin_of_fits test text (fits_four query)

example : evaluateWithin (fun term text => term == text) [] 3 "(a or b not c)".toList = none := by
  decide +kernel

end CardSearch.Query
