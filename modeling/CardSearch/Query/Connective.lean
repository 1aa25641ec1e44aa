import CardSearch.Query.Mask
/-!
The words that join the parts of a query, and the parts between them. A connective counts where the
mask shows it; the parts are cut from the query at the same offsets.
-/
namespace CardSearch.Query

inductive Connective where
  | or
  | not
  | and
deriving Repr, DecidableEq

def Connective.spelling : Connective → Text
  | .or => [' ', 'o', 'r', ' ']
  | .not => [' ', 'n', 'o', 't', ' ']
  | .and => [' ', 'a', 'n', 'd', ' ']

theorem Connective.spelling_length_pos (connective : Connective) :
    0 < connective.spelling.length := by
  cases connective <;> decide

def Connective.find? (connective : Connective) (mask : Text) : Option Nat :=
  Text.find? connective.spelling mask

theorem Connective.find?_bound {connective : Connective} {mask : Text} {k : Nat}
    (found : connective.find? mask = some k) :
    k + connective.spelling.length ≤ mask.length :=
  Text.find?_bound found

def splitAlong (connective : Connective) (query mask : Text) : List Text :=
  match _found : connective.find? mask with
  | none => [query]
  | some k =>
    let width := k + connective.spelling.length
    query.take k :: splitAlong connective (query.drop width) (mask.drop width)
termination_by mask.length
decreasing_by
  have := Connective.find?_bound _found
  have := connective.spelling_length_pos
  simp only [List.length_drop]
  omega

theorem length_lt_of_mem_splitAlong {connective : Connective} {query mask part : Text}
    (same : mask.length = query.length) (several : connective.find? mask ≠ none)
    (member : part ∈ splitAlong connective query mask) : part.length < query.length := by
  have shorter : ∀ n (query mask : Text), mask.length ≤ n → mask.length = query.length →
      ∀ part ∈ splitAlong connective query mask, part.length ≤ query.length := by
    intro n
    induction n with
    | zero =>
      intro query mask bound same part member
      have empty : mask = [] := List.length_eq_zero_iff.mp (by omega)
      subst empty
      rw [splitAlong] at member
      split at member
      · simp_all
      · rename_i k found
        have := Connective.find?_bound found
        have := connective.spelling_length_pos
        simp only [List.length_nil] at *
        omega
    | succ n ih =>
      intro query mask bound same part member
      rw [splitAlong] at member
      split at member
      · simp_all
      · rename_i k found
        have := Connective.find?_bound found
        have := connective.spelling_length_pos
        rcases List.mem_cons.mp member with rfl | later
        · simp only [List.length_take]
          omega
        · have := ih _ _ (by simp only [List.length_drop]; omega)
            (by simp only [List.length_drop]; omega) _ later
          simp only [List.length_drop] at this
          omega
  rw [splitAlong] at member
  split at member
  · contradiction
  · rename_i k found
    have := Connective.find?_bound found
    have := connective.spelling_length_pos
    rcases List.mem_cons.mp member with rfl | later
    · simp only [List.length_take]
      omega
    · have := shorter _ _ _ (Nat.le_refl _) (by simp only [List.length_drop]; omega) _ later
      simp only [List.length_drop] at this
      omega

theorem sublist_of_mem_splitAlong {connective : Connective} {query mask part : Text}
    (member : part ∈ splitAlong connective query mask) : part.Sublist query := by
  fun_induction splitAlong connective query mask with
  | case1 query mask found => simp_all
  | case2 query mask k found width ih =>
    rcases List.mem_cons.mp member with rfl | later
    · exact List.take_sublist _ _
    · exact (ih later).trans (List.drop_sublist _ _)

end CardSearch.Query
