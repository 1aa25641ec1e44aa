import CardSearch.Pattern.CharTest
import CardSearch.Text.WordCharacter
import Mathlib.Data.List.Forall2
/-!
Spans of a literal wildcard term. The parts of the term between its stars stand in a text in order,
each up to the case of its letters, with characters of one line between them, and the whole begins and
ends at the edge of a word. The same spans are described character by character, as the places that the
term leads to from a place. Main statement: from further on a term can be made to end where it ends
from further back, or it ends no sooner.
-/
namespace CardSearch.Query

open Text

def SameLetter (c d : Char) : Prop := Pattern.CaseRule.allScripts.same c.toNat d.toNat = true

instance (c d : Char) : Decidable (SameLetter c d) := inferInstanceAs (Decidable (_ = true))

variable {text term part : Text} {parts : List Text} {c d : Char} {i j k : Nat}

/-! ### Spans of a term -/

abbrev SameLetters : Text → Text → Prop := List.Forall₂ SameLetter

/-- A text made of the parts of a term in order, with characters of one line between them. -/
inductive Covered : List Text → Text → Prop
  | last {part piece : Text} : SameLetters part piece → Covered [part] piece
  | cons {part piece gap rest : Text} {parts : List Text} : SameLetters part piece → '\n' ∉ gap →
      Covered parts rest → Covered (part :: parts) (piece ++ (gap ++ rest))

/-- A place where a word begins or ends: of the characters beside it exactly one belongs to a
word. -/
def IsWordEdge (text : Text) (place : Nat) : Prop :=
  (text.take place).getLast?.any isWordChar ≠ (text.drop place).head?.any isWordChar

instance : Decidable (IsWordEdge text i) := inferInstanceAs (Decidable (_ ≠ _))

/-- A span of a text that the parts of a term cover from edge to edge. -/
structure Spans (parts : List Text) (text : Text) (start stop : Nat) : Prop where
  le : start ≤ stop
  inside : stop ≤ text.length
  opens : IsWordEdge text start
  closes : IsWordEdge text stop
  covered : Covered parts (slice text start stop)

/-! ### The places that a term leads to -/

/-- The characters of a term can stand in a text from one place to another. -/
inductive Reaches (text : Text) : Text → Nat → Nat → Prop
  | done {i : Nat} : i ≤ text.length → Reaches text [] i i
  | letter {c d : Char} {term : Text} {i j : Nat} : c ≠ '*' → text[i]? = some d → SameLetter c d →
      Reaches text term (i + 1) j → Reaches text (c :: term) i j
  | star {term : Text} {i k j : Nat} : i ≤ k → '\n' ∉ slice text i k → Reaches text term k j →
      Reaches text ('*' :: term) i j

theorem Reaches.bounds (reaches : Reaches text term i j) : i ≤ j ∧ j ≤ text.length := by
  induction reaches with
  | done inside => exact ⟨Nat.le_refl _, inside⟩
  | letter _ _ _ _ ih => exact ⟨Nat.le_of_succ_le ih.1, ih.2⟩
  | star first _ _ ih => exact ⟨Nat.le_trans first ih.1, ih.2⟩

theorem not_mem_slice (there : i ≤ j) (absent : c ∉ slice text i k) : c ∉ slice text j k := by
  intro member
  refine absent ?_
  have later : slice text j k = ((text.drop i).take (k - i)).drop (j - i) := by
    rw [slice, List.drop_take, List.drop_drop]
    congr 1
    · omega
    · congr 1
      omega
  rw [later] at member
  exact List.mem_of_mem_drop member

/-- From further on a term can be made to end where it ends from further back, or it ends no
sooner. -/
theorem Reaches.exchange {l stop other : Nat} (first : Reaches text term k stop)
    (second : Reaches text term l other) (order : k ≤ l) :
    Reaches text term l stop ∨ stop ≤ other := by
  induction first generalizing l with
  | done _ =>
    cases second
    exact .inr order
  | letter plain there same _ ih =>
    cases second with
    | letter _ thereToo sameToo later =>
      rcases ih later (Nat.succ_le_succ order) with reaches | shorter
      · exact .inl (.letter plain thereToo sameToo reaches)
      · exact .inr shorter
    | star => contradiction
  | @star term i k j _ line reaches ih =>
    cases second with
    | letter plain => contradiction
    | @star _ _ m _ begins lineToo later =>
      rcases Nat.le_total k m with less | more
      · rcases ih later less with reachesToo | shorter
        · exact .inl (.star begins lineToo reachesToo)
        · exact .inr shorter
      -- the gap of the first way reaches back beyond the place of the second
      · exact .inl (.star (Nat.le_trans begins more) (not_mem_slice order line) reaches)

theorem reaches_letter_iff (plain : c ≠ '*') :
    Reaches text (c :: term) i j ↔
      ∃ d, (text[i]? = some d ∧ SameLetter c d) ∧ Reaches text term (i + 1) j := by
  constructor
  · intro reaches
    cases reaches with
    | letter _ there same later => exact ⟨_, ⟨there, same⟩, later⟩
    | star => contradiction
  · rintro ⟨d, ⟨there, same⟩, later⟩
    exact .letter plain there same later

theorem reaches_star_iff :
    Reaches text ('*' :: term) i j ↔ ∃ k, (i ≤ k ∧ '\n' ∉ slice text i k) ∧ Reaches text term k j := by
  constructor
  · intro reaches
    cases reaches with
    | letter plain => contradiction
    | star begins line later => exact ⟨_, ⟨begins, line⟩, later⟩
  · rintro ⟨k, ⟨begins, line⟩, later⟩
    exact .star begins line later

/-! ### Parts and characters -/

theorem slice_append (first : i ≤ j) (second : j ≤ k) :
    slice text i j ++ slice text j k = slice text i k := by
  have drop : text.drop j = (text.drop i).drop (j - i) := by
    rw [List.drop_drop]
    congr 1
    omega
  have size : k - i = (j - i) + (k - j) := by omega
  rw [slice, slice, slice, drop, size, List.take_add]

theorem slice_cons (there : text[i]? = some d) (beyond : i < k) :
    slice text i k = d :: slice text (i + 1) k := by
  have inside : i < text.length := (List.getElem?_eq_some_iff.mp there).1
  have size : k - i = (k - (i + 1)) + 1 := by omega
  rw [slice, List.drop_eq_getElem_cons inside, size, List.take_succ_cons, slice,
    (List.getElem?_eq_some_iff.mp there).2]

@[simp] theorem slice_self : slice text i i = [] := by simp [slice]

theorem reaches_append_iff (starless : '*' ∉ part) :
    Reaches text (part ++ term) i j ↔
      SameLetters part (slice text i (i + part.length)) ∧ Reaches text term (i + part.length) j := by
  induction part generalizing i with
  | nil => simp
  | cons c part ih =>
    rw [List.mem_cons, not_or] at starless
    have plain : c ≠ '*' := fun same => starless.1 same.symm
    have places : i + (c :: part).length = i + 1 + part.length := by
      rw [List.length_cons]
      omega
    have beyond : i < i + 1 + part.length := by omega
    rw [places, List.cons_append]
    constructor
    · intro reaches
      obtain ⟨d, ⟨there, same⟩, later⟩ := (reaches_letter_iff plain).mp reaches
      obtain ⟨alike, rest⟩ := (ih starless.2).mp later
      rw [slice_cons there beyond]
      exact ⟨.cons same alike, rest⟩
    · rintro ⟨alike, rest⟩
      cases there : text[i]? with
      | none =>
        have past : text.length ≤ i := List.getElem?_eq_none_iff.mp there
        rw [slice, List.drop_eq_nil_of_le past, List.take_nil] at alike
        cases alike
      | some d =>
        rw [slice_cons there beyond] at alike
        cases alike with
        | cons same alike => exact .letter plain there same ((ih starless.2).mpr ⟨alike, rest⟩)

theorem slice_length (inside : j ≤ text.length) : (slice text i j).length = j - i := by
  rw [slice, List.length_take, List.length_drop]
  omega

theorem slice_split {first second : Text} (order : i ≤ j) (inside : j ≤ text.length)
    (parts : slice text i j = first ++ second) :
    i + first.length ≤ j ∧ slice text i (i + first.length) = first ∧
      slice text (i + first.length) j = second := by
  have size : j - i = first.length + second.length := by
    rw [← slice_length inside, parts, List.length_append]
  have within : i + first.length ≤ j := by omega
  refine ⟨within, List.append_inj ?_ ?_⟩
  · rw [slice_append (Nat.le_add_right _ _) within, parts]
  · rw [slice_length (Nat.le_trans within inside), Nat.add_sub_cancel_left]

/-- A term leads from one place to another exactly if its parts cover what lies between. -/
theorem reaches_joinWith_iff (filled : parts ≠ []) (starless : ∀ part ∈ parts, '*' ∉ part) :
    Reaches text (joinWith ['*'] parts) i j ↔
      (i ≤ j ∧ j ≤ text.length) ∧ Covered parts (slice text i j) := by
  induction parts generalizing i with
  | nil => contradiction
  | cons part parts ih =>
    rw [List.forall_mem_cons] at starless
    by_cases single : parts = []
    · subst single
      rw [joinWith, ← List.append_nil part, reaches_append_iff starless.1, List.append_nil]
      constructor
      · rintro ⟨alike, done⟩
        have bounds := done.bounds
        cases done
        exact ⟨⟨Nat.le_add_right _ _, bounds.2⟩, .last alike⟩
      · rintro ⟨⟨order, inside⟩, covered⟩
        generalize whole : slice text i j = piece at covered
        cases covered with
        | last alike =>
          have size : part.length = j - i := by rw [alike.length_eq, ← whole, slice_length inside]
          obtain rfl : j = i + part.length := by omega
          exact ⟨whole ▸ alike, .done inside⟩
        | cons _ _ rest => cases rest
    · rw [joinWith_cons single, reaches_append_iff starless.1, List.singleton_append,
        reaches_star_iff]
      constructor
      · rintro ⟨alike, k, ⟨begins, line⟩, later⟩
        obtain ⟨⟨order, inside⟩, covered⟩ := (ih single starless.2).mp later
        refine ⟨⟨by omega, inside⟩, ?_⟩
        rw [← slice_append (Nat.le_add_right i part.length) (Nat.le_trans begins order),
          ← slice_append begins order]
        exact .cons alike line covered
      · rintro ⟨⟨order, inside⟩, covered⟩
        generalize whole : slice text i j = piece at covered
        cases covered with
        | last => contradiction
        | @cons _ piece gap rest _ alike line covered =>
          obtain ⟨first, same, behind⟩ := slice_split order inside whole
          obtain ⟨second, gapSame, restSame⟩ := slice_split first inside behind
          rw [alike.length_eq, same]
          refine ⟨alike, _, ⟨Nat.le_add_right _ _, gapSame ▸ line⟩, ?_⟩
          exact (ih single starless.2).mpr ⟨⟨second, inside⟩, restSame ▸ covered⟩

end CardSearch.Query
