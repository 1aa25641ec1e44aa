import CardSearch.Pattern.Basic
/-!
Searches described by the places of one text. A search takes the leftmost place at which a pattern
matches. A run of characters that gives back as little as possible leads to the longest match,
provided that a match from further on can always be made to end where one from further back does.
-/
namespace CardSearch.Pattern

variable {text : Text} {i n : Nat}

namespace Cursor

def within (text : Text) (position : Nat) : Cursor :=
  ⟨position, (text.take position).reverse, text.drop position⟩

theorem next_within (inside : i < text.length) : (within text i).next = within text (i + 1) := by
  have ahead : text.drop i = text[i] :: text.drop (i + 1) := List.drop_eq_getElem_cons inside
  rw [next, within, ahead, within, List.take_succ_eq_append_getElem inside, List.reverse_append]
  rfl

theorem back_within (inside : i < text.length) : (within text (i + 1)).back = within text i := by
  have behind : (text.take (i + 1)).reverse = text[i] :: (text.take i).reverse := by
    rw [List.take_succ_eq_append_getElem inside, List.reverse_append]
    rfl
  rw [back, within, behind, within, List.drop_eq_getElem_cons inside]
  rfl

theorem forward_within (inside : i + n ≤ text.length) :
    forward n (within text i) = within text (i + n) := by
  induction n generalizing i with
  | zero => rfl
  | succ n ih =>
    rw [forward, next_within (by omega), ih (by omega), Nat.add_right_comm, Nat.add_assoc]

end Cursor

open Cursor

/-! ### The longest match from a place -/

def Longest (ends : Nat → Prop) : Option Nat → Prop
  | none => ∀ stop, ¬ ends stop
  | some stop => ends stop ∧ ∀ other, ends other → other ≤ stop

theorem Longest.congr {ends others : Nat → Prop} {found : Option Nat} (longest : Longest ends found)
    (same : ∀ stop, ends stop ↔ others stop) : Longest others found := by
  rwa [funext fun stop => propext (same stop)] at longest

theorem Longest.eq_some_iff {ends : Nat → Prop} {found : Option Nat} (longest : Longest ends found)
    {stop : Nat} : found = some stop ↔ ends stop ∧ ∀ other, ends other → other ≤ stop := by
  cases found with
  | none => simp [longest stop]
  | some last =>
    rw [Option.some.injEq]
    constructor
    · rintro rfl
      exact longest
    · rintro ⟨reached, greatest⟩
      exact Nat.le_antisymm (greatest last longest.1) (longest.2 stop reached)

theorem Longest.eq_none_iff {ends : Nat → Prop} {found : Option Nat} (longest : Longest ends found) :
    found = none ↔ ∀ stop, ¬ ends stop := by
  cases found with
  | none => exact ⟨fun _ => longest, fun _ => rfl⟩
  | some last => simpa using ⟨last, longest.1⟩

/-- The continuation answers with the longest match from a place of the text. -/
def Answers (reached : Nat → State) (answer : Option State) (ends : Nat → Prop) : Prop :=
  ∃ found : Option Nat, answer = found.map reached ∧ Longest ends found

/-- Giving back characters one by one finds the longest match from all the places passed, if a match
from further on can be made to end wherever a longer one from further back does. -/
theorem tryShorter_answers {next : Cursor → Option State} {reached : Nat → State}
    (ends : Nat → Nat → Prop) {extra : Nat} (inside : i + extra ≤ text.length)
    (each : ∀ k ≤ extra, Answers reached (next (within text (i + k))) (ends (i + k)))
    (exchange : ∀ {k l stop other}, k ≤ l → ends k stop → ends l other → ends l stop ∨ stop ≤ other) :
    Answers reached (tryShorter next extra (within text (i + extra)))
      fun stop => ∃ k ≤ extra, ends (i + k) stop := by
  induction extra with
  | zero =>
    obtain ⟨found, answer, longest⟩ := each 0 (Nat.le_refl _)
    exact ⟨found, answer, longest.congr fun stop => by simp⟩
  | succ extra ih =>
    obtain ⟨found, answer, longest⟩ := each (extra + 1) (Nat.le_refl _)
    rw [tryShorter, answer]
    cases found with
    | some last =>
      refine ⟨some last, rfl, ⟨extra + 1, Nat.le_refl _, longest.1⟩, ?_⟩
      rintro stop ⟨k, bound, ends⟩
      rcases exchange (Nat.add_le_add_left bound i) ends longest.1 with same | shorter
      · exact longest.2 stop same
      · exact shorter
    | none =>
      have further : back (within text (i + (extra + 1))) = within text (i + extra) :=
        back_within (Nat.lt_of_succ_le inside)
      obtain ⟨found, answer, longestBack⟩ := ih (Nat.le_of_succ_le inside) fun k bound =>
        each k (Nat.le_succ_of_le bound)
      refine ⟨found, ?_, longestBack.congr fun stop => ?_⟩
      · rw [← answer, ← further]
        rfl
      · constructor
        · rintro ⟨k, bound, ends⟩
          exact ⟨k, by omega, ends⟩
        · rintro ⟨k, bound, ends⟩
          rcases Nat.le_succ_iff.mp bound with less | rfl
          · exact ⟨k, less, ends⟩
          · exact absurd ends (longest stop)

/-! ### The leftmost match of a text -/

def Leftmost (pattern : Pattern) (text : Text) (i : Nat) : Option (Nat × Nat) → Prop
  | none => ∀ j, i ≤ j → j ≤ text.length → pattern.matchAt? (within text j) = none
  | some (start, stop) =>
    (i ≤ start ∧ start ≤ text.length ∧ pattern.matchAt? (within text start) = some stop) ∧
      ∀ j, i ≤ j → j < start → pattern.matchAt? (within text j) = none

theorem searchFrom_leftmost (pattern : Pattern) (inside : i ≤ text.length) :
    Leftmost pattern text i
      (pattern.searchFrom i (within text i).behind (within text i).ahead) := by
  obtain ⟨count, whole⟩ : ∃ count, count = text.length - i := ⟨_, rfl⟩
  induction count generalizing i with
  | zero =>
    obtain rfl : i = text.length := by omega
    have ends : (within text text.length).ahead = [] := by simp [within]
    have here : within text text.length =
        ⟨text.length, (within text text.length).behind, []⟩ := by rw [← ends]; rfl
    rw [ends, searchFrom, ← here]
    cases found : pattern.matchAt? (within text text.length) with
    | none =>
      intro j first last
      rwa [Nat.le_antisymm last first]
    | some stop => exact ⟨⟨Nat.le_refl _, Nat.le_refl _, found⟩, fun j first last => by omega⟩
  | succ count ih =>
    have more : i < text.length := by omega
    have ahead : (within text i).ahead = text[i] :: text.drop (i + 1) :=
      List.drop_eq_getElem_cons more
    have here : within text i = ⟨i, (within text i).behind, text[i] :: text.drop (i + 1)⟩ := by
      rw [← ahead]; rfl
    have behind : text[i] :: (within text i).behind = (within text (i + 1)).behind := by
      rw [← next_within more, next, ahead]
    rw [ahead, searchFrom, ← here]
    cases found : pattern.matchAt? (within text i) with
    | some stop => exact ⟨⟨Nat.le_refl _, inside, found⟩, fun j first last => by omega⟩
    | none =>
      have later := ih (Nat.succ_le_of_lt more) (by omega)
      rw [← behind] at later
      have passed : ∀ {j}, i ≤ j → (i + 1 ≤ j → pattern.matchAt? (within text j) = none) →
          pattern.matchAt? (within text j) = none := by
        intro j first rest
        rcases Nat.eq_or_lt_of_le first with rfl | beyond
        · exact found
        · exact rest beyond
      change Leftmost pattern text i (pattern.searchFrom (i + 1) _ (within text (i + 1)).ahead)
      cases result : pattern.searchFrom (i + 1) (text[i] :: (within text i).behind)
          (within text (i + 1)).ahead with
      | none =>
        rw [result] at later
        exact fun j first last => passed first fun beyond => later j beyond last
      | some span =>
        rw [result] at later
        obtain ⟨⟨first, last, matched⟩, earlier⟩ := later
        exact ⟨⟨by omega, last, matched⟩,
          fun j first last => passed first fun beyond => earlier j beyond last⟩

theorem search?_eq_some_iff {pattern : Pattern} {start stop : Nat} :
    pattern.search? text = some (start, stop) ↔
      (start ≤ text.length ∧ pattern.matchAt? (within text start) = some stop) ∧
        ∀ j < start, pattern.matchAt? (within text j) = none := by
  have leftmost := searchFrom_leftmost pattern (Nat.zero_le text.length)
  change Leftmost pattern text 0 (pattern.search? text) at leftmost
  constructor
  · intro found
    rw [found] at leftmost
    exact ⟨leftmost.1.2, fun j => leftmost.2 j (Nat.zero_le j)⟩
  · rintro ⟨⟨inside, matched⟩, earlier⟩
    cases found : pattern.search? text with
    | none =>
      rw [found] at leftmost
      rw [leftmost start (Nat.zero_le start) inside] at matched
      contradiction
    | some span =>
      obtain ⟨first, last⟩ := span
      rw [found] at leftmost
      obtain ⟨⟨-, within, matchedFirst⟩, before⟩ := leftmost
      rcases Nat.lt_trichotomy first start with less | rfl | more
      · rw [earlier first less] at matchedFirst
        contradiction
      · rw [matched] at matchedFirst
        cases matchedFirst
        rfl
      · rw [before start (Nat.zero_le start) more] at matched
        contradiction

theorem occursIn_iff {pattern : Pattern} :
    pattern.occursIn text = true ↔
      ∃ start ≤ text.length, pattern.matchAt? (within text start) ≠ none := by
  have leftmost := searchFrom_leftmost pattern (Nat.zero_le text.length)
  change Leftmost pattern text 0 (pattern.search? text) at leftmost
  rw [occursIn]
  cases found : pattern.search? text with
  | none =>
    rw [found] at leftmost
    simpa using fun start => leftmost start (Nat.zero_le start)
  | some span =>
    obtain ⟨start, stop⟩ := span
    rw [found] at leftmost
    obtain ⟨⟨-, inside, matched⟩, -⟩ := leftmost
    simpa using ⟨start, inside, by simp [matched]⟩

end CardSearch.Pattern
